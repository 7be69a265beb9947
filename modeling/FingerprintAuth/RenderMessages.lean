/-
What a sensor illumination tells the render service.

Messages about a surface node are queued by the node's calls and reach the service
when `rsUIDirector_->SendMessages()` is called; a flushed frame goes to the surface
directly. Every operation of a task is followed here through the same branches as in
its own definition, for the calls it makes. `rsUIDirector_` is the one pointer that
the operations follow without a check: an operation that would follow it while it is
null has no list of calls.
-/

import FingerprintAuth.ManagerRuns
import FingerprintAuth.Library.BatchedChannel

set_option autoImplicit false

universe u

namespace FingerprintAuth

inductive RenderMessage where
  | setBounds (node : NodeId) (display : Display)
  | setFingerprint (node : NodeId)
  | setPositionZ (node : NodeId)
  | attachToDisplay (node : NodeId) (screen : ScreenId)
  | detachToDisplay (node : NodeId) (screen : ScreenId)
deriving DecidableEq, Repr

inductive RenderCall where
  | queue (message : RenderMessage)
  | flushFrame (frame : Frame)
  | sendMessages
deriving DecidableEq, Repr

/-! ### The calls of each operation -/

namespace SensorIlluminationTask

def sendMessages (task : SensorIlluminationTask) (calls : List RenderCall) :
    Option (List RenderCall) :=
  if task.rsUIDirector then some (calls ++ [.sendMessages]) else none

def drawSurfaceNodeCalls (task : SensorIlluminationTask) (answer : DrawAnswer) :
    Option (List RenderCall) :=
  match task.rsSurface with
  | none => some []
  | some _ =>
      if answer.brightness = invalidBrightness then some []
      else if answer.brightness = task.brightness then some []
      else
        match getBackgroundAlpha answer.undefinedConversion answer.brightness.toInt32 with
        | none => some []
        | some alpha =>
            let canvasParam := { task.canvasParam with alpha := alpha }
            if answer.surfaceFrame = false then some []
            else if answer.skSurface = false then some []
            else
              match drawCanvas answer.canvas canvasParam with
              | none => some []
              | some commands =>
                  task.sendMessages
                    [.flushFrame
                      { width := canvasParam.frameWidth
                        height := canvasParam.frameHeight
                        commands := commands }]

def prepareSurface (task : SensorIlluminationTask) (centerXInPx centerYInPx radius color : UInt32)
    (display : Display) (answer : EnableAnswer) : SensorIlluminationTask :=
  { task with
    defaultScreenId := answer.defaultScreenId
    rsUIDirector := answer.rsUIDirector
    createdNodes := task.createdNodes + 1
    canvasParam :=
      { centerXInPx := centerXInPx
        centerYInPy := centerYInPx
        radius := radius
        color := color
        alpha := 0
        frameWidth := display.width
        frameHeight := display.height }
    rsSurfaceNode := some task.createdNodes
    rsSurface := some { flushed := none } }

def enableSensorIlluminationCalls (task : SensorIlluminationTask)
    (centerX centerY radius color : UInt32) (answer : EnableAnswer) : Option (List RenderCall) :=
  if answer.rsUIDirector = false then some []
  else if answer.rsSurfaceNode = false then some []
  else
    match answer.defaultDisplay with
    | none => some []
    | some display =>
        let described : List RenderCall :=
          [.queue (.setBounds task.createdNodes display),
            .queue (.setFingerprint task.createdNodes)]
        if answer.rsSurface = false then some described
        else if answer.renderContext = false then some described
        else
          match convertThousandthToPx centerX display.width.toUInt32 with
          | none => some described
          | some centerXInPx =>
              match convertThousandthToPx centerY display.height.toUInt32 with
              | none => some described
              | some centerYInPx =>
                  ((task.prepareSurface centerXInPx centerYInPx radius color display
                    answer).drawSurfaceNodeCalls answer.draw).map (described ++ ·)

def turnOnSensorIlluminationCalls (task : SensorIlluminationTask) (monitor : ScreenStateMonitor)
    (answer : DrawAnswer) : Option (List RenderCall) :=
  match task.rsSurfaceNode with
  | none => some []
  | some node =>
      if monitor.getScreenOn = false then some []
      else if task.isIlluminationOn then some []
      else
        match task.drawSurfaceNodeCalls answer with
        | none => none
        | some drawing =>
            if (task.drawSurfaceNode answer).2 = .success then
              match task.defaultScreenId with
              | none => some drawing
              | some screen =>
                  task.sendMessages
                    (drawing ++ [.queue (.setPositionZ node), .queue (.attachToDisplay node screen)])
            else some drawing

def turnOffSensorIlluminationCalls (task : SensorIlluminationTask) : Option (List RenderCall) :=
  match task.rsSurfaceNode with
  | none => some []
  | some node =>
      if task.isIlluminationOn = false then some []
      else
        match task.defaultScreenId with
        | none => some []
        | some screen => task.sendMessages [.queue (.detachToDisplay node screen)]

/-- Here the pointer is checked. -/
def disableSensorIlluminationCalls (task : SensorIlluminationTask) : Option (List RenderCall) :=
  match task.turnOffSensorIlluminationCalls with
  | none => none
  | some calls => if task.rsUIDirector then some (calls ++ [.sendMessages]) else some calls

def runDisplayTimeOutCalls (task : SensorIlluminationTask) (timerId : TimerId) :
    Option (List RenderCall) :=
  if task.timer.status timerId = .dispatched .holding then task.turnOffSensorIlluminationCalls
  else some []

end SensorIlluminationTask

/-! ### The render service's side -/

structure RenderTree where
  bounds : NodeId → Option Display
  fingerprint : NodeId → Bool
  onTop : NodeId → Bool
  attached : List (NodeId × ScreenId)

namespace RenderTree

def new : RenderTree :=
  { bounds := fun _ => none
    fingerprint := fun _ => false
    onTop := fun _ => false
    attached := [] }

def apply (tree : RenderTree) : RenderMessage → RenderTree
  | .setBounds node display =>
      { tree with bounds := fun other => if other = node then some display else tree.bounds other }
  | .setFingerprint node =>
      { tree with fingerprint := fun other => if other = node then true else tree.fingerprint other }
  | .setPositionZ node =>
      { tree with onTop := fun other => if other = node then true else tree.onTop other }
  | .attachToDisplay node screen => { tree with attached := (node, screen) :: tree.attached }
  | .detachToDisplay node screen =>
      { tree with attached := tree.attached.filter (fun link => link ≠ (node, screen)) }

end RenderTree

/-- What has arrived from one task, and what it has queued since. -/
structure RenderView where
  nodes : BatchedChannel RenderTree RenderMessage
  shown : Option Frame

namespace RenderView

def new : RenderView :=
  { nodes := BatchedChannel.new RenderTree.new
    shown := none }

def receive (view : RenderView) : RenderCall → RenderView
  | .queue message => { view with nodes := view.nodes.queue message }
  | .flushFrame frame => { view with shown := some frame }
  | .sendMessages => { view with nodes := view.nodes.send RenderTree.apply }

def deliver (view : RenderView) (calls : List RenderCall) : RenderView := calls.foldl receive view

end RenderView

/-! ### The manager and the render service side by side -/

namespace SensorIlluminationManager

variable {E : Type u}

def enableCalls (manager : SensorIlluminationManager E) (param : EnableSensorIlluminationParam)
    (environment : Environment) : Option (List RenderCall) :=
  if manager.executorInProc.isSome then some []
  else if manager.taskInProc.isSome then some []
  else
    let (manager, acquireRet) := manager.acquire environment.dlopen
    if acquireRet = .success then
      match (manager.getSensorIlluminationTask environment).2 with
      | none => some []
      | some _ =>
          if ¬param.centerX < maxXYValue then some []
          else if ¬param.centerY < maxXYValue then some []
          else if ¬param.radius < maxRadiusLen then some []
          else
            SensorIlluminationTask.new.registerDestructCallback.enableSensorIlluminationCalls
              param.centerX param.centerY param.radius param.color environment.enable
    else some []

variable [DecidableEq E]

def renderCalls (manager : SensorIlluminationManager E) :
    ManagerAction E → Option (TaskId × Option (List RenderCall))
  | .processSaCommand none _ _ => none
  | .processSaCommand (some executor) command environment =>
      match command.id with
      | .enableSensorIllumination =>
          some (manager.tasks.next,
            manager.enableCalls command.param.enableSensorIllumination environment)
      | .turnOnSensorIllumination =>
          if manager.executorInProc ≠ some executor then none
          else manager.taskInProc.map (fun task => (task,
            (manager.tasks.value task).turnOnSensorIlluminationCalls manager.monitor
              environment.draw))
      | .turnOffSensorIllumination =>
          if manager.executorInProc ≠ some executor then none
          else manager.taskInProc.map (fun task => (task,
            (manager.tasks.value task).turnOffSensorIlluminationCalls))
      | .disableSensorIllumination =>
          if manager.executorInProc ≠ some executor then none
          else manager.taskInProc.map (fun task => (task,
            (manager.tasks.value task).disableSensorIlluminationCalls))
      | .other _ => none
  | .onHdiDisconnect none => none
  | .onHdiDisconnect (some executor) =>
      if manager.executorInProc ≠ some executor then none
      else manager.taskInProc.map (fun task => (task,
        (manager.tasks.value task).disableSensorIlluminationCalls))
  | .onDisplayTimeOut task timerId =>
      some (task, (manager.tasks.value task).runDisplayTimeOutCalls timerId)
  | .setScreenOn _ => none
  | .dispatch _ _ => none
  | .lockSelf _ _ => none
  | .dropSelf _ _ => none

end SensorIlluminationManager

/-- `followedNull` tells whether a null pointer was followed. -/
structure RenderedManager (E : Type u) where
  manager : SensorIlluminationManager E
  views : TaskId → RenderView
  followedNull : Bool

namespace RenderedManager

variable {E : Type u}

def new : RenderedManager E :=
  { manager := SensorIlluminationManager.new
    views := fun _ => RenderView.new
    followedNull := false }

def deliverTo (views : TaskId → RenderView) (target : TaskId) (calls : List RenderCall) :
    TaskId → RenderView :=
  fun task => if task = target then (views task).deliver calls else views task

def step [DecidableEq E] (rendered : RenderedManager E) (action : ManagerAction E) :
    RenderedManager E :=
  let manager := rendered.manager.step action
  match rendered.manager.renderCalls action with
  | none => { rendered with manager := manager }
  | some (_, none) =>
      { rendered with
        manager := manager
        followedNull := true }
  | some (task, some calls) =>
      { rendered with
        manager := manager
        views := deliverTo rendered.views task calls }

end RenderedManager

end FingerprintAuth
