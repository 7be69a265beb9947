/-
One sensor illumination: a surface node with a bright disc on a darkened
background, attached to the display while the light is on, and a one-shot timer
that takes it off again.

Every answer of the render service and of the display is an input of the call that
receives it. The task carries its own timer service and the attachments of the
nodes it created, which outlive its pointer to the node.
-/

import FingerprintAuth.BackgroundAlpha
import FingerprintAuth.SaCommand
import FingerprintAuth.ScreenStateMonitor
import FingerprintAuth.Library.OneShotTimer

set_option autoImplicit false

namespace FingerprintAuth

abbrev TimerId := Nat
abbrev NodeId := Nat
abbrev ScreenId := UInt64

def invalidBrightness : UInt32 := 4294967295
def thousand : UInt64 := 1000

/-! ### Canvas -/

inductive DrawingApi where
  | skia
  | rosenDrawing
deriving DecidableEq, Repr

structure Argb where
  alpha : UInt8
  red : UInt8
  green : UInt8
  blue : UInt8
deriving DecidableEq, Repr

structure CanvasParam where
  centerXInPx : UInt32 := 0
  centerYInPy : UInt32 := 0
  radius : UInt32 := 0
  color : UInt32 := 0
  alpha : UInt32 := 0
  frameWidth : Int32 := 0
  frameHeight : Int32 := 0
deriving DecidableEq, Repr

inductive CanvasCommand where
  | clear (color : Argb)
  | drawCircle (centerX centerY radius : UInt32) (color : Argb)
deriving DecidableEq, Repr

/-- Bytes are counted from the least significant one. -/
def colorByte (color : UInt32) (index : UInt32) : UInt8 := (color >>> (8 * index)).toUInt8

def convertToSkColor (color : UInt32) : Argb :=
  ⟨colorByte color 3, colorByte color 0, colorByte color 1, colorByte color 2⟩

/-- The four bytes are handed over in the order red, green, blue, alpha. -/
def convertToDrawingColor (color : UInt32) : Argb :=
  ⟨colorByte color 0, colorByte color 1, colorByte color 2, colorByte color 3⟩

/-- What a frame shows. The two builds hand the alpha over in different places. -/
def paint (param : CanvasParam) : DrawingApi → List CanvasCommand
  | .skia =>
      [.clear ⟨param.alpha.toUInt8, 0, 0, 0⟩,
        .drawCircle param.centerXInPx param.centerYInPy param.radius
          (convertToSkColor param.color)]
  | .rosenDrawing =>
      [.clear ⟨0, 0, 0, param.alpha.toUInt8⟩,
        .drawCircle param.centerXInPx param.centerYInPy param.radius
          (convertToDrawingColor param.color)]

/-- `none` stands for the error return on a null canvas. -/
def drawCanvas (canvas : Option DrawingApi) (param : CanvasParam) : Option (List CanvasCommand) :=
  canvas.map (paint param)

def convertThousandthToPx (relativeLength fullLength : UInt32) : Option UInt32 :=
  let pxLengthUint64 := relativeLength.toUInt64 * fullLength.toUInt64 / thousand
  if pxLengthUint64 > 4294967295 then none else some pxLengthUint64.toUInt32

/-! ### The task object -/

structure Frame where
  width : Int32
  height : Int32
  commands : List CanvasCommand
deriving DecidableEq, Repr

structure RSSurface where
  flushed : Option Frame
deriving DecidableEq, Repr

/-- How far a dispatched display-timeout callback has come: it has not locked its
weak pointer yet, it holds a strong reference and is about to call
`OnDisplayTimeOut`, or that call has returned and the reference is still held. -/
inductive CallbackProgress where
  | dispatched
  | holding
  | returned
deriving DecidableEq, Repr

def CallbackProgress.holdsReference : CallbackProgress → Bool
  | .dispatched => false
  | .holding => true
  | .returned => true

def CallbackProgress.beforeTimeOut : CallbackProgress → Bool
  | .dispatched => true
  | .holding => true
  | .returned => false

/-- `defaultScreenId` is `none` for the invalid screen id. Members that are only
written are left out. The last two fields belong to the render service: how many
nodes this task had created, and which of them are attached to which screen. -/
structure SensorIlluminationTask where
  rsSurfaceNode : Option NodeId
  rsUIDirector : Bool
  rsSurface : Option RSSurface
  defaultScreenId : Option ScreenId
  canvasParam : CanvasParam
  brightness : UInt32
  timer : OneShotTimer CallbackProgress
  currTimerId : TimerId
  isIlluminationOn : Bool
  destructCallback : Bool
  createdNodes : Nat
  attached : List (NodeId × ScreenId)

/-- What the display and the render service answer while a frame is drawn, and what the
conversion of the alpha's difference gives if the language leaves it undefined. The
brightness is `invalidBrightness` in a build without the display manager. -/
structure DrawAnswer where
  brightness : UInt32
  undefinedConversion : UInt32
  surfaceFrame : Bool
  skSurface : Bool
  canvas : Option DrawingApi
deriving DecidableEq, Repr

structure Display where
  width : Int32
  height : Int32
deriving DecidableEq, Repr

structure EnableAnswer where
  defaultScreenId : Option ScreenId
  rsUIDirector : Bool
  rsSurfaceNode : Bool
  defaultDisplay : Option Display
  rsSurface : Bool
  renderContext : Bool
  draw : DrawAnswer
deriving DecidableEq, Repr

namespace SensorIlluminationTask

def new : SensorIlluminationTask :=
  { rsSurfaceNode := none
    rsUIDirector := false
    rsSurface := none
    defaultScreenId := none
    canvasParam := {}
    brightness := invalidBrightness
    timer := OneShotTimer.new
    currTimerId := 0
    isIlluminationOn := false
    destructCallback := false
    createdNodes := 0
    attached := [] }

def registerDestructCallback (task : SensorIlluminationTask) : SensorIlluminationTask :=
  { task with destructCallback := true }

def attachToDisplay (task : SensorIlluminationTask) (node : NodeId) (screen : ScreenId) :
    SensorIlluminationTask :=
  { task with attached := (node, screen) :: task.attached }

def detachToDisplay (task : SensorIlluminationTask) (node : NodeId) (screen : ScreenId) :
    SensorIlluminationTask :=
  { task with attached := task.attached.filter (fun link => link ≠ (node, screen)) }

/-- The key `brightness` is written before the steps that can fail. -/
def drawSurfaceNode (task : SensorIlluminationTask) (answer : DrawAnswer) :
    SensorIlluminationTask × ResultCode :=
  match task.rsSurface with
  | none => (task, .generalError)
  | some surface =>
      if answer.brightness = invalidBrightness then (task, .generalError)
      else if answer.brightness = task.brightness then (task, .success)
      else
        let task := { task with brightness := answer.brightness }
        match getBackgroundAlpha answer.undefinedConversion task.brightness.toInt32 with
        | none => (task, .generalError)
        | some alpha =>
            let task := { task with canvasParam := { task.canvasParam with alpha := alpha } }
            if answer.surfaceFrame = false then (task, .generalError)
            else if answer.skSurface = false then (task, .generalError)
            else
              match drawCanvas answer.canvas task.canvasParam with
              | none => (task, .generalError)
              | some commands =>
                  let frame : Frame :=
                    { width := task.canvasParam.frameWidth
                      height := task.canvasParam.frameHeight
                      commands := commands }
                  ({ task with rsSurface := some { surface with flushed := some frame } }, .success)

def enableSensorIllumination (task : SensorIlluminationTask) (centerX centerY radius color : UInt32)
    (answer : EnableAnswer) : SensorIlluminationTask × ResultCode :=
  let task :=
    { task with
      defaultScreenId := answer.defaultScreenId
      rsUIDirector := answer.rsUIDirector }
  if answer.rsUIDirector = false then (task, .generalError)
  else if answer.rsSurfaceNode = false then (task, .generalError)
  else
    let rsSurfaceNode := task.createdNodes
    let task := { task with createdNodes := task.createdNodes + 1 }
    match answer.defaultDisplay with
    | none => (task, .generalError)
    | some display =>
        if answer.rsSurface = false then (task, .generalError)
        else if answer.renderContext = false then (task, .generalError)
        else
          match convertThousandthToPx centerX display.width.toUInt32 with
          | none => (task, .generalError)
          | some centerXInPx =>
              match convertThousandthToPx centerY display.height.toUInt32 with
              | none => (task, .generalError)
              | some centerYInPx =>
                  let task :=
                    { task with
                      canvasParam :=
                        { centerXInPx := centerXInPx
                          centerYInPy := centerYInPx
                          radius := radius
                          color := color
                          alpha := 0
                          frameWidth := display.width
                          frameHeight := display.height }
                      rsSurfaceNode := some rsSurfaceNode
                      rsSurface := some { flushed := none } }
                  let (task, drawResult) := task.drawSurfaceNode answer.draw
                  if drawResult = .success then (task, .success) else (task, .generalError)

def turnOnSensorIllumination (task : SensorIlluminationTask) (monitor : ScreenStateMonitor)
    (answer : DrawAnswer) : SensorIlluminationTask × ResultCode :=
  match task.rsSurfaceNode with
  | none => (task, .generalError)
  | some node =>
      if monitor.getScreenOn = false then (task, .success)
      else if task.isIlluminationOn then (task, .success)
      else
        let (task, drawResult) := task.drawSurfaceNode answer
        if drawResult = .success then
          let timer := task.timer.unregister task.currTimerId
          let task :=
            { task with
              timer := timer.register
              currTimerId := timer.nextId }
          match task.defaultScreenId with
          | none => (task, .generalError)
          | some screen =>
              let task := task.attachToDisplay node screen
              ({ task with isIlluminationOn := true }, .success)
        else (task, .generalError)

def turnOffSensorIllumination (task : SensorIlluminationTask) :
    SensorIlluminationTask × ResultCode :=
  match task.rsSurfaceNode with
  | none => (task, .generalError)
  | some node =>
      if task.isIlluminationOn = false then (task, .success)
      else
        let task := { task with timer := task.timer.unregister task.currTimerId }
        match task.defaultScreenId with
        | none => (task, .generalError)
        | some screen =>
            let task := task.detachToDisplay node screen
            ({ task with isIlluminationOn := false }, .success)

/-- The result of switching off is ignored. -/
def disableSensorIllumination (task : SensorIlluminationTask) (monitor : ScreenStateMonitor) :
    SensorIlluminationTask × ScreenStateMonitor × ResultCode :=
  let task := task.turnOffSensorIllumination.1
  ({ task with rsSurfaceNode := none }, monitor.unsubscribe, .success)

@[simp]
theorem disableSensorIllumination_monitor (task : SensorIlluminationTask)
    (monitor : ScreenStateMonitor) :
    (task.disableSensorIllumination monitor).2.1 = monitor.unsubscribe := rfl

@[simp]
theorem disableSensorIllumination_result (task : SensorIlluminationTask)
    (monitor : ScreenStateMonitor) :
    (task.disableSensorIllumination monitor).2.2 = .success := rfl

def onDisplayTimeOut (task : SensorIlluminationTask) : SensorIlluminationTask :=
  task.turnOffSensorIllumination.1

/-- What the destructor does to the timer service. -/
def stopTimer (task : SensorIlluminationTask) : SensorIlluminationTask :=
  { task with timer := (task.timer.unregister task.currTimerId).shutdown }

end SensorIlluminationTask

end FingerprintAuth
