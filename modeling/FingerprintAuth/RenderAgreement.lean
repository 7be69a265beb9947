/-
The render service knows what the tasks believe.

After every operation of a live task its messages have been sent, and what has
arrived agrees with the task's members: its node is attached exactly while the light
is on, it has the display's bounds, and the frame shown is the last one flushed. The
pointer `rsUIDirector_`, which is followed without a check, is never null there.
-/

import FingerprintAuth.RenderMessages

set_option autoImplicit false

universe u

namespace FingerprintAuth

namespace RenderView

/-- What has arrived is what the task believes, and nothing is on its way. -/
structure Agrees (view : RenderView) (task : SensorIlluminationTask) : Prop where
  settled : view.nodes.Settled
  attached : view.nodes.told.attached = task.attached
  shown : view.shown = task.rsSurface.bind RSSurface.flushed
  described : ∀ node, task.rsSurfaceNode = some node →
    view.nodes.told.bounds node =
        some ⟨task.canvasParam.frameWidth, task.canvasParam.frameHeight⟩ ∧
      view.nodes.told.fingerprint node = true
  onTop : task.isIlluminationOn = true → ∀ node, task.rsSurfaceNode = some node →
    view.nodes.told.onTop node = true

theorem Agrees.congr {view : RenderView} {first second : SensorIlluminationTask}
    (agrees : view.Agrees first) (attached : second.attached = first.attached)
    (surface : second.rsSurface = first.rsSurface)
    (node : second.rsSurfaceNode = first.rsSurfaceNode)
    (width : second.canvasParam.frameWidth = first.canvasParam.frameWidth)
    (height : second.canvasParam.frameHeight = first.canvasParam.frameHeight)
    (light : second.isIlluminationOn = first.isIlluminationOn) : view.Agrees second where
  settled := agrees.settled
  attached := agrees.attached.trans attached.symm
  shown := by
    rw [surface]
    exact agrees.shown
  described := by
    rw [node, width, height]
    exact agrees.described
  onTop := by
    rw [node, light]
    exact agrees.onTop

@[simp]
theorem deliver_nil (view : RenderView) : view.deliver [] = view := rfl

@[simp]
theorem deliver_cons (view : RenderView) (call : RenderCall) (calls : List RenderCall) :
    view.deliver (call :: calls) = (view.receive call).deliver calls := rfl

theorem deliver_append (view : RenderView) (first second : List RenderCall) :
    view.deliver (first ++ second) = (view.deliver first).deliver second := by
  simp only [deliver, List.foldl_append]

end RenderView

namespace SensorIlluminationTask

/-! ### The calls of a task's operations -/

inductive DrawCalls (task : SensorIlluminationTask) (answer : DrawAnswer)
    (drawn : SensorIlluminationTask) (result : ResultCode) : List RenderCall → Prop
  | nothing (same : drawn.rsSurface = task.rsSurface)
      (redrawn : result = .success → answer.brightness = task.brightness) :
      DrawCalls task answer drawn result []
  | flushed (frame : Frame) (shown : drawn.rsSurface = some { flushed := some frame }) :
      DrawCalls task answer drawn result [.flushFrame frame, .sendMessages]

theorem drawSurfaceNode_calls (task : SensorIlluminationTask) (answer : DrawAnswer)
    (director : task.rsUIDirector = true) :
    ∃ calls, task.drawSurfaceNodeCalls answer = some calls ∧
      DrawCalls task answer (task.drawSurfaceNode answer).1 (task.drawSurfaceNode answer).2
        calls := by
  have failed : ResultCode.generalError ≠ .success := by decide
  unfold drawSurfaceNodeCalls drawSurfaceNode
  cases present : task.rsSurface with
  | none => exact ⟨[], rfl, .nothing rfl (absurd · failed)⟩
  | some surface =>
      by_cases invalid : answer.brightness = invalidBrightness
      · simp only [if_pos invalid]
        exact ⟨[], rfl, .nothing rfl (absurd · failed)⟩
      simp only [if_neg invalid]
      by_cases same : answer.brightness = task.brightness
      · simp only [if_pos same]
        exact ⟨[], rfl, .nothing rfl (fun _ => same)⟩
      simp only [if_neg same]
      cases getBackgroundAlpha answer.undefinedConversion answer.brightness.toInt32 with
      | none => exact ⟨[], rfl, .nothing present.symm (absurd · failed)⟩
      | some alpha =>
          by_cases noFrame : answer.surfaceFrame = false
          · simp only [if_pos noFrame]
            exact ⟨[], rfl, .nothing present.symm (absurd · failed)⟩
          simp only [if_neg noFrame]
          by_cases noSkSurface : answer.skSurface = false
          · simp only [if_pos noSkSurface]
            exact ⟨[], rfl, .nothing present.symm (absurd · failed)⟩
          simp only [if_neg noSkSurface]
          cases answer.canvas with
          | none => exact ⟨[], rfl, .nothing present.symm (absurd · failed)⟩
          | some api =>
              simp only [drawCanvas, Option.map_some, sendMessages, director, if_true]
              exact ⟨_, rfl, .flushed _ rfl⟩

theorem DrawCalls.deliver {task drawn : SensorIlluminationTask} {answer : DrawAnswer}
    {result : ResultCode} {calls : List RenderCall}
    (made : DrawCalls task answer drawn result calls) {view : RenderView}
    (settled : view.nodes.Settled) (shown : view.shown = task.rsSurface.bind RSSurface.flushed) :
    view.deliver calls = { view with shown := drawn.rsSurface.bind RSSurface.flushed } := by
  cases made with
  | nothing same redrawn =>
      rw [same, ← shown]
      rfl
  | flushed frame shown =>
      rw [shown]
      simp only [RenderView.deliver_cons, RenderView.deliver_nil, RenderView.receive,
        settled.send RenderTree.apply, Option.bind_some]

theorem turnOff_agrees (task : SensorIlluminationTask) (view : RenderView) (sound : task.Sound)
    (agrees : view.Agrees task) :
    ∃ calls, task.turnOffSensorIlluminationCalls = some calls ∧
      (view.deliver calls).Agrees task.turnOffSensorIllumination.1 := by
  unfold turnOffSensorIlluminationCalls turnOffSensorIllumination
  cases node : task.rsSurfaceNode with
  | none => exact ⟨[], rfl, agrees⟩
  | some nodeId =>
      cases on : task.isIlluminationOn with
      | false => exact ⟨[], rfl, agrees⟩
      | true =>
          obtain ⟨_, screen, _, screenPresent, _⟩ := sound.lit on
          have director := sound.director (by rw [node]; rfl)
          simp only [Bool.true_eq_false, if_false, screenPresent, sendMessages, director, if_true]
          refine ⟨_, rfl, ?_⟩
          have owed : ((view.nodes.queue (.detachToDisplay nodeId screen)).send
              RenderTree.apply).told =
                view.nodes.told.apply (.detachToDisplay nodeId screen) := by
            rw [BatchedChannel.send_told, BatchedChannel.queue_owed, agrees.settled.owed]
          simp only [List.cons_append, List.nil_append, RenderView.deliver_cons,
            RenderView.deliver_nil, RenderView.receive]
          exact
            { settled := BatchedChannel.send_settled _ _
              attached := by
                rw [owed]
                simp only [RenderTree.apply, detachToDisplay, agrees.attached]
              shown := agrees.shown
              described := by
                intro other same
                rw [owed]
                exact agrees.described other (node.trans same)
              onTop := nofun }

theorem disable_agrees (task : SensorIlluminationTask) (monitor : ScreenStateMonitor)
    (view : RenderView) (sound : task.Sound) (agrees : view.Agrees task) :
    ∃ calls, task.disableSensorIlluminationCalls = some calls ∧
      (view.deliver calls).Agrees (task.disableSensorIllumination monitor).1 := by
  obtain ⟨calls, made, dark⟩ := turnOff_agrees task view sound agrees
  have gone : (view.deliver calls).Agrees (task.disableSensorIllumination monitor).1 :=
    { settled := dark.settled
      attached := dark.attached
      shown := dark.shown
      described := nofun
      onTop := fun _ => nofun }
  unfold disableSensorIlluminationCalls
  simp only [made]
  cases task.rsUIDirector with
  | false => exact ⟨calls, rfl, gone⟩
  | true =>
      refine ⟨calls ++ [.sendMessages], rfl, ?_⟩
      rw [RenderView.deliver_append]
      simp only [RenderView.deliver_cons, RenderView.deliver_nil, RenderView.receive,
        gone.settled.send RenderTree.apply]
      exact gone

theorem runDisplayTimeOut_agrees (task : SensorIlluminationTask) (timerId : TimerId)
    (view : RenderView) (sound : task.Sound) (agrees : view.Agrees task) :
    ∃ calls, task.runDisplayTimeOutCalls timerId = some calls ∧
      (view.deliver calls).Agrees (task.runDisplayTimeOut timerId) := by
  unfold runDisplayTimeOutCalls
  by_cases holding : task.timer.status timerId = .dispatched .holding
  · obtain ⟨calls, made, dark⟩ := turnOff_agrees task view sound agrees
    rw [if_pos holding, runDisplayTimeOut, if_pos holding]
    exact ⟨calls, made, dark.congr rfl rfl rfl rfl rfl rfl⟩
  · rw [if_neg holding, runDisplayTimeOut_of_not_holding task timerId holding]
    exact ⟨[], rfl, agrees⟩

theorem turnOn_agrees (task : SensorIlluminationTask) (monitor : ScreenStateMonitor)
    (answer : DrawAnswer) (view : RenderView) (sound : task.Sound) (agrees : view.Agrees task) :
    ∃ calls, task.turnOnSensorIlluminationCalls monitor answer = some calls ∧
      (view.deliver calls).Agrees (task.turnOnSensorIllumination monitor answer).1 := by
  unfold turnOnSensorIlluminationCalls turnOnSensorIllumination
  cases node : task.rsSurfaceNode with
  | none => exact ⟨[], rfl, agrees⟩
  | some nodeId =>
      by_cases screenOff : monitor.getScreenOn = false
      · simp only [if_pos screenOff]
        exact ⟨[], rfl, agrees⟩
      simp only [if_neg screenOff]
      cases on : task.isIlluminationOn with
      | true => exact ⟨[], rfl, agrees⟩
      | false =>
          have director := sound.director (by rw [node]; rfl)
          obtain ⟨drawing, made, draws⟩ := drawSurfaceNode_calls task answer director
          have frame := (drawSurfaceNode_effect task answer).frame
          simp only [made, Bool.false_eq_true, if_false]
          generalize task.drawSurfaceNode answer = outcome at draws frame ⊢
          obtain ⟨drawn, drawResult⟩ := outcome
          simp only at draws frame ⊢
          have after := draws.deliver agrees.settled agrees.shown
          have sameScreen : drawn.defaultScreenId = task.defaultScreenId := by rw [frame]
          have sameAttached : drawn.attached = task.attached := by rw [frame]
          have sameNode : drawn.rsSurfaceNode = task.rsSurfaceNode := by rw [frame]
          have sameWidth : drawn.canvasParam.frameWidth = task.canvasParam.frameWidth := by
            rw [frame]
          have sameHeight : drawn.canvasParam.frameHeight = task.canvasParam.frameHeight := by
            rw [frame]
          have sameLight : drawn.isIlluminationOn = task.isIlluminationOn := by rw [frame]
          -- what has arrived after the drawing, before the node is attached
          have drawnAgrees : (view.deliver drawing).Agrees drawn := by
            rw [after]
            exact
              { settled := agrees.settled
                attached := agrees.attached.trans sameAttached.symm
                shown := rfl
                described := by
                  rw [sameNode, sameWidth, sameHeight]
                  exact agrees.described
                onTop := by
                  rw [sameNode, sameLight]
                  exact agrees.onTop }
          by_cases succeeded : drawResult = .success
          case neg =>
            simp only [if_neg succeeded]
            exact ⟨drawing, rfl, drawnAgrees⟩
          simp only [if_pos succeeded]
          cases screen : task.defaultScreenId with
          | none =>
              simp only [sameScreen, screen]
              exact ⟨drawing, rfl, drawnAgrees.congr rfl rfl rfl rfl rfl rfl⟩
          | some screenId =>
              simp only [sameScreen, screen, sendMessages, director, if_true, attachToDisplay]
              refine ⟨_, rfl, ?_⟩
              have owed : (((view.deliver drawing).nodes.queue (.setPositionZ nodeId)).queue
                  (.attachToDisplay nodeId screenId)).owed RenderTree.apply =
                    ((view.deliver drawing).nodes.told.apply (.setPositionZ nodeId)).apply
                      (.attachToDisplay nodeId screenId) := by
                rw [BatchedChannel.queue_owed, BatchedChannel.queue_owed, drawnAgrees.settled.owed]
              rw [List.append_assoc, RenderView.deliver_append]
              simp only [List.cons_append, List.nil_append, RenderView.deliver_cons,
                RenderView.deliver_nil, RenderView.receive]
              exact
                { settled := BatchedChannel.send_settled _ _
                  attached := by
                    rw [BatchedChannel.send_told, owed]
                    simp only [RenderTree.apply, drawnAgrees.attached]
                  shown := drawnAgrees.shown
                  described := by
                    rw [BatchedChannel.send_told, owed]
                    exact drawnAgrees.described
                  onTop := by
                    intro _ other same
                    have equal : nodeId = other := by
                      rw [← Option.some_inj, ← node, ← sameNode]
                      exact same
                    rw [BatchedChannel.send_told, owed, equal]
                    simp only [RenderTree.apply, if_true] }

/-- A task enabled a second time would keep its node and lose the pointer, so that
switching it on would follow null; the manager enables each task once. -/
example :
    ((new.enableSensorIllumination 500 500 200 0 grantedEnable).1.enableSensorIllumination 500 500
      200 0 { grantedEnable with rsUIDirector := false }).1.turnOnSensorIlluminationCalls
        { isOn := true } (drawnAt 8) = none := by decide

/-! ### Enabling a new task -/

/-- A new task that was refused has no node attached; one that was enabled agrees with what
has arrived. -/
theorem enable_agrees (task : SensorIlluminationTask) (centerX centerY radius color : UInt32)
    (answer : EnableAnswer) (undrawn : task.brightness = invalidBrightness)
    (bare : task.attached = []) (off : task.isIlluminationOn = false) :
    ∃ calls, task.enableSensorIlluminationCalls centerX centerY radius color answer = some calls ∧
      (RenderView.new.deliver calls).nodes.told.attached = [] ∧
      ((task.enableSensorIllumination centerX centerY radius color answer).2 = .success →
        (RenderView.new.deliver calls).Agrees
          (task.enableSensorIllumination centerX centerY radius color answer).1) := by
  have failed : ResultCode.generalError ≠ .success := by decide
  unfold enableSensorIlluminationCalls enableSensorIllumination
  by_cases noDirector : answer.rsUIDirector = false
  · simp only [if_pos noDirector]
    exact ⟨[], rfl, rfl, (absurd · failed)⟩
  simp only [if_neg noDirector]
  by_cases noNode : answer.rsSurfaceNode = false
  · simp only [if_pos noNode]
    exact ⟨[], rfl, rfl, (absurd · failed)⟩
  simp only [if_neg noNode]
  cases answer.defaultDisplay with
  | none => exact ⟨[], rfl, rfl, (absurd · failed)⟩
  | some display =>
      by_cases noSurface : answer.rsSurface = false
      · simp only [if_pos noSurface]
        exact ⟨_, rfl, rfl, (absurd · failed)⟩
      simp only [if_neg noSurface]
      by_cases noContext : answer.renderContext = false
      · simp only [if_pos noContext]
        exact ⟨_, rfl, rfl, (absurd · failed)⟩
      simp only [if_neg noContext]
      cases convertThousandthToPx centerX display.width.toUInt32 with
      | none => exact ⟨_, rfl, rfl, (absurd · failed)⟩
      | some centerXInPx =>
          cases convertThousandthToPx centerY display.height.toUInt32 with
          | none => exact ⟨_, rfl, rfl, (absurd · failed)⟩
          | some centerYInPx =>
              have director : answer.rsUIDirector = true := by simpa using noDirector
              obtain ⟨drawing, made, draws⟩ := drawSurfaceNode_calls
                (task.prepareSurface centerXInPx centerYInPx radius color display answer)
                answer.draw director
              have effect := drawSurfaceNode_effect
                (task.prepareSurface centerXInPx centerYInPx radius color display answer)
                answer.draw
              simp only [made, Option.map_some]
              refine ⟨_, rfl, ?_⟩
              simp only [prepareSurface] at draws effect
              generalize drawSurfaceNode _ answer.draw = outcome at draws effect ⊢
              obtain ⟨drawn, drawResult⟩ := outcome
              simp only at draws effect ⊢
              cases draws with
              | nothing same redrawn =>
                  refine ⟨rfl, ?_⟩
                  intro succeeded
                  by_cases success : drawResult = .success
                  · -- a key that was never written cannot agree with a valid brightness
                    subst success
                    exact absurd ((redrawn rfl).trans undrawn) effect.valid
                  · rw [if_neg success] at succeeded
                    cases succeeded
              | flushed flushedFrame shown =>
                  refine ⟨rfl, ?_⟩
                  intro succeeded
                  have frame := effect.frame
                  have agrees : (RenderView.new.deliver
                      [.queue (.setBounds task.createdNodes display),
                        .queue (.setFingerprint task.createdNodes), .flushFrame flushedFrame,
                        .sendMessages]).Agrees drawn :=
                    { settled := rfl
                      attached := by
                        rw [frame]
                        exact bare.symm
                      shown := by
                        rw [shown]
                        rfl
                      described := by
                        intro node same
                        rw [frame] at same ⊢
                        have equal : task.createdNodes = node := Option.some.inj same
                        rw [← equal]
                        constructor
                        · exact if_pos rfl
                        · exact if_pos rfl
                      onTop := by
                        intro on
                        rw [frame] at on
                        exact Bool.noConfusion (on.symm.trans off) }
                  split <;> exact agrees

end SensorIlluminationTask

end FingerprintAuth
