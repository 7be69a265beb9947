/-
What each operation of a sensor illumination task can do.

One inductive relation per operation lists every way it can end, with the guards
that lead there; the lemmas after them say that the operation ends in one of these
ways. Every later argument about a task goes by cases on these relations and never
unfolds an operation.
-/

import FingerprintAuth.SensorIlluminationTask

set_option autoImplicit false

namespace FingerprintAuth

namespace SensorIlluminationTask

/-! ### Drawing -/

/-- The three ways of drawing that store a new key and then stop leave the frame as
it was. -/
inductive DrawEffect (task : SensorIlluminationTask) (answer : DrawAnswer) :
    SensorIlluminationTask → ResultCode → Prop
  | refused (reason : task.rsSurface = none ∨ answer.brightness = invalidBrightness) :
      DrawEffect task answer task .generalError
  | kept (present : task.rsSurface.isSome = true) (valid : answer.brightness ≠ invalidBrightness)
      (same : answer.brightness = task.brightness) : DrawEffect task answer task .success
  | failed (alpha : UInt32) (present : task.rsSurface.isSome = true)
      (valid : answer.brightness ≠ invalidBrightness)
      (different : answer.brightness ≠ task.brightness) :
      DrawEffect task answer
        { task with
          brightness := answer.brightness
          canvasParam := { task.canvasParam with alpha := alpha } } .generalError
  | completed (alpha : UInt32) (api : DrawingApi) (present : task.rsSurface.isSome = true)
      (valid : answer.brightness ≠ invalidBrightness)
      (different : answer.brightness ≠ task.brightness)
      (painted : answer.canvas = some api)
      (found : getBackgroundAlpha answer.undefinedConversion answer.brightness.toInt32 =
        some alpha) :
      DrawEffect task answer
        { task with
          brightness := answer.brightness
          canvasParam := { task.canvasParam with alpha := alpha }
          rsSurface := some ⟨some
            { width := task.canvasParam.frameWidth
              height := task.canvasParam.frameHeight
              commands := paint { task.canvasParam with alpha := alpha } api }⟩ } .success

theorem drawSurfaceNode_effect (task : SensorIlluminationTask) (answer : DrawAnswer) :
    DrawEffect task answer (task.drawSurfaceNode answer).1 (task.drawSurfaceNode answer).2 := by
  unfold drawSurfaceNode
  cases present : task.rsSurface with
  | none => exact .refused (Or.inl present)
  | some surface =>
      have some_ : task.rsSurface.isSome = true := by rw [present]; rfl
      by_cases invalid : answer.brightness = invalidBrightness
      · simp only [if_pos invalid]
        exact .refused (Or.inr invalid)
      · simp only [if_neg invalid]
        by_cases same : answer.brightness = task.brightness
        · simp only [if_pos same]
          exact .kept some_ invalid same
        · simp only [if_neg same]
          cases found : getBackgroundAlpha answer.undefinedConversion answer.brightness.toInt32 with
          | none =>
              simp only
              rw [← present]
              exact .failed task.canvasParam.alpha some_ invalid same
          | some alpha =>
              by_cases noFrame : answer.surfaceFrame = false
              · simp only [if_pos noFrame]
                rw [← present]
                exact .failed alpha some_ invalid same
              · simp only [if_neg noFrame]
                by_cases noSkSurface : answer.skSurface = false
                · simp only [if_pos noSkSurface]
                  rw [← present]
                  exact .failed alpha some_ invalid same
                · simp only [if_neg noSkSurface]
                  cases painted : answer.canvas with
                  | none =>
                      simp only [drawCanvas, Option.map_none]
                      rw [← present]
                      exact .failed alpha some_ invalid same
                  | some api =>
                      simp only [drawCanvas, Option.map_some]
                      exact .completed alpha api some_ invalid same painted found

theorem DrawEffect.valid {task drawn : SensorIlluminationTask} {answer : DrawAnswer}
    (effect : DrawEffect task answer drawn .success) : answer.brightness ≠ invalidBrightness := by
  cases effect with
  | kept present valid same => exact valid
  | completed alpha api present valid different painted found => exact valid

def drawSucceeds (task : SensorIlluminationTask) (answer : DrawAnswer) : Bool :=
  task.rsSurface.isSome && answer.brightness != invalidBrightness &&
    (answer.brightness == task.brightness ||
      ((getBackgroundAlpha answer.undefinedConversion answer.brightness.toInt32).isSome &&
        answer.surfaceFrame && answer.skSurface && answer.canvas.isSome))

theorem drawSurfaceNode_success_iff (task : SensorIlluminationTask) (answer : DrawAnswer) :
    (task.drawSurfaceNode answer).2 = .success ↔ task.drawSucceeds answer = true := by
  unfold drawSurfaceNode drawSucceeds
  cases present : task.rsSurface with
  | none => simp
  | some surface =>
      by_cases invalid : answer.brightness = invalidBrightness
      · simp [invalid]
      · by_cases same : answer.brightness = task.brightness
        · simp only [if_neg invalid, if_pos same]
          simp [same ▸ invalid, same]
        · simp only [if_neg invalid, if_neg same]
          cases getBackgroundAlpha answer.undefinedConversion answer.brightness.toInt32 with
          | none => simp [same]
          | some alpha =>
              cases answer.surfaceFrame <;> cases answer.skSurface <;> cases answer.canvas <;>
                simp [drawCanvas, invalid, same]

/-! ### Switching on -/

inductive TurnOnEffect (task : SensorIlluminationTask) (monitor : ScreenStateMonitor)
    (answer : DrawAnswer) : SensorIlluminationTask → ResultCode → Prop
  | still (result : ResultCode) (reason : task.rsSurfaceNode = none ∧ result = .generalError ∨
      (monitor.isOn = false ∨ task.isIlluminationOn = true) ∧ result = .success) :
      TurnOnEffect task monitor answer task result
  | drawFailed (drawn : SensorIlluminationTask) (drawResult : ResultCode)
      (off : task.isIlluminationOn = false) (failed : drawResult ≠ .success)
      (draw : DrawEffect task answer drawn drawResult) :
      TurnOnEffect task monitor answer drawn .generalError
  | noScreen (drawn : SensorIlluminationTask) (off : task.isIlluminationOn = false)
      (draw : DrawEffect task answer drawn .success) (absent : task.defaultScreenId = none) :
      TurnOnEffect task monitor answer
        { drawn with
          timer := (task.timer.unregister task.currTimerId).register
          currTimerId := task.timer.nextId } .generalError
  | lit (drawn : SensorIlluminationTask) (node : NodeId) (screen : ScreenId)
      (screenOn : monitor.isOn = true) (off : task.isIlluminationOn = false)
      (draw : DrawEffect task answer drawn .success)
      (nodePresent : task.rsSurfaceNode = some node)
      (screenPresent : task.defaultScreenId = some screen) :
      TurnOnEffect task monitor answer
        { drawn with
          timer := (task.timer.unregister task.currTimerId).register
          currTimerId := task.timer.nextId
          attached := (node, screen) :: task.attached
          isIlluminationOn := true } .success

theorem DrawEffect.frame {task drawn : SensorIlluminationTask} {answer : DrawAnswer}
    {result : ResultCode} (effect : DrawEffect task answer drawn result) :
    drawn =
      { task with
        brightness := drawn.brightness
        canvasParam := { task.canvasParam with alpha := drawn.canvasParam.alpha }
        rsSurface := drawn.rsSurface } := by
  cases effect <;> rfl

theorem turnOnSensorIllumination_effect (task : SensorIlluminationTask)
    (monitor : ScreenStateMonitor) (answer : DrawAnswer) :
    TurnOnEffect task monitor answer (task.turnOnSensorIllumination monitor answer).1
      (task.turnOnSensorIllumination monitor answer).2 := by
  unfold turnOnSensorIllumination
  cases node : task.rsSurfaceNode with
  | none => exact .still _ (Or.inl ⟨node, rfl⟩)
  | some nodeId =>
      by_cases screenOff : monitor.getScreenOn = false
      · simp only [if_pos screenOff]
        exact .still _ (Or.inr ⟨Or.inl screenOff, rfl⟩)
      · simp only [if_neg screenOff]
        have screenOn : monitor.isOn = true := by
          simpa [ScreenStateMonitor.getScreenOn] using screenOff
        cases on : task.isIlluminationOn with
        | true => exact .still _ (Or.inr ⟨Or.inr on, rfl⟩)
        | false =>
            have effect := drawSurfaceNode_effect task answer
            have frame := effect.frame
            generalize task.drawSurfaceNode answer = outcome at effect frame
            obtain ⟨drawn, drawResult⟩ := outcome
            simp only at effect frame
            simp only [Bool.false_eq_true, if_false]
            by_cases succeeded : drawResult = .success
            · subst succeeded
              have sameScreen : drawn.defaultScreenId = task.defaultScreenId := by rw [frame]
              have sameTimer : drawn.timer = task.timer := by rw [frame]
              have sameId : drawn.currTimerId = task.currTimerId := by rw [frame]
              have sameLinks : drawn.attached = task.attached := by rw [frame]
              cases screen : task.defaultScreenId with
              | none =>
                  simp only [if_true, sameScreen, screen, sameTimer, sameId,
                    OneShotTimer.unregister_nextId]
                  rw [← sameScreen.trans screen]
                  exact .noScreen drawn on effect screen
              | some screenId =>
                  simp only [if_true, sameScreen, screen, sameTimer, sameId, attachToDisplay,
                    sameLinks, OneShotTimer.unregister_nextId]
                  rw [← sameScreen.trans screen]
                  exact .lit drawn nodeId screenId screenOn on effect node screen
            · simp only [if_neg succeeded]
              exact .drawFailed drawn drawResult on succeeded effect

def lights (task : SensorIlluminationTask) (monitor : ScreenStateMonitor) (answer : DrawAnswer) :
    Bool :=
  task.rsSurfaceNode.isSome && monitor.isOn && !task.isIlluminationOn &&
    task.drawSucceeds answer && task.defaultScreenId.isSome

theorem lights_iff (task : SensorIlluminationTask) (monitor : ScreenStateMonitor)
    (answer : DrawAnswer) :
    task.lights monitor answer = true ↔
      task.isIlluminationOn = false ∧
        (task.turnOnSensorIllumination monitor answer).1.isIlluminationOn = true := by
  have succeeds := drawSurfaceNode_success_iff task answer
  have frame := (drawSurfaceNode_effect task answer).frame
  unfold turnOnSensorIllumination lights
  cases node : task.rsSurfaceNode with
  | none => simp
  | some nodeId =>
      cases on : task.isIlluminationOn with
      | true => simp
      | false =>
          cases screenOn : monitor.isOn with
          | false => simp [ScreenStateMonitor.getScreenOn, screenOn, on]
          | true =>
              generalize task.drawSurfaceNode answer = outcome at succeeds frame
              obtain ⟨drawn, drawResult⟩ := outcome
              simp only at succeeds frame
              have drawnOn : drawn.isIlluminationOn = false := by rw [frame]; exact on
              have sameScreen : drawn.defaultScreenId = task.defaultScreenId := by rw [frame]
              by_cases succeeded : drawResult = .success
              · have goes := succeeds.mp succeeded
                cases screen : task.defaultScreenId with
                | none => simp [ScreenStateMonitor.getScreenOn, screenOn, succeeded, sameScreen,
                    screen, drawnOn]
                | some screenId => simp [ScreenStateMonitor.getScreenOn, screenOn, succeeded,
                    sameScreen, screen, goes]
              · have stops : task.drawSucceeds answer = false := by
                  rw [← Bool.not_eq_true, ← succeeds]
                  exact succeeded
                simp [ScreenStateMonitor.getScreenOn, screenOn, succeeded, stops, drawnOn]

/-! ### Switching off -/

inductive TurnOffEffect (task : SensorIlluminationTask) :
    SensorIlluminationTask → ResultCode → Prop
  | still (result : ResultCode) (reason : task.rsSurfaceNode = none ∧ result = .generalError ∨
      task.isIlluminationOn = false ∧ result = .success) : TurnOffEffect task task result
  | noScreen (on : task.isIlluminationOn = true) (absent : task.defaultScreenId = none) :
      TurnOffEffect task { task with timer := task.timer.unregister task.currTimerId }
        .generalError
  | dark (node : NodeId) (screen : ScreenId) (on : task.isIlluminationOn = true)
      (nodePresent : task.rsSurfaceNode = some node)
      (screenPresent : task.defaultScreenId = some screen) :
      TurnOffEffect task
        { task with
          timer := task.timer.unregister task.currTimerId
          attached := task.attached.filter (fun link => link ≠ (node, screen))
          isIlluminationOn := false } .success

theorem turnOffSensorIllumination_effect (task : SensorIlluminationTask) :
    TurnOffEffect task task.turnOffSensorIllumination.1 task.turnOffSensorIllumination.2 := by
  unfold turnOffSensorIllumination
  cases node : task.rsSurfaceNode with
  | none => exact .still _ (Or.inl ⟨node, rfl⟩)
  | some nodeId =>
      cases on : task.isIlluminationOn with
      | false => exact .still _ (Or.inr ⟨on, rfl⟩)
      | true =>
          cases screen : task.defaultScreenId with
          | none =>
              simp only [Bool.true_eq_false, if_false]
              rw [← node, ← screen, ← on]
              exact .noScreen on screen
          | some screenId =>
              simp only [Bool.true_eq_false, if_false, detachToDisplay]
              rw [← node, ← screen]
              exact .dark nodeId screenId on node screen

/-! ### Enabling -/

/-- Enabling touches neither the timer nor the light. It leaves the task with a
node only after the centre was converted, and succeeds only if the first drawing
does. -/
inductive EnableEffect (task : SensorIlluminationTask) (centerX centerY radius color : UInt32)
    (answer : EnableAnswer) : SensorIlluminationTask → ResultCode → Prop
  | refused (createdNodes : Nat) :
      EnableEffect task centerX centerY radius color answer
        { task with
          defaultScreenId := answer.defaultScreenId
          rsUIDirector := answer.rsUIDirector
          createdNodes := createdNodes } .generalError
  | drawn (display : Display) (centerXInPx centerYInPx : UInt32)
      (prepared final : SensorIlluminationTask) (drawResult : ResultCode)
      (director : answer.rsUIDirector = true) (shown : answer.defaultDisplay = some display)
      (convertedX : convertThousandthToPx centerX display.width.toUInt32 = some centerXInPx)
      (convertedY : convertThousandthToPx centerY display.height.toUInt32 = some centerYInPx)
      (preparedAs : prepared =
        { task with
          defaultScreenId := answer.defaultScreenId
          rsUIDirector := answer.rsUIDirector
          createdNodes := task.createdNodes + 1
          canvasParam :=
            { centerXInPx := centerXInPx
              centerYInPy := centerYInPx
              radius := radius
              color := color
              alpha := 0
              frameWidth := display.width
              frameHeight := display.height }
          rsSurfaceNode := some task.createdNodes
          rsSurface := some { flushed := none } })
      (draw : DrawEffect prepared answer.draw final drawResult) :
      EnableEffect task centerX centerY radius color answer final
        (if drawResult = .success then .success else .generalError)

theorem enableSensorIllumination_effect (task : SensorIlluminationTask)
    (centerX centerY radius color : UInt32) (answer : EnableAnswer) :
    EnableEffect task centerX centerY radius color answer
      (task.enableSensorIllumination centerX centerY radius color answer).1
      (task.enableSensorIllumination centerX centerY radius color answer).2 := by
  unfold enableSensorIllumination
  by_cases noDirector : answer.rsUIDirector = false
  · simp only [if_pos noDirector]
    exact .refused task.createdNodes
  simp only [if_neg noDirector]
  by_cases noNode : answer.rsSurfaceNode = false
  · simp only [if_pos noNode]
    exact .refused task.createdNodes
  simp only [if_neg noNode]
  cases shown : answer.defaultDisplay with
  | none => exact .refused (task.createdNodes + 1)
  | some display =>
      by_cases noSurface : answer.rsSurface = false
      · simp only [if_pos noSurface]
        exact .refused (task.createdNodes + 1)
      simp only [if_neg noSurface]
      by_cases noContext : answer.renderContext = false
      · simp only [if_pos noContext]
        exact .refused (task.createdNodes + 1)
      simp only [if_neg noContext]
      cases convertedX : convertThousandthToPx centerX display.width.toUInt32 with
      | none => exact .refused (task.createdNodes + 1)
      | some centerXInPx =>
          cases convertedY : convertThousandthToPx centerY display.height.toUInt32 with
          | none => exact .refused (task.createdNodes + 1)
          | some centerYInPx =>
              simp only
              have director : answer.rsUIDirector = true := by simpa using noDirector
              have effect := drawSurfaceNode_effect
                { task with
                  defaultScreenId := answer.defaultScreenId
                  rsUIDirector := answer.rsUIDirector
                  createdNodes := task.createdNodes + 1
                  canvasParam :=
                    { centerXInPx := centerXInPx
                      centerYInPy := centerYInPx
                      radius := radius
                      color := color
                      alpha := 0
                      frameWidth := display.width
                      frameHeight := display.height }
                  rsSurfaceNode := some task.createdNodes
                  rsSurface := some { flushed := none } } answer.draw
              generalize drawSurfaceNode _ answer.draw = outcome at effect ⊢
              obtain ⟨final, drawResult⟩ := outcome
              have whole := EnableEffect.drawn display centerXInPx centerYInPx _ final drawResult
                director shown convertedX convertedY rfl effect
              by_cases succeeded : drawResult = .success
              · simp only [if_pos succeeded] at whole ⊢
                exact whole
              · simp only [if_neg succeeded] at whole ⊢
                exact whole

def enableSucceeds (centerX centerY : UInt32) (answer : EnableAnswer) : Bool :=
  answer.rsUIDirector && answer.rsSurfaceNode && answer.rsSurface && answer.renderContext &&
    answer.draw.brightness != invalidBrightness &&
    ((getBackgroundAlpha answer.draw.undefinedConversion answer.draw.brightness.toInt32).isSome &&
      answer.draw.surfaceFrame && answer.draw.skSurface && answer.draw.canvas.isSome) &&
    match answer.defaultDisplay with
    | none => false
    | some display =>
        (convertThousandthToPx centerX display.width.toUInt32).isSome &&
          (convertThousandthToPx centerY display.height.toUInt32).isSome

theorem enableSensorIllumination_success_iff (task : SensorIlluminationTask)
    (centerX centerY radius color : UInt32) (answer : EnableAnswer)
    (undrawn : task.brightness = invalidBrightness) :
    (task.enableSensorIllumination centerX centerY radius color answer).2 = .success ↔
      enableSucceeds centerX centerY answer = true := by
  unfold enableSensorIllumination enableSucceeds
  by_cases noDirector : answer.rsUIDirector = false
  · simp [noDirector]
  simp only [if_neg noDirector]
  by_cases noNode : answer.rsSurfaceNode = false
  · simp [noNode]
  simp only [if_neg noNode]
  cases answer.defaultDisplay with
  | none => simp
  | some display =>
      by_cases noSurface : answer.rsSurface = false
      · simp [noSurface]
      simp only [if_neg noSurface]
      by_cases noContext : answer.renderContext = false
      · simp [noContext]
      simp only [if_neg noContext]
      cases convertThousandthToPx centerX display.width.toUInt32 with
      | none => simp
      | some centerXInPx =>
          cases convertThousandthToPx centerY display.height.toUInt32 with
          | none => simp
          | some centerYInPx =>
              have drawn := drawSurfaceNode_success_iff
                { task with
                  defaultScreenId := answer.defaultScreenId
                  rsUIDirector := answer.rsUIDirector
                  createdNodes := task.createdNodes + 1
                  canvasParam :=
                    { centerXInPx := centerXInPx
                      centerYInPy := centerYInPx
                      radius := radius
                      color := color
                      alpha := 0
                      frameWidth := display.width
                      frameHeight := display.height }
                  rsSurfaceNode := some task.createdNodes
                  rsSurface := some { flushed := none } } answer.draw
              simp only
              refine Iff.trans ?_ (drawn.trans ?_)
              · generalize drawSurfaceNode _ answer.draw = outcome
                obtain ⟨final, drawResult⟩ := outcome
                by_cases succeeded : drawResult = .success
                · simp [succeeded]
                · simp [succeeded]
              · -- a key that was never written cannot agree with a valid brightness
                rw [Bool.not_eq_false] at noDirector noNode noSurface noContext
                by_cases invalid : answer.draw.brightness = invalidBrightness
                · simp [drawSucceeds, invalid]
                · simp [drawSucceeds, undrawn, invalid, noDirector, noNode, noSurface, noContext]

end SensorIlluminationTask

end FingerprintAuth
