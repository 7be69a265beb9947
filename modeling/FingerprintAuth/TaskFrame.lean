/-
What a task has painted, and what it is asked to show.

A drawing paints a frame for the brightness that it reads, or keeps the last one if the
brightness is the one stored. The brightness is stored before the steps that can fail,
so the last frame may have been painted for another one; and one of the two drawing
interfaces is handed the alpha and the colour of the disc in the wrong order.
-/

import FingerprintAuth.TaskRuns

set_option autoImplicit false

namespace FingerprintAuth

/-! ### What is asked for -/

def DrawAnswer.backgroundAlpha (answer : DrawAnswer) : Option UInt32 :=
  getBackgroundAlpha answer.undefinedConversion answer.brightness.toInt32

/-- The canvas is the one for these parameters of an `ENABLE` on this display. -/
structure CanvasParam.AskedFor (canvas : CanvasParam) (param : EnableSensorIlluminationParam)
    (display : Display) : Prop where
  centerX : canvas.centerXInPx.toNat =
    param.centerX.toNat * display.width.toUInt32.toNat / 1000
  centerY : canvas.centerYInPy.toNat =
    param.centerY.toNat * display.height.toUInt32.toNat / 1000
  radius : canvas.radius = param.radius
  color : canvas.color = param.color
  width : canvas.frameWidth = display.width
  height : canvas.frameHeight = display.height

/-- What a colour becomes on its way through the interface: `Drawing` is handed red, green,
blue and alpha where it takes alpha, red, green and blue. -/
def DrawingApi.shown : DrawingApi → Argb → Argb
  | .skia, color => color
  | .rosenDrawing, color => ⟨color.red, color.green, color.blue, color.alpha⟩

namespace SensorIlluminationTask

def ShownBy (task : SensorIlluminationTask) (answer : DrawAnswer) : Prop :=
  ∃ api alpha, answer.canvas = some api ∧ answer.backgroundAlpha = some alpha ∧
    task.rsSurface = some
      { flushed := some
          { width := task.canvasParam.frameWidth
            height := task.canvasParam.frameHeight
            commands := paint { task.canvasParam with alpha := alpha } api } }

/-- The task draws on the canvas asked for, and has drawn on it with one of these
answers. -/
structure DrawnOn (task : SensorIlluminationTask) (param : EnableSensorIlluminationParam)
    (display : Display) (answered : DrawAnswer → Prop) : Prop where
  keyed : task.brightness ≠ invalidBrightness
  canvas : task.canvasParam.AskedFor param display
  shown : ∃ answer, answered answer ∧ task.ShownBy answer

section Drawing

variable {task drawn : SensorIlluminationTask} {param : EnableSensorIlluminationParam}
  {display : Display} {answered : DrawAnswer → Prop} {answer : DrawAnswer}

theorem DrawnOn.mono {more : DrawAnswer → Prop} (before : task.DrawnOn param display answered)
    (grows : ∀ answer, answered answer → more answer) : task.DrawnOn param display more where
  keyed := before.keyed
  canvas := before.canvas
  shown := by
    obtain ⟨answer, given, shown⟩ := before.shown
    exact ⟨answer, grows answer given, shown⟩

theorem DrawEffect.drawnOn {result : ResultCode} (effect : DrawEffect task answer drawn result)
    (before : task.DrawnOn param display answered) (given : answered answer) :
    drawn.DrawnOn param display answered := by
  cases effect with
  | refused reason => exact before
  | kept present valid same => exact before
  | failed alpha present valid different =>
      exact
        { keyed := valid
          canvas := { before.canvas with }
          shown := before.shown }
  | completed alpha api present valid different painted found =>
      exact
        { keyed := valid
          canvas := { before.canvas with }
          shown := ⟨answer, given, api, alpha, painted, found, rfl⟩ }

end Drawing

section Deciding

variable {task drawn : SensorIlluminationTask} {param : EnableSensorIlluminationParam}
  {display : Display} {answered : DrawAnswer → Prop} {answer : DrawAnswer}

end Deciding

end SensorIlluminationTask

end FingerprintAuth
