/-
The commands a fingerprint driver sends to the service, and the codes the service
answers with.
-/

set_option autoImplicit false

namespace FingerprintAuth

/-- The framework's result codes that this component names. A vendor code is
passed through as a number. -/
inductive ResultCode where
  | success
  | fail
  | generalError
  | canceled
  | timeout
  | busy
  | invalidParameters
  | locked
  | notEnrolled
  | vendor (code : UInt32)
deriving DecidableEq, Repr

inductive HdfStatus where
  | success
  | failure
deriving DecidableEq, Repr

inductive SaCommandId where
  | enableSensorIllumination
  | disableSensorIllumination
  | turnOnSensorIllumination
  | turnOffSensorIllumination
  /-- An id that no enumerator names. -/
  | other (id : Int32)
deriving DecidableEq, Repr

structure EnableSensorIlluminationParam where
  centerX : UInt32
  centerY : UInt32
  radius : UInt32
  color : UInt32
deriving DecidableEq, Repr

/-- A union in the source: only the member named by the command's id is read. -/
structure SaCommandParam where
  enableSensorIllumination : EnableSensorIlluminationParam
deriving DecidableEq, Repr

structure SaCommand where
  id : SaCommandId
  param : SaCommandParam
deriving DecidableEq, Repr

end FingerprintAuth
