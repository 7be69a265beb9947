/-
Results on their way from the fingerprint driver to the framework.

A driver reports a result as an `int32_t`, which the callback casts to an enumeration
without negative enumerators. The comparison with the vendor range promotes it back to
`int`. The vibration for a failed authentication is decided on the converted code.
-/

import FingerprintAuth.SaCommand
import FingerprintAuth.Library.SignedReading

set_option autoImplicit false

namespace FingerprintAuth

/-- The driver's result codes, an unscoped enumeration with an unsigned type. -/
abbrev HdiResultCode : Type := UInt32

namespace HdiResultCode

/-- `int` holds every enumerator, so operands of the enumeration are promoted to it. -/
def promote (code : HdiResultCode) : Int32 := code.toInt32

def success : HdiResultCode := 0
def fail : HdiResultCode := 1
def generalError : HdiResultCode := 2
def canceled : HdiResultCode := 3
def timeout : HdiResultCode := 4
def busy : HdiResultCode := 7
def invalidParameters : HdiResultCode := 8
def locked : HdiResultCode := 9
def notEnrolled : HdiResultCode := 10
def operationNotSupport : HdiResultCode := 11
def vendorResultCodeBegin : HdiResultCode := 10000

end HdiResultCode

inductive FingerCallbackHdiType where
  | enroll
  | auth
  | identify
  | command
  | invalid
deriving DecidableEq, Repr

inductive CallbackEffect where
  | isSupportEffect (effect : String)
  | setUsagePhysicalFeedback
  | startVibrator (effect : String)
  | onResult (code : ResultCode) (extraInfo : List UInt8)
deriving DecidableEq, Repr

/-- What the vibrator service answers. The answer to the last call is only logged. -/
structure VibratorAnswer where
  isSupportEffect : Int32
  fingerEffectState : Bool
  setUsage : Bool

structure FingerprintAuthExecutorCallbackHdi where
  hasFrameworkCallback : Bool
  fingerCallbackHdiType : FingerCallbackHdiType

namespace FingerprintAuthExecutorCallbackHdi

def fingerAuthEffect : String := "haptic.fail"

def doVibrator (answer : VibratorAnswer) : List CallbackEffect :=
  .isSupportEffect fingerAuthEffect ::
    if answer.isSupportEffect ≠ 0 then []
    else if ¬answer.fingerEffectState then []
    else
      .setUsagePhysicalFeedback ::
        if ¬answer.setUsage then []
        else [.startVibrator fingerAuthEffect]

def resultCodes : List (HdiResultCode × ResultCode) :=
  [(HdiResultCode.success, .success),
    (HdiResultCode.fail, .fail),
    (HdiResultCode.generalError, .generalError),
    (HdiResultCode.canceled, .canceled),
    (HdiResultCode.timeout, .timeout),
    (HdiResultCode.busy, .busy),
    (HdiResultCode.invalidParameters, .invalidParameters),
    (HdiResultCode.locked, .locked),
    (HdiResultCode.notEnrolled, .notEnrolled),
    -- by its comment in the source this one should keep its own code
    (HdiResultCode.operationNotSupport, .fail)]

def convertResultCode (code : Int32) : ResultCode :=
  let hdiIn : HdiResultCode := code.toUInt32
  if HdiResultCode.promote hdiIn > HdiResultCode.promote HdiResultCode.vendorResultCodeBegin then
    .vendor code.toUInt32
  else
    match resultCodes.lookup hdiIn with
    | some out => out
    | none => .generalError

def onResult (callback : FingerprintAuthExecutorCallbackHdi) (answer : VibratorAnswer)
    (result : Int32) (extraInfo : List UInt8) : HdfStatus × List CallbackEffect :=
  let retCode := convertResultCode result
  if ¬callback.hasFrameworkCallback then (.failure, [])
  else
    let vibration :=
      if callback.fingerCallbackHdiType = .auth ∧ retCode = .fail then doVibrator answer else []
    (.success, vibration ++ [.onResult retCode extraInfo])

/-! ### The conversion -/

/-- The code that a result stands for: a vendor's own one, the image of a listed one, or
the default, which negative results get too. -/
def reportedCode (result : Int32) : ResultCode :=
  if result.toInt > 10000 then .vendor result.toUInt32
  else if result.toInt < 0 then .generalError
  else (resultCodes.lookup result.toUInt32).getD .generalError

/-- The promotion undoes the cast. -/
theorem vendor_iff (result : Int32) :
    HdiResultCode.promote result.toUInt32 >
        HdiResultCode.promote HdiResultCode.vendorResultCodeBegin ↔ result.toInt > 10000 := by
  rw [HdiResultCode.promote, Int32.toInt32_toUInt32, gt_iff_lt, Int32.lt_iff_toInt_lt]
  exact Iff.rfl

theorem resultCodes_small :
    ∀ row, row ∈ resultCodes → row.1.toNat < 10000 := by
  decide

theorem lookup_eq_some_iff (code : HdiResultCode) (out : ResultCode) :
    resultCodes.lookup code = some out ↔ (code, out) ∈ resultCodes := by
  constructor
  · intro found
    obtain ⟨before, after, split, _⟩ := List.lookup_eq_some_iff.mp found
    rw [split]
    exact List.mem_append_right before List.mem_cons_self
  · have graph : ∀ row, row ∈ resultCodes → resultCodes.lookup row.1 = some row.2 := by decide
    exact graph (code, out)

theorem lookup_of_neg {result : Int32} (negative : result.toInt < 0) :
    resultCodes.lookup result.toUInt32 = none := by
  have reading := SignedReading.toNat_toUInt32 result
  have lower := result.le_toInt
  rw [if_pos negative] at reading
  cases found : resultCodes.lookup result.toUInt32 with
  | none => rfl
  | some out =>
      have small := resultCodes_small _ ((lookup_eq_some_iff _ _).mp found)
      simp only at small
      omega

theorem convertResultCode_eq (result : Int32) :
    convertResultCode result = reportedCode result := by
  rw [convertResultCode, reportedCode]
  by_cases vendor : result.toInt > 10000
  · rw [if_pos vendor]
    exact if_pos ((vendor_iff result).mpr vendor)
  · rw [if_neg vendor]
    refine (if_neg (fun above => vendor ((vendor_iff result).mp above))).trans ?_
    by_cases negative : result.toInt < 0
    · rw [if_pos negative, lookup_of_neg negative]
    · rw [if_neg negative]
      cases resultCodes.lookup result.toUInt32 with
      | none => rfl
      | some out => rfl

/-- A negative result is no vendor's, although the cast makes it large. -/
example : convertResultCode (-1) = .generalError := by decide

theorem reportedCode_eq_iff (result : Int32) (out : ResultCode)
    (notVendor : ∀ code, out ≠ .vendor code) (notDefault : out ≠ .generalError) :
    reportedCode result = out ↔ (result.toUInt32, out) ∈ resultCodes := by
  rw [← lookup_eq_some_iff, reportedCode]
  by_cases vendor : result.toInt > 10000
  · rw [if_pos vendor]
    constructor
    · intro same
      exact absurd same.symm (notVendor _)
    · intro found
      have small := resultCodes_small _ ((lookup_eq_some_iff _ _).mp found)
      have reading := SignedReading.toNat_toUInt32 result
      rw [if_neg (by omega)] at reading
      simp only at small
      omega
  · rw [if_neg vendor]
    by_cases negative : result.toInt < 0
    · rw [if_pos negative, lookup_of_neg negative]
      constructor
      · intro same
        exact absurd same.symm notDefault
      · intro found
        cases found
    · rw [if_neg negative]
      cases resultCodes.lookup result.toUInt32 with
      | none =>
          constructor
          · intro same
            exact absurd same.symm notDefault
          · intro found
            cases found
      | some other => exact Option.some_inj.symm

theorem reportedCode_eq_fail_iff (result : Int32) :
    reportedCode result = .fail ↔ result = 1 ∨ result = 11 := by
  have keys : (result.toUInt32, ResultCode.fail) ∈ resultCodes ↔
      result.toUInt32 = 1 ∨ result.toUInt32 = 11 := by
    simp [resultCodes, HdiResultCode.fail, HdiResultCode.operationNotSupport]
  rw [reportedCode_eq_iff result .fail (fun _ => nofun) nofun, keys]
  exact or_congr SignedReading.toUInt32_eq_iff SignedReading.toUInt32_eq_iff

theorem reportedCode_eq_success_iff (result : Int32) :
    reportedCode result = .success ↔ result = 0 := by
  have keys : (result.toUInt32, ResultCode.success) ∈ resultCodes ↔ result.toUInt32 = 0 := by
    simp [resultCodes, HdiResultCode.success]
  rw [reportedCode_eq_iff result .success (fun _ => nofun) nofun, keys]
  exact SignedReading.toUInt32_eq_iff

/-! ### Reports -/

def toFramework : CallbackEffect → Option (ResultCode × List UInt8)
  | .onResult code extraInfo => some (code, extraInfo)
  | _ => none

def toVibrator : CallbackEffect → Bool
  | .onResult _ _ => false
  | _ => true

def VibratorAllows (answer : VibratorAnswer) : Prop :=
  answer.isSupportEffect = 0 ∧ answer.fingerEffectState = true ∧ answer.setUsage = true

/-- A failure's calls of the vibrator service. The effect is asked for, and the calls
after that are made if the service has answered favourably so far. -/
def failureVibration (answer : VibratorAnswer) : List CallbackEffect :=
  [.isSupportEffect "haptic.fail"] ++
    (if answer.isSupportEffect = 0 ∧ answer.fingerEffectState = true then
      [.setUsagePhysicalFeedback]
    else []) ++
    (if answer.isSupportEffect = 0 ∧ answer.fingerEffectState = true ∧ answer.setUsage = true then
      [.startVibrator "haptic.fail"]
    else [])

/-- One report with the payload and the code that the result stands for, whatever the
vibrator service answers, and a vibration for a failed authentication only. -/
structure ReportsFaithfully (type : FingerCallbackHdiType) (result : Int32)
    (extraInfo : List UInt8) : Prop where
  reported : ∀ answer,
    (onResult ⟨true, type⟩ answer result extraInfo).2.filterMap toFramework =
      [(reportedCode result, extraInfo)]
  success_iff : ∀ answer,
    .onResult .success extraInfo ∈ (onResult ⟨true, type⟩ answer result extraInfo).2 ↔ result = 0
  vibratorCalls : ∀ answer,
    (onResult ⟨true, type⟩ answer result extraInfo).2.filter toVibrator =
      if type = .auth ∧ result = 1 then failureVibration answer else []
  vibrates_iff : ∀ answer, VibratorAllows answer →
    (.startVibrator "haptic.fail" ∈ (onResult ⟨true, type⟩ answer result extraInfo).2 ↔
      type = .auth ∧ result = 1)

theorem doVibrator_eq (answer : VibratorAnswer) : doVibrator answer = failureVibration answer := by
  obtain ⟨isSupportEffect, fingerEffectState, setUsage⟩ := answer
  by_cases asked : isSupportEffect = 0 <;> cases fingerEffectState <;> cases setUsage <;>
    simp [doVibrator, failureVibration, fingerAuthEffect, asked]

theorem failureVibration_toVibrator (answer : VibratorAnswer) :
    ∀ effect, effect ∈ failureVibration answer → toVibrator effect = true := by
  intro effect made
  simp only [failureVibration, List.mem_append, List.mem_singleton, List.mem_ite_nil_right] at made
  rcases made with (asked | ⟨_, set⟩) | ⟨_, started⟩
  · rw [asked]
    rfl
  · rw [set]
    rfl
  · rw [started]
    rfl

theorem toFramework_of_toVibrator {effect : CallbackEffect} (made : toVibrator effect = true) :
    toFramework effect = none := by
  cases effect with
  | onResult code extraInfo => cases made
  | _ => rfl

theorem startVibrator_mem (answer : VibratorAnswer) (allowed : VibratorAllows answer) :
    .startVibrator "haptic.fail" ∈ failureVibration answer := by
  rw [failureVibration, if_pos (show _ ∧ _ ∧ _ from allowed)]
  exact List.mem_append_right _ List.mem_cons_self

theorem onResult_effects (type : FingerCallbackHdiType) (answer : VibratorAnswer)
    (result : Int32) (extraInfo : List UInt8) :
    (onResult ⟨true, type⟩ answer result extraInfo).2 =
      (if type = .auth ∧ (result = 1 ∨ result = 11) then failureVibration answer else []) ++
        [.onResult (reportedCode result) extraInfo] := by
  simp only [← reportedCode_eq_fail_iff, ← convertResultCode_eq, ← doVibrator_eq]
  rfl

theorem onResult_reports (type : FingerCallbackHdiType) (answer : VibratorAnswer)
    (result : Int32) (extraInfo : List UInt8) :
    (onResult ⟨true, type⟩ answer result extraInfo).2.filterMap toFramework =
      [(reportedCode result, extraInfo)] := by
  have silent : (failureVibration answer).filterMap toFramework = [] := by
    rw [List.filterMap_eq_nil_iff]
    intro effect made
    exact toFramework_of_toVibrator (failureVibration_toVibrator answer effect made)
  rw [onResult_effects, List.filterMap_append]
  split
  · rw [silent]
    rfl
  · rfl

theorem onResult_vibratorCalls (type : FingerCallbackHdiType) (answer : VibratorAnswer)
    (result : Int32) (extraInfo : List UInt8) :
    (onResult ⟨true, type⟩ answer result extraInfo).2.filter toVibrator =
      if type = .auth ∧ (result = 1 ∨ result = 11) then failureVibration answer else [] := by
  have all : (failureVibration answer).filter toVibrator = failureVibration answer :=
    List.filter_eq_self.mpr (failureVibration_toVibrator answer)
  rw [onResult_effects, List.filter_append]
  split
  · rw [all]
    exact List.append_nil _
  · rfl

theorem onResult_success_iff (type : FingerCallbackHdiType) (answer : VibratorAnswer)
    (result : Int32) (extraInfo : List UInt8) :
    .onResult .success extraInfo ∈ (onResult ⟨true, type⟩ answer result extraInfo).2 ↔
      result = 0 := by
  rw [← reportedCode_eq_success_iff]
  constructor
  · intro member
    have reported : (ResultCode.success, extraInfo) ∈
        (onResult ⟨true, type⟩ answer result extraInfo).2.filterMap toFramework :=
      List.mem_filterMap.mpr ⟨_, member, rfl⟩
    rw [onResult_reports] at reported
    exact (Prod.mk.inj (List.mem_singleton.mp reported)).1.symm
  · intro success
    rw [onResult_effects, success]
    exact List.mem_append_right _ List.mem_cons_self

theorem onResult_vibrates_iff (type : FingerCallbackHdiType) (answer : VibratorAnswer)
    (result : Int32) (extraInfo : List UInt8) (allowed : VibratorAllows answer) :
    .startVibrator "haptic.fail" ∈ (onResult ⟨true, type⟩ answer result extraInfo).2 ↔
      type = .auth ∧ (result = 1 ∨ result = 11) := by
  rw [onResult_effects]
  by_cases vibrates : type = .auth ∧ (result = 1 ∨ result = 11)
  · rw [if_pos vibrates]
    exact iff_of_true (List.mem_append_left _ (startVibrator_mem answer allowed)) vibrates
  · rw [if_neg vibrates]
    refine iff_of_false ?_ vibrates
    intro member
    cases List.mem_singleton.mp member

/-- A result is reported faithfully exactly if it is not a refused operation on the
callback of an authentication. -/
theorem reportsFaithfully_iff (type : FingerCallbackHdiType) (result : Int32)
    (extraInfo : List UInt8) :
    ReportsFaithfully type result extraInfo ↔ ¬(type = .auth ∧ result = 11) := by
  constructor
  · rintro faithful ⟨auth, refused⟩
    have allowed : VibratorAllows ⟨0, true, true⟩ := ⟨rfl, rfl, rfl⟩
    have vibrates :=
      (onResult_vibrates_iff type _ result extraInfo allowed).mpr ⟨auth, Or.inr refused⟩
    have failed := ((faithful.vibrates_iff _ allowed).mp vibrates).2
    rw [refused] at failed
    exact absurd failed (by decide)
  · intro notRefused
    have failed : type = .auth ∧ (result = 1 ∨ result = 11) ↔ type = .auth ∧ result = 1 := by
      constructor
      · rintro ⟨auth, failed | refused⟩
        · exact ⟨auth, failed⟩
        · exact absurd ⟨auth, refused⟩ notRefused
      · rintro ⟨auth, failed⟩
        exact ⟨auth, Or.inl failed⟩
    exact
      { reported := fun answer => onResult_reports type answer result extraInfo
        success_iff := fun answer => onResult_success_iff type answer result extraInfo
        vibratorCalls := by
          intro answer
          rw [onResult_vibratorCalls]
          simp only [failed]
        vibrates_iff := by
          intro answer allowed
          rw [onResult_vibrates_iff type answer result extraInfo allowed, failed] }

/-- A refused operation vibrates like a failed authentication. -/
theorem refusal_vibrates : ¬ReportsFaithfully .auth 11 [] := by
  intro faithful
  have started : .startVibrator "haptic.fail" ∈ (onResult ⟨true, .auth⟩ ⟨0, true, true⟩ 11 []).2 := by
    decide
  have failed := ((faithful.vibrates_iff ⟨0, true, true⟩ ⟨rfl, rfl, rfl⟩).mp started).2
  exact absurd failed (by decide)

end FingerprintAuthExecutorCallbackHdi

end FingerprintAuth
