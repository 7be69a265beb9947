/-
Queries to the fingerprint driver: the executor's info and its properties.

Both operations answer through an out-parameter of the caller. The property is moved
there in one go after the last check. The info is moved field by field with three
conversions in between, each of which can fail.

The enumerators of the driver's interface and of the framework are parameters; the
code only looks them up in its tables.
-/

import FingerprintAuth.SaCommand
import Mathlib.Data.List.Forall2

set_option autoImplicit false

namespace FingerprintAuth

universe u v

structure HdiCodes where
  hdfSuccess : Int32
  hdfFailure : Int32
  hdfErrTimeout : Int32
  hdfErrQueueFull : Int32
  hdfErrDeviceBusy : Int32
  fingerprint : Int32
  collector : Int32
  verifier : Int32
  allInOne : Int32
  esl0 : Int32
  esl1 : Int32
  esl2 : Int32
  esl3 : Int32
  authSubType : Int32
  lockoutDuration : Int32
  remainAttempts : Int32
  enrollProgress : Int32
  sensorInfo : Int32

structure FrameworkCodes where
  fingerprint : Int32
  collector : Int32
  verifier : Int32
  allInOne : Int32
  esl0 : Int32
  esl1 : Int32
  esl2 : Int32
  esl3 : Int32
  attrPinSubType : Int32
  attrFreezingTime : Int32
  attrRemainTimes : Int32
  attrEnrollProgress : Int32
  attrSensorInfo : Int32

structure Codes where
  hdi : HdiCodes
  framework : FrameworkCodes

/-- The driver's description of itself, without the field that nothing reads. -/
structure ExecutorInfo where
  sensorId : UInt16
  executorMatcher : UInt32
  executorRole : Int32
  authType : Int32
  esl : Int32
  maxTemplateAcl : UInt32
  publicKey : List UInt8

/-- The fields of the framework's description that the conversion writes. The
enumerations are kept as numbers, since the caller's may hold any. -/
@[ext]
structure IamExecutorInfo where
  executorSensorHint : UInt32
  executorMatcher : UInt32
  executorRole : Int32
  authType : Int32
  esl : Int32
  maxTemplateAcl : UInt32
  publicKey : List UInt8
deriving DecidableEq

structure Property where
  authSubType : UInt64
  lockoutDuration : Int32
  remainAttempts : Int32
  enrollmentProgress : String
  sensorInfo : String
deriving DecidableEq

structure IAllInOneExecutor where
  getExecutorInfo : Int32 × ExecutorInfo
  getProperty : List UInt64 → List Int32 → Int32 × Property

structure PropertyCall where
  templateIdList : List UInt64
  propertyTypes : List Int32
deriving DecidableEq

/-- The conversions look a code up in a table and write the out-parameter only if it
is there. -/
def convertThrough {κ : Type u} {β : Type v} [BEq κ] (table : List (κ × β)) (code : κ) (out : β) :
    ResultCode × β :=
  match table.lookup code with
  | some found => (.success, found)
  | none => (.generalError, out)

namespace Codes

variable (codes : Codes)

def authTypes : List (Int32 × Int32) :=
  [(codes.hdi.fingerprint, codes.framework.fingerprint)]

def executorRoles : List (Int32 × Int32) :=
  [(codes.hdi.collector, codes.framework.collector),
    (codes.hdi.verifier, codes.framework.verifier),
    (codes.hdi.allInOne, codes.framework.allInOne)]

def executorSecureLevels : List (Int32 × Int32) :=
  [(codes.hdi.esl0, codes.framework.esl0),
    (codes.hdi.esl1, codes.framework.esl1),
    (codes.hdi.esl2, codes.framework.esl2),
    (codes.hdi.esl3, codes.framework.esl3)]

def statuses : List (Int32 × ResultCode) :=
  [(codes.hdi.hdfSuccess, .success),
    (codes.hdi.hdfFailure, .generalError),
    (codes.hdi.hdfErrTimeout, .timeout),
    (codes.hdi.hdfErrQueueFull, .busy),
    (codes.hdi.hdfErrDeviceBusy, .busy)]

def propertyTypes : List (Int32 × Int32) :=
  [(codes.framework.attrPinSubType, codes.hdi.authSubType),
    (codes.framework.attrFreezingTime, codes.hdi.lockoutDuration),
    (codes.framework.attrRemainTimes, codes.hdi.remainAttempts),
    (codes.framework.attrEnrollProgress, codes.hdi.enrollProgress),
    (codes.framework.attrSensorInfo, codes.hdi.sensorInfo)]

def convertAuthType (code : Int32) (out : Int32) : ResultCode × Int32 :=
  convertThrough codes.authTypes code out

def convertExecutorRole (code : Int32) (out : Int32) : ResultCode × Int32 :=
  convertThrough codes.executorRoles code out

def convertExecutorSecureLevel (code : Int32) (out : Int32) : ResultCode × Int32 :=
  convertThrough codes.executorSecureLevels code out

def convertAttributeKeyToPropertyType (key : Int32) (out : Int32) : ResultCode × Int32 :=
  convertThrough codes.propertyTypes key out

def convertResultCode (status : Int32) : ResultCode :=
  match codes.statuses.lookup status with
  | some out => out
  | none => .generalError

/-- The loop of `convertAttributeKeyVectorToPropertyType`. The item that a conversion
writes starts uninitialized and is read only after it was written. -/
def pushPropertyTypes : List Int32 → List Int32 → ResultCode × List Int32
  | [], outItems => (.success, outItems)
  | inItem :: rest, outItems =>
      let (result, outItem) := codes.convertAttributeKeyToPropertyType inItem 0
      if result ≠ .success then (.generalError, outItems)
      else pushPropertyTypes rest (outItems ++ [outItem])

def convertAttributeKeyVectorToPropertyType (inItems : List Int32) : ResultCode × List Int32 :=
  codes.pushPropertyTypes inItems []

def moveHdiExecutorInfo (reply : ExecutorInfo) (out : IamExecutorInfo) :
    ResultCode × IamExecutorInfo :=
  let out := { out with
    executorSensorHint := reply.sensorId.toUInt32
    executorMatcher := reply.executorMatcher }
  let (result, executorRole) := codes.convertExecutorRole reply.executorRole out.executorRole
  let out := { out with executorRole := executorRole }
  if result ≠ .success then (result, out)
  else
    let (result, authType) := codes.convertAuthType reply.authType out.authType
    let out := { out with authType := authType }
    if result ≠ .success then (result, out)
    else
      let (result, esl) := codes.convertExecutorSecureLevel reply.esl out.esl
      let out := { out with esl := esl }
      if result ≠ .success then (result, out)
      else
        (.success,
          { out with
            maxTemplateAcl := reply.maxTemplateAcl
            publicKey := reply.publicKey })

end Codes

def moveHdiProperty (reply : Property) (out : Property) : Property :=
  { out with
    authSubType := reply.authSubType
    lockoutDuration := reply.lockoutDuration
    remainAttempts := reply.remainAttempts
    enrollmentProgress := reply.enrollmentProgress
    sensorInfo := reply.sensorInfo }

structure FingerprintAllInOneExecutorHdi where
  executorProxy : Option IAllInOneExecutor

namespace FingerprintAllInOneExecutorHdi

def getExecutorInfo (codes : Codes) (executor : FingerprintAllInOneExecutorHdi)
    (info : IamExecutorInfo) : ResultCode × IamExecutorInfo :=
  match executor.executorProxy with
  | none => (.generalError, info)
  | some executorProxy =>
      let (status, localInfo) := executorProxy.getExecutorInfo
      let result := codes.convertResultCode status
      if result ≠ .success then (result, info)
      else codes.moveHdiExecutorInfo localInfo info

structure PropertyAnswer where
  result : ResultCode
  property : Property
  calls : List PropertyCall

def getProperty (codes : Codes) (executor : FingerprintAllInOneExecutorHdi)
    (templateIdList : List UInt64) (keys : List Int32) (property : Property) : PropertyAnswer :=
  match executor.executorProxy with
  | none => ⟨.generalError, property, []⟩
  | some executorProxy =>
      let (result, propertyTypes) := codes.convertAttributeKeyVectorToPropertyType keys
      if result ≠ .success then ⟨.generalError, property, []⟩
      else
        let (status, hdiProperty) := executorProxy.getProperty templateIdList propertyTypes
        let result := codes.convertResultCode status
        if result ≠ .success then ⟨result, property, [⟨templateIdList, propertyTypes⟩]⟩
        else ⟨.success, moveHdiProperty hdiProperty property, [⟨templateIdList, propertyTypes⟩]⟩

end FingerprintAllInOneExecutorHdi

/-! ### The conversion of keys -/

namespace Codes

variable (codes : Codes)

def TypesOf (keys types : List Int32) : Prop :=
  List.Forall₂ (fun key type => codes.propertyTypes.lookup key = some type) keys types

variable {codes}

theorem exists_types_iff (keys : List Int32) :
    (∃ types, codes.TypesOf keys types) ↔
      ∀ key, key ∈ keys → (codes.propertyTypes.lookup key).isSome = true := by
  induction keys with
  | nil =>
      constructor
      · intro _ key member
        cases member
      · intro _
        exact ⟨[], List.Forall₂.nil⟩
  | cons key rest ih =>
      rw [List.forall_mem_cons, ← ih, Option.isSome_iff_exists]
      constructor
      · intro typed
        obtain ⟨types, matched⟩ := typed
        cases matched with
        | cons first others => exact ⟨⟨_, first⟩, ⟨_, others⟩⟩
      · intro both
        obtain ⟨⟨type, first⟩, ⟨types, others⟩⟩ := both
        exact ⟨type :: types, List.Forall₂.cons first others⟩

theorem pushPropertyTypes_of_types {keys types : List Int32} (matched : codes.TypesOf keys types)
    (outItems : List Int32) :
    codes.pushPropertyTypes keys outItems = (.success, outItems ++ types) := by
  induction matched generalizing outItems with
  | nil => rw [pushPropertyTypes, List.append_nil]
  | cons first others ih =>
      simp only [pushPropertyTypes, convertAttributeKeyToPropertyType, convertThrough, first]
      refine (ih _).trans ?_
      rw [List.append_assoc, List.singleton_append]

theorem pushPropertyTypes_of_missing {keys : List Int32} (missing : ¬∃ types, codes.TypesOf keys types)
    (outItems : List Int32) : (codes.pushPropertyTypes keys outItems).1 = .generalError := by
  induction keys generalizing outItems with
  | nil => exact absurd ⟨[], List.Forall₂.nil⟩ missing
  | cons key rest ih =>
      cases found : codes.propertyTypes.lookup key with
      | none =>
          simp only [pushPropertyTypes, convertAttributeKeyToPropertyType, convertThrough, found]
          rfl
      | some type =>
          simp only [pushPropertyTypes, convertAttributeKeyToPropertyType, convertThrough, found]
          refine ih ?_ _
          intro typed
          obtain ⟨types, others⟩ := typed
          exact missing ⟨type :: types, List.Forall₂.cons found others⟩

/-! ### The conversion of the info -/

structure SetFromReply (codes : Codes) (reply : ExecutorInfo) (info : IamExecutorInfo) :
    Prop where
  executorSensorHint : info.executorSensorHint = reply.sensorId.toUInt32
  executorMatcher : info.executorMatcher = reply.executorMatcher
  executorRole : codes.executorRoles.lookup reply.executorRole = some info.executorRole
  authType : codes.authTypes.lookup reply.authType = some info.authType
  esl : codes.executorSecureLevels.lookup reply.esl = some info.esl
  maxTemplateAcl : info.maxTemplateAcl = reply.maxTemplateAcl
  publicKey : info.publicKey = reply.publicKey

def Convertible (codes : Codes) (reply : ExecutorInfo) : Prop :=
  (codes.executorRoles.lookup reply.executorRole).isSome = true ∧
    (codes.authTypes.lookup reply.authType).isSome = true ∧
    (codes.executorSecureLevels.lookup reply.esl).isSome = true

/-- What is written before the first conversion that fails is there already. -/
def AlreadyHeld (codes : Codes) (reply : ExecutorInfo) (info : IamExecutorInfo) : Prop :=
  info.executorSensorHint = reply.sensorId.toUInt32 ∧
    info.executorMatcher = reply.executorMatcher ∧
    ∀ role, codes.executorRoles.lookup reply.executorRole = some role →
      info.executorRole = role ∧
        ∀ authType, codes.authTypes.lookup reply.authType = some authType →
          info.authType = authType

theorem moveHdiExecutorInfo_success_iff (reply : ExecutorInfo) (info : IamExecutorInfo) :
    (codes.moveHdiExecutorInfo reply info).1 = .success ↔ codes.Convertible reply := by
  unfold Convertible moveHdiExecutorInfo convertExecutorRole convertAuthType
    convertExecutorSecureLevel convertThrough
  cases codes.executorRoles.lookup reply.executorRole with
  | none => simp
  | some role =>
      cases codes.authTypes.lookup reply.authType with
      | none => simp
      | some authType =>
          cases codes.executorSecureLevels.lookup reply.esl with
          | none => simp
          | some esl => simp

theorem moveHdiExecutorInfo_of_success {reply : ExecutorInfo} {info : IamExecutorInfo}
    (success : (codes.moveHdiExecutorInfo reply info).1 = .success) :
    codes.SetFromReply reply (codes.moveHdiExecutorInfo reply info).2 := by
  obtain ⟨hasRole, hasAuthType, hasEsl⟩ := (moveHdiExecutorInfo_success_iff reply info).mp success
  obtain ⟨role, foundRole⟩ := Option.isSome_iff_exists.mp hasRole
  obtain ⟨authType, foundAuthType⟩ := Option.isSome_iff_exists.mp hasAuthType
  obtain ⟨esl, foundEsl⟩ := Option.isSome_iff_exists.mp hasEsl
  have moved : (codes.moveHdiExecutorInfo reply info).2 =
      { executorSensorHint := reply.sensorId.toUInt32
        executorMatcher := reply.executorMatcher
        executorRole := role
        authType := authType
        esl := esl
        maxTemplateAcl := reply.maxTemplateAcl
        publicKey := reply.publicKey } := by
    simp [moveHdiExecutorInfo, convertExecutorRole, convertAuthType, convertExecutorSecureLevel,
      convertThrough, foundRole, foundAuthType, foundEsl]
  rw [moved]
  exact ⟨rfl, rfl, foundRole, foundAuthType, foundEsl, rfl, rfl⟩

/-- A conversion that fails has left no trace exactly if its writes repeat what the
caller had. -/
theorem moveHdiExecutorInfo_unchanged_iff {reply : ExecutorInfo} {info : IamExecutorInfo}
    (fails : ¬codes.Convertible reply) :
    (codes.moveHdiExecutorInfo reply info).2 = info ↔ codes.AlreadyHeld reply info := by
  rw [IamExecutorInfo.ext_iff]
  unfold Convertible at fails
  unfold AlreadyHeld moveHdiExecutorInfo convertExecutorRole convertAuthType
    convertExecutorSecureLevel convertThrough
  cases foundRole : codes.executorRoles.lookup reply.executorRole with
  | none => grind
  | some role =>
      cases foundAuthType : codes.authTypes.lookup reply.authType with
      | none => grind
      | some authType =>
          cases foundEsl : codes.executorSecureLevels.lookup reply.esl with
          | none => grind
          | some esl => grind

end Codes

/-! ### All or nothing -/

namespace FingerprintAllInOneExecutorHdi

/-- A query of the info that fails leaves the caller's info alone, and one that
succeeds sets it from the reply. -/
def InfoAllOrNothing (codes : Codes) (executor : FingerprintAllInOneExecutorHdi)
    (info : IamExecutorInfo) : Prop :=
  let answer := executor.getExecutorInfo codes info
  (answer.1 ≠ .success → answer.2 = info) ∧
    (answer.1 = .success → ∃ executorProxy, executor.executorProxy = some executorProxy ∧
      codes.SetFromReply executorProxy.getExecutorInfo.2 answer.2)

def PropertyAllOrNothing (codes : Codes) (executor : FingerprintAllInOneExecutorHdi)
    (templateIdList : List UInt64) (keys : List Int32) (property : Property) : Prop :=
  let answer := executor.getProperty codes templateIdList keys property
  (answer.result ≠ .success → answer.property = property) ∧
    (answer.result = .success → ∃ executorProxy types,
      executor.executorProxy = some executorProxy ∧ codes.TypesOf keys types ∧
        answer.property = (executorProxy.getProperty templateIdList types).2)

/-- A present driver is asked if and only if all keys can be converted, and then once
and for the types of the keys. -/
def AsksForConvertedKeys (codes : Codes) (executor : FingerprintAllInOneExecutorHdi)
    (templateIdList : List UInt64) (keys : List Int32) (property : Property) : Prop :=
  let answer := executor.getProperty codes templateIdList keys property
  (executor.executorProxy.isSome = true → (answer.calls ≠ [] ↔
    ∀ key, key ∈ keys → (codes.propertyTypes.lookup key).isSome = true)) ∧
  (answer.calls ≠ [] → ∃ types, codes.TypesOf keys types ∧ types.length = keys.length ∧
    answer.calls = [⟨templateIdList, types⟩])

variable {codes : Codes}

theorem getProperty_of_types {executorProxy : IAllInOneExecutor} {keys types : List Int32}
    (matched : codes.TypesOf keys types) (templateIdList : List UInt64) (property : Property) :
    getProperty codes ⟨some executorProxy⟩ templateIdList keys property =
      if codes.convertResultCode (executorProxy.getProperty templateIdList types).1 ≠ .success then
        ⟨codes.convertResultCode (executorProxy.getProperty templateIdList types).1, property,
          [⟨templateIdList, types⟩]⟩
      else
        ⟨.success, (executorProxy.getProperty templateIdList types).2, [⟨templateIdList, types⟩]⟩ := by
  have pushed := Codes.pushPropertyTypes_of_types matched []
  rw [List.nil_append] at pushed
  simp only [getProperty, Codes.convertAttributeKeyVectorToPropertyType, pushed]
  rfl

theorem getProperty_of_missing {executorProxy : IAllInOneExecutor} {keys : List Int32}
    (missing : ¬∃ types, codes.TypesOf keys types) (templateIdList : List UInt64)
    (property : Property) :
    getProperty codes ⟨some executorProxy⟩ templateIdList keys property =
      ⟨.generalError, property, []⟩ := by
  have failed := Codes.pushPropertyTypes_of_missing missing []
  simp only [getProperty, Codes.convertAttributeKeyVectorToPropertyType, failed]
  rfl

theorem property_allOrNothing (executor : FingerprintAllInOneExecutorHdi)
    (templateIdList : List UInt64) (keys : List Int32) (property : Property) :
    PropertyAllOrNothing codes executor templateIdList keys property := by
  obtain ⟨proxy⟩ := executor
  rw [PropertyAllOrNothing]
  cases proxy with
  | none => exact ⟨fun _ => rfl, nofun⟩
  | some executorProxy =>
      by_cases convertible : ∃ types, codes.TypesOf keys types
      · obtain ⟨types, matched⟩ := convertible
        rw [getProperty_of_types matched]
        split
        · rename_i failed
          exact ⟨fun _ => rfl, fun success => absurd success failed⟩
        · exact ⟨fun failed => absurd rfl failed, fun _ => ⟨executorProxy, types, rfl, matched, rfl⟩⟩
      · rw [getProperty_of_missing convertible]
        exact ⟨fun _ => rfl, nofun⟩

theorem asks_for_converted_keys (executor : FingerprintAllInOneExecutorHdi)
    (templateIdList : List UInt64) (keys : List Int32) (property : Property) :
    AsksForConvertedKeys codes executor templateIdList keys property := by
  obtain ⟨proxy⟩ := executor
  rw [AsksForConvertedKeys, ← Codes.exists_types_iff]
  cases proxy with
  | none => exact ⟨nofun, fun asked => absurd rfl asked⟩
  | some executorProxy =>
      by_cases convertible : ∃ types, codes.TypesOf keys types
      · obtain ⟨types, matched⟩ := convertible
        have asked : (getProperty codes ⟨some executorProxy⟩ templateIdList keys property).calls =
            [⟨templateIdList, types⟩] := by
          rw [getProperty_of_types matched]
          split
          · rfl
          · rfl
        rw [asked]
        exact ⟨fun _ => iff_of_true nofun ⟨types, matched⟩,
          fun _ => ⟨types, matched, matched.length_eq.symm, rfl⟩⟩
      · rw [getProperty_of_missing convertible]
        exact ⟨fun _ => iff_of_false (fun asked => asked rfl) convertible,
          fun asked => absurd rfl asked⟩

theorem info_allOrNothing_iff (executor : FingerprintAllInOneExecutorHdi)
    (info : IamExecutorInfo) :
    InfoAllOrNothing codes executor info ↔
      ∀ executorProxy, executor.executorProxy = some executorProxy →
        codes.convertResultCode executorProxy.getExecutorInfo.1 = .success →
        codes.Convertible executorProxy.getExecutorInfo.2 ∨
          codes.AlreadyHeld executorProxy.getExecutorInfo.2 info := by
  obtain ⟨proxy⟩ := executor
  rw [InfoAllOrNothing]
  cases proxy with
  | none => exact iff_of_true ⟨fun _ => rfl, nofun⟩ nofun
  | some executorProxy =>
      simp only [Option.some.injEq, forall_eq']
      by_cases success : codes.convertResultCode executorProxy.getExecutorInfo.1 = .success
      · have moved : getExecutorInfo codes ⟨some executorProxy⟩ info =
            codes.moveHdiExecutorInfo executorProxy.getExecutorInfo.2 info :=
          if_neg (fun failed => failed success)
        rw [moved]
        by_cases convertible : codes.Convertible executorProxy.getExecutorInfo.2
        · have converted := (Codes.moveHdiExecutorInfo_success_iff _ info).mpr convertible
          refine iff_of_true ⟨fun failed => absurd converted failed, fun _ => ?_⟩
            (fun _ => Or.inl convertible)
          exact ⟨executorProxy, rfl, Codes.moveHdiExecutorInfo_of_success converted⟩
        · have failed : (codes.moveHdiExecutorInfo executorProxy.getExecutorInfo.2 info).1 ≠
              .success := fun converted =>
            convertible ((Codes.moveHdiExecutorInfo_success_iff _ info).mp converted)
          have unchanged : (codes.moveHdiExecutorInfo executorProxy.getExecutorInfo.2 info).2 =
              info ↔ codes.AlreadyHeld executorProxy.getExecutorInfo.2 info :=
            Codes.moveHdiExecutorInfo_unchanged_iff convertible
          constructor
          · intro allOrNothing _
            exact Or.inr (unchanged.mp (allOrNothing.1 failed))
          · intro held
            refine ⟨fun _ => ?_, fun converted => absurd converted failed⟩
            exact unchanged.mpr ((held success).resolve_left convertible)
      · have refused : getExecutorInfo codes ⟨some executorProxy⟩ info =
            (codes.convertResultCode executorProxy.getExecutorInfo.1, info) := if_pos success
        rw [refused]
        exact iff_of_true ⟨fun _ => rfl, fun converted => absurd converted success⟩
          (fun converted => absurd converted success)

/-- Both queries are all or nothing, and the property query asks the driver for the
converted keys, exactly if an info that fails to convert brings nothing new before
the conversion that fails. -/
theorem queries_allOrNothing_iff (codes : Codes) (executor : FingerprintAllInOneExecutorHdi)
    (info : IamExecutorInfo) (templateIdList : List UInt64) (keys : List Int32)
    (property : Property) :
    (InfoAllOrNothing codes executor info ∧
        PropertyAllOrNothing codes executor templateIdList keys property ∧
        AsksForConvertedKeys codes executor templateIdList keys property) ↔
      ∀ executorProxy, executor.executorProxy = some executorProxy →
        codes.convertResultCode executorProxy.getExecutorInfo.1 = .success →
        codes.Convertible executorProxy.getExecutorInfo.2 ∨
          codes.AlreadyHeld executorProxy.getExecutorInfo.2 info := by
  rw [← info_allOrNothing_iff]
  constructor
  · intro queries
    exact queries.1
  · intro allOrNothing
    exact ⟨allOrNothing, property_allOrNothing executor templateIdList keys property,
      asks_for_converted_keys executor templateIdList keys property⟩

/-- An info whose role is unknown is refused after its sensor has been written. -/
theorem refused_info_leaves_sensor :
    let codes : Codes :=
      { hdi := ⟨0, -1, -7, -15, -16, 4, 1, 2, 3, 0, 1, 2, 3, 1, 2, 3, 4, 5⟩
        framework := ⟨4, 1, 2, 3, 0, 1, 2, 3, 1, 2, 3, 4, 5⟩ }
    let executor : FingerprintAllInOneExecutorHdi :=
      ⟨some
        { getExecutorInfo := (0, ⟨7, 0, 9, 4, 3, 0, []⟩)
          getProperty := fun _ _ => (0, ⟨0, 0, 0, "", ""⟩) }⟩
    ¬InfoAllOrNothing codes executor ⟨0, 0, 0, 0, 0, 0, []⟩ := by
  intro codes executor allOrNothing
  have unchanged := allOrNothing.1 (by decide)
  exact absurd (congrArg IamExecutorInfo.executorSensorHint unchanged) (by decide)

end FingerprintAllInOneExecutorHdi

end FingerprintAuth
