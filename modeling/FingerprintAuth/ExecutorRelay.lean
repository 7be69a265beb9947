/-
Nothing is lost, doubled or misdirected between the framework and the driver.

Over whole runs, with requests and reports in any order: the driver is called with the
requests that pass their checks and with nothing else, each with a callback object of
its own, and every report that the driver makes on a callback object reaches the
framework's object that came with the request, once, converted, and in the order of the
reports.
-/

import FingerprintAuth.ExecutorRequests
import FingerprintAuth.Library.CommitPoint
import Mathlib.Data.List.Induction

set_option autoImplicit false

universe u v

namespace FingerprintAuth

namespace DriverCall

variable {C : Type u} {D : Type v}

def map (change : C → D) : DriverCall C → DriverCall D
  | .onRegisterFinish templateIdList frameworkPublicKey extraInfo =>
      .onRegisterFinish templateIdList frameworkPublicKey extraInfo
  | .registerSaCommandCallback => .registerSaCommandCallback
  | .sendMessage scheduleId srcRole msg => .sendMessage scheduleId srcRole msg
  | .enroll scheduleId extraInfo callback => .enroll scheduleId extraInfo (change callback)
  | .authenticate scheduleId templateIdList endAfterFirstFail extraInfo callback =>
      .authenticate scheduleId templateIdList endAfterFirstFail extraInfo (change callback)
  | .identify scheduleId extraInfo callback => .identify scheduleId extraInfo (change callback)
  | .delete templateIdList => .delete templateIdList
  | .cancel scheduleId => .cancel scheduleId
  | .sendCommand commandId extraInfo callback => .sendCommand commandId extraInfo (change callback)
  | .setCachedTemplates templateIdList => .setCachedTemplates templateIdList

def handed : DriverCall C → Option (C × FingerCallbackHdiType)
  | .enroll _ _ callback => some (callback, .enroll)
  | .authenticate _ _ _ _ callback => some (callback, .auth)
  | .identify _ _ callback => some (callback, .identify)
  | .sendCommand _ _ callback => some (callback, .command)
  | _ => none

theorem map_congr {first second : C → D} (call : DriverCall C)
    (same : ∀ callback type, call.handed = some (callback, type) →
      first callback = second callback) : call.map first = call.map second := by
  cases call with
  | enroll scheduleId extraInfo callback => rw [map, map, same callback .enroll rfl]
  | authenticate scheduleId templateIdList endAfterFirstFail extraInfo callback =>
      rw [map, map, same callback .auth rfl]
  | identify scheduleId extraInfo callback => rw [map, map, same callback .identify rfl]
  | sendCommand commandId extraInfo callback => rw [map, map, same callback .command rfl]
  | _ => rfl

end DriverCall

/-! ### What should be relayed -/

def RequestCodes.commandOf (codes : RequestCodes) (commandId : Int32) : Option Int32 :=
  if codes.aboveVendorCommandBegin commandId then some commandId
  else codes.commandIds.lookup commandId

namespace ExecutorRequest

variable {F : Type u}

/-- What the driver should be called with, by name of the framework's objects. -/
def forwards (codes : RequestCodes) (answers : RequestAnswers) :
    ExecutorRequest F → List (DriverCall F)
  | .onRegisterFinish templateIdList frameworkPublicKey extraInfo =>
      .onRegisterFinish templateIdList frameworkPublicKey extraInfo ::
        if answers.status = codes.hdi.hdfSuccess ∧ answers.saCommandCallback = true then
          [.registerSaCommandCallback]
        else []
  | .sendMessage scheduleId srcRole msg => [.sendMessage scheduleId srcRole msg]
  | .enroll scheduleId param callbackObj =>
      if answers.callback then
        callbackObj.toList.map (.enroll scheduleId param.extraInfo)
      else []
  | .authenticate scheduleId param callbackObj =>
      if answers.callback then
        callbackObj.toList.map
          (.authenticate scheduleId param.templateIdList param.endAfterFirstFail param.extraInfo)
      else []
  | .identify scheduleId param callbackObj =>
      if answers.callback then
        callbackObj.toList.map (.identify scheduleId param.extraInfo)
      else []
  | .delete templateIdList => [.delete templateIdList]
  | .cancel scheduleId => [.cancel scheduleId]
  | .sendCommand commandId extraInfo callbackObj =>
      if answers.callback then
        (codes.commandOf commandId).toList.flatMap (fun hdiCommandId =>
          callbackObj.toList.map (.sendCommand hdiCommandId extraInfo))
      else []
  | .setCachedTemplates templateIdList => [.setCachedTemplates templateIdList]

def Succeeds (codes : RequestCodes) (answers : RequestAnswers) (request : ExecutorRequest F) :
    Prop :=
  request.forwards codes answers ≠ [] ∧ answers.status = codes.hdi.hdfSuccess ∧
    match request with
    | .onRegisterFinish _ _ _ =>
        answers.saCommandCallback = true ∧ answers.saCommandStatus = codes.hdi.hdfSuccess
    | _ => True

def registers : ExecutorRequest F → Bool
  | .onRegisterFinish _ _ _ => true
  | _ => false

end ExecutorRequest

inductive FrameworkCall where
  | onResult (code : ResultCode) (extraInfo : List UInt8)
  | onAcquireInfo (tip : Int32) (extraInfo : List UInt8)
  | onMessage (destRole : Int32) (msg : List UInt8)
deriving DecidableEq, Repr

def ReportEffect.frameworkCall : ReportEffect → Option FrameworkCall
  | .ofResult (.onResult code extraInfo) => some (.onResult code extraInfo)
  | .ofResult _ => none
  | .onAcquireInfo tip extraInfo => some (.onAcquireInfo tip extraInfo)
  | .onMessage destRole msg => some (.onMessage destRole msg)

/-- What the framework's object should be told of a report. -/
def Report.told (codes : RequestCodes) : Report → FrameworkCall
  | .onResult result extraInfo _ =>
      .onResult (FingerprintAuthExecutorCallbackHdi.reportedCode result) extraInfo
  | .onTip tip extraInfo =>
      .onAcquireInfo
        (if tip = codes.fingerprintAuthTipSingleAuthResult then codes.userAuthTipSingleAuthResult
        else tip) extraInfo
  | .onMessage destRole msg => .onMessage destRole msg

/-- What a callback object of this type should do on a report. It vibrates for an
authentication that failed or was refused, before it tells the framework. -/
def Report.due (codes : RequestCodes) (type : FingerCallbackHdiType) : Report → List ReportEffect
  | .onResult result extraInfo answer =>
      (if type = .auth ∧ (result = 1 ∨ result = 11) then
        (FingerprintAuthExecutorCallbackHdi.failureVibration answer).map .ofResult
      else []) ++
        [.ofResult (.onResult (FingerprintAuthExecutorCallbackHdi.reportedCode result) extraInfo)]
  | .onTip tip extraInfo =>
      [.onAcquireInfo
        (if tip = codes.fingerprintAuthTipSingleAuthResult then codes.userAuthTipSingleAuthResult
        else tip) extraInfo]
  | .onMessage destRole msg => [.onMessage destRole msg]

theorem Codes.convertResultCode_eq_success_iff (codes : Codes) (status : Int32) :
    codes.convertResultCode status = .success ↔ status = codes.hdi.hdfSuccess := by
  unfold convertResultCode
  constructor
  · intro success
    cases found : codes.statuses.lookup status with
    | none =>
        rw [found] at success
        cases success
    | some out =>
        rw [found] at success
        simp only at success
        subst success
        obtain ⟨before, after, split, _⟩ := List.lookup_eq_some_iff.mp found
        have listed : (status, ResultCode.success) ∈ codes.statuses := by
          rw [split]
          exact List.mem_append_right before List.mem_cons_self
        simpa [statuses] using listed
  · intro same
    rw [same, statuses, List.lookup_cons_self]

namespace ExecutorRelay

variable {F : Type u}

/-! ### Requests -/

inductive Performed (codes : RequestCodes) (request : ExecutorRequest F)
    (answers : RequestAnswers) (relay : ExecutorRelay F) : ExecutorRelay F → ResultCode → Prop
  | plain (calls : List (DriverCall Nat)) (result : ResultCode)
      (unhanded : calls.filterMap DriverCall.handed = [])
      (asked : ∀ change : Nat → Option F, calls.map (DriverCall.map change) =
        if relay.executorProxy then
          (request.forwards codes answers).map (DriverCall.map some)
        else [])
      (granted : result = .success ↔
        relay.executorProxy = true ∧ request.Succeeds codes answers) :
      Performed codes request answers relay
        { relay with driverCalls := relay.driverCalls ++ calls } result
  | handing (callbackObj : F) (type : FingerCallbackHdiType) (call : DriverCall Nat)
      (result : ResultCode) (present : relay.executorProxy = true)
      (handed : call.handed = some (relay.callbacks.length, type))
      (asked : ∀ change : Nat → Option F, change relay.callbacks.length = some callbackObj →
        [call.map change] = (request.forwards codes answers).map (DriverCall.map some))
      (granted : result = .success ↔
        relay.executorProxy = true ∧ request.Succeeds codes answers) :
      Performed codes request answers relay
        { relay with
          callbacks := relay.callbacks ++
            [{ frameworkCallback := some callbackObj, fingerCallbackHdiType := type }]
          driverCalls := relay.driverCalls ++ [call] } result

section Performing

variable {codes : RequestCodes} {request : ExecutorRequest F} {answers : RequestAnswers}
  {relay : ExecutorRelay F}

private theorem Performed.refused {result : ResultCode} (failed : result ≠ .success)
    (unasked : relay.executorProxy = false ∨ request.forwards codes answers = []) :
    Performed codes request answers relay relay result := by
  have asked : (if relay.executorProxy then
      (request.forwards codes answers).map (DriverCall.map some) else []) = [] := by
    rcases unasked with absent | none_due
    · rw [absent]
      rfl
    · rw [none_due]
      exact ite_self _
  have ungranted : ¬(relay.executorProxy = true ∧ request.Succeeds codes answers) := by
    rintro ⟨present, due, _⟩
    rcases unasked with absent | none_due
    · rw [absent] at present
      cases present
    · exact due none_due
  have one : Performed codes request answers relay
      { relay with driverCalls := relay.driverCalls ++ [] } result :=
    .plain [] result rfl (fun _ => asked.symm) (iff_of_false failed ungranted)
  rw [List.append_nil] at one
  exact one

private theorem forward_performed (call : DriverCall Nat) (due : DriverCall F)
    (unhanded : call.handed = none)
    (same : ∀ change : Nat → Option F, call.map change = due.map some)
    (asked : request.forwards codes answers = [due])
    (granted : request.Succeeds codes answers ↔ answers.status = codes.hdi.hdfSuccess) :
    Performed codes request answers relay (relay.forward codes call answers.status).1
      (relay.forward codes call answers.status).2 := by
  unfold forward
  by_cases absent : relay.executorProxy = false
  · rw [if_pos absent]
    exact .refused nofun (Or.inl absent)
  · rw [if_neg absent]
    have present : relay.executorProxy = true := by simpa using absent
    have calls : ∀ change : Nat → Option F, [call].map (DriverCall.map change) =
        if relay.executorProxy then
          (request.forwards codes answers).map (DriverCall.map some)
        else [] := by
      intro change
      rw [present, asked, if_pos rfl, List.map_singleton, List.map_singleton, same]
    have nothing : [call].filterMap DriverCall.handed = [] := by
      rw [List.filterMap_cons_none unhanded]
      rfl
    have success := codes.convertResultCode_eq_success_iff answers.status
    by_cases succeeded : codes.convertResultCode answers.status = .success
    · rw [if_neg (not_not.mpr succeeded)]
      exact .plain [call] _ nothing calls
        (iff_of_true rfl ⟨present, granted.mpr (success.mp succeeded)⟩)
    · rw [if_pos succeeded]
      refine .plain [call] _ nothing calls (iff_of_false succeeded ?_)
      rintro ⟨_, granted'⟩
      exact succeeded (success.mpr (granted.mp granted'))

private theorem forwardWithCallback_performed (type : FingerCallbackHdiType) (callbackObj : F)
    (call : Nat → DriverCall Nat) (due : F → DriverCall F)
    (present : relay.executorProxy = true)
    (handed : ∀ callback, (call callback).handed = some (callback, type))
    (same : ∀ (change : Nat → Option F) callback object, change callback = some object →
      (call callback).map change = (due object).map some)
    (asked : request.forwards codes answers = if answers.callback then [due callbackObj] else [])
    (granted : answers.callback = true →
      (request.Succeeds codes answers ↔ answers.status = codes.hdi.hdfSuccess)) :
    Performed codes request answers relay
      (relay.forwardWithCallback codes type callbackObj call answers).1
      (relay.forwardWithCallback codes type callbackObj call answers).2 := by
  unfold forwardWithCallback
  by_cases unmade : answers.callback = false
  · rw [if_pos unmade]
    refine .refused nofun (Or.inr ?_)
    rw [asked, unmade]
    rfl
  · rw [if_neg unmade]
    have made : answers.callback = true := by simpa using unmade
    have calls : ∀ change : Nat → Option F, change relay.callbacks.length = some callbackObj →
        [(call relay.callbacks.length).map change] =
          (request.forwards codes answers).map (DriverCall.map some) := by
      intro change object
      rw [asked, made, if_pos rfl, List.map_singleton, same change _ _ object]
    have success := codes.convertResultCode_eq_success_iff answers.status
    by_cases succeeded : codes.convertResultCode answers.status = .success
    · simp only [ne_eq, succeeded, not_true_eq_false, if_false, callDriver]
      exact .handing callbackObj type _ _ present (handed _) calls
        (iff_of_true rfl ⟨present, (granted made).mpr (success.mp succeeded)⟩)
    · simp only [ne_eq, succeeded, not_false_eq_true, if_true, callDriver]
      refine .handing callbackObj type _ _ present (handed _) calls (iff_of_false succeeded ?_)
      rintro ⟨_, all⟩
      exact succeeded (success.mpr ((granted made).mp all))

private theorem onRegisterFinish_performed (templateIdList : List UInt64)
    (frameworkPublicKey extraInfo : List UInt8)
    (named : request = .onRegisterFinish templateIdList frameworkPublicKey extraInfo) :
    Performed codes request answers relay
      (relay.onRegisterFinish codes templateIdList frameworkPublicKey extraInfo answers).1
      (relay.onRegisterFinish codes templateIdList frameworkPublicKey extraInfo answers).2 := by
  subst named
  have success := codes.convertResultCode_eq_success_iff answers.status
  have saSuccess := codes.convertResultCode_eq_success_iff answers.saCommandStatus
  obtain ⟨executorProxy, callbacks, driverCalls, results, effects, statuses⟩ := relay
  cases executorProxy with
  | false => exact .refused nofun (Or.inl rfl)
  | true =>
      simp only [onRegisterFinish, registerSaCommandCallback, callDriver, Bool.true_eq_false,
        if_false, ne_eq]
      by_cases accepted : codes.convertResultCode answers.status = .success
      case neg =>
        -- the driver refused, and the second call is not made
        rw [if_pos accepted]
        refine .plain [.onRegisterFinish templateIdList frameworkPublicKey extraInfo] _ rfl ?_ ?_
        · intro change
          simp only [if_true, ExecutorRequest.forwards]
          rw [if_neg (fun both => accepted (success.mpr both.1))]
          rfl
        · refine iff_of_false accepted ?_
          rintro ⟨_, _, status, _⟩
          exact accepted (success.mpr status)
      rw [if_neg (not_not.mpr accepted)]
      by_cases unmade : answers.saCommandCallback = false
      · simp only [if_pos unmade, reduceCtorEq, not_false_eq_true, if_true]
        refine .plain [.onRegisterFinish templateIdList frameworkPublicKey extraInfo] _ rfl ?_ ?_
        · intro change
          simp only [if_true, ExecutorRequest.forwards, unmade, Bool.false_eq_true, and_false,
            if_false]
          rfl
        · refine iff_of_false (by decide) ?_
          rintro ⟨_, _, _, made, _⟩
          rw [unmade] at made
          cases made
      have made : answers.saCommandCallback = true := by simpa using unmade
      have asked : ∀ change : Nat → Option F,
          [.onRegisterFinish templateIdList frameworkPublicKey extraInfo,
            .registerSaCommandCallback].map (DriverCall.map change) =
          ((ExecutorRequest.onRegisterFinish templateIdList frameworkPublicKey
            extraInfo).forwards codes answers).map (DriverCall.map some) := by
        intro change
        simp only [ExecutorRequest.forwards]
        rw [if_pos ⟨success.mp accepted, made⟩]
        rfl
      have granted : codes.convertResultCode answers.saCommandStatus = .success ↔
          true = true ∧ (ExecutorRequest.onRegisterFinish templateIdList frameworkPublicKey
            extraInfo : ExecutorRequest F).Succeeds codes answers := by
        rw [saSuccess]
        constructor
        · intro registered
          exact ⟨rfl, List.cons_ne_nil _ _, success.mp accepted, made, registered⟩
        · rintro ⟨_, _, _, _, registered⟩
          exact registered
      simp only [if_neg unmade, List.append_assoc, List.cons_append, List.nil_append]
      by_cases registered : codes.convertResultCode answers.saCommandStatus = .success
      · rw [registered] at granted
        simp only [registered, not_true_eq_false, if_false]
        exact .plain _ _ rfl asked granted
      · simp only [registered, not_false_eq_true, if_true]
        exact .plain _ _ rfl asked granted

end Performing

private theorem succeeds_iff {codes : RequestCodes} {request : ExecutorRequest F}
    {answers : RequestAnswers} (due : request.forwards codes answers ≠ [])
    (plain : request.registers = false) :
    request.Succeeds codes answers ↔ answers.status = codes.hdi.hdfSuccess := by
  constructor
  · intro succeeds
    exact succeeds.2.1
  · intro status
    refine ⟨due, status, ?_⟩
    cases request with
    | onRegisterFinish templateIdList frameworkPublicKey extraInfo => cases plain
    | _ => trivial

private theorem guarded_performed {codes : RequestCodes} {request : ExecutorRequest F}
    {answers : RequestAnswers} {relay : ExecutorRelay F} (callbackObj : Option F)
    (type : FingerCallbackHdiType) (call : Nat → DriverCall Nat) (due : F → DriverCall F)
    (handed : ∀ callback, (call callback).handed = some (callback, type))
    (same : ∀ (change : Nat → Option F) callback object, change callback = some object →
      (call callback).map change = (due object).map some)
    (asked : request.forwards codes answers =
      if answers.callback then callbackObj.toList.map due else [])
    (plain : request.registers = false)
    {after : ExecutorRelay F × ResultCode}
    (guarded : after =
      if relay.executorProxy = false then (relay, .generalError)
      else
        match callbackObj with
        | none => (relay, .generalError)
        | some callbackObj => relay.forwardWithCallback codes type callbackObj call answers) :
    Performed codes request answers relay after.1 after.2 := by
  subst guarded
  by_cases absent : relay.executorProxy = false
  · rw [if_pos absent]
    exact .refused nofun (Or.inl absent)
  rw [if_neg absent]
  cases callbackObj with
  | none =>
      refine .refused nofun (Or.inr ?_)
      rw [asked]
      exact ite_self _
  | some callbackObj =>
      refine forwardWithCallback_performed type callbackObj call due (by simpa using absent)
        handed same asked ?_
      intro made
      refine succeeds_iff ?_ plain
      rw [asked, if_pos made]
      exact List.cons_ne_nil _ _

theorem perform_performed (codes : RequestCodes) (relay : ExecutorRelay F)
    (request : ExecutorRequest F) (answers : RequestAnswers) :
    Performed codes request answers relay (relay.perform codes request answers).1
      (relay.perform codes request answers).2 := by
  cases request with
  | onRegisterFinish templateIdList frameworkPublicKey extraInfo =>
      exact onRegisterFinish_performed templateIdList frameworkPublicKey extraInfo rfl
  | sendMessage scheduleId srcRole msg =>
      exact forward_performed _ (.sendMessage scheduleId srcRole msg) rfl (fun _ => rfl) rfl
        (succeeds_iff (List.cons_ne_nil _ _) rfl)
  | delete templateIdList =>
      exact forward_performed _ (.delete templateIdList) rfl (fun _ => rfl) rfl
        (succeeds_iff (List.cons_ne_nil _ _) rfl)
  | cancel scheduleId =>
      exact forward_performed _ (.cancel scheduleId) rfl (fun _ => rfl) rfl
        (succeeds_iff (List.cons_ne_nil _ _) rfl)
  | setCachedTemplates templateIdList =>
      exact forward_performed _ (.setCachedTemplates templateIdList) rfl (fun _ => rfl) rfl
        (succeeds_iff (List.cons_ne_nil _ _) rfl)
  | enroll scheduleId param callbackObj =>
      refine guarded_performed callbackObj .enroll (.enroll scheduleId param.extraInfo)
        (.enroll scheduleId param.extraInfo) (fun _ => rfl) ?_ rfl ?_ rfl
      · intro change callback object same
        rw [DriverCall.map, DriverCall.map, same]
      · rfl
  | authenticate scheduleId param callbackObj =>
      refine guarded_performed callbackObj .auth
        (.authenticate scheduleId param.templateIdList param.endAfterFirstFail param.extraInfo)
        (.authenticate scheduleId param.templateIdList param.endAfterFirstFail param.extraInfo)
        (fun _ => rfl) ?_ rfl ?_ rfl
      · intro change callback object same
        rw [DriverCall.map, DriverCall.map, same]
      · rfl
  | identify scheduleId param callbackObj =>
      refine guarded_performed callbackObj .identify (.identify scheduleId param.extraInfo)
        (.identify scheduleId param.extraInfo) (fun _ => rfl) ?_ rfl ?_ rfl
      · intro change callback object same
        rw [DriverCall.map, DriverCall.map, same]
      · rfl
  | sendCommand commandId extraInfo callbackObj =>
      cases converted : codes.commandOf commandId with
      | none =>
          have refusal : codes.convertCommandId commandId 0 = (.invalidParameters, 0) := by
            unfold RequestCodes.commandOf at converted
            unfold RequestCodes.convertCommandId
            split at converted
            · cases converted
            · rename_i named
              rw [if_neg named, converted]
          have undue : (ExecutorRequest.sendCommand commandId extraInfo callbackObj).forwards
              codes answers = [] := by
            simp only [ExecutorRequest.forwards, converted]
            exact ite_self _
          have failed : ResultCode.generalError ≠ .success := by decide
          have invalid : ResultCode.invalidParameters ≠ .success := by decide
          simp only [perform, sendCommand, refusal]
          by_cases absent : relay.executorProxy = false
          · rw [if_pos absent]
            exact .refused failed (Or.inl absent)
          · rw [if_neg absent]
            cases callbackObj with
            | none => exact .refused failed (Or.inr undue)
            | some callbackObj => exact .refused invalid (Or.inr undue)
      | some hdiCommandId =>
          have conversion : codes.convertCommandId commandId 0 = (.success, hdiCommandId) := by
            unfold RequestCodes.commandOf at converted
            unfold RequestCodes.convertCommandId
            split at converted
            · rename_i vendor
              rw [if_pos vendor, Option.some.inj converted]
            · rename_i named
              rw [if_neg named, converted]
          refine guarded_performed callbackObj .command (.sendCommand hdiCommandId extraInfo)
            (.sendCommand hdiCommandId extraInfo) (fun _ => rfl) ?_ ?_ ?_ ?_
          · intro change callback object same
            rw [DriverCall.map, DriverCall.map, same]
          · simp only [ExecutorRequest.forwards, converted, Option.toList_some,
              List.flatMap_cons, List.flatMap_nil, List.append_nil]
          · rfl
          · simp only [perform, sendCommand, conversion]
            rfl

/-! ### Reports -/

/-- A callback object made for one of the framework's objects answers every report with
success and does what is due. -/
theorem onReport_due (codes : RequestCodes) (type : FingerCallbackHdiType) (report : Report) :
    FingerprintAuthExecutorCallbackHdi.onReport codes ⟨true, type⟩ report =
      (.success, report.due codes type) := by
  cases report with
  | onResult result extraInfo answer =>
      have effects := FingerprintAuthExecutorCallbackHdi.onResult_effects type answer result
        extraInfo
      have status : (FingerprintAuthExecutorCallbackHdi.onResult ⟨true, type⟩ answer result
        extraInfo).1 = .success := rfl
      simp only [FingerprintAuthExecutorCallbackHdi.onReport, status, effects, List.map_append,
        Report.due]
      split <;> rfl
  | onTip tip extraInfo => rfl
  | onMessage destRole msg => rfl

theorem due_told (codes : RequestCodes) (type : FingerCallbackHdiType) (report : Report) :
    (report.due codes type).filterMap ReportEffect.frameworkCall = [report.told codes] := by
  cases report with
  | onResult result extraInfo answer =>
      have silent : ((FingerprintAuthExecutorCallbackHdi.failureVibration answer).map
          ReportEffect.ofResult).filterMap ReportEffect.frameworkCall = [] := by
        rw [List.filterMap_eq_nil_iff]
        intro effect made
        obtain ⟨call, vibrator, same⟩ := List.mem_map.mp made
        have noReport := FingerprintAuthExecutorCallbackHdi.failureVibration_toVibrator answer
          call vibrator
        subst same
        cases call with
        | onResult code extraInfo => cases noReport
        | _ => rfl
      rw [Report.due, List.filterMap_append]
      split
      · rw [silent]
        rfl
      · rfl
  | onTip tip extraInfo => rfl
  | onMessage destRole msg => rfl

/-! ### Runs -/

def frameworkCallback (relay : ExecutorRelay F) (callback : Nat) : Option F :=
  (relay.callbacks[callback]?).bind CallbackObject.frameworkCallback

def typeOf (relay : ExecutorRelay F) (callback : Nat) : Option FingerCallbackHdiType :=
  (relay.callbacks[callback]?).map CallbackObject.fingerCallbackHdiType

def delivered (relay : ExecutorRelay F) : RelayAction F → List (Nat × Report)
  | .request _ _ => []
  | .report callback report =>
      if callback < relay.callbacks.length then [(callback, report)] else []

end ExecutorRelay

def RelayAction.asked {F : Type u} : RelayAction F → Option (ExecutorRequest F × RequestAnswers)
  | .request wanted answers => some (wanted, answers)
  | .report _ _ => none

/-- What the requests and the reports of a run should have come to. -/
structure Relays {F : Type u} (codes : RequestCodes) (executorProxy : Bool)
    (requests : List (ExecutorRequest F × RequestAnswers)) (reports : List (Nat × Report))
    (relay : ExecutorRelay F) : Prop where
  /-- The driver was called with the requests that pass their checks. -/
  asked : relay.driverCalls.map (DriverCall.map relay.frameworkCallback) =
    if executorProxy then
      requests.flatMap (fun asked => (asked.1.forwards codes asked.2).map (DriverCall.map some))
    else []
  /-- Every callback object was handed over in one call, which is of its type. -/
  handed : relay.driverCalls.filterMap DriverCall.handed =
    relay.callbacks.mapIdx (fun callback object => (callback, object.fingerCallbackHdiType))
  succeeded : List.Forall₂
    (fun result (asked : ExecutorRequest F × RequestAnswers) =>
      result = .success ↔ executorProxy = true ∧ asked.1.Succeeds codes asked.2)
    relay.results requests
  /-- Each report has become one call of the framework's object, in order. -/
  told : relay.effects.filterMap
      (fun effect => effect.2.frameworkCall.map (Prod.mk effect.1)) =
    reports.map (fun report => (report.1, report.2.told codes))
  /-- Beside that the callback objects have called the vibrator where it is due only. -/
  performed : relay.effects = reports.flatMap (fun report =>
    (relay.typeOf report.1).toList.flatMap (fun type =>
      (report.2.due codes type).map (Prod.mk report.1)))
  replied : relay.statuses = List.replicate reports.length .success

namespace ExecutorRelay

variable {F : Type u}

private structure Sound (executorProxy : Bool) (reports : List (Nat × Report))
    (relay : ExecutorRelay F) : Prop where
  proxy : relay.executorProxy = executorProxy
  objects : ∀ object, object ∈ relay.callbacks → object.frameworkCallback.isSome = true
  known : ∀ report, report ∈ reports → report.1 < relay.callbacks.length

private theorem handed_known {relay : ExecutorRelay F} (handed :
      relay.driverCalls.filterMap DriverCall.handed =
        relay.callbacks.mapIdx (fun callback object => (callback, object.fingerCallbackHdiType)))
    {call : DriverCall Nat} (made : call ∈ relay.driverCalls) {callback : Nat}
    {type : FingerCallbackHdiType} (given : call.handed = some (callback, type)) :
    callback < relay.callbacks.length := by
  have listed : (callback, type) ∈ relay.driverCalls.filterMap DriverCall.handed :=
    List.mem_filterMap.mpr ⟨call, made, given⟩
  rw [handed, List.mem_mapIdx] at listed
  obtain ⟨index, inside, same⟩ := listed
  rw [← (Prod.mk.inj same).1]
  exact inside

private theorem relays_known {relay after : ExecutorRelay F} {more : List (CallbackObject F)}
    (callbacks : after.callbacks = relay.callbacks ++ more) {callback : Nat}
    (inside : callback < relay.callbacks.length) :
    after.frameworkCallback callback = relay.frameworkCallback callback ∧
      after.typeOf callback = relay.typeOf callback := by
  unfold frameworkCallback typeOf
  rw [callbacks, List.getElem?_append_left inside]
  exact ⟨rfl, rfl⟩

section Steps

variable {codes : RequestCodes} {executorProxy : Bool}
  {requests : List (ExecutorRequest F × RequestAnswers)} {reports : List (Nat × Report)}
  {relay : ExecutorRelay F}

private theorem handing_relays (sound : Sound executorProxy reports relay)
    (relays : Relays codes executorProxy requests reports relay) (request : ExecutorRequest F)
    (answers : RequestAnswers) (callbackObj : F) (type : FingerCallbackHdiType)
    (call : DriverCall Nat) (result : ResultCode) {after : ExecutorRelay F}
    (callbacks : after.callbacks = relay.callbacks ++ [⟨some callbackObj, type⟩])
    (driverCalls : after.driverCalls = relay.driverCalls ++ [call])
    (results : after.results = relay.results ++ [result])
    (effects : after.effects = relay.effects) (statuses : after.statuses = relay.statuses)
    (present : executorProxy = true)
    (handed : call.handed = some (relay.callbacks.length, type))
    (asked : ∀ change : Nat → Option F, change relay.callbacks.length = some callbackObj →
      [call.map change] = (request.forwards codes answers).map (DriverCall.map some))
    (granted : result = .success ↔ executorProxy = true ∧ request.Succeeds codes answers) :
    Relays codes executorProxy (requests ++ [(request, answers)]) reports after where
  asked := by
    have new : after.frameworkCallback relay.callbacks.length = some callbackObj := by
      unfold frameworkCallback
      rw [callbacks, List.getElem?_concat_length]
      rfl
    have earlier : relay.driverCalls.map (DriverCall.map after.frameworkCallback) =
        relay.driverCalls.map (DriverCall.map relay.frameworkCallback) := by
      apply List.map_congr_left
      intro other made
      apply DriverCall.map_congr
      intro callback type given
      exact (relays_known callbacks (handed_known relays.handed made given)).1
    have all := relays.asked
    rw [present, if_pos rfl] at all
    rw [driverCalls, List.map_append, earlier, all, present, if_pos rfl, List.flatMap_append,
      List.map_singleton, asked _ new, List.flatMap_cons, List.flatMap_nil, List.append_nil]
  handed := by
    rw [driverCalls, List.filterMap_append, relays.handed, callbacks, List.mapIdx_concat,
      List.filterMap_cons_some handed, List.filterMap_nil]
  succeeded := by
    rw [results]
    exact List.rel_append relays.succeeded (.cons granted .nil)
  told := by
    rw [effects]
    exact relays.told
  performed := by
    rw [effects, relays.performed]
    apply List.flatMap_congr
    intro report member
    rw [(relays_known callbacks (sound.known report member)).2]
  replied := by
    rw [statuses]
    exact relays.replied

private theorem request_relays (sound : Sound executorProxy reports relay)
    (relays : Relays codes executorProxy requests reports relay) (request : ExecutorRequest F)
    (answers : RequestAnswers) :
    Sound executorProxy reports (relay.step codes (.request request answers)) ∧
      Relays codes executorProxy (requests ++ [(request, answers)]) reports
        (relay.step codes (.request request answers)) := by
  have performed := perform_performed codes relay request answers
  simp only [step]
  generalize relay.perform codes request answers = outcome at performed ⊢
  obtain ⟨after, result⟩ := outcome
  simp only at performed ⊢
  cases performed with
  | plain calls _ unhanded asked granted =>
      constructor
      · exact
          { proxy := sound.proxy
            objects := sound.objects
            known := sound.known }
      · refine
          { asked := ?_
            handed := ?_
            succeeded := ?_
            told := relays.told
            performed := relays.performed
            replied := relays.replied }
        · have calls := asked relay.frameworkCallback
          rw [sound.proxy] at calls
          refine List.map_append.trans ?_
          refine (congrArg₂ _ relays.asked calls).trans ?_
          rw [List.flatMap_append]
          split
          · rw [List.flatMap_cons, List.flatMap_nil, List.append_nil]
          · rfl
        · refine List.filterMap_append.trans ?_
          rw [unhanded, List.append_nil]
          exact relays.handed
        · rw [← sound.proxy] at relays ⊢
          exact List.rel_append relays.succeeded (.cons granted .nil)
  | handing callbackObj type call _ present handed asked granted =>
      constructor
      · refine
          { proxy := sound.proxy
            objects := ?_
            known := ?_ }
        · intro object member
          rcases List.mem_append.mp member with old | new
          · exact sound.objects object old
          · rw [List.mem_singleton.mp new]
            rfl
        · intro report member
          refine Nat.lt_of_lt_of_le (sound.known report member) ?_
          rw [List.length_append]
          exact Nat.le_add_right _ _
      · rw [sound.proxy] at present granted
        exact handing_relays sound relays request answers callbackObj type call result rfl rfl rfl
          rfl rfl present handed asked granted

private theorem report_relays (sound : Sound executorProxy reports relay)
    (relays : Relays codes executorProxy requests reports relay) (callback : Nat)
    (report : Report) :
    Sound executorProxy (reports ++ relay.delivered (.report callback report))
        (relay.step codes (.report callback report)) ∧
      Relays codes executorProxy requests (reports ++ relay.delivered (.report callback report))
        (relay.step codes (.report callback report)) := by
  simp only [step, onReport, delivered]
  cases found : relay.callbacks[callback]? with
  | none =>
      rw [if_neg (Nat.not_lt.mpr (List.getElem?_eq_none_iff.mp found)), List.append_nil]
      exact ⟨sound, relays⟩
  | some object =>
      have inside := (List.getElem?_eq_some_iff.mp found).1
      have behind := sound.objects object (List.mem_of_getElem? found)
      have hdi : object.hdi = ⟨true, object.fingerCallbackHdiType⟩ := by
        rw [CallbackObject.hdi, behind]
      have told := due_told codes object.fingerCallbackHdiType report
      simp only [if_pos inside, hdi, onReport_due]
      constructor
      · refine
          { proxy := sound.proxy
            objects := sound.objects
            known := ?_ }
        intro other member
        rcases List.mem_append.mp member with old | new
        · exact sound.known other old
        · rw [List.mem_singleton.mp new]
          exact inside
      · refine
          { asked := relays.asked
            handed := relays.handed
            succeeded := relays.succeeded
            told := ?_
            performed := ?_
            replied := ?_ }
        · have one : ((report.due codes object.fingerCallbackHdiType).map
              (Prod.mk callback)).filterMap
                (fun effect => effect.2.frameworkCall.map (Prod.mk effect.1)) =
              [(callback, report.told codes)] := by
            rw [List.filterMap_map]
            refine (List.map_filterMap (f := ReportEffect.frameworkCall)
              (g := Prod.mk callback)).symm.trans ?_
            rw [told, List.map_singleton]
          rw [List.filterMap_append, relays.told, one, List.map_append, List.map_singleton]
        · have type : relay.typeOf callback = some object.fingerCallbackHdiType := by
            rw [typeOf, found, Option.map_some]
          have one : [(callback, report)].flatMap (fun report =>
              (relay.typeOf report.1).toList.flatMap (fun type =>
                (report.2.due codes type).map (Prod.mk report.1))) =
              (report.due codes object.fingerCallbackHdiType).map (Prod.mk callback) := by
            simp only [List.flatMap_cons, List.flatMap_nil, List.append_nil, type,
              Option.toList_some]
          refine Eq.trans ?_ List.flatMap_append.symm
          exact congrArg₂ _ relays.performed one.symm
        · rw [relays.replied, List.length_append, List.length_singleton, List.replicate_succ']

end Steps

private theorem run_relays (codes : RequestCodes) (executorProxy : Bool)
    (actions : List (RelayAction F)) :
    Sound executorProxy
        (StepMachine.committed (step codes) delivered (new executorProxy : ExecutorRelay F)
          actions)
        (StepMachine.run (step codes) (new executorProxy) actions) ∧
      Relays codes executorProxy (actions.filterMap RelayAction.asked)
        (StepMachine.committed (step codes) delivered (new executorProxy : ExecutorRelay F)
          actions)
        (StepMachine.run (step codes) (new executorProxy) actions) := by
  induction actions using List.reverseRecOn with
  | nil =>
      constructor
      · exact
          { proxy := rfl
            objects := fun _ member => absurd member List.not_mem_nil
            known := fun _ member => absurd member List.not_mem_nil }
      · exact
          { asked := (ite_self _).symm
            handed := rfl
            succeeded := .nil
            told := rfl
            performed := rfl
            replied := rfl }
  | append_singleton before action ih =>
      rw [StepMachine.run_snoc, StepMachine.committed_append, List.filterMap_append]
      cases action with
      | request request answers =>
          have kept := request_relays ih.1 ih.2 request answers
          simp only [StepMachine.committed, delivered, List.append_nil, List.filterMap_cons,
            RelayAction.asked, List.filterMap_nil]
          exact kept
      | report callback report =>
          have kept := report_relays ih.1 ih.2 callback report
          simp only [StepMachine.committed, List.append_nil, List.filterMap_cons,
            RelayAction.asked, List.filterMap_nil]
          exact kept

/-- In every run: the driver is called with exactly the requests that pass their checks,
in order and with their own arguments, each with a callback object made for it; the
framework is answered with success exactly if all its calls were made and the driver
accepted them; and every report reaches the framework's object behind its callback once,
converted, after the vibrator was called for a failed authentication. -/
theorem relays_faithfully (codes : RequestCodes) (executorProxy : Bool)
    (actions : List (RelayAction F)) :
    Relays codes executorProxy (actions.filterMap RelayAction.asked)
      (StepMachine.committed (step codes) delivered (new executorProxy : ExecutorRelay F) actions)
      (StepMachine.run (step codes) (new executorProxy) actions) :=
  (run_relays codes executorProxy actions).2

end ExecutorRelay

end FingerprintAuth
