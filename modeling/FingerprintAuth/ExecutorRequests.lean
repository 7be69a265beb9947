/-
The framework's requests to the fingerprint driver, and the driver's reports on them.

A request that expects reports gives the driver a callback object made for it. The
driver may report on the callbacks it was given at any time and in any order, also
while other requests are made. Callback objects are numbered as they are made.
-/

import FingerprintAuth.FingerprintAllInOneExecutor
import FingerprintAuth.FingerprintAuthExecutorCallback
import FingerprintAuth.Library.StepMachine

set_option autoImplicit false

universe u v

namespace FingerprintAuth

/-- Enumerators that the requests and the reports name, beside those of the queries.
`aboveVendorCommandBegin` says which numbers, read as a `DriverCommandId`, are greater
than `VENDOR_COMMAND_BEGIN`. -/
structure RequestCodes extends Codes where
  aboveVendorCommandBegin : Int32 → Bool
  initAlgorithm : Int32
  lockTemplate : Int32
  unlockTemplate : Int32
  propertyInitAlgorithm : Int32
  propertyModeFreeze : Int32
  propertyModeUnfreeze : Int32
  fingerprintAuthTipSingleAuthResult : Int32
  userAuthTipSingleAuthResult : Int32

namespace RequestCodes

variable (codes : RequestCodes)

def commandIds : List (Int32 × Int32) :=
  [(codes.propertyInitAlgorithm, codes.initAlgorithm),
    (codes.propertyModeFreeze, codes.lockTemplate),
    (codes.propertyModeUnfreeze, codes.unlockTemplate)]

def convertCommandId (commandId : Int32) (out : Int32) : ResultCode × Int32 :=
  if codes.aboveVendorCommandBegin commandId then (.success, commandId)
  else
    match codes.commandIds.lookup commandId with
    | none => (.invalidParameters, out)
    | some found => (.success, found)

end RequestCodes

/-! ### What passes between the framework, the executor and the driver -/

structure EnrollParam where
  extraInfo : List UInt8
deriving DecidableEq, Repr

structure AuthenticateParam where
  templateIdList : List UInt64
  endAfterFirstFail : Bool
  extraInfo : List UInt8
deriving DecidableEq, Repr

structure IdentifyParam where
  extraInfo : List UInt8
deriving DecidableEq, Repr

/-- A request of the framework. `none` is a null `callbackObj`. -/
inductive ExecutorRequest (F : Type u) where
  | onRegisterFinish (templateIdList : List UInt64) (frameworkPublicKey extraInfo : List UInt8)
  | sendMessage (scheduleId : UInt64) (srcRole : Int32) (msg : List UInt8)
  | enroll (scheduleId : UInt64) (param : EnrollParam) (callbackObj : Option F)
  | authenticate (scheduleId : UInt64) (param : AuthenticateParam) (callbackObj : Option F)
  | identify (scheduleId : UInt64) (param : IdentifyParam) (callbackObj : Option F)
  | delete (templateIdList : List UInt64)
  | cancel (scheduleId : UInt64)
  | sendCommand (commandId : Int32) (extraInfo : List UInt8) (callbackObj : Option F)
  | setCachedTemplates (templateIdList : List UInt64)

inductive DriverCall (C : Type u) where
  | onRegisterFinish (templateIdList : List UInt64) (frameworkPublicKey extraInfo : List UInt8)
  | registerSaCommandCallback
  | sendMessage (scheduleId : UInt64) (srcRole : Int32) (msg : List UInt8)
  | enroll (scheduleId : UInt64) (extraInfo : List UInt8) (callback : C)
  | authenticate (scheduleId : UInt64) (templateIdList : List UInt64) (endAfterFirstFail : Bool)
      (extraInfo : List UInt8) (callback : C)
  | identify (scheduleId : UInt64) (extraInfo : List UInt8) (callback : C)
  | delete (templateIdList : List UInt64)
  | cancel (scheduleId : UInt64)
  | sendCommand (commandId : Int32) (extraInfo : List UInt8) (callback : C)
  | setCachedTemplates (templateIdList : List UInt64)
deriving DecidableEq, Repr

/-- What the system and the driver answer while a request is made: whether a callback
object can be made, and the status of the driver's call. `OnRegisterFinish` makes a
second object and a second call. -/
structure RequestAnswers where
  callback : Bool
  status : Int32
  saCommandCallback : Bool
  saCommandStatus : Int32

inductive Report where
  | onResult (result : Int32) (extraInfo : List UInt8) (answer : VibratorAnswer)
  | onTip (tip : Int32) (extraInfo : List UInt8)
  | onMessage (destRole : Int32) (msg : List UInt8)

inductive ReportEffect where
  | ofResult (effect : CallbackEffect)
  | onAcquireInfo (tip : Int32) (extraInfo : List UInt8)
  | onMessage (destRole : Int32) (msg : List UInt8)
deriving DecidableEq, Repr

namespace FingerprintAuthExecutorCallbackHdi

def onTip (codes : RequestCodes) (callback : FingerprintAuthExecutorCallbackHdi) (tip : Int32)
    (extraInfo : List UInt8) : HdfStatus × List ReportEffect :=
  if ¬callback.hasFrameworkCallback then (.failure, [])
  else
    let tip :=
      if tip = codes.fingerprintAuthTipSingleAuthResult then codes.userAuthTipSingleAuthResult
      else tip
    (.success, [.onAcquireInfo tip extraInfo])

def onMessage (callback : FingerprintAuthExecutorCallbackHdi) (destRole : Int32)
    (msg : List UInt8) : HdfStatus × List ReportEffect :=
  if ¬callback.hasFrameworkCallback then (.failure, [])
  else (.success, [.onMessage destRole msg])

def onReport (codes : RequestCodes) (callback : FingerprintAuthExecutorCallbackHdi) :
    Report → HdfStatus × List ReportEffect
  | .onResult result extraInfo answer =>
      let (status, effects) := callback.onResult answer result extraInfo
      (status, effects.map .ofResult)
  | .onTip tip extraInfo => callback.onTip codes tip extraInfo
  | .onMessage destRole msg => callback.onMessage destRole msg

end FingerprintAuthExecutorCallbackHdi

/-! ### The executor -/

structure CallbackObject (F : Type u) where
  frameworkCallback : Option F
  fingerCallbackHdiType : FingerCallbackHdiType
deriving DecidableEq, Repr

def CallbackObject.hdi {F : Type u} (object : CallbackObject F) :
    FingerprintAuthExecutorCallbackHdi :=
  ⟨object.frameworkCallback.isSome, object.fingerCallbackHdiType⟩

/-- One executor with the callback objects it has made. The last four fields are not in
the source: what the driver was called with, what the framework was answered, and what
the callback objects called and answered. -/
structure ExecutorRelay (F : Type u) where
  executorProxy : Bool
  callbacks : List (CallbackObject F)
  driverCalls : List (DriverCall Nat)
  results : List ResultCode
  effects : List (Nat × ReportEffect)
  statuses : List HdfStatus

inductive RelayAction (F : Type u) where
  | request (request : ExecutorRequest F) (answers : RequestAnswers)
  | report (callback : Nat) (report : Report)

namespace ExecutorRelay

variable {F : Type u}

def new (executorProxy : Bool) : ExecutorRelay F :=
  { executorProxy := executorProxy
    callbacks := []
    driverCalls := []
    results := []
    effects := []
    statuses := [] }

def callDriver (relay : ExecutorRelay F) (call : DriverCall Nat) : ExecutorRelay F :=
  { relay with driverCalls := relay.driverCalls ++ [call] }

def forward (codes : RequestCodes) (relay : ExecutorRelay F) (call : DriverCall Nat)
    (status : Int32) : ExecutorRelay F × ResultCode :=
  if relay.executorProxy = false then (relay, .generalError)
  else
    let relay := relay.callDriver call
    let result := codes.convertResultCode status
    if result ≠ .success then (relay, result) else (relay, .success)

def forwardWithCallback (codes : RequestCodes) (relay : ExecutorRelay F)
    (type : FingerCallbackHdiType) (callbackObj : F) (call : Nat → DriverCall Nat)
    (answers : RequestAnswers) : ExecutorRelay F × ResultCode :=
  if answers.callback = false then (relay, .generalError)
  else
    let callback := relay.callbacks.length
    let relay : ExecutorRelay F :=
      { relay with
        callbacks := relay.callbacks ++
          [{ frameworkCallback := some callbackObj, fingerCallbackHdiType := type }] }
    let relay := relay.callDriver (call callback)
    let result := codes.convertResultCode answers.status
    if result ≠ .success then (relay, result) else (relay, .success)

def registerSaCommandCallback (codes : RequestCodes) (relay : ExecutorRelay F)
    (answers : RequestAnswers) : ExecutorRelay F × ResultCode :=
  if relay.executorProxy = false then (relay, .generalError)
  else if answers.saCommandCallback = false then (relay, .generalError)
  else
    let relay := relay.callDriver .registerSaCommandCallback
    let result := codes.convertResultCode answers.saCommandStatus
    if result ≠ .success then (relay, result) else (relay, .success)

def onRegisterFinish (codes : RequestCodes) (relay : ExecutorRelay F)
    (templateIdList : List UInt64) (frameworkPublicKey extraInfo : List UInt8)
    (answers : RequestAnswers) : ExecutorRelay F × ResultCode :=
  if relay.executorProxy = false then (relay, .generalError)
  else
    let relay :=
      relay.callDriver (.onRegisterFinish templateIdList frameworkPublicKey extraInfo)
    let result := codes.convertResultCode answers.status
    if result ≠ .success then (relay, result)
    else
      let (relay, result) := relay.registerSaCommandCallback codes answers
      if result ≠ .success then (relay, result) else (relay, .success)

def sendMessage (codes : RequestCodes) (relay : ExecutorRelay F) (scheduleId : UInt64)
    (srcRole : Int32) (msg : List UInt8) (answers : RequestAnswers) :
    ExecutorRelay F × ResultCode :=
  relay.forward codes (.sendMessage scheduleId srcRole msg) answers.status

def enroll (codes : RequestCodes) (relay : ExecutorRelay F) (scheduleId : UInt64)
    (param : EnrollParam) (callbackObj : Option F) (answers : RequestAnswers) :
    ExecutorRelay F × ResultCode :=
  if relay.executorProxy = false then (relay, .generalError)
  else
    match callbackObj with
    | none => (relay, .generalError)
    | some callbackObj =>
        relay.forwardWithCallback codes .enroll callbackObj (.enroll scheduleId param.extraInfo)
          answers

def authenticate (codes : RequestCodes) (relay : ExecutorRelay F) (scheduleId : UInt64)
    (param : AuthenticateParam) (callbackObj : Option F) (answers : RequestAnswers) :
    ExecutorRelay F × ResultCode :=
  if relay.executorProxy = false then (relay, .generalError)
  else
    match callbackObj with
    | none => (relay, .generalError)
    | some callbackObj =>
        relay.forwardWithCallback codes .auth callbackObj
          (.authenticate scheduleId param.templateIdList param.endAfterFirstFail param.extraInfo)
          answers

def identify (codes : RequestCodes) (relay : ExecutorRelay F) (scheduleId : UInt64)
    (param : IdentifyParam) (callbackObj : Option F) (answers : RequestAnswers) :
    ExecutorRelay F × ResultCode :=
  if relay.executorProxy = false then (relay, .generalError)
  else
    match callbackObj with
    | none => (relay, .generalError)
    | some callbackObj =>
        relay.forwardWithCallback codes .identify callbackObj
          (.identify scheduleId param.extraInfo) answers

def delete (codes : RequestCodes) (relay : ExecutorRelay F) (templateIdList : List UInt64)
    (answers : RequestAnswers) : ExecutorRelay F × ResultCode :=
  relay.forward codes (.delete templateIdList) answers.status

def cancel (codes : RequestCodes) (relay : ExecutorRelay F) (scheduleId : UInt64)
    (answers : RequestAnswers) : ExecutorRelay F × ResultCode :=
  relay.forward codes (.cancel scheduleId) answers.status

/-- The command is converted before the callback object is made. -/
def sendCommand (codes : RequestCodes) (relay : ExecutorRelay F) (commandId : Int32)
    (extraInfo : List UInt8) (callbackObj : Option F) (answers : RequestAnswers) :
    ExecutorRelay F × ResultCode :=
  if relay.executorProxy = false then (relay, .generalError)
  else
    match callbackObj with
    | none => (relay, .generalError)
    | some callbackObj =>
        let (result, hdiCommandId) := codes.convertCommandId commandId 0
        if result ≠ .success then (relay, result)
        else
          relay.forwardWithCallback codes .command callbackObj
            (.sendCommand hdiCommandId extraInfo) answers

def setCachedTemplates (codes : RequestCodes) (relay : ExecutorRelay F)
    (templateIdList : List UInt64) (answers : RequestAnswers) : ExecutorRelay F × ResultCode :=
  relay.forward codes (.setCachedTemplates templateIdList) answers.status

def perform (codes : RequestCodes) (relay : ExecutorRelay F) (request : ExecutorRequest F)
    (answers : RequestAnswers) : ExecutorRelay F × ResultCode :=
  match request with
  | .onRegisterFinish templateIdList frameworkPublicKey extraInfo =>
      relay.onRegisterFinish codes templateIdList frameworkPublicKey extraInfo answers
  | .sendMessage scheduleId srcRole msg => relay.sendMessage codes scheduleId srcRole msg answers
  | .enroll scheduleId param callbackObj =>
      relay.enroll codes scheduleId param callbackObj answers
  | .authenticate scheduleId param callbackObj =>
      relay.authenticate codes scheduleId param callbackObj answers
  | .identify scheduleId param callbackObj =>
      relay.identify codes scheduleId param callbackObj answers
  | .delete templateIdList => relay.delete codes templateIdList answers
  | .cancel scheduleId => relay.cancel codes scheduleId answers
  | .sendCommand commandId extraInfo callbackObj =>
      relay.sendCommand codes commandId extraInfo callbackObj answers
  | .setCachedTemplates templateIdList => relay.setCachedTemplates codes templateIdList answers

/-- The driver can report only on callbacks that it was given. -/
def onReport (codes : RequestCodes) (relay : ExecutorRelay F) (callback : Nat)
    (report : Report) : ExecutorRelay F :=
  match relay.callbacks[callback]? with
  | none => relay
  | some object =>
      let (status, effects) := object.hdi.onReport codes report
      { relay with
        effects := relay.effects ++ effects.map (Prod.mk callback)
        statuses := relay.statuses ++ [status] }

def step (codes : RequestCodes) (relay : ExecutorRelay F) : RelayAction F → ExecutorRelay F
  | .request request answers =>
      let (relay, result) := relay.perform codes request answers
      { relay with results := relay.results ++ [result] }
  | .report callback report => relay.onReport codes callback report

end ExecutorRelay

end FingerprintAuth
