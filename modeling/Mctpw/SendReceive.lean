import Mctpw.EndpointSignals

set_option autoImplicit false

/- The three send-receive functions beside each other, with what sdbusplus does
with the outcome of the call they make. -/
namespace Mctpw

open Runs

/-- How a method call ends. -/
inductive MethodOutcome
  | reply (bytes : ByteArray)
  | error (ec : ErrorCode) (failed : ec ≠ .success)

namespace MethodOutcome

/-- What an async_method_call handler is given, and yield_method_call returns. -/
def result : MethodOutcome → ErrorCode × ByteArray
  | reply bytes => (.success, bytes)
  | error ec _ => (ec, [])

/-- connection->call throws on an error reply. -/
def blocked : MethodOutcome → MCTPImpl.BlockedReply
  | reply bytes => .response bytes
  | error _ _ => .raised

def response : MethodOutcome → Option ByteArray
  | reply bytes => some bytes
  | error _ _ => none

end MethodOutcome

/-- The response behind an error code and its bytes, `none` for a failure. -/
def readAnswer (answer : ErrorCode × ByteArray) : Option ByteArray :=
  if answer.1 = .success then some answer.2 else none

theorem readAnswer_result (outcome : MethodOutcome) :
    readAnswer outcome.result = outcome.response := by
  cases outcome with
  | reply bytes => rfl
  | error ec failed => exact if_neg failed

/-- The method calls made since a state. -/
def callsSince (s t : MCTPImpl) : List MethodCall :=
  (t.trace.drop s.trace.length).filterMap fun effect =>
    match effect with
    | .call call => some call
    | _ => none

/-- The answers handed to receive callbacks since a state. -/
def respondedSince (s t : MCTPImpl) : List (ErrorCode × ByteArray) :=
  (t.trace.drop s.trace.length).filterMap fun effect =>
    match effect with
    | .responded ec response => some (ec, response)
    | _ => none

/-- A use of one variant from outside: the calls it makes, and the answers its
caller gets, `none` when an exception escapes instead. -/
structure Conduct where
  calls : List MethodCall
  answers : Option (List (ErrorCode × ByteArray))

namespace MCTPImpl

/-- The handler is run with the result. Invoking an empty std::function throws. -/
def handleReply (callback : Bool) (outcome : MethodOutcome) (s : MCTPImpl) : Option MCTPImpl :=
  if callback then some (s.emit (.responded outcome.result.1 outcome.result.2)) else none

def sendReceiveAsyncConduct (callback : Bool) (outcome : MethodOutcome) (devID : DeviceID)
    (request : ByteArray) (timeout : Int) (s : MCTPImpl) : Conduct :=
  let issued := sendReceiveAsync callback devID request timeout s
  let finished :=
    if (callsSince s issued).isEmpty then some issued else handleReply callback outcome issued
  ⟨callsSince s issued, finished.map (respondedSince s)⟩

def sendReceiveYieldConduct (outcome : MethodOutcome) (devID : DeviceID) (request : ByteArray)
    (timeout : Int) (s : MCTPImpl) : Conduct :=
  let finished := sendReceiveYield outcome.result devID request timeout s
  ⟨callsSince s finished.2, some [finished.1]⟩

def sendReceiveBlockedConduct (outcome : MethodOutcome) (devID : DeviceID) (request : ByteArray)
    (timeout : Int) (s : MCTPImpl) : Conduct :=
  let finished := sendReceiveBlocked outcome.blocked devID request timeout s
  ⟨callsSince s finished.2,
    match finished.1 with
    | .ok answer => some [answer]
    | .error _ => none⟩

end MCTPImpl

/-- The outcome the device's entry, or its absence, makes there to report. -/
def reported (outcome : MethodOutcome) (devID : DeviceID) (s : MCTPImpl) : Option ByteArray :=
  (s.endpointMap.find devID).bind fun _ => outcome.response

/-- The variants make the same call, or none for an unknown device, and report
one outcome, the asynchronous one to a callback that is set. -/
structure SendReceivesAgree (callback : Bool) (outcome : MethodOutcome) (devID : DeviceID)
    (request : ByteArray) (timeout : Int) (s : MCTPImpl) : Prop where
  async_calls : (s.sendReceiveAsyncConduct callback outcome devID request timeout).calls =
    (s.sendReceiveYieldConduct outcome devID request timeout).calls
  blocked_calls : (s.sendReceiveBlockedConduct outcome devID request timeout).calls =
    (s.sendReceiveYieldConduct outcome devID request timeout).calls
  unknown_calls : s.endpointMap.find devID = none →
    (s.sendReceiveYieldConduct outcome devID request timeout).calls = []
  async_answers : (s.sendReceiveAsyncConduct callback outcome devID request timeout).answers.map
    (List.map readAnswer) = some (if callback then [reported outcome devID s] else [])
  yield_answers : (s.sendReceiveYieldConduct outcome devID request timeout).answers.map
    (List.map readAnswer) = some [reported outcome devID s]
  blocked_answers : (s.sendReceiveBlockedConduct outcome devID request timeout).answers.map
    (List.map readAnswer) = some [reported outcome devID s]

namespace MCTPImpl

variable (callback : Bool) (outcome : MethodOutcome) (devID : DeviceID) (request : ByteArray)
  (timeout : Int) {s : MCTPImpl}

section Unknown

variable (unknown : s.endpointMap.find devID = none)

include unknown

theorem sendReceiveAsyncConduct_unknown :
    s.sendReceiveAsyncConduct callback outcome devID request timeout =
      ⟨[], some (if callback then [(.ioError, [])] else [])⟩ := by
  cases callback <;>
    simp [sendReceiveAsyncConduct, sendReceiveAsync, unknown, callsSince, respondedSince, emit]

theorem sendReceiveYieldConduct_unknown :
    s.sendReceiveYieldConduct outcome devID request timeout = ⟨[], some [(.ioError, [])]⟩ := by
  simp [sendReceiveYieldConduct, sendReceiveYield, unknown, callsSince]

theorem sendReceiveBlockedConduct_unknown :
    s.sendReceiveBlockedConduct outcome devID request timeout = ⟨[], some [(.ioError, [])]⟩ := by
  simp [sendReceiveBlockedConduct, sendReceiveBlocked, unknown, callsSince]

end Unknown

section Known

variable {entry : UInt32 × String} (known : s.endpointMap.find devID = some entry)

include known

theorem sendReceiveAsyncConduct_known :
    s.sendReceiveAsyncConduct callback outcome devID request timeout =
      ⟨[sendReceiveCall entry.2 devID request timeout],
        if callback then some [outcome.result] else none⟩ := by
  cases callback <;>
    simp [sendReceiveAsyncConduct, sendReceiveAsync, known, callsSince, respondedSince, handleReply,
      emit]

theorem sendReceiveYieldConduct_known :
    s.sendReceiveYieldConduct outcome devID request timeout =
      ⟨[sendReceiveCall entry.2 devID request timeout], some [outcome.result]⟩ := by
  simp [sendReceiveYieldConduct, sendReceiveYield, known, callsSince, emit]

/-- An error reply leaves sendReceiveBlocked as an exception. -/
theorem sendReceiveBlockedConduct_known :
    s.sendReceiveBlockedConduct outcome devID request timeout =
      ⟨[sendReceiveCall entry.2 devID request timeout],
        outcome.response.map fun bytes => [(.success, bytes)]⟩ := by
  cases outcome <;>
    simp [sendReceiveBlockedConduct, sendReceiveBlocked, known, callsSince, emit,
      MethodOutcome.blocked, MethodOutcome.response]

end Known

/-- The variants agree exactly when the device is unknown, or the call succeeds
and there is a callback. -/
theorem sendReceives_agree_iff (s : MCTPImpl) :
    SendReceivesAgree callback outcome devID request timeout s ↔
      s.endpointMap.find devID = none ∨
        (callback = true ∧ ∃ bytes, outcome = .reply bytes) := by
  cases found : s.endpointMap.find devID with
  | none =>
      refine ⟨fun _ => .inl rfl, fun _ => ?_⟩
      have refused : readAnswer (.ioError, []) = reported outcome devID s := by
        simp [readAnswer, reported, found]
      constructor <;>
        simp [sendReceiveAsyncConduct_unknown _ _ _ _ _ found,
          sendReceiveYieldConduct_unknown _ _ _ _ found,
          sendReceiveBlockedConduct_unknown _ _ _ _ found, refused, apply_ite]
  | some entry =>
      have answered : readAnswer outcome.result = reported outcome devID s := by
        rw [readAnswer_result]
        simp [reported, found]
      constructor
      · rintro ⟨_, _, _, async, _, blocked⟩
        rw [sendReceiveAsyncConduct_known callback outcome devID request timeout found] at async
        rw [sendReceiveBlockedConduct_known outcome devID request timeout found] at blocked
        right
        constructor
        · cases callback with
          | true => rfl
          | false => cases async
        · cases outcome with
          | reply bytes => exact ⟨bytes, rfl⟩
          | error ec failed => cases blocked
      · rintro (absent | ⟨rfl, bytes, rfl⟩)
        · cases absent
        · constructor <;>
            simp [sendReceiveAsyncConduct_known _ _ _ _ _ found,
              sendReceiveYieldConduct_known _ _ _ _ found,
              sendReceiveBlockedConduct_known _ _ _ _ found, found, reported, readAnswer,
              MethodOutcome.result, MethodOutcome.response]

end MCTPImpl

namespace Slot

/-- A timeout is thrown by one variant and returned by another; a reply meets
an empty callback. -/
theorem sendReceives_differ :
    plugged.Reachable ∧ plugged.lib.endpointMap.find device = some (0, owner) ∧
      ¬ SendReceivesAgree true (.error (.other 110) (by decide)) device [0x81] 100 plugged.lib ∧
      ¬ SendReceivesAgree false (.reply [0x01]) device [0x81] 100 plugged.lib := by
  have done : exec System.step start (discovery ++ [added, .body]) = some plugged := rfl
  have found : plugged.lib.endpointMap.find device = some (0, owner) := by decide
  refine ⟨.of_exec done, found, ?_, ?_⟩
  · intro agree
    have blocked := agree.blocked_answers
    rw [MCTPImpl.sendReceiveBlockedConduct_known _ _ _ _ found] at blocked
    cases blocked
  · intro agree
    have async := agree.async_answers
    rw [MCTPImpl.sendReceiveAsyncConduct_known _ _ _ _ _ found] at async
    cases async

end Slot

end Mctpw
