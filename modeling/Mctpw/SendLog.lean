import Mctpw.Base.Ledger
import Mctpw.EndpointSignals
import Mctpw.Histories

set_option autoImplicit false

/- What has gone out for the application, and what has come back to it at once. -/
namespace Mctpw

open Runs

/-- A message sent, or the refusal of one. -/
def Effect.isOutgoing : Effect → Bool
  | .call asked =>
      asked.member = "SendMctpMessagePayload" || asked.member = "SendReceiveMctpMessagePayload"
  | .sent _ _ => true
  | .responded _ _ => true
  | _ => false

def outgoing (s : MCTPImpl) : List Effect := s.history Effect.isOutgoing

/-- What the callback of an asynchronous send is given when its device is not known. -/
def SendRequest.refusal : SendRequest → List Effect
  | .sendAsync true _ _ _ => [.sent .ioError (-1)]
  | .sendReceiveAsync true _ _ => [.responded .ioError []]
  | _ => []

namespace Effect

theorem outgoing_beside : Beside isOutgoing where
  get _ := rfl
  identified _ _ _ := rfl
  register call type member := by
    simp only [isOutgoing, member, registerMethod]
    split <;> decide
  ownEID _ _ _ := rfl
  matched _ := rfl

theorem Reception.not_outgoing {effect : Effect} (reception : effect.Reception) :
    effect.isOutgoing = false := by
  rcases reception with (⟨⟨⟩⟩ | _ | _ | _) | _ <;> rfl

theorem sendMessage_outgoing (request : SendRequest) (destination : String) (devID : DeviceID) :
    (Effect.call (sendMessage request destination devID)).isOutgoing = true := by
  cases request <;> rfl

end Effect

namespace MCTPImpl

/-- What a send comes to: its message to the service the device is filed at, else the
refusal. -/
def answerTo (request : SendRequest) (devID : DeviceID) (s : MCTPImpl) : List Effect :=
  match s.endpointMap.find devID with
  | some entry => [.call (sendMessage request entry.2 devID)]
  | none => request.refusal

theorem send_outgoing (request : SendRequest) (devID : DeviceID) (s : MCTPImpl) :
    outgoing (send request devID s) = outgoing s ++ answerTo request devID s := by
  unfold answerTo
  cases held : s.endpointMap.find devID with
  | some entry =>
      rw [send_known request devID s entry held]
      simp [outgoing, history, emit, Effect.sendMessage_outgoing]
  | none =>
      cases request with
      | sendAsync callback msgTag tagOwner request =>
          cases callback <;>
            simp [send, sendAsync, held, SendRequest.refusal, outgoing, history, emit,
              Effect.isOutgoing]
      | sendReceiveAsync callback request timeout =>
          cases callback <;>
            simp [send, sendReceiveAsync, held, SendRequest.refusal, outgoing, history, emit,
              Effect.isOutgoing]
      | _ =>
          simp [send, sendYield, sendReceiveYield, sendReceiveBlocked, held, SendRequest.refusal]

end MCTPImpl

/-- The send a label stands for, if it does for one. -/
def Label.sends : Label → Option (SendRequest × DeviceID)
  | .send request devID => some (request, devID)
  | _ => none

/-- Only a send is answered, and at once. -/
theorem System.step_outgoing {s t : System} {label : Label} (stepped : s.step label = some t) :
    match label.sends with
    | some sent => outgoing t.lib = outgoing s.lib ++ MCTPImpl.answerTo sent.1 sent.2 s.lib
    | none => outgoing t.lib = outgoing s.lib := by
  cases label with
  | detect =>
      cases stepped
      exact MCTPImpl.emit_history { s.lib with mctpChangesWatch := true } rfl
  | resume index env reply =>
      obtain ⟨scan, progress, lib, _, resumed, rfl, _⟩ := step_resume stepped
      exact (MCTPImpl.history_alongScan Effect.outgoing_beside (fun _ => rfl) fun _ => rfl).resume resumed
  | signal env msg =>
      obtain ⟨_, _, rfl⟩ := step_signal stepped
      exact (MCTPImpl.history_alongEvent Effect.outgoing_beside
        fun _ => Effect.Reception.not_outgoing).event env msg s.lib
  | body =>
      obtain ⟨body, rest, _, rfl⟩ := step_body stepped
      obtain ⟨_, event, same⟩ := MCTPImpl.runSpawned_eq body rest s.lib
      rw [same]
      have quiet : (Effect.networkChange event).isOutgoing = false := rfl
      exact MCTPImpl.emit_history s.lib quiet
  | registerResponder env specVersion =>
      rw [step_registerResponder stepped]
      obtain ⟨_, reports⟩ := MCTPImpl.registerResponder_reports env specVersion s.lib
      exact reports.emits.history_eq fun _ => Effect.outgoing_beside.registration
  | getOwnEIDs env callback =>
      cases stepped
      obtain ⟨_, reports⟩ := MCTPImpl.getOwnEIDs_reports env callback s.lib
      exact reports.emits.history_eq fun _ => Effect.outgoing_beside.ownReport
  | setExtendedReceiveCallback callback =>
      cases stepped
      have same : ∀ lib : MCTPImpl, outgoing (lib.setExtendedReceiveCallback callback) = outgoing lib := by
        intro lib
        unfold MCTPImpl.setExtendedReceiveCallback
        split <;> rfl
      exact same s.lib
  | send request devID =>
      cases stepped
      exact MCTPImpl.send_outgoing request devID s.lib

/-- What goes out over a whole run is the sends of the application in their order, each
exactly once and as it was given, to the service its device is filed at when it is
sent; where it is filed nowhere the refusal stands in its place. -/
theorem sends_answered {host : ByteOrder.Endian} {config : MCTPConfiguration}
    {networkChangeCb rxCb : Bool} {labels : List Label} {t : System}
    (run : Run System.step Any (.construct host config networkChangeCb rxCb) labels t) :
    AnsweredInTurn Label.sends
      (fun past sent words => ∃ s : System,
        Run System.step Any (.construct host config networkChangeCb rxCb) past s ∧
          words = s.lib.answerTo sent.1 sent.2)
      labels (outgoing t.lib) := by
  refine run.answered (fun s => outgoing s.lib) _ _ rfl ?_
  intro labels state label next before stepped
  have written := System.step_outgoing stepped
  split
  · rename_i sent asked
    rw [asked] at written
    exact ⟨_, ⟨state, before, rfl⟩, written⟩
  · rename_i aside
    rwa [aside] at written

namespace Slot

/-- One send too early, one to the device plugged in, and one to a device not there. -/
def sending : List Label :=
  .send (.sendAsync true 0 true [1]) device :: discovery ++ [added, .body,
    .send (.sendAsync true 1 true [2]) device,
    .send (.sendReceiveAsync true [3] 100) (DeviceID.make 9 0)]

def sent : System := (exec System.step start sending).get (by decide)

theorem sends_answered_sent :
    AnsweredInTurn Label.sends
      (fun past sent words => ∃ s : System, Run System.step Any start past s ∧
        words = s.lib.answerTo sent.1 sent.2)
      sending (outgoing sent.lib) := by
  have done : exec System.step start sending = some sent := by
    simp only [sent, Option.some_get]
  exact sends_answered (.of_exec done)

example : outgoing sent.lib = [.sent .ioError (-1),
    .call (sendMessage (.sendAsync true 1 true [2]) owner device),
    .responded .ioError []] := by
  decide

end Slot

end Mctpw
