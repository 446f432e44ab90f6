import Mctpw.Base.Ledger
import Mctpw.Delivery
import Mctpw.Histories

set_option autoImplicit false

/- The messages handed to the application over a whole run. -/
namespace Mctpw

open Runs

/-- The messages handed over so far. -/
def delivered (s : MCTPImpl) : List Effect := s.history Effect.isDelivery

/-- The message is the signal's own, handed to one callback or the other. -/
inductive Label.Hands : Effect → Label → Prop
  | plain (env : Env) (sender : String) (messageType srcEid msgTag : UInt8) (tagOwner : Bool)
      (payload : ByteArray) :
      Hands (.received srcEid tagOwner msgTag payload)
        (.signal env ⟨sender, .messageReceived messageType srcEid msgTag tagOwner payload⟩)
  | extended (env : Env) (sender : String) (messageType srcEid msgTag : UInt8) (tagOwner : Bool)
      (payload : ByteArray) (device : DeviceID) : device.mctpEID = srcEid →
      Hands (.extReceived device tagOwner msgTag payload)
        (.signal env ⟨sender, .messageReceived messageType srcEid msgTag tagOwner payload⟩)

namespace Effect

theorem delivery_beside : Beside isDelivery where
  get _ := rfl
  identified _ _ _ := rfl
  register _ _ _ := rfl
  ownEID _ _ _ := rfl
  matched _ := rfl

theorem Sending.not_delivery {effect : Effect} (sending : effect.Sending) :
    effect.isDelivery = false := by
  cases sending <;> rfl

end Effect

namespace MCTPImpl

variable {allowed : Effect → Prop} {s t : MCTPImpl}

theorem getDeviceIDFromPath_delivered (env : Env) (objectPath serviceName : String) (s : MCTPImpl) :
    delivered (getDeviceIDFromPath env objectPath serviceName s).2 = delivered s :=
  (getDeviceIDFromPath_emits env objectPath serviceName s).history_eq
    fun _ => Effect.delivery_beside.lookup

theorem onNewInterface_delivered (env : Env) (sender objectPath : String) (values : Interfaces)
    (s : MCTPImpl) : delivered (onNewInterface env sender objectPath values s).2 = delivered s := by
  have looked := getDeviceIDFromPath_delivered env objectPath sender s
  unfold onNewInterface
  split
  · split
    · exact onNewService_history Effect.delivery_beside env s sender
    · rfl
  · split
    · rfl
    · split
      · split
        · rfl
        · split
          · rfl
          · rfl
          · dsimp only
            split
            · exact looked
            · unfold onNewEID
              split <;> exact looked
      · rfl

theorem onInterfaceRemoved_delivered (env : Env) (sender objectPath : String)
    (interfaces : List String) (s : MCTPImpl) :
    delivered (onInterfaceRemoved env sender objectPath interfaces s) = delivered s := by
  have looked := getDeviceIDFromPath_delivered env objectPath sender s
  unfold onInterfaceRemoved
  split
  · split
    · dsimp only
      split
      · exact looked
      · rename_i device _
        obtain ⟨_, _, same⟩ := onEIDRemoved_eq device (getDeviceIDFromPath env objectPath sender s).2
        rw [same]
        exact looked
    · rfl
  · split
    · split <;> rfl
    · rfl

/-- What is handed over since a state comes after what was handed over before. -/
theorem Emits.delivered_since (emits : Emits allowed s t) :
    delivered t = delivered s ++ handedSince s t := by
  obtain ⟨effects, _, _, _, same⟩ := emits
  have grown : t.trace = s.trace ++ effects := by rw [same]
  rw [handedSince_append grown, delivered, delivered, history, history, grown, List.filter_append]

theorem onMessageReceived_once (env : Env) (sender : String) (messageType srcEid msgTag : UInt8)
    (tagOwner : Bool) (payload : ByteArray) (alone : OneCallback s) :
    handedSince s (onMessageReceived env sender messageType srcEid msgTag tagOwner payload s).2 = [] ∨
      HandedOver s srcEid msgTag tagOwner payload
        (handedSince s
          (onMessageReceived env sender messageType srcEid msgTag tagOwner payload s).2) := by
  unfold onMessageReceived
  split
  · exact .inl (handedSince_self s)
  · rename_i listened
    have listens : s.receiveCallback ∨ s.extReceiveCallback := by tauto
    split
    · exact .inl (handedSince_self s)
    · split
      · have looked : handedSince s
            (s.emit (.inspected (vendorHeaderMatches env payload s).offsets)) = [] := by
          have grown : (s.emit (.inspected (vendorHeaderMatches env payload s).offsets)).trace =
              s.trace ++ [.inspected (vendorHeaderMatches env payload s).offsets] := rfl
          rw [handedSince_append grown]
          rfl
        dsimp only
        split
        · exact .inl looked
        · exact .inl looked
        · obtain ⟨effects, _, grown⟩ := deliver_trace env sender srcEid msgTag tagOwner payload
            (s.emit (.inspected (vendorHeaderMatches env payload s).offsets))
          have once := deliver_once env sender srcEid msgTag tagOwner payload
            (s.emit (.inspected (vendorHeaderMatches env payload s).offsets)) listens alone
          rw [handedSince_emit rfl grown]
          exact .inr once
      · exact .inr (deliver_once env sender srcEid msgTag tagOwner payload s listens alone)

/-- A signal hands over its own message, once, or nothing. -/
theorem onMCTPEvent_hands (env : Env) (msg : Message) (alone : OneCallback s) :
    ∃ words, delivered (onMCTPEvent env msg s).2 = delivered s ++ words ∧
      (words = [] ∨ ∃ word, words = [word] ∧ (Label.signal env msg).Hands word) := by
  have nothing : ∀ t : MCTPImpl, delivered t = delivered s →
      ∃ words, delivered t = delivered s ++ words ∧
        (words = [] ∨ ∃ word, words = [word] ∧ (Label.signal env msg).Hands word) :=
    fun t same => ⟨[], by rw [same, List.append_nil], .inl rfl⟩
  unfold onMCTPEvent
  split
  · exact nothing s rfl
  · obtain ⟨sender, signal⟩ := msg
    cases signal with
    | interfacesAdded objectPath values =>
        exact nothing _ (onNewInterface_delivered env sender objectPath values s)
    | interfacesRemoved objectPath interfaces =>
        dsimp only
        split
        · exact nothing s rfl
        · exact nothing _ (onInterfaceRemoved_delivered env sender objectPath interfaces s)
    | messageReceived messageType srcEid msgTag tagOwner payload =>
        dsimp only
        split
        · exact nothing s rfl
        · have grown := (onMessageReceived_emits env sender messageType srcEid msgTag tagOwner
            payload s).delivered_since
          refine ⟨_, grown, ?_⟩
          rcases onMessageReceived_once env sender messageType srcEid msgTag tagOwner payload
            alone with none | ⟨_, one⟩ | ⟨_, device, formed, one⟩
          · exact .inl none
          · exact .inr ⟨_, one, .plain env sender messageType srcEid msgTag tagOwner payload⟩
          · exact .inr ⟨_, one,
              .extended env sender messageType srcEid msgTag tagOwner payload device formed⟩
    | propertiesChanged intfName propertiesChanged =>
        dsimp only
        split
        · exact nothing s rfl
        · refine nothing _ ?_
          unfold onPropertiesChanged
          split
          · split
            · split
              · exact emit_history s rfl
              · rfl
            · rfl
          · rfl
    | other member => exact nothing s rfl

end MCTPImpl

theorem System.step_hands {s t : System} {label : Label} (alone : OneCallback s.lib)
    (stepped : s.step label = some t) :
    ∃ words, delivered t.lib = delivered s.lib ++ words ∧
      (words = [] ∨ ∃ word, words = [word] ∧ label.Hands word) := by
  have nothing : delivered t.lib = delivered s.lib →
      ∃ words, delivered t.lib = delivered s.lib ++ words ∧
        (words = [] ∨ ∃ word, words = [word] ∧ label.Hands word) :=
    fun same => ⟨[], by rw [same, List.append_nil], .inl rfl⟩
  cases label with
  | detect =>
      refine nothing ?_
      cases stepped
      exact MCTPImpl.emit_history { s.lib with mctpChangesWatch := true } rfl
  | resume index env reply =>
      refine nothing ?_
      obtain ⟨scan, progress, lib, _, resumed, rfl, _⟩ := System.step_resume stepped
      exact (MCTPImpl.history_alongScan Effect.delivery_beside (fun _ => rfl) fun _ => rfl).resume resumed
  | signal env msg =>
      obtain ⟨_, _, rfl⟩ := System.step_signal stepped
      exact MCTPImpl.onMCTPEvent_hands env msg alone
  | body =>
      refine nothing ?_
      obtain ⟨body, rest, _, rfl⟩ := System.step_body stepped
      obtain ⟨_, event, same⟩ := MCTPImpl.runSpawned_eq body rest s.lib
      have quiet : (Effect.networkChange event).isDelivery = false := rfl
      rw [same]
      exact MCTPImpl.emit_history s.lib quiet
  | registerResponder env specVersion =>
      refine nothing ?_
      rw [System.step_registerResponder stepped]
      obtain ⟨_, reports⟩ := MCTPImpl.registerResponder_reports env specVersion s.lib
      exact reports.emits.history_eq fun _ => Effect.delivery_beside.registration
  | getOwnEIDs env callback =>
      refine nothing ?_
      cases stepped
      obtain ⟨_, reports⟩ := MCTPImpl.getOwnEIDs_reports env callback s.lib
      exact reports.emits.history_eq fun _ => Effect.delivery_beside.ownReport
  | setExtendedReceiveCallback callback =>
      refine nothing ?_
      cases stepped
      dsimp only [MCTPImpl.setExtendedReceiveCallback]
      split <;> rfl
  | send request devID =>
      refine nothing ?_
      cases stepped
      exact (MCTPImpl.send_reports request devID s.lib).emits.history_eq
        fun _ => Effect.Sending.not_delivery

/-- Over a whole run the application gets the messages of the signals in their order,
each unmodified, with its own EID and tag, and at most once, whatever else goes on:
nothing it gets comes from anywhere else. -/
theorem messages_in_order {host : ByteOrder.Endian} {config : MCTPConfiguration}
    {networkChangeCb rxCb : Bool} {labels : List Label} {t : System}
    (run : Run System.step Any (.construct host config networkChangeCb rxCb) labels t) :
    ∃ signals, List.Sublist signals labels ∧
      List.Forall₂ Label.Hands (delivered t.lib) signals := by
  have alone : OneCallback (System.construct host config networkChangeCb rxCb).lib :=
    run_oneCallback (show Run System.step Any _ [] _ from .nil)
  refine (run.keeping (fun s => OneCallback s.lib) alone
    fun _ _ _ alone _ stepped => oneCallback_step alone stepped).caused
      (fun s => delivered s.lib) Label.Hands rfl ?_
  exact fun _ _ _ alone stepped => System.step_hands alone.1 stepped

namespace Slot

/-- Two messages, and one for somebody else between them. -/
def talking : List Label :=
  discovery ++ [.signal env ⟨owner, .messageReceived 1 8 0 true [1]⟩,
    .signal env ⟨owner, .messageReceived 2 8 0 true [2]⟩,
    .signal env ⟨owner, .messageReceived 1 8 1 true [3]⟩]

def talked : System :=
  (exec System.step (.construct .little config true true) talking).get (by decide)

theorem messages_in_order_talked :
    ∃ signals, List.Sublist signals talking ∧
      List.Forall₂ Label.Hands (delivered talked.lib) signals :=
  messages_in_order (.of_exec (show exec System.step (.construct .little config true true) talking =
    some talked from rfl))

example : delivered talked.lib = [.received 8 true 0 [1], .received 8 true 1 [3]] := by decide

end Slot

end Mctpw
