import Mctpw.Receive

set_option autoImplicit false

/- Which callback a received message reaches, and what it is handed. -/
namespace Mctpw

open Runs ByteOrder

/-- A callback is handed a message. -/
def Effect.isDelivery : Effect → Bool
  | .received _ _ _ _ => true
  | .extReceived _ _ _ _ => true
  | _ => false

/-- The messages handed over since a state. -/
def handedSince (s t : MCTPImpl) : List Effect :=
  (t.trace.drop s.trace.length).filter Effect.isDelivery

/-- A built configuration and a payload agree on vendor id and masked vendor
message type, all in CPU order. -/
def VendorFits (host : Endian) (config : MCTPConfiguration) (payload : ByteArray) : Prop :=
  ∃ vid vendorMsgType vendorMsgTypeMask,
    MCTPConfiguration.ofVendorMessage host config.type config.bindingType vid vendorMsgType
      vendorMsgTypeMask = some config ∧
    load16 .big (payload.getD 1 0) (payload.getD 2 0) = vid ∧
    load16 .big (payload.getD 3 0) (payload.getD 4 0) &&& vendorMsgTypeMask =
      vendorMsgType &&& vendorMsgTypeMask

/-- The callback that is set has been handed the message, once and unmodified. -/
def HandedOver (s : MCTPImpl) (srcEid msgTag : UInt8) (tagOwner : Bool) (payload : ByteArray)
    (handed : List Effect) : Prop :=
  (s.receiveCallback = true ∧ handed = [.received srcEid tagOwner msgTag payload]) ∨
    (s.extReceiveCallback = true ∧ ∃ device : DeviceID, device.mctpEID = srcEid ∧
      handed = [.extReceived device tagOwner msgTag payload])

/-- What the receive filter lets through, and to whom. -/
def FilterExact (host : Endian) (config : MCTPConfiguration) (s : MCTPImpl)
    (messageType srcEid msgTag : UInt8) (tagOwner : Bool) (payload : ByteArray)
    (handed : List Effect) : Prop :=
  (handed ≠ [] ↔ (s.receiveCallback ∨ s.extReceiveCallback) ∧ messageType = config.type.toByte ∧
    (config.type = .vdpci → VendorFits host config payload)) ∧
  (handed ≠ [] → HandedOver s srcEid msgTag tagOwner payload handed)

/-- The two receive callbacks are never both set. -/
def OneCallback (s : MCTPImpl) : Prop := ¬ (s.receiveCallback ∧ s.extReceiveCallback)

theorem handedSince_self (s : MCTPImpl) : handedSince s s = [] := by
  simp [handedSince]

theorem handedSince_append {s t : MCTPImpl} {effects : List Effect}
    (grown : t.trace = s.trace ++ effects) :
    handedSince s t = effects.filter Effect.isDelivery := by
  simp [handedSince, grown]

theorem handedSince_emit {s t : MCTPImpl} {effect : Effect} {effects : List Effect}
    (other : effect.isDelivery = false) (grown : t.trace = (s.emit effect).trace ++ effects) :
    handedSince s t = handedSince (s.emit effect) t := by
  have whole : t.trace = s.trace ++ (effect :: effects) := by
    rw [grown]
    simp [MCTPImpl.emit]
  rw [handedSince_append grown, handedSince_append whole, List.filter_cons_of_neg (by simp [other])]

theorem read_isDelivery {effects : List Effect} (reads : ∀ effect ∈ effects, effect.Read) :
    effects.filter Effect.isDelivery = [] := by
  apply List.filter_eq_nil_iff.mpr
  intro effect member
  cases reads effect member
  simp [Effect.isDelivery]

namespace MCTPImpl

variable (env : Env) (sender : String) (srcEid msgTag : UInt8) (tagOwner : Bool)
  (payload : ByteArray) (s : MCTPImpl)

theorem deliver_plain (plain : s.receiveCallback = true) (alone : OneCallback s) :
    handedSince s (deliver env sender srcEid msgTag tagOwner payload s) =
      [.received srcEid tagOwner msgTag payload] := by
  have other : s.extReceiveCallback = false := by simpa [OneCallback, plain] using alone
  have grown : (deliver env sender srcEid msgTag tagOwner payload s).trace =
      s.trace ++ [.received srcEid tagOwner msgTag payload] := by
    simp [deliver, plain, other, emit]
  rw [handedSince_append grown]
  rfl

theorem deliver_extended (plain : s.receiveCallback = false) (extended : s.extReceiveCallback = true) :
    ∃ device : DeviceID, device.mctpEID = srcEid ∧
      handedSince s (deliver env sender srcEid msgTag tagOwner payload s) =
        [.extReceived device tagOwner msgTag payload] := by
  obtain ⟨effects, cache, busId, reads, looked⟩ := getNetworkID_emits env sender s
  refine ⟨DeviceID.make srcEid (getNetworkID env sender s).1, DeviceID.mctpEID_make _ _, ?_⟩
  have grown : (deliver env sender srcEid msgTag tagOwner payload s).trace = s.trace ++ (effects ++
      [.identified sender srcEid (DeviceID.make srcEid (getNetworkID env sender s).1),
        .extReceived (DeviceID.make srcEid (getNetworkID env sender s).1) tagOwner msgTag payload]) := by
    simp [deliver, plain, extended, emit, looked]
  rw [handedSince_append grown, List.filter_append, read_isDelivery reads]
  rfl

/-- A message that is let through is handed over once. -/
theorem deliver_once (listens : s.receiveCallback ∨ s.extReceiveCallback) (alone : OneCallback s) :
    HandedOver s srcEid msgTag tagOwner payload
      (handedSince s (deliver env sender srcEid msgTag tagOwner payload s)) := by
  cases plain : s.receiveCallback with
  | true => exact .inl ⟨plain, deliver_plain env sender srcEid msgTag tagOwner payload s plain alone⟩
  | false =>
      have extended : s.extReceiveCallback = true := by simpa [plain] using listens
      exact .inr ⟨extended,
        deliver_extended env sender srcEid msgTag tagOwner payload s plain extended⟩

/-- With the whole header there, the filter is the agreement in CPU order. -/
theorem vendorHeaderMatches_fits (built : MCTPConfiguration.Built s.host s.config)
    (whole : 5 ≤ payload.length) :
    (vendorHeaderMatches env payload s).result = .ok true ↔ VendorFits s.host s.config payload := by
  rcases built.vendorMessage_cases with unset | ⟨vid, vendorMsgType, vendorMsgTypeMask, made⟩
  · rw [vendorHeaderMatches_unset (.inr unset)]
    constructor
    · intro accepted
      cases accepted
    · rintro ⟨vid, vendorMsgType, vendorMsgTypeMask, made, _⟩
      rw [(MCTPConfiguration.ofVendorMessage_eq_some_iff.mp made).2] at unset
      cases unset
  · have fields := (MCTPConfiguration.ofVendorMessage_eq_some_iff.mp made).2
    rw [vendorHeaderMatches_iff env payload s (congrArg MCTPConfiguration.vendorId fields)
      (congrArg MCTPConfiguration.vendorMessageType fields) whole]
    constructor
    · rintro ⟨id, message⟩
      exact ⟨vid, vendorMsgType, vendorMsgTypeMask, made, id, message⟩
    · rintro ⟨vid', vendorMsgType', vendorMsgTypeMask', made', id, message⟩
      -- The stored form determines the values the configuration was built from.
      have fields' := (MCTPConfiguration.ofVendorMessage_eq_some_iff.mp made').2
      rw [fields] at fields'
      simp only [MCTPConfiguration.mk.injEq, Option.some.injEq, VendorMessageType.mk.injEq,
        htobe16_inj, true_and] at fields'
      obtain ⟨rfl, rfl, rfl⟩ := fields'
      exact ⟨id, message⟩

variable {s}

theorem filterExact_refused {messageType : UInt8} {t : MCTPImpl} (nothing : handedSince s t = [])
    (unfit : ¬ ((s.receiveCallback ∨ s.extReceiveCallback) ∧ messageType = s.config.type.toByte ∧
      (s.config.type = .vdpci → VendorFits s.host s.config payload))) :
    FilterExact s.host s.config s messageType srcEid msgTag tagOwner payload (handedSince s t) := by
  rw [nothing]
  exact ⟨by simpa using unfit, by simp⟩

theorem filterExact_accepted {messageType : UInt8} {t : MCTPImpl}
    (once : HandedOver s srcEid msgTag tagOwner payload (handedSince s t))
    (fits : (s.receiveCallback ∨ s.extReceiveCallback) ∧ messageType = s.config.type.toByte ∧
      (s.config.type = .vdpci → VendorFits s.host s.config payload)) :
    FilterExact s.host s.config s messageType srcEid msgTag tagOwner payload (handedSince s t) := by
  have handed : handedSince s t ≠ [] := by
    rcases once with ⟨_, same⟩ | ⟨_, device, _, same⟩ <;> simp [same]
  exact ⟨⟨fun _ => fits, fun _ => handed⟩, fun _ => once⟩

theorem onMessageReceived_exact (messageType : UInt8) (alone : OneCallback s)
    (built : MCTPConfiguration.Built s.host s.config)
    (whole : s.config.type = .vdpci → 5 ≤ payload.length) :
    FilterExact s.host s.config s messageType srcEid msgTag tagOwner payload
      (handedSince s
        (onMessageReceived env sender messageType srcEid msgTag tagOwner payload s).2) := by
  unfold onMessageReceived
  split
  · exact filterExact_refused _ _ _ _ (handedSince_self s) (by tauto)
  · rename_i listened
    have listens : s.receiveCallback ∨ s.extReceiveCallback := by tauto
    split
    · exact filterExact_refused _ _ _ _ (handedSince_self s) (by tauto)
    · rename_i other
      have wanted : messageType = s.config.type.toByte := not_not.mp other
      split
      · rename_i vdpci
        have fits := vendorHeaderMatches_fits env payload s built (whole vdpci)
        have refused : (vendorHeaderMatches env payload s).result ≠ .ok true →
            FilterExact s.host s.config s messageType srcEid msgTag tagOwner payload
              (handedSince s (s.emit (.inspected (vendorHeaderMatches env payload s).offsets))) := by
          intro refused
          refine filterExact_refused _ _ _ _ ?_ fun asked => refused (fits.mpr (asked.2.2 vdpci))
          have grown : (s.emit (.inspected (vendorHeaderMatches env payload s).offsets)).trace =
              s.trace ++ [.inspected (vendorHeaderMatches env payload s).offsets] := rfl
          rw [handedSince_append grown]
          rfl
        dsimp only
        split
        · rename_i failed
          exact refused (by simp [failed])
        · rename_i unfit
          exact refused (by simp [unfit])
        · rename_i accepted
          refine filterExact_accepted _ _ _ _ ?_ ⟨listens, wanted, fun _ => fits.mp accepted⟩
          obtain ⟨effects, _, grown⟩ := deliver_trace env sender srcEid msgTag tagOwner payload
            (s.emit (.inspected (vendorHeaderMatches env payload s).offsets))
          have once := deliver_once env sender srcEid msgTag tagOwner payload
            (s.emit (.inspected (vendorHeaderMatches env payload s).offsets)) listens alone
          rw [handedSince_emit rfl grown]
          exact once
      · rename_i plain
        refine filterExact_accepted _ _ _ _ ?_ ⟨listens, wanted, fun vdpci => absurd vdpci plain⟩
        exact deliver_once env sender srcEid msgTag tagOwner payload s listens alone

end MCTPImpl

/-- setExtendedReceiveCallback refuses beside a plain callback. -/
theorem oneCallback_step {s t : System} {label : Label} (alone : OneCallback s.lib)
    (stepped : s.step label = some t) : OneCallback t.lib := by
  cases label with
  | setExtendedReceiveCallback callback =>
      cases stepped
      dsimp only [MCTPImpl.setExtendedReceiveCallback]
      split
      · exact alone
      · rename_i unset
        exact fun both => unset both.1
  | _ =>
      have kept := congrArg Prod.snd (System.step_installed stepped (by simp))
      have plain := congrArg Prod.fst kept
      have extended := congrArg Prod.snd kept
      change t.lib.receiveCallback = s.lib.receiveCallback at plain
      change t.lib.extReceiveCallback = s.lib.extReceiveCallback at extended
      unfold OneCallback
      rwa [plain, extended]

theorem run_oneCallback {host : Endian} {config : MCTPConfiguration} {networkChangeCb rxCb : Bool}
    {admits : System → Label → Prop} {labels : List Label} {s : System}
    (run : Run System.step admits (.construct host config networkChangeCb rxCb) labels s) :
    OneCallback s.lib := by
  refine run.invariant (fun state => OneCallback state.lib) ?_ ?_
  · simp [OneCallback, System.construct, MCTPImpl.construct]
  · intro state label next alone _ stepped
    exact oneCallback_step alone stepped

/-- Once discovery is done, a message of a matched sender reaches the callback
that is set, once and unmodified, exactly when type and vendor header fit. -/
theorem receive_exact {host : Endian} {config : MCTPConfiguration} {networkChangeCb rxCb : Bool}
    {labels : List Label} {s : System} (built : MCTPConfiguration.Built host config)
    (run : Run System.step Any (.construct host config networkChangeCb rxCb) labels s)
    (done : s.lib.isInitialisationsDone = true) (env : Env) {sender : String}
    (matched : sender ∈ s.lib.matchedBuses) (messageType srcEid msgTag : UInt8) (tagOwner : Bool)
    (payload : ByteArray) (whole : config.type = .vdpci → 5 ≤ payload.length) :
    FilterExact host config s.lib messageType srcEid msgTag tagOwner payload
      (handedSince s.lib (MCTPImpl.onMCTPEvent env
        ⟨sender, .messageReceived messageType srcEid msgTag tagOwner payload⟩ s.lib).2) := by
  have alone := run_oneCallback run
  have settings := System.run_settings run
  have sameHost : s.lib.host = host := congrArg Prod.fst settings
  have sameConfig : s.lib.config = config := congrArg (fun kept => kept.2.1) settings
  subst sameHost sameConfig
  have handled : MCTPImpl.onMCTPEvent env
      ⟨sender, .messageReceived messageType srcEid msgTag tagOwner payload⟩ s.lib =
        MCTPImpl.onMessageReceived env sender messageType srcEid msgTag tagOwner payload s.lib := by
    simp only [MCTPImpl.onMCTPEvent, done, matched, not_true_eq_false, ↓reduceIte, Bool.true_eq_false]
  rw [handled]
  exact MCTPImpl.onMessageReceived_exact env sender srcEid msgTag tagOwner payload messageType alone
    built whole

namespace Slot

/-- A vendor message handed over by the listening library. -/
theorem receive_exact_vendor :
    FilterExact .little vendorConfig listening.lib 0x7E 8 0 true [0x7E, 0x80, 0x86, 0x80, 0x01]
      (handedSince listening.lib (MCTPImpl.onMCTPEvent env
        ⟨owner, .messageReceived 0x7E 8 0 true [0x7E, 0x80, 0x86, 0x80, 0x01]⟩ listening.lib).2) := by
  have done : exec System.step (.construct .little vendorConfig true true) discovery =
      some listening := by
    simp only [listening, Option.some_get]
  have made : MCTPConfiguration.ofVendorMessage .little .vdpci .mctpOverSmBus 0x8086 0x8000 0x8000 =
      some vendorConfig := rfl
  exact receive_exact (.vendorMessage made) (.of_exec done) rfl env (by decide) 0x7E 8 0 true
    [0x7E, 0x80, 0x86, 0x80, 0x01] (by decide)

example : handedSince listening.lib (MCTPImpl.onMCTPEvent env
    ⟨owner, .messageReceived 0x7E 8 0 true [0x7E, 0x80, 0x86, 0x80, 0x01]⟩ listening.lib).2 =
      [.received 8 true 0 [0x7E, 0x80, 0x86, 0x80, 0x01]] := by
  decide

/-- Discovery has matched one service and waits for the owner of another. -/
def halfway : System :=
  (exec System.step (.construct .little config true true)
    [.detect, .resume 0 env (.object (.ok [service, "xyz.openbmc_project.mctp_other"])),
      .resume 0 env (.nameOwner (.ok owner))]).get (by decide)

/-- A matched sender's message is dropped while discovery goes on. -/
theorem receive_dropped :
    (∃ labels, Run System.step Any (.construct .little config true true) labels halfway) ∧
      MCTPConfiguration.Built .little config ∧ owner ∈ halfway.lib.matchedBuses ∧
      halfway.lib.mctpChangesWatch = true ∧
      ¬ FilterExact .little config halfway.lib 0x01 8 0 true [0x01]
        (handedSince halfway.lib (MCTPImpl.onMCTPEvent env
          ⟨owner, .messageReceived 0x01 8 0 true [0x01]⟩ halfway.lib).2) := by
  have done : exec System.step (.construct .little config true true)
      [.detect, .resume 0 env (.object (.ok [service, "xyz.openbmc_project.mctp_other"])),
        .resume 0 env (.nameOwner (.ok owner))] = some halfway := by
    simp only [halfway, Option.some_get]
  refine ⟨⟨_, .of_exec done⟩, .type .pldm .mctpOverSmBus, by decide, rfl, ?_⟩
  intro exactly
  have nothing : handedSince halfway.lib (MCTPImpl.onMCTPEvent env
      ⟨owner, .messageReceived 0x01 8 0 true [0x01]⟩ halfway.lib).2 = [] := rfl
  refine exactly.1.mpr ⟨.inl rfl, rfl, ?_⟩ nothing
  intro vdpci
  cases vdpci

end Slot

end Mctpw
