import Mctpw.Receive

set_option autoImplicit false

/- Which signals the event handler returns from, without an exception and without
loading what is not there. -/
namespace Mctpw

open Strings

/-- What every lookup in onNewInterface relies on. -/
def AdditionReadable (s : MCTPImpl) (sender objectPath : String) (values : Interfaces) : Prop :=
  if objectPath = basePath then
    (values.lookup (bindingToInterface s.config.bindingType)).isSome →
      s.responderVersions ≠ [] → s.config.VendorSet
  else
    sender ∈ s.matchedBuses → startsWith objectPath endpointPrefix →
      ∀ properties, values.lookup supportedMessageTypes = some properties →
        ∃ supported, properties.lookup (msgTypeToPropertyName s.config.type) = some (.bool supported) ∧
          (supported = true → (MCTPImpl.pathEID objectPath).isSome)

/-- What std::get in onPropertiesChanged relies on. -/
def ChangeReadable (s : MCTPImpl) (intfName : String) (changed : Properties) : Prop :=
  s.eidChangeCallback.isSome → intfName = baseInterface →
    ∀ value, changed.lookup "Eid" = some value → ∃ eid, value = .uint8 eid

/-- What the vendor filter in onMessageReceived relies on. -/
def PayloadReadable (s : MCTPImpl) (messageType : UInt8) (payload : ByteArray) : Prop :=
  s.receiveCallback ∨ s.extReceiveCallback → messageType = s.config.type.toByte →
    HeaderFits s payload

/-- The signal holds everything its handler takes out of it. -/
def Readable (s : MCTPImpl) (msg : Message) : Prop :=
  s.isInitialisationsDone = true →
    match msg.signal with
    | .interfacesAdded objectPath values => AdditionReadable s msg.sender objectPath values
    | .messageReceived messageType _ _ _ payload =>
        msg.sender ∈ s.matchedBuses → PayloadReadable s messageType payload
    | .propertiesChanged intfName changed =>
        msg.sender ∈ s.matchedBuses → ChangeReadable s intfName changed
    | _ => True

/-- No EID in the path, no property of the configured type, or a property of
another variant type than the handler takes. -/
def Malformed (config : MCTPConfiguration) : Signal → Prop
  | .interfacesAdded objectPath values =>
      MCTPImpl.pathEID objectPath = none ∨
        ∃ properties fault, values.lookup supportedMessageTypes = some properties ∧
          supportsType config.type properties = .error fault
  | .interfacesRemoved objectPath _ => MCTPImpl.pathEID objectPath = none
  | .propertiesChanged _ changed =>
      ∃ value, changed.lookup "Eid" = some value ∧ ∀ eid, value ≠ .uint8 eid
  | _ => False

theorem supportsType_eq_ok_iff {type : MessageType} {properties : Properties} {supported : Bool} :
    supportsType type properties = .ok supported ↔
      properties.lookup (msgTypeToPropertyName type) = some (.bool supported) := by
  unfold supportsType
  cases properties.lookup (msgTypeToPropertyName type) with
  | none => simp
  | some value => cases value <;> simp [MctpPropertiesVariantType.getBool]

namespace MCTPImpl

theorem getDeviceIDFromPath_ok_iff (env : Env) (objectPath serviceName : String) (s : MCTPImpl) :
    (∃ device, (getDeviceIDFromPath env objectPath serviceName s).1 = .ok device) ↔
      (pathEID objectPath).isSome := by
  rw [getDeviceIDFromPath_fst]
  cases pathEID objectPath <;> simp

theorem registerCall_ok_iff (s : MCTPImpl) (serviceName : String) :
    (∃ call, s.registerCall serviceName = .ok call) ↔ s.config.VendorSet := by
  constructor
  · rintro ⟨call, made⟩ vdpci
    unfold registerCall at made
    rw [if_pos vdpci] at made
    split at made
    · rename_i hasMessage hasId
      simp [hasMessage, hasId]
    · cases made
  · intro vendor
    obtain ⟨call, made, _⟩ := registerCall_of_vendorSet s vendor serviceName
    exact ⟨call, made⟩

theorem registerResponderService_ok_iff (env : Env) (serviceName : String) (s : MCTPImpl) :
    (∃ ec, (registerResponderService env serviceName s).1 = .ok ec) ↔
      (s.responderVersions ≠ [] → s.config.VendorSet) := by
  unfold registerResponderService
  split
  · rename_i empty
    simp [List.isEmpty_iff.mp empty]
  · rename_i versions
    rw [List.isEmpty_iff] at versions
    simp only [ne_eq, versions, not_false_eq_true, forall_true_left,
      ← registerCall_ok_iff s serviceName]
    split <;> simp_all

theorem onNewService_ok_iff (env : Env) (serviceName : String) (s : MCTPImpl) :
    (onNewService env serviceName s).1 = .ok () ↔
      (s.responderVersions ≠ [] → s.config.VendorSet) := by
  have registered := registerResponderService_ok_iff env serviceName (s.matchService serviceName)
  rw [matchService_responderVersions, matchService_config] at registered
  rw [← registered]
  unfold onNewService
  dsimp only
  split <;> simp_all

theorem onNewInterface_ok_iff (env : Env) (sender objectPath : String) (values : Interfaces)
    (s : MCTPImpl) :
    (onNewInterface env sender objectPath values s).1 = .ok () ↔
      AdditionReadable s sender objectPath values := by
  unfold onNewInterface AdditionReadable
  by_cases base : objectPath = basePath
  · simp only [base, ↓reduceIte]
    cases values.lookup (bindingToInterface s.config.bindingType) with
    | none => simp
    | some properties => simp [onNewService_ok_iff]
  · simp only [base, ↓reduceIte]
    by_cases matched : sender ∈ s.matchedBuses
    · simp only [matched, not_true_eq_false, ↓reduceIte, forall_true_left]
      by_cases under : startsWith objectPath endpointPrefix
      · simp only [under, ↓reduceIte, forall_true_left]
        cases values.lookup supportedMessageTypes with
        | none => simp
        | some properties =>
            simp only [Option.some.injEq, forall_eq', ← supportsType_eq_ok_iff]
            cases supportsType s.config.type properties with
            | error fault => simp
            | ok supported =>
                cases supported with
                | false => simp
                | true =>
                    have formed := getDeviceIDFromPath_ok_iff env objectPath sender s
                    dsimp only
                    split <;> simp_all
      · simp [under]
    · simp [matched]

theorem onPropertiesChanged_ok_iff (sender intfName : String) (changed : Properties)
    (s : MCTPImpl) :
    (onPropertiesChanged sender intfName changed s).1 = .ok () ↔
      ChangeReadable s intfName changed := by
  unfold onPropertiesChanged ChangeReadable
  cases s.eidChangeCallback with
  | none => simp
  | some callback =>
      cases changed.lookup "Eid" with
      | none => simp
      | some value =>
          by_cases base : intfName = baseInterface
          · cases value <;> simp [base]
          · simp [base]

/-- Inside the payload the filter comes to its end, whatever lies past it. -/
theorem onMessageReceived_ok (env : Env) (sender : String) (messageType srcEid msgTag : UInt8)
    (tagOwner : Bool) (payload : ByteArray) (s : MCTPImpl)
    (readable : PayloadReadable s messageType payload) :
    (onMessageReceived env sender messageType srcEid msgTag tagOwner payload s).1 = .ok () := by
  unfold onMessageReceived
  split
  · rfl
  · rename_i listened
    split
    · rfl
    · rename_i other
      split
      · rename_i vdpci
        obtain ⟨accepted, _, ended⟩ := vendorHeader_within payload s vdpci
          (readable (by tauto) (not_not.mp other))
        dsimp only
        rw [ended]
        cases accepted <;> rfl
      · rfl

/-- Where nothing lies past the payload, only then. -/
theorem payloadReadable_of_ok {env : Env} (nothing : ∀ offset, env.beyond offset = none)
    {sender : String} {messageType srcEid msgTag : UInt8} {tagOwner : Bool} {payload : ByteArray}
    {s : MCTPImpl}
    (returned : (onMessageReceived env sender messageType srcEid msgTag tagOwner payload s).1 =
      .ok ()) : PayloadReadable s messageType payload := by
  intro listens wanted vdpci
  have handled : ¬ (¬ s.receiveCallback = true ∧ ¬ s.extReceiveCallback = true) := by tauto
  unfold onMessageReceived at returned
  simp only [handled, ↓reduceIte, ne_eq, wanted, not_true_eq_false, vdpci] at returned
  cases ended : (vendorHeaderMatches env payload s).result with
  | error fault =>
      rw [ended] at returned
      cases returned
  | ok accepted => exact vendorHeader_fits_of_ok payload s nothing ended vdpci

theorem onMCTPEvent_ok (env : Env) (msg : Message) (s : MCTPImpl) (readable : Readable s msg) :
    (onMCTPEvent env msg s).1 = .ok () := by
  unfold onMCTPEvent
  split
  · rfl
  · rename_i closed
    have holds := readable (by simpa using closed)
    obtain ⟨sender, signal⟩ := msg
    cases signal with
    | interfacesAdded objectPath values => exact (onNewInterface_ok_iff env _ _ _ _).mpr holds
    | interfacesRemoved objectPath interfaces =>
        dsimp only
        split <;> rfl
    | messageReceived messageType srcEid msgTag tagOwner payload =>
        dsimp only
        split
        · rfl
        · rename_i matched
          exact onMessageReceived_ok env _ _ _ _ _ _ s (holds (not_not.mp matched))
    | propertiesChanged intfName changed =>
        dsimp only
        split
        · rfl
        · rename_i matched
          exact (onPropertiesChanged_ok_iff _ _ _ s).mpr (holds (not_not.mp matched))
    | other member => rfl

theorem readable_of_ok {env : Env} (nothing : ∀ offset, env.beyond offset = none) {msg : Message}
    {s : MCTPImpl} (returned : (onMCTPEvent env msg s).1 = .ok ()) : Readable s msg := by
  intro done
  unfold onMCTPEvent at returned
  simp only [done, Bool.true_eq_false, ↓reduceIte] at returned
  obtain ⟨sender, signal⟩ := msg
  cases signal with
  | interfacesAdded objectPath values => exact (onNewInterface_ok_iff env _ _ _ _).mp returned
  | interfacesRemoved objectPath interfaces => trivial
  | messageReceived messageType srcEid msgTag tagOwner payload =>
      intro matched
      simp only [matched, not_true_eq_false, ↓reduceIte] at returned
      exact payloadReadable_of_ok nothing returned
  | propertiesChanged intfName changed =>
      intro matched
      simp only [matched, not_true_eq_false, ↓reduceIte] at returned
      exact (onPropertiesChanged_ok_iff _ _ _ s).mp returned
  | other member => trivial

/-- Neither the endpoint map nor the bodies about to change it differ. -/
def SameEndpoints (s t : MCTPImpl) : Prop :=
  t.endpointMap = s.endpointMap ∧ t.spawned = s.spawned

theorem Emits.sameEndpoints {allowed : Effect → Prop} {s t : MCTPImpl} (emits : Emits allowed s t) :
    SameEndpoints s t := by
  obtain ⟨_, _, _, _, rfl⟩ := emits
  exact ⟨rfl, rfl⟩

theorem onNewService_sameEndpoints (env : Env) (serviceName : String) (s : MCTPImpl) :
    SameEndpoints s (onNewService env serviceName s).2 :=
  ⟨onNewService_endpointMap env serviceName s, onNewService_spawned env serviceName s⟩

theorem onNewInterface_malformed (env : Env) (sender objectPath : String) (values : Interfaces)
    (s : MCTPImpl) (malformed : Malformed s.config (.interfacesAdded objectPath values)) :
    SameEndpoints s (onNewInterface env sender objectPath values s).2 := by
  unfold onNewInterface
  split
  · split
    · exact onNewService_sameEndpoints env sender s
    · exact ⟨rfl, rfl⟩
  · split
    · exact ⟨rfl, rfl⟩
    · split
      · split
        · exact ⟨rfl, rfl⟩
        · rename_i properties held
          have looked := (getDeviceIDFromPath_emits env objectPath sender s).sameEndpoints
          split
          · exact ⟨rfl, rfl⟩
          · exact ⟨rfl, rfl⟩
          · rename_i supported
            dsimp only
            split
            · exact looked
            · rename_i device formed
              -- A device was formed, so nothing about the signal was malformed.
              exfalso
              rcases malformed with unparsed | ⟨properties', fault, held', failed⟩
              · rw [getDeviceIDFromPath_fst, unparsed] at formed
                cases formed
              · rw [held] at held'
                cases held'
                rw [supported] at failed
                cases failed
      · exact ⟨rfl, rfl⟩

theorem onInterfaceRemoved_malformed (env : Env) (sender objectPath : String)
    (interfaces : List String) (s : MCTPImpl) (unparsed : pathEID objectPath = none) :
    SameEndpoints s (onInterfaceRemoved env sender objectPath interfaces s) := by
  unfold onInterfaceRemoved
  split
  · split
    · have looked := (getDeviceIDFromPath_emits env objectPath sender s).sameEndpoints
      dsimp only
      split
      · exact looked
      · rename_i device formed
        rw [getDeviceIDFromPath_fst, unparsed] at formed
        cases formed
    · exact ⟨rfl, rfl⟩
  · split
    · split <;> exact ⟨rfl, rfl⟩
    · exact ⟨rfl, rfl⟩

theorem onPropertiesChanged_sameEndpoints (sender intfName : String) (changed : Properties)
    (s : MCTPImpl) : SameEndpoints s (onPropertiesChanged sender intfName changed s).2 := by
  unfold onPropertiesChanged
  split
  · split
    · split <;> exact ⟨rfl, rfl⟩
    · exact ⟨rfl, rfl⟩
  · exact ⟨rfl, rfl⟩

theorem onMCTPEvent_malformed (env : Env) (msg : Message) (s : MCTPImpl)
    (malformed : Malformed s.config msg.signal) : SameEndpoints s (onMCTPEvent env msg s).2 := by
  obtain ⟨sender, signal⟩ := msg
  unfold onMCTPEvent
  split
  · exact ⟨rfl, rfl⟩
  · cases signal with
    | interfacesAdded objectPath values => exact onNewInterface_malformed env _ _ _ _ malformed
    | interfacesRemoved objectPath interfaces =>
        dsimp only
        split
        · exact ⟨rfl, rfl⟩
        · exact onInterfaceRemoved_malformed env _ _ _ _ malformed
    | propertiesChanged intfName changed =>
        dsimp only
        split
        · exact ⟨rfl, rfl⟩
        · exact onPropertiesChanged_sameEndpoints _ _ _ _
    | messageReceived => exact malformed.elim
    | other => exact malformed.elim

/-- Whatever lies past the payload, the handler returns, and leaves the endpoints alone
when the signal is malformed, exactly when the signal holds what the handler takes out
of it. -/
theorem onMCTPEvent_safe_iff (env : Env) (msg : Message) (s : MCTPImpl) :
    (∀ beyond, (onMCTPEvent { env with beyond := beyond } msg s).1 = .ok () ∧
      (Malformed s.config msg.signal →
        SameEndpoints s (onMCTPEvent { env with beyond := beyond } msg s).2)) ↔
      Readable s msg := by
  constructor
  · intro safe
    exact readable_of_ok (fun _ => rfl) (safe fun _ => none).1
  · intro readable beyond
    exact ⟨onMCTPEvent_ok _ msg s readable, onMCTPEvent_malformed _ msg s⟩

end MCTPImpl

namespace Slot

/-- An endpoint that does not say whether it supports PLDM. -/
def untyped : Message := ⟨owner, .interfacesAdded path [(supportedMessageTypes, [])]⟩

theorem untyped_raises :
    ready.Reachable ∧ MCTPConfiguration.Built .little ready.lib.config ∧
      (MCTPImpl.onMCTPEvent env untyped ready.lib).1 = .error .outOfRange :=
  ⟨ready_reachable, .type .pldm .mctpOverSmBus, rfl⟩

/-- So does a vendor message that ends before its header. -/
example : (MCTPImpl.onMCTPEvent env ⟨owner, .messageReceived 0x7E 8 0 true []⟩ listening.lib).1 =
    .error .undefinedBehaviour := by decide

end Slot

end Mctpw
