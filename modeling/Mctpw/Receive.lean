import Mctpw.System

set_option autoImplicit false

/- Which payload bytes a received message has looked at. -/
namespace Mctpw

open Runs ByteOrder

/-- The vendor bytes of a payload that has them. -/
def payloadVendor (host : Endian) (payload : ByteArray) : UInt16 :=
  load16 host (payload.getD 1 0) (payload.getD 2 0)

/-- The payload holds the whole overlaid header, or ends in a vendor id that is
not the configured one, or the configuration has nothing to compare. -/
def HeaderFits (s : MCTPImpl) (payload : ByteArray) : Prop :=
  s.config.type = .vdpci → ∀ vendorId, s.config.vendorId = some vendorId →
    s.config.vendorMessageType.isSome →
      5 ≤ payload.length ∨ (3 ≤ payload.length ∧ payloadVendor s.host payload ≠ vendorId)

/-- Every byte looked at exists. -/
def InBounds (payload : ByteArray) (effects : List Effect) : Prop :=
  ∀ offsets, .inspected offsets ∈ effects → ∀ offset ∈ offsets, offset < payload.length

/-- No callback has been handed the payload. -/
def Undelivered (effects : List Effect) : Prop :=
  (∀ srcEid tagOwner msgTag payload, .received srcEid tagOwner msgTag payload ∉ effects) ∧
    ∀ device tagOwner msgTag payload, .extReceived device tagOwner msgTag payload ∉ effects

namespace MCTPImpl

variable (env : Env) (sender : String) (messageType srcEid msgTag : UInt8) (tagOwner : Bool)
  (payload : ByteArray) (s : MCTPImpl)

/-- What handling one received message does to the outside. -/
def messageEffects : List Effect :=
  (onMessageReceived env sender messageType srcEid msgTag tagOwner payload s).2.trace.drop
    s.trace.length

theorem deliver_trace :
    ∃ deliveries, (∀ effect ∈ deliveries, effect.Delivery) ∧
      (deliver env sender srcEid msgTag tagOwner payload s).trace = s.trace ++ deliveries := by
  obtain ⟨deliveries, cache, busId, fine, same⟩ :=
    deliver_emits env sender srcEid msgTag tagOwner payload s
  exact ⟨deliveries, fine, by rw [same]⟩

theorem inBounds_of_deliveries {deliveries : List Effect}
    (fine : ∀ effect ∈ deliveries, effect.Delivery) : InBounds payload deliveries := by
  intro offsets member
  cases fine _ member with
  | read read => cases read

/-- The filter looks at the header it needs, and only the rest is delivery. -/
theorem messageEffects_vdpci (listens : s.receiveCallback ∨ s.extReceiveCallback)
    (vdpci : s.config.type = .vdpci) :
    ∃ deliveries, (∀ effect ∈ deliveries, effect.Delivery) ∧
      messageEffects env sender s.config.type.toByte srcEid msgTag tagOwner payload s =
        .inspected (vendorHeaderMatches env payload s).offsets :: deliveries ∧
      ((vendorHeaderMatches env payload s).result ≠ .ok true → deliveries = []) := by
  have handled : ¬ (¬ s.receiveCallback = true ∧ ¬ s.extReceiveCallback = true) := by tauto
  unfold messageEffects onMessageReceived
  simp only [handled, ↓reduceIte, ne_eq, not_true_eq_false, vdpci]
  cases accepted : (vendorHeaderMatches env payload s).result with
  | error fault => exact ⟨[], by simp, by simp [emit], by simp⟩
  | ok fits =>
      cases fits with
      | false => exact ⟨[], by simp, by simp [emit], by simp⟩
      | true =>
          obtain ⟨deliveries, fine, same⟩ := deliver_trace env sender srcEid msgTag tagOwner payload
            (s.emit (.inspected (vendorHeaderMatches env payload s).offsets))
          refine ⟨deliveries, fine, ?_, by simp⟩
          simp only [same]
          simp [emit]

theorem byteAt_inside {offset : Nat} (there : offset < payload.length) :
    byteAt env payload offset = some (payload.getD offset 0) := by
  simp [byteAt, there]

/-- A field of the payload is there whatever lies past its end. -/
theorem fieldAt_inside (host : Endian) {offset : Nat} (there : offset + 1 < payload.length) :
    (fieldAt env host payload offset).result =
      .ok (load16 host (payload.getD offset 0) (payload.getD (offset + 1) 0)) := by
  unfold fieldAt
  rw [byteAt_inside env payload (by omega), byteAt_inside env payload there]

/-- Where nothing lies past the payload, a load from there faults. -/
theorem fieldAt_outside {env : Env} (nothing : ∀ offset, env.beyond offset = none) (host : Endian)
    {offset : Nat} (past : payload.length ≤ offset + 1) :
    (fieldAt env host payload offset).result = .error .undefinedBehaviour := by
  have missing : byteAt env payload (offset + 1) = none := by simp [byteAt, nothing, past]
  unfold fieldAt
  dsimp only
  rw [missing]
  cases byteAt env payload offset <;> rfl

variable {env payload s}

theorem vendorHeaderMatches_unset (unset : s.config.vendorId = none ∨ s.config.vendorMessageType = none) :
    vendorHeaderMatches env payload s = .pure false := by
  unfold vendorHeaderMatches
  rcases unset with unset | unset <;> rw [unset]
  cases s.config.vendorId <;> rfl

/-- The filter over a header whose vendor id is all there. -/
theorem vendorHeaderMatches_foreign {vendorId : UInt16} {vendor : VendorMessageType}
    (hasId : s.config.vendorId = some vendorId) (hasMessage : s.config.vendorMessageType = some vendor)
    {found : UInt16} (first : (fieldAt env s.host payload 1).result = .ok found)
    (foreign : found ≠ vendorId) :
    vendorHeaderMatches env payload s = ⟨.ok false, [1, 2]⟩ := by
  unfold vendorHeaderMatches
  simp only [hasId, hasMessage, Loaded.bind, first, foreign, ne_eq, not_false_eq_true, ↓reduceIte]
  rfl

/-- The filter over a header of the configured vendor. -/
theorem vendorHeaderMatches_own {vendorId : UInt16} {vendor : VendorMessageType}
    (hasId : s.config.vendorId = some vendorId) (hasMessage : s.config.vendorMessageType = some vendor)
    (first : (fieldAt env s.host payload 1).result = .ok vendorId) :
    vendorHeaderMatches env payload s =
      ⟨(fieldAt env s.host payload 3).result.map fun intelVendorMessageId =>
        intelVendorMessageId &&& vendor.mask = vendor.value &&& vendor.mask, [1, 2, 3, 4]⟩ := by
  unfold vendorHeaderMatches
  simp only [hasId, hasMessage, Loaded.bind, first, ne_eq, not_true_eq_false, ↓reduceIte]
  cases (fieldAt env s.host payload 3).result <;> rfl

/-- The filter over a header too short for a vendor id, with nothing past it. -/
theorem vendorHeaderMatches_fault {vendorId : UInt16} {vendor : VendorMessageType}
    (hasId : s.config.vendorId = some vendorId) (hasMessage : s.config.vendorMessageType = some vendor)
    {fault : Fault} (first : (fieldAt env s.host payload 1).result = .error fault) :
    vendorHeaderMatches env payload s = ⟨.error fault, [1, 2]⟩ := by
  unfold vendorHeaderMatches
  simp only [hasId, hasMessage, Loaded.bind, first]
  rfl

variable (env payload s)

theorem vendorHeader_inBounds_iff (vdpci : s.config.type = .vdpci) :
    (∀ offset ∈ (vendorHeaderMatches env payload s).offsets, offset < payload.length) ↔
      HeaderFits s payload := by
  unfold HeaderFits
  cases hasId : s.config.vendorId with
  | none => simp [vendorHeaderMatches_unset (.inl hasId), Loaded.pure]
  | some vendorId =>
      cases hasMessage : s.config.vendorMessageType with
      | none => simp [vendorHeaderMatches_unset (.inr hasMessage), Loaded.pure]
      | some vendor =>
          simp only [vdpci, Option.some.injEq, forall_eq', Option.isSome_some, forall_true_left]
          cases first : (fieldAt env s.host payload 1).result with
          | error fault =>
              have short : ¬ 3 ≤ payload.length := by
                intro long
                rw [fieldAt_inside env payload s.host (by omega)] at first
                cases first
              rw [vendorHeaderMatches_fault hasId hasMessage first]
              simp only [List.mem_cons, List.not_mem_nil, or_false, forall_eq_or_imp, forall_eq]
              omega
          | ok found =>
              have vendorBytes : 3 ≤ payload.length → payloadVendor s.host payload = found := by
                intro long
                rw [fieldAt_inside env payload s.host (by omega)] at first
                exact Except.ok.inj first
              by_cases same : found = vendorId
              · rw [vendorHeaderMatches_own hasId hasMessage (same ▸ first)]
                constructor
                · intro inside
                  exact .inl (inside 4 (by simp))
                · rintro (long | ⟨long, foreign⟩) offset member
                  · simp only [List.mem_cons, List.not_mem_nil, or_false] at member
                    omega
                  · exact absurd ((vendorBytes long).trans same) foreign
              · rw [vendorHeaderMatches_foreign hasId hasMessage first same]
                constructor
                · intro inside
                  have second := inside 2 (by simp)
                  exact .inr ⟨second, by rwa [vendorBytes second]⟩
                · intro long offset member
                  simp only [List.mem_cons, List.not_mem_nil, or_false] at member
                  omega

/-- What is looked at inside the payload does not depend on what lies past it. -/
theorem vendorHeader_within (vdpci : s.config.type = .vdpci) (fits : HeaderFits s payload) :
    ∃ accepted : Bool, (5 ≤ payload.length ∨ accepted = false) ∧
      ∀ env, (vendorHeaderMatches env payload s).result = .ok accepted := by
  cases hasId : s.config.vendorId with
  | none =>
      exact ⟨false, .inr rfl, fun env => by rw [vendorHeaderMatches_unset (.inl hasId)]; rfl⟩
  | some vendorId =>
      cases hasMessage : s.config.vendorMessageType with
      | none =>
          exact ⟨false, .inr rfl, fun env => by rw [vendorHeaderMatches_unset (.inr hasMessage)]; rfl⟩
      | some vendor =>
          have long := fits vdpci vendorId hasId (by rw [hasMessage]; rfl)
          have first := fun env => fieldAt_inside env payload s.host (show 1 + 1 < payload.length by omega)
          by_cases own : payloadVendor s.host payload = vendorId
          · have whole : 5 ≤ payload.length := by
              rcases long with whole | ⟨_, foreign⟩
              · exact whole
              · exact absurd own foreign
            refine ⟨load16 s.host (payload.getD 3 0) (payload.getD 4 0) &&& vendor.mask =
              vendor.value &&& vendor.mask, .inl whole, fun env => ?_⟩
            rw [vendorHeaderMatches_own hasId hasMessage ((first env).trans (congrArg _ own)),
              fieldAt_inside env payload s.host (by omega)]
            rfl
          · refine ⟨false, .inr rfl, fun env => ?_⟩
            rw [vendorHeaderMatches_foreign hasId hasMessage (first env) own]

/-- A header that is not all there, yet looked at in bounds only, is refused. -/
theorem vendorHeader_short (vdpci : s.config.type = .vdpci) (short : payload.length < 5)
    (fits : HeaderFits s payload) : (vendorHeaderMatches env payload s).result = .ok false := by
  obtain ⟨accepted, whole | refused, same⟩ := vendorHeader_within payload s vdpci fits
  · omega
  · rw [same, refused]

/-- Where nothing lies past the payload, a filter that comes to its end has stayed inside. -/
theorem vendorHeader_fits_of_ok {env : Env} (nothing : ∀ offset, env.beyond offset = none)
    {accepted : Bool} (ended : (vendorHeaderMatches env payload s).result = .ok accepted) :
    HeaderFits s payload := by
  intro vdpci vendorId hasId hasMessage
  obtain ⟨vendor, hasMessage⟩ := Option.isSome_iff_exists.mp hasMessage
  cases first : (fieldAt env s.host payload 1).result with
  | error fault =>
      rw [vendorHeaderMatches_fault hasId hasMessage first] at ended
      cases ended
  | ok found =>
      have long : 3 ≤ payload.length := by
        by_contra short
        rw [fieldAt_outside payload nothing s.host (by omega)] at first
        cases first
      have vendorBytes : payloadVendor s.host payload = found := by
        rw [fieldAt_inside env payload s.host (by omega)] at first
        exact Except.ok.inj first
      by_cases same : found = vendorId
      · left
        by_contra short
        rw [vendorHeaderMatches_own hasId hasMessage (same ▸ first),
          fieldAt_outside payload nothing s.host (by omega)] at ended
        cases ended
      · exact .inr ⟨long, by rwa [vendorBytes]⟩

/-- On a host of either byte order a whole header is compared with the values the
configuration was built from as its bytes spell it, high byte first. -/
theorem vendorHeaderMatches_iff {vid vendorMsgType vendorMsgTypeMask : UInt16}
    (hasId : s.config.vendorId = some (htobe16 s.host vid))
    (hasMessage : s.config.vendorMessageType =
      some ⟨htobe16 s.host vendorMsgType, htobe16 s.host vendorMsgTypeMask⟩)
    (whole : 5 ≤ payload.length) :
    (vendorHeaderMatches env payload s).result = .ok true ↔
      load16 .big (payload.getD 1 0) (payload.getD 2 0) = vid ∧
        load16 .big (payload.getD 3 0) (payload.getD 4 0) &&& vendorMsgTypeMask =
          vendorMsgType &&& vendorMsgTypeMask := by
  have first := fieldAt_inside env payload s.host (show 1 + 1 < payload.length by omega)
  have second := fieldAt_inside env payload s.host (show 3 + 1 < payload.length by omega)
  rw [load16_eq s.host] at first second
  by_cases same : load16 .big (payload.getD 1 0) (payload.getD 2 0) = vid
  · rw [same] at first
    rw [vendorHeaderMatches_own hasId hasMessage first, second]
    simp only [same, true_and, Except.map, Except.ok.injEq, decide_eq_true_eq, ← htobe16_and,
      htobe16_inj]
  · have foreign : htobe16 s.host (load16 .big (payload.getD 1 0) (payload.getD 2 0)) ≠
        htobe16 s.host vid := by simpa only [ne_eq, htobe16_inj] using same
    rw [vendorHeaderMatches_foreign hasId hasMessage first foreign]
    simp only [same, false_and, Except.ok.injEq, Bool.false_eq_true]

/-- No byte past the end is looked at, and no short VDPCI header delivered,
exactly when the header fits or the message is dropped before it. -/
theorem onMessageReceived_bounded_iff (listens : s.receiveCallback ∨ s.extReceiveCallback) :
    (InBounds payload (messageEffects env sender messageType srcEid msgTag tagOwner payload s) ∧
      (s.config.type = .vdpci → payload.length < 5 →
        Undelivered (messageEffects env sender messageType srcEid msgTag tagOwner payload s))) ↔
      (messageType = s.config.type.toByte → HeaderFits s payload) := by
  by_cases wanted : messageType = s.config.type.toByte
  · subst wanted
    by_cases vdpci : s.config.type = .vdpci
    · obtain ⟨deliveries, fine, same, refused⟩ :=
        messageEffects_vdpci env sender srcEid msgTag tagOwner payload s listens vdpci
      have bounds : InBounds payload
          (.inspected (vendorHeaderMatches env payload s).offsets :: deliveries) ↔
          HeaderFits s payload := by
        rw [← vendorHeader_inBounds_iff env payload s vdpci]
        constructor
        · intro inside
          exact inside _ (by simp)
        · intro inside offsets member
          rcases List.mem_cons.mp member with same | member
          · cases same
            exact inside
          · exact inBounds_of_deliveries payload fine offsets member
      rw [same, bounds]
      simp only [vdpci, forall_true_left, and_iff_left_iff_imp]
      intro fits short
      rw [refused (by simp [vendorHeader_short env payload s vdpci short fits])]
      simp [Undelivered]
    · have handled : ¬ (¬ s.receiveCallback = true ∧ ¬ s.extReceiveCallback = true) := by tauto
      obtain ⟨deliveries, fine, delivered⟩ :=
        deliver_trace env sender srcEid msgTag tagOwner payload s
      have same : messageEffects env sender s.config.type.toByte srcEid msgTag tagOwner payload s =
          deliveries := by
        unfold messageEffects onMessageReceived
        simp only [handled, ↓reduceIte, ne_eq, not_true_eq_false, vdpci, delivered,
          List.drop_left]
      rw [same]
      simp [HeaderFits, vdpci, inBounds_of_deliveries payload fine]
  · have dropped : messageEffects env sender messageType srcEid msgTag tagOwner payload s = [] := by
      unfold messageEffects onMessageReceived
      split <;> simp
    simp [dropped, wanted, InBounds, Undelivered]

end MCTPImpl

namespace Slot

/-- A VDPCI library that listens, on the bus it has discovered. -/
def listening : System :=
  (exec System.step (.construct .little vendorConfig true true) discovery).get (by decide)

theorem emptyPayload_read :
    listening.Reachable ∧ listening.lib.receiveCallback = true ∧
      ¬ InBounds [] (MCTPImpl.messageEffects env owner 0x7E 8 0 true [] listening.lib) := by
  have done : exec System.step (.construct .little vendorConfig true true) discovery =
      some listening := by
    simp only [listening, Option.some_get]
  refine ⟨.of_exec done, rfl, ?_⟩
  intro inside
  have first := inside [1, 2] (by decide) 1 (by decide)
  cases first

/-- A payload of another vendor is refused before its end. -/
theorem onMessageReceived_bounded_foreign :
    InBounds [0x7E, 0x12, 0x34]
      (MCTPImpl.messageEffects env owner 0x7E 8 0 true [0x7E, 0x12, 0x34] listening.lib) := by
  refine ((MCTPImpl.onMessageReceived_bounded_iff env owner 0x7E 8 0 true [0x7E, 0x12, 0x34]
    listening.lib (.inl rfl)).mpr ?_).1
  intro _ _ vendorId configured _
  right
  cases configured
  decide

end Slot

end Mctpw
