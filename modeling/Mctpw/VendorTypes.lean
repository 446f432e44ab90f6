import Mctpw.Delivery
import Mctpw.HotPlug

set_option autoImplicit false

/- One vendor message type under its mask, as the scan, the receive filter and
the responder registration take it. -/
namespace Mctpw

open Runs ByteOrder Strings

/-- An endpoint object of a vendor, advertising vendor message types. -/
structure VendorEndpoint (env : Env) (service : String) (object : String × Interfaces)
    (vid : UInt16) (types : List UInt16) : Prop where
  endpoint : (object.2.lookup endpointInterface).isSome
  supported : ∃ properties, object.2.lookup supportedMessageTypes = some properties ∧
    properties.lookup (msgTypeToPropertyName .vdpci) = some (.bool true)
  vendorId : ∃ text value, env.readString (MCTPImpl.vendorIdProperty service object.1) = some text ∧
    stoi 16 text.toList = .ok value ∧ UInt16.ofInt value = vid
  advertised : env.readUint16s (MCTPImpl.messageTypeProperty service object.1) = some types
  path : ∃ value, stoi 10 (afterLast '/' object.1.toList) = .ok value

/-- A message of vendor `vid` and vendor message type `type`, header included. -/
def CarriesType (vid type : UInt16) (payload : ByteArray) : Prop :=
  5 ≤ payload.length ∧ load16 .big (payload.getD 1 0) (payload.getD 2 0) = vid ∧
    load16 .big (payload.getD 3 0) (payload.getD 4 0) = type

/-- The command set registered with a service is the masked type, big-endian. -/
def Registered (s : MCTPImpl) (serviceName : String) (vid mask type : UInt16) : Prop :=
  ∃ call version, s.registerCall serviceName = .ok call ∧
    call.args = [.u16 (htobe16 s.host vid), .u16 (htobe16 s.host (type &&& mask)), .bytes version]

/-- All three ask whether a type equals the configured one under the mask, the
receive filter as far as a callback is there to receive. -/
structure TypesAgree (env : Env) (s : MCTPImpl) (service : String) (object : String × Interfaces)
    (vid vendorMsgType mask : UInt16) (types : List UInt16) : Prop where
  scan : (MCTPImpl.acceptObject env service object s).1.isSome ↔
    ∃ type ∈ types, type &&& mask = vendorMsgType &&& mask
  receive : s.receiveCallback ∨ s.extReceiveCallback →
    ∀ type sender srcEid msgTag tagOwner payload, CarriesType vid type payload →
    (handedSince s (MCTPImpl.onMessageReceived env sender MessageType.vdpci.toByte srcEid msgTag
      tagOwner payload s).2 ≠ [] ↔ type &&& mask = vendorMsgType &&& mask)
  register : ∀ type serviceName,
    Registered s serviceName vid mask type ↔ type &&& mask = vendorMsgType &&& mask

namespace MCTPImpl

variable {env : Env} {s : MCTPImpl} {service : String} {object : String × Interfaces}
  {vid vendorMsgType mask : UInt16} {types : List UInt16}

/-- The scan looks for the configured type itself, whatever the mask. -/
theorem acceptObject_vendor_iff
    (made : MCTPConfiguration.ofVendorMessage s.host .vdpci s.config.bindingType vid vendorMsgType
      mask = some s.config)
    (offers : VendorEndpoint env service object vid types) :
    (acceptObject env service object s).1.isSome ↔ vendorMsgType ∈ types := by
  obtain ⟨_, fields⟩ := MCTPConfiguration.ofVendorMessage_eq_some_iff.mp made
  have type : s.config.type = .vdpci := congrArg MCTPConfiguration.type fields
  have hasId := congrArg MCTPConfiguration.vendorId fields
  have hasMessage := congrArg MCTPConfiguration.vendorMessageType fields
  obtain ⟨value, parsed⟩ := offers.path
  rw [Option.isSome_iff_exists]
  simp only [acceptObject_eq_some_iff]
  constructor
  · rintro ⟨eid, selected⟩
    rcases selected.vendor type with ⟨unset, _⟩ | ⟨vendorId, _, _, listed⟩
    · rw [hasId] at unset
      cases unset
    · obtain ⟨types', read, member⟩ := listed _ hasMessage
      rw [offers.advertised] at read
      cases read
      simpa using member
  · intro member
    refine ⟨UInt8.ofInt value, offers.endpoint, ?_, fun _ => .inr ⟨_, hasId, ?_, ?_⟩, value,
      parsed, rfl⟩
    · rw [type]
      exact offers.supported
    · rw [be16toh_htobe16]
      exact offers.vendorId
    · intro vendor configured
      rw [hasMessage] at configured
      cases configured
      exact ⟨types, offers.advertised, by simpa using member⟩

/-- The receive filter compares under the mask. -/
theorem onMessageReceived_vendor_iff
    (made : MCTPConfiguration.ofVendorMessage s.host .vdpci s.config.bindingType vid vendorMsgType
      mask = some s.config)
    (alone : OneCallback s) (listens : s.receiveCallback ∨ s.extReceiveCallback)
    (sender : String) (srcEid msgTag : UInt8) (tagOwner : Bool) {type : UInt16} {payload : ByteArray}
    (carries : CarriesType vid type payload) :
    handedSince s (onMessageReceived env sender MessageType.vdpci.toByte srcEid msgTag tagOwner
      payload s).2 ≠ [] ↔ type &&& mask = vendorMsgType &&& mask := by
  obtain ⟨_, fields⟩ := MCTPConfiguration.ofVendorMessage_eq_some_iff.mp made
  have isVdpci : s.config.type = .vdpci := congrArg MCTPConfiguration.type fields
  obtain ⟨whole, vendorBytes, typeBytes⟩ := carries
  have delivered := (onMessageReceived_exact env sender srcEid msgTag tagOwner payload
    MessageType.vdpci.toByte alone (.vendorMessage made) fun _ => whole).1
  have fits := vendorHeaderMatches_fits env payload s (.vendorMessage made) whole
  rw [vendorHeaderMatches_iff env payload s (congrArg MCTPConfiguration.vendorId fields)
    (congrArg MCTPConfiguration.vendorMessageType fields) whole, vendorBytes, typeBytes] at fits
  rw [delivered, ← fits]
  simp [listens, isVdpci]

/-- Registration masks the type it sends. -/
theorem registered_iff
    (made : MCTPConfiguration.ofVendorMessage s.host .vdpci s.config.bindingType vid vendorMsgType
      mask = some s.config) (serviceName : String) (type : UInt16) :
    Registered s serviceName vid mask type ↔ type &&& mask = vendorMsgType &&& mask := by
  obtain ⟨_, fields⟩ := MCTPConfiguration.ofVendorMessage_eq_some_iff.mp made
  have isVdpci : s.config.type = .vdpci := congrArg MCTPConfiguration.type fields
  have hasId := congrArg MCTPConfiguration.vendorId fields
  have hasMessage := congrArg MCTPConfiguration.vendorMessageType fields
  dsimp only at hasId hasMessage
  unfold Registered registerCall
  rw [hasId, hasMessage]
  simp only [isVdpci, ↓reduceIte, VendorMessageType.cmdSetType, ← htobe16_and]
  constructor
  · rintro ⟨call, version, same, args⟩
    cases same
    simp only [List.cons.injEq, Argument.u16.injEq, htobe16_inj] at args
    exact args.2.1.symm
  · intro same
    exact ⟨_, _, rfl, by rw [same]⟩

end MCTPImpl

/-- Scan, receive filter and registration agree on a configured vendor message
type exactly when a list that matches it under the mask holds the type itself. -/
theorem vendorTypes_agree_iff {host : Endian} {config : MCTPConfiguration} {binding : BindingType}
    {networkChangeCb rxCb : Bool} {labels : List Label} {s : System} {env : Env} {service : String}
    {object : String × Interfaces} {vid vendorMsgType mask : UInt16} {types : List UInt16}
    (made : MCTPConfiguration.ofVendorMessage host .vdpci binding vid vendorMsgType mask =
      some config)
    (run : Run System.step Any (.construct host config networkChangeCb rxCb) labels s)
    (offers : VendorEndpoint env service object vid types) :
    TypesAgree env s.lib service object vid vendorMsgType mask types ↔
      ((∃ type ∈ types, type &&& mask = vendorMsgType &&& mask) → vendorMsgType ∈ types) := by
  have settings := System.run_settings run
  have sameHost : s.lib.host = host := congrArg Prod.fst settings
  have sameConfig : s.lib.config = config := congrArg (fun kept => kept.2.1) settings
  subst sameHost sameConfig
  have ofBinding : s.lib.config.bindingType = binding :=
    congrArg MCTPConfiguration.bindingType
      (MCTPConfiguration.ofVendorMessage_eq_some_iff.mp made).2
  subst ofBinding
  have scan := MCTPImpl.acceptObject_vendor_iff made offers
  constructor
  · intro agree masked
    exact scan.mp (agree.scan.mpr masked)
  · intro listed
    refine ⟨scan.trans ⟨fun member => ⟨vendorMsgType, member, rfl⟩, listed⟩, ?_, ?_⟩
    · intro listens type sender srcEid msgTag tagOwner payload carries
      exact MCTPImpl.onMessageReceived_vendor_iff made (run_oneCallback run) listens sender srcEid
        msgTag tagOwner carries
    · intro type serviceName
      exact MCTPImpl.registered_iff made serviceName type

namespace Slot

/-- The bus with an endpoint of vendor 0x8086 that advertises these types. -/
def typesEnv (types : List UInt16) : Env :=
  { env with
    readString := fun property => if property.name = "VendorID" then some "0x8086" else none
    readUint16s := fun _ => some types }

theorem typesEnv_offers (types : List UInt16) :
    VendorEndpoint (typesEnv types) service (path, foreignObject) 0x8086 types :=
  ⟨rfl, ⟨_, rfl, rfl⟩, ⟨_, 0x8086, rfl, rfl, rfl⟩, rfl, ⟨8, rfl⟩⟩

/-- Type 0x8001 equals 0x8000 under the mask 0x8000, but the scan passes it by. -/
theorem vendorTypes_differ :
    (∃ labels, Run System.step Any (.construct .little vendorConfig true true) labels listening) ∧
      MCTPConfiguration.ofVendorMessage .little .vdpci .mctpOverSmBus 0x8086 0x8000 0x8000 =
        some vendorConfig ∧
      VendorEndpoint (typesEnv [0x8001]) service (path, foreignObject) 0x8086 [0x8001] ∧
      ¬ TypesAgree (typesEnv [0x8001]) listening.lib service (path, foreignObject) 0x8086 0x8000
        0x8000 [0x8001] := by
  have done : exec System.step (.construct .little vendorConfig true true) discovery =
      some listening := by
    simp only [listening, Option.some_get]
  have made : MCTPConfiguration.ofVendorMessage .little .vdpci .mctpOverSmBus 0x8086 0x8000 0x8000 =
      some vendorConfig := rfl
  refine ⟨⟨_, .of_exec done⟩, made, typesEnv_offers _, ?_⟩
  intro agree
  have accepted := agree.scan.mpr ⟨0x8001, by decide, by decide⟩
  have listed := (MCTPImpl.acceptObject_vendor_iff (s := listening.lib) made (typesEnv_offers _)).mp
    accepted
  revert listed
  decide

theorem vendorTypes_agree_listed :
    TypesAgree (typesEnv [0x8001, 0x8000]) listening.lib service (path, foreignObject) 0x8086 0x8000
      0x8000 [0x8001, 0x8000] := by
  have done : exec System.step (.construct .little vendorConfig true true) discovery =
      some listening := by
    simp only [listening, Option.some_get]
  have made : MCTPConfiguration.ofVendorMessage .little .vdpci .mctpOverSmBus 0x8086 0x8000 0x8000 =
      some vendorConfig := rfl
  exact (vendorTypes_agree_iff made (.of_exec done) (typesEnv_offers _)).mpr
    fun _ => by decide

end Slot

end Mctpw
