import Mctpw.EndpointSignals
import Mctpw.Selection

set_option autoImplicit false

/- The two ways an endpoint object is accepted: announced by a signal, or met
by a scan. -/
namespace Mctpw

open Runs ByteOrder Strings

/-- A true property of the configured type, and a path that spells an EID. -/
def Advertised (config : MCTPConfiguration) (objectPath : String) (values : Interfaces)
    (eid : UInt8) : Prop :=
  MCTPImpl.pathEID objectPath = some eid ∧
    ∃ properties, values.lookup supportedMessageTypes = some properties ∧
      properties.lookup (msgTypeToPropertyName config.type) = some (.bool true)

/-- The object reports the vendor id of the configuration, and its vendor
message type when there is one. -/
def VendorAgrees (env : Env) (service objectPath : String) (s : MCTPImpl) : Prop :=
  ∀ vendorId, s.config.vendorId = some vendorId →
    (∃ text value, env.readString (MCTPImpl.vendorIdProperty service objectPath) = some text ∧
      stoi 16 text.toList = .ok value ∧ UInt16.ofInt value = be16toh s.host vendorId) ∧
    ∀ vendor, s.config.vendorMessageType = some vendor →
      ∃ types, env.readUint16s (MCTPImpl.messageTypeProperty service objectPath) = some types ∧
        be16toh s.host vendor.value ∈ types

/-- The announcement spawns a body that files the device and reports it. -/
def HotPlugged (env : Env) (sender objectPath : String) (values : Interfaces) (s : MCTPImpl)
    (device : DeviceID) : Prop :=
  (MCTPImpl.onMCTPEvent env ⟨sender, .interfacesAdded objectPath values⟩ s).2.spawned =
      s.spawned ++ [.newEID sender device] ∧
    ∀ t, device ∈ (MCTPImpl.runSpawned (.newEID sender device) t).endpointMap.keySet ∧
      (MCTPImpl.runSpawned (.newEID sender device) t).trace =
        t.trace ++ [.networkChange ⟨.deviceAdded, device.mctpEID, device⟩]

namespace MCTPImpl

/-- Under the endpoint prefix both ways of reading the EID off a path agree. -/
theorem pathEID_eq_some_iff {objectPath : String} {eid : UInt8}
    (under : startsWith objectPath endpointPrefix = true) :
    pathEID objectPath = some eid ↔ splitEID objectPath = .ok eid := by
  obtain ⟨rest, spelled⟩ := startsWith_iff.mp under
  have slash : ∃ slashLoc, findLastOf '/' objectPath.toList = some slashLoc ∧ 2 ≤ slashLoc := by
    rw [spelled, findLastOf_append]
    cases findLastOf '/' rest with
    | some index =>
        refine ⟨_, rfl, ?_⟩
        have long : 2 ≤ endpointPrefix.toList.length := by decide
        omega
    | none => exact ⟨25, by decide, by decide⟩
  obtain ⟨slashLoc, found, far⟩ := slash
  have tail : afterLast '/' objectPath.toList = objectPath.toList.drop (slashLoc + 1) := by
    simp only [afterLast, found]
  unfold pathEID splitEID
  simp only [found, splitOn_getLast?, tail, Nat.not_lt.mpr far, ↓reduceIte]
  cases stoi 10 (objectPath.toList.drop (slashLoc + 1)) <;> simp

theorem vendorMatches_iff (env : Env) (service objectPath : String) (s : MCTPImpl)
    (paired : s.config.vendorMessageType.isSome → s.config.vendorId.isSome) :
    (vendorMatches env service objectPath s).1 = .ok true ↔
      VendorAgrees env service objectPath s := by
  rw [vendorMatches_ok_iff]
  unfold VendorSelected VendorAgrees
  cases hasId : s.config.vendorId with
  | none =>
      have alone : s.config.vendorMessageType = none := by
        rw [← Option.not_isSome_iff_eq_none]
        intro message
        simpa [hasId] using paired message
      simp [alone]
  | some vendorId =>
      simp only [reduceCtorEq, false_and, false_or, Option.some.injEq, exists_eq_left', forall_eq']

/-- What the loop over a service's objects asks of one of them. -/
theorem acceptObject_iff (env : Env) (service objectPath : String) (values : Interfaces)
    (s : MCTPImpl) (eid : UInt8) (under : startsWith objectPath endpointPrefix = true) :
    (acceptObject env service (objectPath, values) s).1 = some eid ↔
      Advertised s.config objectPath values eid ∧ (values.lookup endpointInterface).isSome ∧
        (s.config.type = .vdpci → (vendorMatches env service objectPath s).1 = .ok true) := by
  rw [acceptObject_eq_some_iff, vendorMatches_ok_iff, Advertised, pathEID_eq_some_iff under,
    splitEID_eq_ok_iff]
  constructor
  · rintro ⟨endpoint, supported, vendor, path⟩
    exact ⟨⟨path, supported⟩, endpoint, vendor⟩
  · rintro ⟨⟨path, supported⟩, endpoint, vendor⟩
    exact ⟨endpoint, supported, vendor, path⟩

theorem hotPlugged_iff (env : Env) {sender objectPath : String} (values : Interfaces) {s : MCTPImpl}
    (eid : UInt8) (listening : Listening s) (matched : sender ∈ s.matchedBuses)
    (under : startsWith objectPath endpointPrefix = true) :
    (∃ device, device.mctpEID = eid ∧ HotPlugged env sender objectPath values s device) ↔
      Advertised s.config objectPath values eid := by
  have filed : ∀ device t, device ∈ (runSpawned (.newEID sender device) t).endpointMap.keySet ∧
      (runSpawned (.newEID sender device) t).trace =
        t.trace ++ [.networkChange ⟨.deviceAdded, device.mctpEID, device⟩] := by
    intro device t
    exact ⟨by simp [runSpawned, emit, UnorderedMap.keySet_emplace], rfl⟩
  constructor
  · rintro ⟨device, rfl, spawns, _⟩
    simp only [onMCTPEvent_interfacesAdded listening.done, onNewInterface,
      endpointPath_ne_base under, ↓reduceIte, matched, not_true_eq_false, under] at spawns
    cases held : values.lookup supportedMessageTypes with
    | none => simp [held] at spawns
    | some properties =>
        rw [held] at spawns
        dsimp only at spawns
        have formed := getDeviceIDFromPath_fst env objectPath sender s
        obtain ⟨_, _, _, _, looked⟩ := getDeviceIDFromPath_emits env objectPath sender s
        cases supported : supportsType s.config.type properties with
        | error fault => simp [supported] at spawns
        | ok flag =>
            cases flag with
            | false => simp [supported] at spawns
            | true =>
                rw [supported] at spawns
                dsimp only at spawns
                cases spelled : pathEID objectPath with
                | none =>
                    rw [formed, spelled, looked] at spawns
                    simp at spawns
                | some eid =>
                    rw [formed, spelled, looked] at spawns
                    simp only [onNewEID, listening.callback, ↓reduceIte, List.append_cancel_left_eq,
                      List.cons.injEq, Spawned.newEID.injEq, true_and, and_true] at spawns
                    refine ⟨?_, properties, held, supportsType_eq_ok_iff.mp supported⟩
                    rw [spelled, ← spawns, DeviceID.mctpEID_make]
  · rintro ⟨spelled, properties, held, supported⟩
    have formed := getDeviceIDFromPath_fst env objectPath sender s
    rw [spelled] at formed
    have handled := onMCTPEvent_added listening matched under held
      (supportsType_eq_ok_iff.mpr supported) formed
    exact ⟨_, DeviceID.mctpEID_make _ _, by rw [handled], filed _⟩

theorem scanned_iff (env : Env) (bus : Bus) {objectPath : String} (values : Interfaces)
    {s : MCTPImpl} (eid : UInt8) (built : MCTPConfiguration.Built s.host s.config)
    (under : startsWith objectPath endpointPrefix = true) :
    (∃ device, device.mctpEID = eid ∧
        device ∈ (scanService env bus [(objectPath, values)] ∅ s).1.keySet) ↔
      Advertised s.config objectPath values eid ∧ (values.lookup endpointInterface).isSome ∧
        VendorAgrees env bus.2 objectPath s := by
  obtain ⟨_, _, _, _, looked⟩ := getNetworkID_emits env bus.2 s
  have accepted : ∀ eid, (acceptObject env bus.2 (objectPath, values) (getNetworkID env bus.2 s).2).1 =
      some eid ↔ Advertised s.config objectPath values eid ∧
        (values.lookup endpointInterface).isSome ∧ VendorAgrees env bus.2 objectPath s := by
    intro eid
    have asked := acceptObject_iff env bus.2 objectPath values (getNetworkID env bus.2 s).2 eid under
    have vendor := vendorMatches_iff env bus.2 objectPath (getNetworkID env bus.2 s).2
    rw [looked] at asked vendor ⊢
    rw [asked, vendor built.vendor_of_message]
    constructor
    · rintro ⟨advertised, endpoint, agrees⟩
      refine ⟨advertised, endpoint, ?_⟩
      intro vendorId hasId
      exact agrees (built.vdpci_of_vendor (by simp [hasId])) vendorId hasId
    · rintro ⟨advertised, endpoint, agrees⟩
      exact ⟨advertised, endpoint, fun _ => agrees⟩
  rw [← accepted eid]
  simp only [scanService, scanObjects]
  cases (acceptObject env bus.2 (objectPath, values) (getNetworkID env bus.2 s).2).1 with
  | none => simp [UnorderedMap.keySet_empty]
  | some eid' =>
      simp only [UnorderedMap.keySet_assign, UnorderedMap.keySet_empty, Set.mem_insert_iff,
        Set.mem_empty_iff_false, or_false, exists_eq_right, DeviceID.mctpEID_make, Option.some.injEq]

/-- Both ways accept an object of a built configuration alike exactly when an
advertised one has the Endpoint interface and agrees with the vendor parameters. -/
theorem hotPlug_scan_iff (env : Env) (bus : Bus) {sender objectPath : String} (values : Interfaces)
    {s : MCTPImpl} (built : MCTPConfiguration.Built s.host s.config) (listening : Listening s)
    (matched : sender ∈ s.matchedBuses) (under : startsWith objectPath endpointPrefix = true) :
    (∀ eid,
      (∃ device, device.mctpEID = eid ∧ HotPlugged env sender objectPath values s device) ↔
        ∃ device, device.mctpEID = eid ∧
          device ∈ (scanService env bus [(objectPath, values)] ∅ s).1.keySet) ↔
      ∀ eid, Advertised s.config objectPath values eid →
        (values.lookup endpointInterface).isSome ∧ VendorAgrees env bus.2 objectPath s := by
  simp only [hotPlugged_iff env values _ listening matched under, scanned_iff env bus values _ built under,
    iff_self_and]

end MCTPImpl

namespace Slot

theorem hotPlug_scan_pldm :
    (∃ device : DeviceID, device.mctpEID = 8 ∧ HotPlugged env owner path object ready.lib device) ↔
      ∃ device : DeviceID, device.mctpEID = 8 ∧
        device ∈ (MCTPImpl.scanService env (2, service) [(path, object)] ∅ ready.lib).1.keySet := by
  have built : MCTPConfiguration.Built ready.lib.host ready.lib.config := .type .pldm .mctpOverSmBus
  have matched : owner ∈ ready.lib.matchedBuses := by decide
  refine (MCTPImpl.hotPlug_scan_iff env (2, service) object built ⟨rfl, rfl⟩ matched
    (by decide)).mpr ?_ 8
  intro _ _
  refine ⟨rfl, ?_⟩
  intro vendorId configured
  cases configured

/-- A VDPCI library on the bus it has discovered, where objects name another vendor. -/
def vendorReady : System :=
  (exec System.step (.construct .little vendorConfig true false) discovery).get (by decide)

def foreignEnv : Env :=
  { env with
    readString := fun property => if property.name = "VendorID" then some "0x1234" else none }

def foreignObject : Interfaces :=
  [(endpointInterface, []), (supportedMessageTypes, [("VDPCI", .bool true)])]

theorem hotPlug_foreign :
    vendorReady.Reachable ∧
      MCTPConfiguration.Built vendorReady.lib.host vendorReady.lib.config ∧
      Listening vendorReady.lib ∧ owner ∈ vendorReady.lib.matchedBuses ∧
      startsWith path endpointPrefix = true ∧
      (∃ device, HotPlugged foreignEnv owner path foreignObject vendorReady.lib device) ∧
      ¬ ∃ device, device ∈ (MCTPImpl.scanService foreignEnv (2, service) [(path, foreignObject)] ∅
        vendorReady.lib).1.keySet := by
  have done : exec System.step (.construct .little vendorConfig true false) discovery =
      some vendorReady := by
    simp only [vendorReady, Option.some_get]
  have built : MCTPConfiguration.Built vendorReady.lib.host vendorReady.lib.config := by
    have made : MCTPConfiguration.ofVendorMessage .little .vdpci .mctpOverSmBus 0x8086 0x8000 0x8000 =
        some vendorConfig := rfl
    exact .vendorMessage made
  have matched : owner ∈ vendorReady.lib.matchedBuses := by decide
  have advertised : Advertised vendorReady.lib.config path foreignObject 8 := ⟨rfl, _, rfl, rfl⟩
  obtain ⟨device, _, plugged⟩ := (MCTPImpl.hotPlugged_iff foreignEnv foreignObject 8 ⟨rfl, rfl⟩
    matched (by decide)).mpr advertised
  refine ⟨.of_exec done, built, ⟨rfl, rfl⟩, matched, by decide, ⟨device, plugged⟩, ?_⟩
  have empty : (MCTPImpl.scanService foreignEnv (2, service) [(path, foreignObject)] ∅
      vendorReady.lib).1 = ∅ := rfl
  rw [empty]
  simp

end Slot

end Mctpw
