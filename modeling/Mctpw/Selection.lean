import Mctpw.HandlerFaults

set_option autoImplicit false

/- What buildMatchingEndpointMap files, and for whom. -/
namespace Mctpw

open ByteOrder Strings

/-- The object reports the vendor id of the configuration in CPU order, and
lists its vendor message type when there is one. -/
def VendorSelected (host : Endian) (config : MCTPConfiguration) (env : Env)
    (service objectPath : String) : Prop :=
  (config.vendorId = none ∧ config.vendorMessageType = none) ∨
    ∃ vendorId, config.vendorId = some vendorId ∧
      (∃ text value, env.readString (MCTPImpl.vendorIdProperty service objectPath) = some text ∧
        stoi 16 text.toList = .ok value ∧ UInt16.ofInt value = be16toh host vendorId) ∧
      ∀ vendor, config.vendorMessageType = some vendor →
        ∃ types, env.readUint16s (MCTPImpl.messageTypeProperty service objectPath) = some types ∧
          be16toh host vendor.value ∈ types

/-- An endpoint object of the configured type, with the EID its path ends in. -/
structure Selected (host : Endian) (config : MCTPConfiguration) (env : Env) (service : String)
    (object : String × Interfaces) (eid : UInt8) : Prop where
  endpoint : (object.2.lookup endpointInterface).isSome
  supported : ∃ properties, object.2.lookup supportedMessageTypes = some properties ∧
    properties.lookup (msgTypeToPropertyName config.type) = some (.bool true)
  vendor : config.type = .vdpci → VendorSelected host config env service object.1
  path : ∃ value, stoi 10 (afterLast '/' object.1.toList) = .ok value ∧ eid = UInt8.ofInt value

/-- A service taken up by the scan: what GetManagedObjects came back with, what
the reads that follow are answered, and the library they are made in. -/
structure Turn where
  bus : Bus
  reply : Except ErrorCode (DictType Interfaces)
  env : Env
  state : MCTPImpl

/-- The service's objects, when they came, include one that gives the DeviceID. -/
def Turn.Gives (turn : Turn) (device : DeviceID) : Prop :=
  ∃ values, turn.reply = .ok values ∧ ∃ object ∈ values, ∃ eid,
    Selected turn.state.host turn.state.config turn.env turn.bus.2 object eid ∧
      device = DeviceID.make eid (MCTPImpl.getNetworkID turn.env turn.bus.2 turn.state).1

namespace MCTPImpl

theorem splitEID_eq_ok_iff {objectPath : String} {eid : UInt8} :
    splitEID objectPath = .ok eid ↔
      ∃ value, stoi 10 (afterLast '/' objectPath.toList) = .ok value ∧ eid = UInt8.ofInt value := by
  unfold splitEID
  rw [splitOn_getLast?]
  dsimp only
  cases stoi 10 (afterLast '/' objectPath.toList) with
  | error failed => simp
  | ok value => simp [eq_comm]

theorem vendorMatches_ok_iff (env : Env) (service objectPath : String) (s : MCTPImpl) :
    (vendorMatches env service objectPath s).1 = .ok true ↔
      VendorSelected s.host s.config env service objectPath := by
  unfold vendorMatches VendorSelected
  cases s.config.vendorId with
  | none => simp
  | some vendorId =>
      simp only [readPropertyValue, Option.some.injEq, reduceCtorEq, false_and, false_or,
        exists_eq_left']
      cases env.readString (vendorIdProperty service objectPath) with
      | none => simp
      | some text =>
          simp only [Option.some.injEq, exists_and_left, exists_eq_left']
          cases stoi 16 text.toList with
          | error failed => simp
          | ok value =>
              simp only [Except.ok.injEq, exists_eq_left']
              by_cases same : UInt16.ofInt value = be16toh s.host vendorId
              · simp only [same, ne_eq, not_true_eq_false, ↓reduceIte, true_and]
                cases s.config.vendorMessageType with
                | none => simp
                | some vendor =>
                    simp only [Option.some.injEq, forall_eq']
                    cases env.readUint16s (messageTypeProperty service objectPath) <;> simp
              · simp [same]

/-- Of the seven ways out of the object loop's body one files the object. -/
theorem acceptObject_eq_some_iff (env : Env) (service : String) (object : String × Interfaces)
    (s : MCTPImpl) (eid : UInt8) :
    (acceptObject env service object s).1 = some eid ↔
      Selected s.host s.config env service object eid := by
  have fields : Selected s.host s.config env service object eid ↔
      (object.2.lookup endpointInterface).isSome ∧
        (∃ properties, object.2.lookup supportedMessageTypes = some properties ∧
          supportsType s.config.type properties = .ok true) ∧
        (s.config.type = .vdpci → (vendorMatches env service object.1 s).1 = .ok true) ∧
        splitEID object.1 = .ok eid := by
    simp only [vendorMatches_ok_iff, supportsType_eq_ok_iff, splitEID_eq_ok_iff]
    constructor
    · intro selected
      exact ⟨selected.endpoint, selected.supported, selected.vendor, selected.path⟩
    · rintro ⟨endpoint, supported, vendor, path⟩
      exact ⟨endpoint, supported, vendor, path⟩
  rw [fields]
  unfold acceptObject
  cases object.2.lookup endpointInterface with
  | none => simp
  | some endpoint =>
      cases object.2.lookup supportedMessageTypes with
      | none => simp
      | some properties =>
          simp only [Option.some.injEq, exists_eq_left', Option.isSome_some, true_and]
          cases supportsType s.config.type properties with
          | error fault => simp
          | ok supported =>
              cases supported with
              | false => simp
              | true =>
                  by_cases vdpci : s.config.type = .vdpci
                  · simp only [vdpci, ↓reduceIte, forall_true_left, true_and]
                    cases (vendorMatches env service object.1 s).1 with
                    | error fault => simp
                    | ok accepted => cases accepted <;> cases splitEID object.1 <;> simp
                  · simp only [vdpci, ↓reduceIte, false_implies, true_and]
                    cases splitEID object.1 <;> simp

/-- Some object of the service gives the DeviceID on its network. -/
def Filed (env : Env) (bus : Bus) (nwid : UInt8) (values : DictType Interfaces) (s : MCTPImpl)
    (device : DeviceID) : Prop :=
  ∃ object ∈ values, ∃ eid,
    Selected s.host s.config env bus.2 object eid ∧ device = DeviceID.make eid nwid

/-- The object loop writes its service over the entries of the DeviceIDs given,
and over no other. -/
theorem scanObjects_find_iff (env : Env) (bus : Bus) (nwid : UInt8)
    (values : DictType Interfaces) (eids : EndpointMapExtended) (s : MCTPImpl) (device : DeviceID) :
    (Filed env bus nwid values s device →
        (scanObjects env bus nwid values eids s).1.find device = some bus) ∧
      (¬ Filed env bus nwid values s device →
        (scanObjects env bus nwid values eids s).1.find device = eids.find device) := by
  induction values generalizing eids s with
  | nil => simp [Filed, scanObjects]
  | cons object rest ih =>
      have accepted := acceptObject_eq_some_iff env bus.2 object s
      obtain ⟨effects, _, same⟩ := acceptObject_reports env bus.2 object s
      have split : ∀ t : MCTPImpl, t.host = s.host → t.config = s.config →
          (Filed env bus nwid (object :: rest) s device ↔
            (∃ eid, (acceptObject env bus.2 object s).1 = some eid ∧
              device = DeviceID.make eid nwid) ∨ Filed env bus nwid rest t device) := by
        intro t host config
        unfold Filed
        simp only [accepted, host, config, List.mem_cons, or_and_right, exists_or, exists_eq_left]
      unfold scanObjects
      dsimp only
      cases taken : (acceptObject env bus.2 object s).1 with
      | none =>
          have later := ih eids (acceptObject env bus.2 object s).2
          rw [split (acceptObject env bus.2 object s).2 (by rw [same]) (by rw [same]), taken]
          simpa using later
      | some eid =>
          have later := ih (eids.assign (DeviceID.make eid nwid) bus)
            ((acceptObject env bus.2 object s).2.emit
              (.identified bus.2 eid (DeviceID.make eid nwid)))
          rw [split ((acceptObject env bus.2 object s).2.emit
            (.identified bus.2 eid (DeviceID.make eid nwid))) (by rw [same]; rfl) (by rw [same]; rfl),
            taken]
          rw [UnorderedMap.find_assign] at later
          simp only [Option.some.injEq, exists_eq_left']
          constructor
          · intro filed
            by_cases again : Filed env bus nwid rest ((acceptObject env bus.2 object s).2.emit
                (.identified bus.2 eid (DeviceID.make eid nwid))) device
            · exact later.1 again
            · rw [later.2 again, if_pos (filed.resolve_right again)]
          · intro neither
            rw [later.2 fun again => neither (.inr again), if_neg fun first => neither (.inl first)]

theorem scanService_find (env : Env) (bus : Bus) (values : DictType Interfaces)
    (eids : EndpointMapExtended) (s : MCTPImpl) (device : DeviceID) :
    (Filed env bus (getNetworkID env bus.2 s).1 values s device →
        (scanService env bus values eids s).1.find device = some bus) ∧
      (¬ Filed env bus (getNetworkID env bus.2 s).1 values s device →
        (scanService env bus values eids s).1.find device = eids.find device) := by
  obtain ⟨_, _, _, _, same⟩ := getNetworkID_emits env bus.2 s
  have scanned := scanObjects_find_iff env bus (getNetworkID env bus.2 s).1 values eids
    (getNetworkID env bus.2 s).2 device
  have kept : Filed env bus (getNetworkID env bus.2 s).1 values (getNetworkID env bus.2 s).2 device ↔
      Filed env bus (getNetworkID env bus.2 s).1 values s device := by
    unfold Filed
    rw [same]
  rwa [kept] at scanned

/-- buildMatchingEndpointMap and what it leads to, taken up once for each turn. -/
def drive : Progress × MCTPImpl → List Turn → Option (Progress × MCTPImpl)
  | outcome, [] => some outcome
  | (.suspended scan, _), turn :: rest =>
      (resume turn.env scan (.managedObjects turn.reply) turn.state).bind fun outcome =>
        drive outcome rest
  | _, _ :: _ => none

end MCTPImpl

/-- What a turn makes of the map under construction. -/
def Turn.file (eids : EndpointMapExtended) (turn : Turn) : EndpointMapExtended :=
  match turn.reply with
  | .error _ => eids
  | .ok values => (MCTPImpl.scanService turn.env turn.bus values eids turn.state).1

theorem Turn.file_gives (eids : EndpointMapExtended) (turn : Turn) (device : DeviceID)
    (gives : turn.Gives device) : (turn.file eids).find device = some turn.bus := by
  obtain ⟨values, came, filed⟩ := gives
  unfold Turn.file
  rw [came]
  exact (MCTPImpl.scanService_find turn.env turn.bus values eids turn.state device).1 filed

theorem Turn.file_other (eids : EndpointMapExtended) (turn : Turn) (device : DeviceID)
    (other : ¬ turn.Gives device) : (turn.file eids).find device = eids.find device := by
  unfold Turn.file
  cases came : turn.reply with
  | error ec => rfl
  | ok values =>
      refine (MCTPImpl.scanService_find turn.env turn.bus values eids turn.state device).2 ?_
      exact fun filed => other ⟨values, came, filed⟩

namespace MCTPImpl

/-- No service stops the loop: it reaches the end of detectMctpEndpoints with
every turn filed. -/
theorem drive_filed (env : Env) (eids : EndpointMapExtended) (turns : List Turn) (s : MCTPImpl) :
    ∃ last base, drive (buildMatchingEndpointMap env eids (turns.map Turn.bus) s) turns =
        some (finishDetect last base) ∧
      base.endpointMap = turns.foldl Turn.file eids := by
  induction turns generalizing env eids s with
  | nil => exact ⟨env, { s with endpointMap := eids }, rfl, rfl⟩
  | cons turn rest ih =>
      obtain ⟨bus, reply, env', state⟩ := turn
      cases reply with
      | error ec => exact ih env' eids state
      | ok values =>
          exact ih env' (scanService env' bus values eids state).1
            (scanService env' bus values eids state).2

/-- Whatever the bus answers, the loop runs to its end, and the map it leaves
binds a DeviceID to a pair exactly when that is the pair of the last service
that gives the DeviceID. -/
theorem buildMatchingEndpointMap_exact (env : Env) (turns : List Turn) (s : MCTPImpl) :
    ∃ progress t, drive (buildMatchingEndpointMap env ∅ (turns.map Turn.bus) s) turns =
        some (progress, t) ∧ (∀ scan, progress ≠ .suspended scan) ∧
      ∀ device bus, t.endpointMap.find device = some bus ↔
        ∃ before turn after, turns = before ++ turn :: after ∧ turn.bus = bus ∧
          turn.Gives device ∧ ∀ later ∈ after, ¬ later.Gives device := by
  obtain ⟨last, base, driven, filed⟩ := drive_filed env ∅ turns s
  obtain ⟨_, _, same⟩ := finishDetect_reports last base
  have kept : (finishDetect last base).2.endpointMap = turns.foldl Turn.file ∅ := by
    rw [same]
    exact filed
  refine ⟨(finishDetect last base).1, (finishDetect last base).2, driven,
    finishDetect_not_suspended last base, ?_⟩
  intro device bus
  rw [kept]
  exact UnorderedMap.find_foldl_iff Turn.file_gives Turn.file_other turns device bus

end MCTPImpl

end Mctpw
