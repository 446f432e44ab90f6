import Mctpw.Responder

set_option autoImplicit false

/- detectMctpEndpoints as a coroutine. Between two suspensions it runs alone;
each constructor of Scan is one yield_method_call it can be waiting at. -/
namespace Mctpw

open ByteOrder Strings

abbrev Bus := UInt32 × String

inductive Scan
  | getObject
  | getNameOwner (buses : List Bus) (service : String) (rest : List String)
  | getManagedObjects (eids : EndpointMapExtended) (bus : Bus) (rest : List Bus)

inductive Reply
  | object (services : Except ErrorCode (List String))
  | nameOwner (uniqueName : Except ErrorCode String)
  | managedObjects (values : Except ErrorCode (DictType Interfaces))

/-- How a coroutine leaves the processor. -/
inductive Progress
  | suspended (scan : Scan)
  | returned (ec : ErrorCode)
  | raised (fault : Fault)

/-- std::get<bool>. -/
def MctpPropertiesVariantType.getBool : MctpPropertiesVariantType → Except Fault Bool
  | .bool value => .ok value
  | _ => .error .badVariantAccess

/-- The property of the configured type in a SupportedMessageTypes dictionary. -/
def supportsType (type : MessageType) (properties : Properties) : Except Fault Bool :=
  match properties.lookup (msgTypeToPropertyName type) with
  | none => .error .outOfRange
  | some value => value.getBool

/-- The effects of ending a scan. -/
def Effect.Finishing (config : MCTPConfiguration) (effect : Effect) : Prop :=
  effect.Registration config ∨ effect.OwnReport

namespace MCTPImpl

def vendorIdProperty (service objectPath : String) : Property :=
  ⟨service, objectPath, vdMsgTypeInterface, "VendorID"⟩

def messageTypeProperty (service objectPath : String) : Property :=
  ⟨service, objectPath, vdMsgTypeInterface, "MessageTypeProperty"⟩

/-- The vendor part of the object filter: `ok false` for a `continue`, an error
for an exception caught by the loop. -/
def vendorMatches (env : Env) (service objectPath : String) (s : MCTPImpl) :
    Except Fault Bool × MCTPImpl :=
  match s.config.vendorId with
  | none => (.ok s.config.vendorMessageType.isNone, s)
  | some vendorId =>
      let read := readPropertyValue env.readString (vendorIdProperty service objectPath) s
      match read.1 with
      | none => (.error .sdBusError, read.2)
      | some vendorIdStr =>
          match stoi 16 vendorIdStr.toList with
          | .error failed => (.error (.conversion failed), read.2)
          | .ok value =>
              if UInt16.ofInt value ≠ be16toh s.host vendorId then (.ok false, read.2)
              else
                match s.config.vendorMessageType with
                | none => (.ok true, read.2)
                | some vendorMessageType =>
                    let types := readPropertyValue env.readUint16s
                      (messageTypeProperty service objectPath) read.2
                    match types.1 with
                    | none => (.error .sdBusError, types.2)
                    | some msgTypes =>
                        (.ok (msgTypes.contains (be16toh s.host vendorMessageType.value)), types.2)

/-- The last piece of the path split at every slash, read as an EID. -/
def splitEID (objectPath : String) : Except ConversionError UInt8 :=
  match (objectPath.toList.splitOn '/').getLast? with
  | none => .error .invalidArgument
  | some last =>
      match stoi 10 last with
      | .error failed => .error failed
      | .ok value => .ok (UInt8.ofInt value)

/-- The body of the object loop: the EID to file, `none` for a skipped object,
whether by `continue` or by an exception caught inside the loop. -/
def acceptObject (env : Env) (service : String) (object : String × Interfaces) (s : MCTPImpl) :
    Option UInt8 × MCTPImpl :=
  match object.2.lookup endpointInterface with
  | none => (none, s)
  | some _ =>
      match object.2.lookup supportedMessageTypes with
      | none => (none, s)
      | some msgIf =>
          match supportsType s.config.type msgIf with
          | .error _ => (none, s)
          | .ok false => (none, s)
          | .ok true =>
              let vendor :=
                if s.config.type = .vdpci then vendorMatches env service object.1 s
                else (.ok true, s)
              match vendor.1 with
              | .error _ => (none, vendor.2)
              | .ok false => (none, vendor.2)
              | .ok true =>
                  match splitEID object.1 with
                  | .error _ => (none, vendor.2)
                  | .ok eid => (some eid, vendor.2)

/-- The loop over the objects of one service. -/
def scanObjects (env : Env) (bus : Bus) (nwid : UInt8) :
    DictType Interfaces → EndpointMapExtended → MCTPImpl → EndpointMapExtended × MCTPImpl
  | [], eids, s => (eids, s)
  | object :: rest, eids, s =>
      let accepted := acceptObject env bus.2 object s
      match accepted.1 with
      | none => scanObjects env bus nwid rest eids accepted.2
      | some eid =>
          let device := DeviceID.make eid nwid
          scanObjects env bus nwid rest (eids.assign device bus)
            (accepted.2.emit (.identified bus.2 eid device))

/-- What one service's managed objects add to the map under construction. -/
def scanService (env : Env) (bus : Bus) (values : DictType Interfaces)
    (eids : EndpointMapExtended) (s : MCTPImpl) : EndpointMapExtended × MCTPImpl :=
  let network := getNetworkID env bus.2 s
  scanObjects env bus network.1 values eids network.2

/-- detectMctpEndpoints after buildMatchingEndpointMap. -/
def finishDetect (env : Env) (s : MCTPImpl) : Progress × MCTPImpl :=
  let registered :=
    if s.responderVersions.isEmpty then (.ok .success, s)
    else registerResponder env s.responderVersions s
  match registered.1 with
  | .error fault => (.raised fault, registered.2)
  | .ok _ => (.returned .success, getOwnEIDs env registered.2.eidChangeCallback registered.2)

/-- buildMatchingEndpointMap from the next service on, and the assignment of its
result. The member map is replaced as a whole. -/
def buildMatchingEndpointMap (env : Env) (eids : EndpointMapExtended) (buses : List Bus)
    (s : MCTPImpl) : Progress × MCTPImpl :=
  match buses with
  | [] => finishDetect env { s with endpointMap := eids }
  | bus :: rest =>
      (.suspended (.getManagedObjects eids bus rest), s.emit (.call (getManagedObjects bus.2)))

/-- The service loop of findBusByBindingType. Events are let in when it is done. -/
def findBuses (env : Env) (buses : List Bus) (services : List String) (s : MCTPImpl) :
    Progress × MCTPImpl :=
  match services with
  | [] => buildMatchingEndpointMap env ∅ buses { s with isInitialisationsDone := true }
  | service :: rest =>
      let read := getBusId env service s
      match read.1 with
      | .error _ => findBuses env buses rest read.2
      | .ok bus =>
          (.suspended (.getNameOwner (buses ++ [(UInt32.ofInt bus, service)]) service rest),
            read.2.emit (.call (getNameOwner service)))

/-- detectMctpEndpoints up to its first suspension. -/
def detectMctpEndpoints (s : MCTPImpl) : Scan × MCTPImpl :=
  (.getObject, { s with mctpChangesWatch := true }.emit
    (.call (getObject (bindingToInterface s.config.bindingType))))

/-- A coroutine taken up again with the reply it waited for. -/
def resume (env : Env) (scan : Scan) (reply : Reply) (s : MCTPImpl) :
    Option (Progress × MCTPImpl) :=
  match scan, reply with
  | .getObject, .object (.error _) =>
      some (finishDetect env { s with isInitialisationsDone := true })
  | .getObject, .object (.ok services) => some (findBuses env [] services s)
  | .getNameOwner buses service rest, .nameOwner (.error _) =>
      some (findBuses env buses rest (s.matchService service))
  | .getNameOwner buses _ rest, .nameOwner (.ok uniqueName) =>
      some (findBuses env buses rest (s.matchService uniqueName))
  | .getManagedObjects eids _ rest, .managedObjects (.error _) =>
      some (buildMatchingEndpointMap env eids rest s)
  | .getManagedObjects eids bus rest, .managedObjects (.ok values) =>
      let scanned := scanService env bus values eids s
      some (buildMatchingEndpointMap env scanned.1 rest scanned.2)
  | _, _ => none

theorem vendorMatches_reports (env : Env) (service objectPath : String) (s : MCTPImpl) :
    Reports Effect.Read s (vendorMatches env service objectPath s).2 := by
  have id := readPropertyValue_reports env.readString (vendorIdProperty service objectPath) s
    (Effect.Read.get _)
  have types := id.trans (readPropertyValue_reports env.readUint16s
    (messageTypeProperty service objectPath) _ (Effect.Read.get _))
  unfold vendorMatches
  dsimp only
  split
  · exact .refl s
  · split
    · exact id
    · split
      · exact id
      · split
        · exact id
        · split
          · exact id
          · split <;> exact types

theorem acceptObject_reports (env : Env) (service : String) (object : String × Interfaces)
    (s : MCTPImpl) : Reports Effect.Read s (acceptObject env service object s).2 := by
  have vendor : Reports Effect.Read s
      (if s.config.type = .vdpci then vendorMatches env service object.1 s else (.ok true, s)).2 := by
    split
    · exact vendorMatches_reports env service object.1 s
    · exact .refl s
  unfold acceptObject
  dsimp only
  split
  · exact .refl s
  · split
    · exact .refl s
    · split
      · exact .refl s
      · exact .refl s
      · split
        · exact vendor
        · exact vendor
        · split <;> exact vendor

theorem scanObjects_reports (env : Env) (bus : Bus) (nwid : UInt8) (values : DictType Interfaces)
    (eids : EndpointMapExtended) (s : MCTPImpl) :
    Reports Effect.Lookup s (scanObjects env bus nwid values eids s).2 := by
  induction values generalizing eids s with
  | nil => exact .refl s
  | cons object rest ih =>
      have accepted := (acceptObject_reports env bus.2 object s).mono fun _ => Effect.Lookup.read
      unfold scanObjects
      dsimp only
      split
      · exact accepted.trans (ih _ _)
      · exact (accepted.trans (.emit _ (.identified _ _ _))).trans (ih _ _)

/-- What is filed after the loop was filed before, or is one of its objects. -/
theorem scanObjects_find {env : Env} {bus : Bus} {nwid : UInt8} {values : DictType Interfaces}
    {eids : EndpointMapExtended} {s : MCTPImpl} {device : DeviceID} {entry : Bus}
    (found : (scanObjects env bus nwid values eids s).1.find device = some entry) :
    eids.find device = some entry ∨ (entry = bus ∧
      ∃ eid, .identified bus.2 eid device ∈ (scanObjects env bus nwid values eids s).2.trace) := by
  induction values generalizing eids s with
  | nil => exact .inl found
  | cons object rest ih =>
      unfold scanObjects at found ⊢
      dsimp only at found ⊢
      split at found
      · exact ih found
      · rename_i eid accepted
        rcases ih found with before | later
        · rw [UnorderedMap.find_assign] at before
          split at before
          · rename_i same
            cases before
            obtain ⟨effects, _, grown⟩ := scanObjects_reports env bus nwid rest
              (eids.assign (DeviceID.make eid nwid) bus)
              ((acceptObject env bus.2 object s).2.emit
                (.identified bus.2 eid (DeviceID.make eid nwid)))
            refine .inr ⟨rfl, eid, ?_⟩
            rw [grown, same]
            simp [emit]
          · exact .inl before
        · exact .inr later

theorem scanService_emits (env : Env) (bus : Bus) (values : DictType Interfaces)
    (eids : EndpointMapExtended) (s : MCTPImpl) :
    Emits Effect.Lookup s (scanService env bus values eids s).2 :=
  ((getNetworkID_emits env bus.2 s).mono fun _ => Effect.Lookup.read).trans
    (scanObjects_reports env bus _ values eids _).emits

theorem finishDetect_reports (env : Env) (s : MCTPImpl) :
    Reports (Effect.Finishing s.config) s (finishDetect env s).2 := by
  have registered : Reports (Effect.Registration s.config) s
      (if s.responderVersions.isEmpty then (.ok .success, s)
        else registerResponder env s.responderVersions s).2 := by
    split
    · exact .refl s
    · rename_i versions
      rw [registerResponder, if_neg versions]
      exact registerServices_reports env _ _ s
  unfold finishDetect
  dsimp only
  generalize (if s.responderVersions.isEmpty then (.ok .success, s)
    else registerResponder env s.responderVersions s) = outcome at registered ⊢
  have registered' : Reports (Effect.Finishing s.config) s outcome.2 :=
    registered.mono fun _ => Or.inl
  split
  · exact registered'
  · unfold getOwnEIDs
    split
    · exact registered'
    · rename_i callback kept
      rw [← kept]
      exact registered'.trans ((triggerAll_reports env _ outcome.2).mono fun _ => Or.inr)

theorem finishDetect_not_suspended (env : Env) (s : MCTPImpl) (scan : Scan) :
    (finishDetect env s).1 ≠ .suspended scan := by
  unfold finishDetect
  dsimp only
  split <;> simp

/-- The service loop only reads bus ids until it asks for an owner, or is done. -/
theorem findBuses_cases (env : Env) (buses : List Bus) (services : List String) (s : MCTPImpl) :
    ∃ busId read, Reports Effect.Read { s with i3cBusId := busId } read ∧
      (findBuses env buses services s =
          buildMatchingEndpointMap env ∅ buses { read with isInitialisationsDone := true } ∨
        ∃ id service rest, findBuses env buses services s =
          (.suspended (.getNameOwner (buses ++ [(id, service)]) service rest),
            read.emit (.call (getNameOwner service)))) := by
  induction services generalizing s with
  | nil => exact ⟨s.i3cBusId, s, .refl s, .inl rfl⟩
  | cons service rest ih =>
      obtain ⟨busId, reads⟩ := getBusId_reports env service s
      unfold findBuses
      dsimp only
      split
      · obtain ⟨busId', read, reads', outcome⟩ := ih (getBusId env service s).2
        obtain ⟨effects, fine, same⟩ := reads
        rw [same] at reads'
        have before : Reports Effect.Read { s with i3cBusId := busId' }
            { s with i3cBusId := busId', trace := s.trace ++ effects } := ⟨effects, fine, rfl⟩
        exact ⟨busId', read, before.trans reads', outcome⟩
      · exact ⟨busId, _, reads, .inr ⟨_, service, rest, rfl⟩⟩

/-- What a scan leaves alone but for the services it matches: anything the
history, the lookups, the map and the gate do not bear on. -/
structure Unscanned {α : Type} (field : MCTPImpl → α) : Prop where
  emitted : ∀ {allowed : Effect → Prop} {s t : MCTPImpl}, Emits allowed s t → field t = field s
  filed : ∀ s eids, field { s with endpointMap := eids } = field s
  opened : ∀ s, field { s with isInitialisationsDone := true } = field s

variable {α : Type} {field : MCTPImpl → α}

theorem buildMatchingEndpointMap_keeps (keeps : Unscanned field) (env : Env)
    (eids : EndpointMapExtended) (buses : List Bus) (s : MCTPImpl) :
    field (buildMatchingEndpointMap env eids buses s).2 = field s := by
  unfold buildMatchingEndpointMap
  split
  · rw [keeps.emitted (finishDetect_reports env _).emits, keeps.filed]
  · exact keeps.emitted (Reports.call s _).emits

theorem findBuses_keeps (keeps : Unscanned field) (env : Env) (buses : List Bus)
    (services : List String) (s : MCTPImpl) :
    field (findBuses env buses services s).2 = field s := by
  obtain ⟨_, read, reads, outcome⟩ := findBuses_cases env buses services s
  have kept := keeps.emitted reads.emits_of_busId
  rcases outcome with built | ⟨_, service, _, asked⟩
  · rw [built, buildMatchingEndpointMap_keeps keeps, keeps.opened, kept]
  · rw [asked, ← kept]
    exact keeps.emitted (Reports.call read _).emits

theorem unscanned_spawned : Unscanned MCTPImpl.spawned := by
  refine ⟨?_, fun _ _ => rfl, fun _ => rfl⟩
  rintro _ _ _ ⟨_, _, _, _, rfl⟩
  rfl

theorem unscanned_matchedBuses : Unscanned MCTPImpl.matchedBuses := by
  refine ⟨?_, fun _ _ => rfl, fun _ => rfl⟩
  rintro _ _ _ ⟨_, _, _, _, rfl⟩
  rfl

theorem unscanned_installed : Unscanned installed := by
  refine ⟨?_, fun _ _ => rfl, fun _ => rfl⟩
  rintro _ _ _ ⟨_, _, _, _, rfl⟩
  rfl

theorem unscanned_settings : Unscanned settings :=
  ⟨fun emits => congrArg Prod.fst (unscanned_installed.emitted emits), fun _ _ => rfl, fun _ => rfl⟩

theorem unscanned_watch : Unscanned MCTPImpl.mctpChangesWatch := by
  refine ⟨?_, fun _ _ => rfl, fun _ => rfl⟩
  rintro _ _ _ ⟨_, _, _, _, rfl⟩
  rfl

/-- The name a reply brings into matchedBuses. -/
def matchedBy : Scan → Reply → Option String
  | .getNameOwner _ service _, .nameOwner (.error _) => some service
  | .getNameOwner _ _ _, .nameOwner (.ok uniqueName) => some uniqueName
  | _, _ => none

/-- What taking up a coroutine comes to, for each call it can have waited at. -/
inductive Resumes (env : Env) (s : MCTPImpl) : Scan → Reply → Progress × MCTPImpl → Prop
  | unlisted (failed : ErrorCode) : Resumes env s .getObject (.object (.error failed))
      (finishDetect env { s with isInitialisationsDone := true })
  | listed (services : List String) : Resumes env s .getObject (.object (.ok services))
      (findBuses env [] services s)
  | owned (buses : List Bus) (service : String) (rest : List String) (reply : Reply)
      (name : String) : matchedBy (.getNameOwner buses service rest) reply = some name →
      Resumes env s (.getNameOwner buses service rest) reply
        (findBuses env buses rest (s.matchService name))
  | skipped (eids : EndpointMapExtended) (bus : Bus) (rest : List Bus) (failed : ErrorCode) :
      Resumes env s (.getManagedObjects eids bus rest) (.managedObjects (.error failed))
        (buildMatchingEndpointMap env eids rest s)
  | scanned (eids : EndpointMapExtended) (bus : Bus) (rest : List Bus)
      (values : DictType Interfaces) :
      Resumes env s (.getManagedObjects eids bus rest) (.managedObjects (.ok values))
        (buildMatchingEndpointMap env (scanService env bus values eids s).1 rest
          (scanService env bus values eids s).2)

theorem resume_resumes {env : Env} {scan : Scan} {reply : Reply} {s : MCTPImpl}
    {outcome : Progress × MCTPImpl} (resumed : resume env scan reply s = some outcome) :
    Resumes env s scan reply outcome := by
  unfold resume at resumed
  split at resumed
  · cases resumed
    exact .unlisted _
  · cases resumed
    exact .listed _
  · cases resumed
    exact .owned _ _ _ _ _ rfl
  · cases resumed
    exact .owned _ _ _ _ _ rfl
  · cases resumed
    exact .skipped _ _ _ _
  · cases resumed
    exact .scanned _ _ _ _
  · cases resumed

/-- A field the scan does not touch, up to the matching of a service. -/
theorem Resumes.keeps (keeps : Unscanned field) {env : Env} {scan : Scan} {reply : Reply}
    {s : MCTPImpl} {outcome : Progress × MCTPImpl} (resumes : Resumes env s scan reply outcome) :
    field outcome.2 = field (match matchedBy scan reply with
      | some name => s.matchService name
      | none => s) := by
  cases resumes with
  | unlisted failed => exact (keeps.emitted (finishDetect_reports env _).emits).trans (keeps.opened s)
  | listed services => exact findBuses_keeps keeps env _ _ s
  | owned buses service rest reply name matched =>
      rw [matched]
      exact findBuses_keeps keeps env _ _ _
  | skipped eids bus rest failed => exact buildMatchingEndpointMap_keeps keeps env _ _ s
  | scanned eids bus rest values =>
      rw [buildMatchingEndpointMap_keeps keeps, keeps.emitted (scanService_emits env _ _ _ s)]
      rfl

theorem resume_keeps (keeps : Unscanned field) {env : Env} {scan : Scan} {reply : Reply}
    {s t : MCTPImpl} {progress : Progress} (resumed : resume env scan reply s = some (progress, t)) :
    field t = field (match matchedBy scan reply with
      | some name => s.matchService name
      | none => s) :=
  (resume_resumes resumed).keeps keeps

theorem resume_spawned {env : Env} {scan : Scan} {reply : Reply} {s t : MCTPImpl}
    {progress : Progress} (resumed : resume env scan reply s = some (progress, t)) :
    t.spawned = s.spawned := by
  rw [resume_keeps unscanned_spawned resumed]
  split
  · exact matchService_spawned _ _
  · rfl

theorem resume_watch {env : Env} {scan : Scan} {reply : Reply} {s t : MCTPImpl}
    {progress : Progress} (resumed : resume env scan reply s = some (progress, t)) :
    t.mctpChangesWatch = s.mctpChangesWatch := by
  rw [resume_keeps unscanned_watch resumed]
  split
  · exact matchService_keeps MCTPImpl.mctpChangesWatch _ _ fun _ _ => rfl
  · rfl

theorem resume_matchedBuses {env : Env} {scan : Scan} {reply : Reply} {s t : MCTPImpl}
    {progress : Progress} (resumed : resume env scan reply s = some (progress, t)) :
    t.matchedBuses = match matchedBy scan reply with
      | some name => insert name s.matchedBuses
      | none => s.matchedBuses := by
  rw [resume_keeps unscanned_matchedBuses resumed]
  split
  · exact matchService_matchedBuses s _
  · rfl

theorem resume_installed {env : Env} {scan : Scan} {reply : Reply} {s t : MCTPImpl}
    {progress : Progress} (resumed : resume env scan reply s = some (progress, t)) :
    t.installed = s.installed := by
  rw [resume_keeps unscanned_installed resumed]
  split
  · exact matchService_keeps installed _ _ fun _ _ => rfl
  · rfl

/-- A coroutine that returns has gone through the end of detectMctpEndpoints. -/
theorem buildMatchingEndpointMap_returned {env : Env} {eids : EndpointMapExtended}
    {buses : List Bus} {ec : ErrorCode} {s t : MCTPImpl}
    (ended : buildMatchingEndpointMap env eids buses s = (.returned ec, t)) :
    ∃ base, base.settings = s.settings ∧ finishDetect env base = (.returned ec, t) := by
  unfold buildMatchingEndpointMap at ended
  split at ended
  · exact ⟨{ s with endpointMap := eids }, rfl, ended⟩
  · cases ended

theorem findBuses_returned {env : Env} {buses : List Bus} {services : List String} {ec : ErrorCode}
    {s t : MCTPImpl} (ended : findBuses env buses services s = (.returned ec, t)) :
    ∃ base, base.settings = s.settings ∧ finishDetect env base = (.returned ec, t) := by
  obtain ⟨_, read, reads, outcome⟩ := findBuses_cases env buses services s
  have kept : read.settings = s.settings := unscanned_settings.emitted reads.emits_of_busId
  rcases outcome with built | ⟨_, _, _, asked⟩
  · rw [built] at ended
    obtain ⟨base, same, finished⟩ := buildMatchingEndpointMap_returned ended
    exact ⟨base, same.trans kept, finished⟩
  · rw [asked] at ended
    cases ended

theorem resume_returned {env : Env} {scan : Scan} {reply : Reply} {ec : ErrorCode} {s t : MCTPImpl}
    (resumed : resume env scan reply s = some (.returned ec, t)) :
    ∃ base, base.settings = s.settings ∧ finishDetect env base = (.returned ec, t) := by
  obtain ⟨outcome, ended⟩ : ∃ outcome, outcome = (Progress.returned ec, t) := ⟨_, rfl⟩
  rw [← ended] at resumed
  cases resume_resumes resumed with
  | unlisted failed => exact ⟨{ s with isInitialisationsDone := true }, rfl, ended⟩
  | listed services => exact findBuses_returned ended
  | owned buses service rest reply name matched =>
      obtain ⟨base, same, finished⟩ := findBuses_returned ended
      have kept : (s.matchService name).settings = s.settings :=
        matchService_keeps settings s name fun _ _ => rfl
      exact ⟨base, same.trans kept, finished⟩
  | skipped eids bus rest failed => exact buildMatchingEndpointMap_returned ended
  | scanned eids bus rest values =>
      obtain ⟨base, same, finished⟩ := buildMatchingEndpointMap_returned ended
      have kept := unscanned_settings.emitted (scanService_emits env bus values eids s)
      exact ⟨base, same.trans kept, finished⟩

/-- A coroutine that is past finding services has let events in. -/
def Opened (progress : Progress) (s : MCTPImpl) : Prop :=
  match progress with
  | .suspended (.getManagedObjects _ _ _) => s.isInitialisationsDone = true
  | .returned _ => s.isInitialisationsDone = true
  | _ => True

theorem Opened.mono {progress : Progress} {s t : MCTPImpl} (opened : Opened progress s)
    (kept : s.isInitialisationsDone = true → t.isInitialisationsDone = true) :
    Opened progress t := by
  unfold Opened at opened ⊢
  split
  · exact kept opened
  · exact kept opened
  · trivial

/-- Events stay let in, and are when the coroutine is that far. -/
structure Opens (s : MCTPImpl) (outcome : Progress × MCTPImpl) : Prop where
  opened : Opened outcome.1 outcome.2
  kept : s.isInitialisationsDone = true → outcome.2.isInitialisationsDone = true

theorem opens_of_done {s : MCTPImpl} {outcome : Progress × MCTPImpl}
    (done : outcome.2.isInitialisationsDone = true) : Opens s outcome := by
  refine ⟨?_, fun _ => done⟩
  unfold Opened
  split
  · exact done
  · exact done
  · trivial

theorem buildMatchingEndpointMap_done (env : Env) (eids : EndpointMapExtended) (buses : List Bus)
    (s : MCTPImpl) : (buildMatchingEndpointMap env eids buses s).2.isInitialisationsDone =
      s.isInitialisationsDone := by
  unfold buildMatchingEndpointMap
  split
  · obtain ⟨_, _, same⟩ := finishDetect_reports env { s with endpointMap := eids }
    rw [same]
  · rfl

theorem findBuses_opens (env : Env) (buses : List Bus) (services : List String) (s : MCTPImpl) :
    Opens s (findBuses env buses services s) := by
  obtain ⟨_, read, ⟨_, _, same⟩, outcome⟩ := findBuses_cases env buses services s
  rcases outcome with built | ⟨_, _, _, asked⟩
  · rw [built]
    exact opens_of_done (buildMatchingEndpointMap_done env ∅ buses _)
  · rw [asked, same]
    exact ⟨trivial, id⟩

theorem Resumes.opens {env : Env} {scan : Scan} {reply : Reply} {s : MCTPImpl}
    {outcome : Progress × MCTPImpl} (resumes : Resumes env s scan reply outcome)
    (before : Opened (.suspended scan) s) : Opens s outcome := by
  cases resumes with
  | unlisted failed =>
      obtain ⟨_, _, same⟩ := finishDetect_reports env { s with isInitialisationsDone := true }
      exact opens_of_done (by rw [same])
  | listed services => exact findBuses_opens env _ _ s
  | owned buses service rest reply name matched =>
      have kept : (s.matchService name).isInitialisationsDone = s.isInitialisationsDone :=
        matchService_keeps MCTPImpl.isInitialisationsDone s name fun _ _ => rfl
      obtain ⟨opened, still⟩ := findBuses_opens env buses rest (s.matchService name)
      exact ⟨opened, fun done => still (kept.trans done)⟩
  | skipped eids bus rest failed =>
      exact opens_of_done ((buildMatchingEndpointMap_done env _ _ s).trans before)
  | scanned eids bus rest values =>
      obtain ⟨_, _, _, _, same⟩ := scanService_emits env bus values eids s
      have scanned : (scanService env bus values eids s).2.isInitialisationsDone = true := by
        rw [same]
        exact before
      exact opens_of_done ((buildMatchingEndpointMap_done env _ _ _).trans scanned)

/-- A relation that each thing a scan does is in, and all of them one after the other. -/
structure AlongScan (R : MCTPImpl → MCTPImpl → Prop) : Prop where
  trans : ∀ {s t u}, R s t → R t u → R s u
  looked : ∀ {s t}, Emits Effect.Lookup s t → R s t
  asked : ∀ s service, R s (s.emit (.call (getNameOwner service))) ∧
    R s (s.emit (.call (getManagedObjects service)))
  matched : ∀ s service, R s (s.matchService service)
  opened : ∀ s, R s { s with isInitialisationsDone := true }
  filed : ∀ s eids, R s { s with endpointMap := eids }
  finished : ∀ env s, R s (finishDetect env s).2

namespace AlongScan

variable {R : MCTPImpl → MCTPImpl → Prop}

theorem build (along : AlongScan R) (env : Env) (eids : EndpointMapExtended) (buses : List Bus)
    (s : MCTPImpl) : R s (buildMatchingEndpointMap env eids buses s).2 := by
  unfold buildMatchingEndpointMap
  split
  · exact along.trans (along.filed s eids) (along.finished env _)
  · exact (along.asked s _).2

theorem find (along : AlongScan R) (env : Env) (buses : List Bus) (services : List String)
    (s : MCTPImpl) : R s (findBuses env buses services s).2 := by
  obtain ⟨_, read, reads, outcome⟩ := findBuses_cases env buses services s
  have found : R s read := along.looked (reads.emits_of_busId.mono fun _ => .read)
  rcases outcome with built | ⟨_, service, _, asked⟩
  · rw [built]
    exact along.trans (along.trans found (along.opened read)) (along.build env ∅ buses _)
  · rw [asked]
    exact along.trans found (along.asked read service).1

/-- However a coroutine is taken up, what it does until it waits again is in the relation. -/
theorem resume (along : AlongScan R) {env : Env} {scan : Scan} {reply : Reply} {s : MCTPImpl}
    {outcome : Progress × MCTPImpl} (resumed : resume env scan reply s = some outcome) :
    R s outcome.2 := by
  cases resume_resumes resumed with
  | unlisted failed => exact along.trans (along.opened s) (along.finished env _)
  | listed services => exact along.find env [] services s
  | owned buses service rest reply name matched =>
      exact along.trans (along.matched s name) (along.find env buses rest _)
  | skipped eids bus rest failed => exact along.build env eids rest s
  | scanned eids bus rest values =>
      exact along.trans (along.looked (scanService_emits env bus values eids s))
        (along.build env _ rest _)

end AlongScan

end MCTPImpl

end Mctpw
