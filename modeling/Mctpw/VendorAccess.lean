import Mctpw.HandlerFaults
import Mctpw.Registration

set_option autoImplicit false

/- Which of the configuration's vendor optionals each step takes the value out
of, tested for it or not. -/
namespace Mctpw

open Runs ByteOrder Strings

inductive VendorParameter
  | vendorId
  | vendorMessageType
deriving DecidableEq

def MCTPConfiguration.holds (config : MCTPConfiguration) : VendorParameter → Bool
  | .vendorId => config.vendorId.isSome
  | .vendorMessageType => config.vendorMessageType.isSome

/-- No value is taken out of an empty optional. -/
def AllHeld (config : MCTPConfiguration) (accesses : List VendorParameter) : Prop :=
  ∀ parameter ∈ accesses, config.holds parameter = true

namespace MCTPImpl

/-- registerResponder(serviceName): -> on the message type, then * on the id. -/
def registerAccesses (s : MCTPImpl) : List VendorParameter :=
  if s.responderVersions.isEmpty then []
  else if s.config.type = .vdpci then [.vendorMessageType, .vendorId]
  else []

/-- registerResponder(versions). -/
def registerAllAccesses (env : Env) (specVersion : List VersionFields) (s : MCTPImpl) :
    List VendorParameter :=
  if specVersion.isEmpty then []
  else
    (env.order s.matchedBuses).flatMap fun _ =>
      registerAccesses { s with responderVersions := specVersion }

/-- The vendor part of the object filter. Both values are compared in CPU order. -/
def vendorAccesses (env : Env) (service objectPath : String) (s : MCTPImpl) :
    List VendorParameter :=
  if s.config.vendorId.isSome then
    match env.readString (vendorIdProperty service objectPath) with
    | none => []
    | some vendorIdStr =>
        match stoi 16 vendorIdStr.toList with
        | .error _ => []
        | .ok value =>
            if some (UInt16.ofInt value) ≠ s.config.vendorId.map (be16toh s.host) then [.vendorId]
            else if s.config.vendorMessageType.isSome then
              match env.readUint16s (messageTypeProperty service objectPath) with
              | none => [.vendorId]
              | some _ => [.vendorId, .vendorMessageType]
            else [.vendorId]
  else []

/-- The body of the object loop. -/
def objectAccesses (env : Env) (service : String) (s : MCTPImpl) (object : String × Interfaces) :
    List VendorParameter :=
  match object.2.lookup endpointInterface, object.2.lookup supportedMessageTypes with
  | some _, some msgIf =>
      match supportsType s.config.type msgIf with
      | .ok true => if s.config.type = .vdpci then vendorAccesses env service object.1 s else []
      | _ => []
  | _, _ => []

/-- detectMctpEndpoints after buildMatchingEndpointMap. -/
def finishAccesses (env : Env) (s : MCTPImpl) : List VendorParameter :=
  if s.responderVersions.isEmpty then [] else registerAllAccesses env s.responderVersions s

/-- buildMatchingEndpointMap up to its next suspension. -/
def buildAccesses (env : Env) (buses : List Bus) (s : MCTPImpl) : List VendorParameter :=
  match buses with
  | [] => finishAccesses env s
  | _ :: _ => []

/-- findBusByBindingType up to its next suspension, or to that of what follows. -/
def findAccesses (env : Env) (buses : List Bus) (services : List String) (s : MCTPImpl) :
    List VendorParameter :=
  match services with
  | [] => buildAccesses env buses { s with isInitialisationsDone := true }
  | service :: rest =>
      let read := getBusId env service s
      match read.1 with
      | .error _ => findAccesses env buses rest read.2
      | .ok _ => []

def resumeAccesses (env : Env) (scan : Scan) (reply : Reply) (s : MCTPImpl) :
    List VendorParameter :=
  match scan, reply with
  | .getObject, .object (.error _) => finishAccesses env s
  | .getObject, .object (.ok services) => findAccesses env [] services s
  | .getNameOwner buses service rest, .nameOwner (.error _) =>
      findAccesses env buses rest (s.matchService service)
  | .getNameOwner buses _ rest, .nameOwner (.ok uniqueName) =>
      findAccesses env buses rest (s.matchService uniqueName)
  | .getManagedObjects _ _ rest, .managedObjects (.error _) => buildAccesses env rest s
  | .getManagedObjects eids bus rest, .managedObjects (.ok values) =>
      values.flatMap (objectAccesses env bus.2 s) ++
        buildAccesses env rest (scanService env bus values eids s).2
  | _, _ => []

/-- The filter over the VendorHeader. -/
def headerAccesses (env : Env) (payload : ByteArray) (s : MCTPImpl) : List VendorParameter :=
  if s.config.vendorId.isNone ∨ s.config.vendorMessageType.isNone then []
  else
    match (fieldAt env s.host payload 1).result with
    | .error _ => [.vendorId]
    | .ok found =>
        if some found ≠ s.config.vendorId then [.vendorId] else [.vendorId, .vendorMessageType]

def messageAccesses (env : Env) (messageType : UInt8) (payload : ByteArray) (s : MCTPImpl) :
    List VendorParameter :=
  if ¬ s.receiveCallback ∧ ¬ s.extReceiveCallback then []
  else if messageType ≠ s.config.type.toByte then []
  else if s.config.type = .vdpci then headerAccesses env payload s
  else []

def eventAccesses (env : Env) (msg : Message) (s : MCTPImpl) : List VendorParameter :=
  if s.isInitialisationsDone = false then []
  else
    match msg.signal with
    | .interfacesAdded objectPath values =>
        if objectPath = basePath ∧ (values.lookup (bindingToInterface s.config.bindingType)).isSome then
          registerAccesses (s.matchService msg.sender)
        else []
    | .messageReceived messageType _ _ _ payload =>
        if msg.sender ∉ s.matchedBuses then [] else messageAccesses env messageType payload s
    | _ => []

end MCTPImpl

namespace System

/-- The accesses of one step, including one that leaves no state behind. -/
def accesses (s : System) : Label → List VendorParameter
  | .resume index env reply =>
      match s.scans[index]? with
      | none => []
      | some scan => MCTPImpl.resumeAccesses env scan reply s.lib
  | .signal env msg => if s.lib.mctpChangesWatch then MCTPImpl.eventAccesses env msg s.lib else []
  | .registerResponder env specVersion => MCTPImpl.registerAllAccesses env specVersion s.lib
  | _ => []

/-- The accesses of a run, up to the step that leaves no state behind. -/
def runAccesses : System → List Label → List VendorParameter
  | _, [] => []
  | s, label :: labels =>
      s.accesses label ++
        match s.step label with
        | none => []
        | some next => next.runAccesses labels

end System

namespace MCTPImpl

/-- No bus id can be read from any of the services. -/
def Unreadable (env : Env) (services : List String) (s : MCTPImpl) : Prop :=
  ∀ service ∈ services, ∀ bus, (getBusId env service s).1 ≠ .ok bus

/-- The coroutine comes to the end of detectMctpEndpoints with a service matched. -/
def Ends (env : Env) : Scan → Reply → MCTPImpl → Prop
  | .getObject, .object (.error _), s => s.matchedBuses ≠ ∅
  | .getObject, .object (.ok services), s => Unreadable env services s ∧ s.matchedBuses ≠ ∅
  | .getNameOwner buses _ rest, .nameOwner _, s => buses = [] ∧ Unreadable env rest s
  | .getManagedObjects _ _ rest, .managedObjects _, s => rest = [] ∧ s.matchedBuses ≠ ∅
  | _, _, _ => False

end MCTPImpl

namespace System

/-- The step registers responder versions with some service. -/
def Registering (s : System) : Label → Prop
  | .resume index env reply =>
      s.lib.responderVersions ≠ [] ∧
        ∃ scan, s.scans[index]? = some scan ∧ MCTPImpl.Ends env scan reply s.lib
  | .signal _ msg =>
      s.lib.mctpChangesWatch = true ∧ s.lib.isInitialisationsDone = true ∧
        s.lib.responderVersions ≠ [] ∧
        ∃ values, msg.signal = .interfacesAdded basePath values ∧
          (values.lookup (bindingToInterface s.lib.config.bindingType)).isSome
  | .registerResponder _ specVersion => specVersion ≠ [] ∧ s.lib.matchedBuses ≠ ∅
  | _ => False

/-- No step of the run registers with a service. -/
def NeverRegisters : System → List Label → Prop
  | _, [] => True
  | s, label :: labels =>
      ¬ s.Registering label ∧ ∀ next, s.step label = some next → next.NeverRegisters labels

end System

variable {config : MCTPConfiguration}

theorem allHeld_nil : AllHeld config [] := by simp [AllHeld]

theorem allHeld_append {front back : List VendorParameter} :
    AllHeld config (front ++ back) ↔ AllHeld config front ∧ AllHeld config back :=
  List.forall_mem_append

theorem allHeld_flatMap {α : Type} {items : List α} {accesses : α → List VendorParameter} :
    AllHeld config (items.flatMap accesses) ↔ ∀ item ∈ items, AllHeld config (accesses item) := by
  simp only [AllHeld, List.mem_flatMap, forall_exists_index, and_imp]
  constructor
  · exact fun all item member parameter access => all parameter item member access
  · exact fun all parameter item member access => all item member parameter access

namespace MCTPImpl

/-- Each access of the object filter is behind a test of its own. -/
theorem vendorAccesses_held (env : Env) (service objectPath : String) (s : MCTPImpl) :
    AllHeld s.config (vendorAccesses env service objectPath s) := by
  unfold vendorAccesses
  split
  · rename_i hasId
    have id : AllHeld s.config [.vendorId] := by
      simpa [AllHeld, MCTPConfiguration.holds] using hasId
    split
    · exact allHeld_nil
    · split
      · exact allHeld_nil
      · split
        · exact id
        · split
          · rename_i hasMessage
            split
            · exact id
            · simp [AllHeld, MCTPConfiguration.holds, hasId, hasMessage]
          · exact id
  · exact allHeld_nil

theorem objectAccesses_held (env : Env) (service : String) (s : MCTPImpl)
    (object : String × Interfaces) : AllHeld s.config (objectAccesses env service s object) := by
  unfold objectAccesses
  split
  · split
    · split
      · exact vendorAccesses_held env service object.1 s
      · exact allHeld_nil
    · exact allHeld_nil
  · exact allHeld_nil

/-- The receive filter tests both optionals before it compares. -/
theorem headerAccesses_held (env : Env) (payload : ByteArray) (s : MCTPImpl) :
    AllHeld s.config (headerAccesses env payload s) := by
  unfold headerAccesses
  split
  · exact allHeld_nil
  · rename_i tested
    obtain ⟨hasId, hasMessage⟩ := not_or.mp tested
    rw [Option.isNone_iff_eq_none] at hasId hasMessage
    have id := Option.isSome_iff_ne_none.mpr hasId
    have message := Option.isSome_iff_ne_none.mpr hasMessage
    split
    · simp [AllHeld, MCTPConfiguration.holds, id]
    · split <;> simp [AllHeld, MCTPConfiguration.holds, id, message]

/-- A configuration that differs at most in values that are not accessed. -/
structure Unaccessed (accesses : List VendorParameter) (config config' : MCTPConfiguration) : Prop where
  type : config'.type = config.type
  holds : ∀ parameter, config'.holds parameter = config.holds parameter
  vendorId : .vendorId ∈ accesses → config'.vendorId = config.vendorId
  vendorMessageType : .vendorMessageType ∈ accesses →
    config'.vendorMessageType = config.vendorMessageType

/-- The object filter takes no value but those listed. -/
theorem vendorMatches_unaccessed {env : Env} {service objectPath : String} {s : MCTPImpl}
    {config' : MCTPConfiguration}
    (apart : Unaccessed (vendorAccesses env service objectPath s) s.config config') :
    (vendorMatches env service objectPath { s with config := config' }).1 =
      (vendorMatches env service objectPath s).1 := by
  obtain ⟨_, holds, sameId, sameMessage⟩ := apart
  have holdsId := holds .vendorId
  have holdsMessage := holds .vendorMessageType
  unfold vendorAccesses at sameId sameMessage
  unfold vendorMatches readPropertyValue
  dsimp only [MCTPConfiguration.holds] at holdsId holdsMessage ⊢
  cases hasId : s.config.vendorId with
  | none =>
      have unset : config'.vendorId = none := by simpa [hasId] using holdsId
      rw [unset, ← Option.not_isSome, ← Option.not_isSome, holdsMessage]
  | some vendorId =>
      obtain ⟨vendorId', hasId'⟩ := Option.isSome_iff_exists.mp (holdsId.trans (by rw [hasId]; rfl))
      rw [hasId', hasId] at sameId
      rw [hasId']
      simp only [hasId, Option.isSome_some, ↓reduceIte, Option.map_some, ne_eq,
        Option.some.injEq] at sameId sameMessage
      cases read : env.readString (vendorIdProperty service objectPath) with
      | none => rfl
      | some vendorIdStr =>
          dsimp only
          cases parsed : stoi 16 vendorIdStr.toList with
          | error failed => rfl
          | ok value =>
              simp only [read, parsed] at sameId sameMessage
              obtain rfl : vendorId' = vendorId := by
                apply sameId
                split
                · exact .head _
                · split
                  · split <;> exact .head _
                  · exact .head _
              by_cases foreign : UInt16.ofInt value = be16toh s.host vendorId'
              · simp only [foreign, not_true_eq_false, ↓reduceIte, ne_eq] at sameMessage ⊢
                cases hasMessage : s.config.vendorMessageType with
                | none =>
                    have unset : config'.vendorMessageType = none := by
                      simpa [hasMessage] using holdsMessage
                    rw [unset]
                | some message =>
                    cases types : env.readUint16s (messageTypeProperty service objectPath) with
                    | none =>
                        rw [hasMessage] at holdsMessage
                        obtain ⟨message', hasMessage'⟩ := Option.isSome_iff_exists.mp holdsMessage
                        rw [hasMessage']
                    | some msgTypes =>
                        rw [sameMessage (by simp [hasMessage, types]), hasMessage]
              · simp only [foreign, not_false_eq_true, ↓reduceIte, ne_eq]

theorem acceptObject_unaccessed {env : Env} {service : String} {object : String × Interfaces}
    {s : MCTPImpl} {config' : MCTPConfiguration}
    (apart : Unaccessed (objectAccesses env service s object) s.config config') :
    (acceptObject env service object { s with config := config' }).1 =
      (acceptObject env service object s).1 := by
  have type := apart.type
  unfold objectAccesses at apart
  unfold acceptObject
  dsimp only
  rw [type]
  cases endpoint : object.2.lookup endpointInterface with
  | none => rfl
  | some properties =>
      cases supported : object.2.lookup supportedMessageTypes with
      | none => rfl
      | some msgIf =>
          simp only [endpoint, supported] at apart
          dsimp only
          cases accepted : supportsType s.config.type msgIf with
          | error fault => rfl
          | ok supports =>
              cases supports with
              | false => rfl
              | true =>
                  simp only [accepted] at apart
                  by_cases vdpci : s.config.type = .vdpci
                  · simp only [vdpci, ↓reduceIte] at apart ⊢
                    rw [vendorMatches_unaccessed apart]
                    cases (vendorMatches env service object.1 s).1 with
                    | error fault => rfl
                    | ok fits =>
                        cases fits with
                        | false => rfl
                        | true => cases splitEID object.1 <;> rfl
                  · simp only [vdpci, ↓reduceIte]
                    cases splitEID object.1 <;> rfl

/-- Neither does the receive filter. -/
theorem vendorHeaderMatches_unaccessed {env : Env} {payload : ByteArray} {s : MCTPImpl}
    {config' : MCTPConfiguration}
    (apart : Unaccessed (headerAccesses env payload s) s.config config') :
    vendorHeaderMatches env payload { s with config := config' } =
      vendorHeaderMatches env payload s := by
  obtain ⟨_, holds, sameId, sameMessage⟩ := apart
  have holdsId := holds .vendorId
  have holdsMessage := holds .vendorMessageType
  unfold headerAccesses at sameId sameMessage
  dsimp only [MCTPConfiguration.holds] at holdsId holdsMessage
  cases hasId : s.config.vendorId with
  | none =>
      have unset : config'.vendorId = none := by simpa [hasId] using holdsId
      rw [vendorHeaderMatches_unset (.inl unset), vendorHeaderMatches_unset (.inl hasId)]
  | some vendorId =>
      cases hasMessage : s.config.vendorMessageType with
      | none =>
          have unset : config'.vendorMessageType = none := by simpa [hasMessage] using holdsMessage
          rw [vendorHeaderMatches_unset (.inr unset), vendorHeaderMatches_unset (.inr hasMessage)]
      | some message =>
          simp only [hasId, hasMessage, Option.isNone_some, Bool.false_eq_true, or_self,
            ↓reduceIte] at sameId sameMessage holdsMessage
          obtain ⟨message', hasMessage'⟩ := Option.isSome_iff_exists.mp holdsMessage
          cases first : (fieldAt env s.host payload 1).result with
          | error fault =>
              simp only [first] at sameId
              rw [vendorHeaderMatches_fault (s := { s with config := config' }) (sameId (.head _))
                  hasMessage' first,
                vendorHeaderMatches_fault hasId hasMessage first]
          | ok found =>
              simp only [first] at sameId sameMessage
              by_cases same : found = vendorId
              · simp only [same, ne_eq, not_true_eq_false, ↓reduceIte] at sameId sameMessage
                rw [vendorHeaderMatches_own (s := { s with config := config' }) (sameId (.head _))
                    (sameMessage (.tail _ (.head _))) (same ▸ first),
                  vendorHeaderMatches_own hasId hasMessage (same ▸ first)]
              · have apart : ¬ some found = some vendorId := by simpa using same
                simp only [ne_eq, apart, not_false_eq_true, ↓reduceIte] at sameId
                rw [vendorHeaderMatches_foreign (s := { s with config := config' }) (sameId (.head _))
                    hasMessage' first same,
                  vendorHeaderMatches_foreign hasId hasMessage first same]

theorem messageAccesses_held (env : Env) (messageType : UInt8) (payload : ByteArray)
    (s : MCTPImpl) : AllHeld s.config (messageAccesses env messageType payload s) := by
  unfold messageAccesses
  split
  · exact allHeld_nil
  · split
    · exact allHeld_nil
    · split
      · exact headerAccesses_held env payload s
      · exact allHeld_nil

/-- A registration takes both values without a test. -/
theorem registerAccesses_held_iff (s : MCTPImpl) :
    AllHeld s.config (registerAccesses s) ↔ (s.responderVersions ≠ [] → s.config.VendorSet) := by
  unfold registerAccesses MCTPConfiguration.VendorSet
  split
  · rename_i empty
    simp [allHeld_nil, List.isEmpty_iff.mp empty]
  · rename_i versions
    rw [List.isEmpty_iff] at versions
    split
    · rename_i vdpci
      simp [AllHeld, MCTPConfiguration.holds, versions, vdpci, and_comm]
    · rename_i other
      simp [allHeld_nil, other]

theorem order_eq_nil_iff (env : Env) (names : Finset String) : env.order names = [] ↔ names = ∅ := by
  rw [List.eq_nil_iff_forall_not_mem, Finset.eq_empty_iff_forall_notMem]
  exact forall_congr' fun name => not_congr (env.order_mem names name)

theorem registerAllAccesses_held_iff (env : Env) (specVersion : List VersionFields) (s : MCTPImpl) :
    AllHeld s.config (registerAllAccesses env specVersion s) ↔
      (specVersion ≠ [] → s.matchedBuses ≠ ∅ → s.config.VendorSet) := by
  unfold registerAllAccesses
  split
  · rename_i empty
    simp [allHeld_nil, List.isEmpty_iff.mp empty]
  · rename_i versions
    rw [List.isEmpty_iff] at versions
    have each := registerAccesses_held_iff { s with responderVersions := specVersion }
    simp only [ne_eq, versions, not_false_eq_true, forall_true_left] at each
    have order := order_eq_nil_iff env s.matchedBuses
    rw [allHeld_flatMap, each, ne_eq, ne_eq, ← order]
    cases env.order s.matchedBuses with
    | nil => simp
    | cons first rest => simpa [versions] using fun vendor _ _ => vendor

theorem finishAccesses_held_iff (env : Env) (s : MCTPImpl) :
    AllHeld s.config (finishAccesses env s) ↔
      (s.responderVersions ≠ [] → s.matchedBuses ≠ ∅ → s.config.VendorSet) := by
  unfold finishAccesses
  split
  · rename_i empty
    simp [allHeld_nil, List.isEmpty_iff.mp empty]
  · exact registerAllAccesses_held_iff env s.responderVersions s

theorem buildAccesses_held_iff (env : Env) (buses : List Bus) (s : MCTPImpl) :
    AllHeld s.config (buildAccesses env buses s) ↔
      (s.responderVersions ≠ [] → buses = [] → s.matchedBuses ≠ ∅ → s.config.VendorSet) := by
  unfold buildAccesses
  split
  · simp [finishAccesses_held_iff]
  · simp [allHeld_nil]

/-- Whether a bus id can be read depends on the configuration alone. -/
theorem getBusId_ok_iff (env : Env) (service : String) {s t : MCTPImpl} (same : t.config = s.config) :
    (∃ bus, (getBusId env service t).1 = .ok bus) ↔
      ∃ bus, (getBusId env service s).1 = .ok bus := by
  unfold getBusId
  rw [same]
  cases s.config.bindingType with
  | mctpOverSmBus =>
      simp only [readPropertyValue]
      split
      · simp
      · split
        · split <;> simp
        · simp
  | mctpOverPcieVdm =>
      simp only [readPropertyValue]
      split <;> simp
  | mctpOverI3C => simp
  | _ => simp

theorem unreadable_iff (env : Env) (services : List String) {s t : MCTPImpl}
    (same : t.config = s.config) : Unreadable env services t ↔ Unreadable env services s := by
  unfold Unreadable
  refine forall₂_congr fun service _ => ?_
  rw [← not_exists, ← not_exists, getBusId_ok_iff env service same]

theorem findAccesses_held_iff (env : Env) (buses : List Bus) (services : List String)
    (s : MCTPImpl) : AllHeld s.config (findAccesses env buses services s) ↔
      (s.responderVersions ≠ [] → buses = [] → Unreadable env services s → s.matchedBuses ≠ ∅ →
        s.config.VendorSet) := by
  induction services generalizing s with
  | nil =>
      have built := buildAccesses_held_iff env buses { s with isInitialisationsDone := true }
      simpa [findAccesses, Unreadable] using built
  | cons service rest ih =>
      have read := ih (getBusId env service s).2
      obtain ⟨_, _, _, _, same⟩ := getBusId_emits env service s
      have config : (getBusId env service s).2.config = s.config := by rw [same]
      have later := unreadable_iff env rest config
      unfold findAccesses
      dsimp only
      cases outcome : (getBusId env service s).1 with
      | error failed =>
          rw [later] at read
          simp only [same] at read
          simpa [Unreadable, outcome, same] using read
      | ok bus => simp [allHeld_nil, Unreadable, outcome]

/-- A coroutine reaches its unchecked accesses at the end of a discovery only. -/
theorem resumeAccesses_held_iff (env : Env) (scan : Scan) (reply : Reply) (s : MCTPImpl) :
    AllHeld s.config (resumeAccesses env scan reply s) ↔
      (s.responderVersions ≠ [] → Ends env scan reply s → s.config.VendorSet) := by
  have owned : ∀ buses name rest,
      AllHeld s.config (findAccesses env buses rest (s.matchService name)) ↔
        (s.responderVersions ≠ [] → buses = [] ∧ Unreadable env rest s → s.config.VendorSet) := by
    intro buses name rest
    have config := matchService_config s name
    have versions := matchService_responderVersions s name
    have found := findAccesses_held_iff env buses rest (s.matchService name)
    rw [config, versions, unreadable_iff env rest config, matchService_matchedBuses] at found
    simpa using found
  cases scan with
  | getObject =>
      cases reply with
      | object services =>
          cases services with
          | error failed => exact finishAccesses_held_iff env s
          | ok services => simpa [resumeAccesses, Ends] using findAccesses_held_iff env [] services s
      | _ => simp [resumeAccesses, Ends, allHeld_nil]
  | getNameOwner buses service rest =>
      cases reply with
      | nameOwner uniqueName => cases uniqueName <;> exact owned _ _ _
      | _ => simp [resumeAccesses, Ends, allHeld_nil]
  | getManagedObjects eids bus rest =>
      cases reply with
      | managedObjects values =>
          cases values with
          | error failed => simpa [resumeAccesses, Ends] using buildAccesses_held_iff env rest s
          | ok values =>
              have objects : AllHeld s.config (values.flatMap (objectAccesses env bus.2 s)) :=
                allHeld_flatMap.mpr fun object _ => objectAccesses_held env bus.2 s object
              have built := buildAccesses_held_iff env rest (scanService env bus values eids s).2
              obtain ⟨_, _, _, _, same⟩ := scanService_emits env bus values eids s
              simp only [resumeAccesses, allHeld_append, and_iff_right objects]
              simp only [same] at built ⊢
              simpa [Ends] using built
      | _ => simp [resumeAccesses, Ends, allHeld_nil]

theorem eventAccesses_held_iff (env : Env) (msg : Message) (s : MCTPImpl) :
    AllHeld s.config (eventAccesses env msg s) ↔
      (s.isInitialisationsDone = true → s.responderVersions ≠ [] →
        (∃ values, msg.signal = .interfacesAdded basePath values ∧
          (values.lookup (bindingToInterface s.config.bindingType)).isSome) →
        s.config.VendorSet) := by
  have registered := registerAccesses_held_iff (s.matchService msg.sender)
  rw [matchService_config, matchService_responderVersions] at registered
  unfold eventAccesses
  split
  · rename_i closed
    simp [allHeld_nil, closed]
  · rename_i opened
    rw [Bool.not_eq_false] at opened
    cases signal : msg.signal with
    | interfacesAdded objectPath values =>
        dsimp only
        split
        · rename_i service
          rw [registered]
          constructor
          · exact fun vendor _ versions _ => vendor versions
          · exact fun vendor versions =>
              vendor opened versions ⟨values, by rw [service.1], service.2⟩
        · rename_i other
          simp only [allHeld_nil, true_iff]
          rintro _ _ ⟨_, same, listed⟩
          cases same
          exact absurd ⟨rfl, listed⟩ other
    | messageReceived messageType srcEid msgTag tagOwner payload =>
        have message := messageAccesses_held env messageType payload s
        dsimp only
        split
        · simp [allHeld_nil]
        · simp [message]
    | _ => simp [allHeld_nil]

/- Where an access finds nothing, the model has no state to go on with. -/
section Undefined

variable (env : Env) {s : MCTPImpl}

theorem registerCall_undefined (unset : ¬ s.config.VendorSet) (serviceName : String) :
    s.registerCall serviceName = .error .undefinedBehaviour := by
  unfold MCTPConfiguration.VendorSet at unset
  unfold registerCall
  split
  · split
    · rename_i hasMessage hasId
      exact absurd (fun _ => by simp [hasMessage, hasId]) unset
    · rfl
  · rename_i other
    exact absurd (fun vdpci => absurd vdpci other) unset

theorem registerResponderService_undefined (unset : ¬ s.config.VendorSet)
    (versions : s.responderVersions ≠ []) (serviceName : String) :
    (registerResponderService env serviceName s).1 = .error .undefinedBehaviour := by
  simp [registerResponderService, versions, registerCall_undefined unset serviceName]

theorem registerResponder_undefined (unset : ¬ s.config.VendorSet)
    {specVersion : List VersionFields} (versions : specVersion ≠ []) (matched : s.matchedBuses ≠ ∅) :
    (registerResponder env specVersion s).1 = .error .undefinedBehaviour := by
  have order : env.order s.matchedBuses ≠ [] := (order_eq_nil_iff env s.matchedBuses).not.mpr matched
  obtain ⟨first, rest, services⟩ := List.exists_cons_of_ne_nil order
  have refused := registerResponderService_undefined env
    (s := { s with responderVersions := specVersion }) unset versions first
  simp [registerResponder, versions, services, registerServices, refused]

theorem finishDetect_undefined (unset : ¬ s.config.VendorSet) (versions : s.responderVersions ≠ [])
    (matched : s.matchedBuses ≠ ∅) :
    ∃ t, finishDetect env s = (.raised .undefinedBehaviour, t) := by
  have refused := registerResponder_undefined env unset versions matched
  simp [finishDetect, versions, refused]

theorem findBuses_undefined (unset : ¬ s.config.VendorSet) (versions : s.responderVersions ≠ [])
    (matched : s.matchedBuses ≠ ∅) {services : List String} (unread : Unreadable env services s) :
    ∃ t, findBuses env [] services s = (.raised .undefinedBehaviour, t) := by
  induction services generalizing s with
  | nil => exact finishDetect_undefined env unset versions matched
  | cons service rest ih =>
      obtain ⟨_, _, _, _, same⟩ := getBusId_emits env service s
      have config : (getBusId env service s).2.config = s.config := by rw [same]
      have later : Unreadable env rest (getBusId env service s).2 :=
        (unreadable_iff env rest config).mpr fun name member => unread name (.tail _ member)
      unfold findBuses
      dsimp only
      split
      · exact ih (by rwa [config]) (by rwa [same]) (by rwa [same]) later
      · rename_i bus read
        exact absurd read (unread service (.head _) bus)

theorem resume_undefined (unset : ¬ s.config.VendorSet) (versions : s.responderVersions ≠ [])
    {scan : Scan} {reply : Reply} (ends : Ends env scan reply s) :
    ∃ t, resume env scan reply s = some (.raised .undefinedBehaviour, t) := by
  unfold Ends at ends
  split at ends
  · obtain ⟨t, raised⟩ := finishDetect_undefined env (s := { s with isInitialisationsDone := true })
      unset versions ends
    exact ⟨t, congrArg some raised⟩
  · obtain ⟨t, raised⟩ := findBuses_undefined env unset versions ends.2 ends.1
    exact ⟨t, congrArg some raised⟩
  · rename_i buses service rest reply
    have named : ∀ name, ∃ t, findBuses env buses rest (s.matchService name) =
        (.raised .undefinedBehaviour, t) := by
      intro name
      have config := matchService_config s name
      have kept := matchService_responderVersions s name
      rw [ends.1]
      refine findBuses_undefined env (by rwa [config]) (by rwa [kept]) ?_
        ((unreadable_iff env rest config).mpr ends.2)
      simp [matchService_matchedBuses]
    cases reply with
    | error failed => exact (named service).imp fun t raised => congrArg some raised
    | ok uniqueName => exact (named uniqueName).imp fun t raised => congrArg some raised
  · rename_i eids bus rest reply
    obtain ⟨rfl, matched⟩ := ends
    cases reply with
    | error failed =>
        obtain ⟨t, raised⟩ := finishDetect_undefined env (s := { s with endpointMap := eids })
          unset versions matched
        exact ⟨t, congrArg some raised⟩
    | ok values =>
        obtain ⟨_, _, _, _, same⟩ := scanService_emits env bus values eids s
        obtain ⟨t, raised⟩ := finishDetect_undefined env
          (s := { (scanService env bus values eids s).2 with
            endpointMap := (scanService env bus values eids s).1 })
          (by rwa [same]) (by rwa [same]) (by rwa [same])
        exact ⟨t, congrArg some raised⟩
  · exact ends.elim

theorem onNewService_undefined (unset : ¬ s.config.VendorSet) (versions : s.responderVersions ≠ [])
    (serviceName : String) :
    (onNewService env serviceName s).1 = .error .undefinedBehaviour := by
  have config := matchService_config s serviceName
  have kept := matchService_responderVersions s serviceName
  have refused := registerResponderService_undefined env (s := s.matchService serviceName)
    (by rwa [config]) (by rwa [kept]) serviceName
  simp [onNewService, refused]

end Undefined

end MCTPImpl

namespace System

/-- One step takes a value out of an empty optional exactly when it registers
without both vendor parameters set. -/
theorem accesses_held_iff (s : System) (label : Label) :
    AllHeld s.lib.config (s.accesses label) ↔ (s.Registering label → s.lib.config.VendorSet) := by
  cases label with
  | resume index env reply =>
      unfold accesses Registering
      cases waiting : s.scans[index]? with
      | none => simp [waiting, allHeld_nil]
      | some scan =>
          simpa [waiting] using MCTPImpl.resumeAccesses_held_iff env scan reply s.lib
  | signal env msg =>
      unfold accesses Registering
      by_cases watching : s.lib.mctpChangesWatch = true
      · have event := MCTPImpl.eventAccesses_held_iff env msg s.lib
        simp only [watching, ↓reduceIte, true_and, event, and_imp]
      · simp [watching, allHeld_nil]
  | registerResponder env specVersion =>
      simpa [accesses, Registering] using
        MCTPImpl.registerAllAccesses_held_iff env specVersion s.lib
  | _ => simp [accesses, Registering, allHeld_nil]

/-- Such a step leaves no state behind. -/
theorem step_none_of_unheld {s : System} {label : Label}
    (unheld : ¬ AllHeld s.lib.config (s.accesses label)) : s.step label = none := by
  rw [accesses_held_iff, Classical.not_imp] at unheld
  obtain ⟨registering, unset⟩ := unheld
  cases label with
  | resume index env reply =>
      obtain ⟨versions, scan, waiting, ends⟩ := registering
      obtain ⟨t, raised⟩ := MCTPImpl.resume_undefined env unset versions ends
      simp [step, waiting, raised, settle]
  | signal env msg =>
      obtain ⟨watching, opened, versions, values, signal, listed⟩ := registering
      obtain ⟨properties, found⟩ := Option.isSome_iff_exists.mp listed
      have raised := MCTPImpl.onNewService_undefined env unset versions msg.sender
      simp only [step, watching, ↓reduceIte, MCTPImpl.onMCTPEvent, opened, Bool.true_eq_false, signal,
        MCTPImpl.onNewInterface, found]
      unfold unwind
      rw [← Prod.mk.eta (p := MCTPImpl.onNewService env msg.sender s.lib), raised]
  | registerResponder env specVersion =>
      obtain ⟨versions, matched⟩ := registering
      have raised := MCTPImpl.registerResponder_undefined env unset versions matched
      simp only [step]
      unfold unwind
      rw [← Prod.mk.eta (p := MCTPImpl.registerResponder env specVersion s.lib), raised]
  | _ => exact registering.elim

theorem step_config {s t : System} {label : Label} (stepped : s.step label = some t) :
    t.lib.config = s.lib.config :=
  MCTPImpl.config_of_settings (step_settings stepped)

theorem runAccesses_held_iff (s : System) (labels : List Label) :
    AllHeld s.lib.config (s.runAccesses labels) ↔
      s.lib.config.VendorSet ∨ s.NeverRegisters labels := by
  induction labels generalizing s with
  | nil => simp [runAccesses, NeverRegisters, allHeld_nil]
  | cons label labels ih =>
      have first := accesses_held_iff s label
      unfold runAccesses NeverRegisters
      rw [allHeld_append, first]
      cases stepped : s.step label with
      | none =>
          simp only [allHeld_nil, and_true, reduceCtorEq, false_implies, implies_true]
          exact imp_iff_not_or.trans or_comm
      | some next =>
          have later := ih next
          rw [step_config stepped] at later
          simp only [later, Option.some.injEq, forall_eq']
          by_cases vendor : s.lib.config.VendorSet <;> simp [vendor]

/-- A run that goes through took nothing out of an empty optional. -/
theorem runAccesses_held_of_exec {s t : System} {labels : List Label}
    (done : exec step s labels = some t) : AllHeld s.lib.config (s.runAccesses labels) := by
  induction labels generalizing s with
  | nil => exact allHeld_nil
  | cons label labels ih =>
      obtain ⟨next, stepped, rest⟩ := Option.bind_eq_some_iff.mp done
      have held : AllHeld s.lib.config (s.accesses label) := by
        by_contra unheld
        rw [step_none_of_unheld unheld] at stepped
        cases stepped
      have later := ih rest
      rw [step_config stepped] at later
      unfold runAccesses
      rw [stepped]
      exact allHeld_append.mpr ⟨held, later⟩

end System

/-- No run from construction takes a vendor parameter out of an empty optional,
unless the configuration lacks one and the run registers with a service. -/
theorem vendorParameters_held_iff (host : Endian) (config : MCTPConfiguration)
    (networkChangeCb rxCb : Bool) (labels : List Label) :
    AllHeld config ((System.construct host config networkChangeCb rxCb).runAccesses labels) ↔
      config.VendorSet ∨ (System.construct host config networkChangeCb rxCb).NeverRegisters labels :=
  System.runAccesses_held_iff (System.construct host config networkChangeCb rxCb) labels

/-- Of the built configurations, those for VDPCI without a message type lack one. -/
theorem MCTPConfiguration.Built.vendorSet_iff {host : Endian} {config : MCTPConfiguration}
    (built : Built host config) :
    config.VendorSet ↔ (config.type = .vdpci → config.vendorMessageType.isSome) := by
  constructor
  · exact fun vendor vdpci => (vendor vdpci).2
  · exact fun message vdpci => ⟨built.vendor_of_message (message vdpci), message vdpci⟩

namespace Slot

/-- VDPCI without vendor parameters, as the first value constructor leaves it. -/
def bareConfig : MCTPConfiguration := .ofType .vdpci .mctpOverSmBus

theorem vendorParameters_unset :
    MCTPConfiguration.Built .little bareConfig ∧
      ¬ AllHeld bareConfig ((System.construct .little bareConfig true false).runAccesses
        (discovery ++ [.registerResponder env [version]])) := by
  refine ⟨.type .vdpci .mctpOverSmBus, ?_⟩
  have read : VendorParameter.vendorMessageType ∈
      (System.construct .little bareConfig true false).runAccesses
        (discovery ++ [.registerResponder env [version]]) := by decide
  intro held
  exact absurd (held _ read) (by decide)

end Slot

end Mctpw
