import Mctpw.Strangers

set_option autoImplicit false

/- What is said to whom. A class of effects that has room for what each function
says to the services it knows has room for what the library says. -/
namespace Mctpw

open Strings

/-- The class has room for everything that does not depend on the network cache. -/
structure Speech (allowed : Effect → Prop) (known paths : String → Prop) : Prop where
  quiet : ∀ effect : Effect, (∀ call, effect ≠ .call call) →
    (∀ service eid device, effect ≠ .identified service eid device) → allowed effect
  mapper : ∀ interface, allowed (.call (getObject interface))
  owner : ∀ service, known service → allowed (.call (getNameOwner service))
  objects : ∀ service, known service → allowed (.call (getManagedObjects service))
  read : ∀ service interface name, known service → name ≠ "NetworkID" →
    allowed (.call (Property.get ⟨service, basePath, interface, name⟩))
  vendorId : ∀ service objectPath, known service → paths objectPath →
    allowed (.call (MCTPImpl.vendorIdProperty service objectPath).get)
  messageType : ∀ service objectPath, known service → paths objectPath →
    allowed (.call (MCTPImpl.messageTypeProperty service objectPath).get)
  register : ∀ call : MethodCall, known call.destination → call.path = basePath →
    call.interface = baseInterface → (∃ type, call.member = registerMethod type) →
    allowed (.call call)
  sent : ∀ request service devID, known service →
    allowed (.call (sendMessage request service devID))

namespace MCTPImpl

/-- And for what does. -/
structure Networked (allowed : Effect → Prop) (known : String → Prop) (s : MCTPImpl) : Prop where
  asked : ∀ service, known service → s.networkIDCache.find service = none →
    allowed (.call (networkIDProperty service).get)
  formed : ∀ env service eid, known service →
    allowed (.identified service eid (DeviceID.make eid (getNetworkID env service s).1))

/-- The history has grown within the class, and no network id has been forgotten. -/
structure Grows (allowed : Effect → Prop) (s t : MCTPImpl) : Prop where
  trace : ∃ effects, (∀ effect ∈ effects, allowed effect) ∧ t.trace = s.trace ++ effects
  remembers : ∀ service networkID, s.networkIDCache.find service = some networkID →
    t.networkIDCache.find service = some networkID

variable {allowed : Effect → Prop} {known paths : String → Prop} {s t u : MCTPImpl}

theorem Grows.of_eq (trace : t.trace = s.trace) (cache : t.networkIDCache = s.networkIDCache) :
    Grows allowed s t :=
  ⟨⟨[], by simp, by rw [trace, List.append_nil]⟩, fun _ _ held => by rw [cache, held]⟩

theorem Grows.refl (s : MCTPImpl) : Grows allowed s s := .of_eq rfl rfl

theorem Grows.trans (first : Grows allowed s t) (second : Grows allowed t u) :
    Grows allowed s u := by
  obtain ⟨⟨effects, fine, trace⟩, kept⟩ := first
  obtain ⟨⟨effects', fine', trace'⟩, kept'⟩ := second
  refine ⟨⟨effects ++ effects', ?_, by rw [trace', trace, List.append_assoc]⟩, ?_⟩
  · intro effect member
    rcases List.mem_append.mp member with member | member
    · exact fine effect member
    · exact fine' effect member
  · exact fun service networkID held => kept' service networkID (kept service networkID held)

theorem Grows.of_reports (reports : Reports allowed s t) : Grows allowed s t := by
  obtain ⟨effects, fine, rfl⟩ := reports
  exact ⟨⟨effects, fine, rfl⟩, fun _ _ held => held⟩

theorem Grows.emit (s : MCTPImpl) {effect : Effect} (fine : allowed effect) :
    Grows allowed s (s.emit effect) := .of_reports (.emit s fine)

theorem Networked.of_eq (networked : Networked allowed known s)
    (same : t.networkIDCache = s.networkIDCache) : Networked allowed known t := by
  refine ⟨fun service knows missed => networked.asked service knows (same ▸ missed), ?_⟩
  intro env service eid knows
  have formed := networked.formed env service eid knows
  have equal : (getNetworkID env service t).1 = (getNetworkID env service s).1 := by
    unfold getNetworkID readPropertyValue
    rw [same]
    cases s.networkIDCache.find service with
    | some networkID => rfl
    | none => cases env.readByte (networkIDProperty service) <;> rfl
  rwa [equal]

theorem getNetworkID_grows (networked : Networked allowed known s) (env : Env) {service : String}
    (knows : known service) : Grows allowed s (getNetworkID env service s).2 := by
  unfold getNetworkID
  cases missed : s.networkIDCache.find service with
  | some networkID => exact .refl s
  | none =>
      have asked := Grows.emit s (networked.asked service knows missed)
      dsimp only [readPropertyValue]
      cases env.readByte (networkIDProperty service) with
      | none => exact asked
      | some networkID =>
          refine ⟨asked.trace, ?_⟩
          intro other held found
          have kept := asked.remembers other held found
          rw [UnorderedMap.find_emplace]
          split
          · rename_i same
            rw [same, missed] at found
            cases found
          · exact kept

theorem getDeviceIDFromPath_grows (networked : Networked allowed known s) (env : Env)
    (objectPath : String) {service : String} (knows : known service) :
    Grows allowed s (getDeviceIDFromPath env objectPath service s).2 := by
  have network := getNetworkID_grows networked env knows
  unfold getDeviceIDFromPath
  split
  · exact .refl s
  · split
    · exact .refl s
    · dsimp only
      split
      · exact network
      · exact network.trans (.emit _ (networked.formed env service _ knows))

theorem knows_order (env : Env) (knows : ∀ service ∈ s.matchedBuses, known service) :
    ∀ service ∈ env.order s.matchedBuses, known service :=
  fun service member => knows service ((env.order_mem _ _).mp member)

variable (speech : Speech allowed known paths)

include speech

theorem getBusId_grows (env : Env) {service : String} (knows : known service) (s : MCTPImpl) :
    Grows allowed s (getBusId env service s).2 := by
  have read : ∀ name, name ≠ "NetworkID" → Grows allowed s (s.emit (.call (Property.get
      ⟨service, basePath, bindingToInterface s.config.bindingType, name⟩))) :=
    fun name other => .emit s (speech.read _ _ name knows other)
  unfold getBusId
  dsimp only
  split
  · split
    · exact read _ (by decide)
    · split
      · split <;> exact read _ (by decide)
      · exact read _ (by decide)
  · split <;> exact read _ (by decide)
  · exact .of_eq rfl rfl
  · exact .refl s

theorem vendorMatches_grows (env : Env) {service objectPath : String} (knows : known service)
    (listed : paths objectPath) (s : MCTPImpl) :
    Reports allowed s (vendorMatches env service objectPath s).2 := by
  have id := readPropertyValue_reports env.readString (vendorIdProperty service objectPath) s
    (speech.vendorId _ _ knows listed)
  have types := id.trans (readPropertyValue_reports env.readUint16s
    (messageTypeProperty service objectPath) _ (speech.messageType _ _ knows listed))
  unfold vendorMatches
  dsimp only
  split
  · exact .refl s
  · split
    · exact id
    · split
      · exact id
      · split
        · exact id
        · split
          · exact id
          · split <;> exact types

theorem acceptObject_grows (env : Env) {service : String} {object : String × Interfaces}
    (knows : known service) (listed : paths object.1) (s : MCTPImpl) :
    Grows allowed s (acceptObject env service object s).2 := by
  have vendor : Grows allowed s
      (if s.config.type = .vdpci then vendorMatches env service object.1 s else (.ok true, s)).2 := by
    split
    · exact .of_reports (vendorMatches_grows speech env knows listed s)
    · exact .refl s
  unfold acceptObject
  dsimp only
  split
  · exact .refl s
  · split
    · exact .refl s
    · split
      · exact .refl s
      · exact .refl s
      · split
        · exact vendor
        · exact vendor
        · split <;> exact vendor

theorem scanObjects_grows (env : Env) {bus : Bus} {nwid : UInt8} {values : DictType Interfaces}
    (knows : known bus.2) (listed : ∀ object ∈ values, paths object.1)
    (formed : ∀ eid, allowed (.identified bus.2 eid (DeviceID.make eid nwid)))
    (eids : EndpointMapExtended) (s : MCTPImpl) :
    Grows allowed s (scanObjects env bus nwid values eids s).2 := by
  induction values generalizing eids s with
  | nil => exact .refl s
  | cons object rest ih =>
      have accepted := acceptObject_grows speech env knows (listed object (.head _)) s
      have later := ih fun object member => listed object (.tail _ member)
      unfold scanObjects
      dsimp only
      split
      · exact accepted.trans (later _ _)
      · exact (accepted.trans (.emit _ (formed _))).trans (later _ _)

theorem scanService_grows (networked : Networked allowed known s) (env : Env) {bus : Bus}
    {values : DictType Interfaces} (knows : known bus.2)
    (listed : ∀ object ∈ values, paths object.1) (eids : EndpointMapExtended) :
    Grows allowed s (scanService env bus values eids s).2 :=
  (getNetworkID_grows networked env knows).trans
    (scanObjects_grows speech env knows listed
      (fun eid => networked.formed env bus.2 eid knows) eids _)

theorem registerResponderService_grows (env : Env) {service : String} (knows : known service)
    (s : MCTPImpl) : Grows allowed s (registerResponderService env service s).2 := by
  rcases registerResponderService_cases env service s with same | ⟨call, made, same⟩
  · rw [same]
    exact .refl s
  · rw [same]
    obtain ⟨_, rest, member, path, interface⟩ := registerCall_registration made
    cases rest
    refine .emit s (speech.register call ?_ path interface ⟨_, member⟩)
    unfold registerCall at made
    split at made
    · split at made
      · cases made
        exact knows
      · cases made
    · cases made
      exact knows

theorem registerServices_grows (env : Env) {services : List String}
    (knows : ∀ service ∈ services, known service) (status : ErrorCode) (s : MCTPImpl) :
    Grows allowed s (registerServices env services status s).2 := by
  induction services generalizing status s with
  | nil => exact .refl s
  | cons service rest ih =>
      have first := registerResponderService_grows speech env (knows service (.head _)) s
      unfold registerServices
      dsimp only
      split
      · exact first
      · exact first.trans (ih (fun other member => knows other (.tail _ member)) _ _)

theorem registerResponder_grows (env : Env) (specVersion : List VersionFields)
    (knows : ∀ service ∈ s.matchedBuses, known service) :
    Grows allowed s (registerResponder env specVersion s).2 := by
  unfold registerResponder
  split
  · exact .refl s
  · have registered := registerServices_grows speech env (knows_order env knows) .success
      { s with responderVersions := specVersion }
    exact ⟨registered.trace, registered.remembers⟩

theorem triggerGetOwnEID_grows (env : Env) {service : String} (knows : known service)
    (s : MCTPImpl) : Grows allowed s (triggerGetOwnEID env service s) := by
  unfold triggerGetOwnEID
  split
  · exact .refl s
  · have read := Grows.emit s (speech.read service baseInterface "Eid" knows (by decide))
    dsimp only
    split
    · exact read.trans (.emit _ (speech.quiet _ (by simp) (by simp)))
    · exact read

theorem triggerAll_grows (env : Env) {services : List String}
    (knows : ∀ service ∈ services, known service) (s : MCTPImpl) :
    Grows allowed s (triggerAll env services s) := by
  induction services generalizing s with
  | nil => exact .refl s
  | cons service rest ih =>
      exact (triggerGetOwnEID_grows speech env (knows service (.head _)) s).trans
        (ih (fun other member => knows other (.tail _ member)) _)

theorem getOwnEIDs_grows (env : Env) (callback : Option Nat)
    (knows : ∀ service ∈ s.matchedBuses, known service) :
    Grows allowed s (getOwnEIDs env callback s) := by
  unfold getOwnEIDs
  cases callback with
  | none => exact .refl s
  | some callback =>
      have reported := triggerAll_grows speech env (knows_order env knows)
        { s with eidChangeCallback := some callback }
      exact ⟨reported.trace, reported.remembers⟩

theorem matchService_grows (s : MCTPImpl) (service : String) :
    Grows allowed s (s.matchService service) := by
  unfold matchService
  split
  · exact .refl s
  · have fine := speech.quiet (.matched service) (by simp) (by simp)
    exact ⟨⟨[.matched service], by simpa using fine, rfl⟩, fun _ _ held => held⟩

omit speech

end MCTPImpl

/-- Every entry is routed to a service that is known. -/
def Routed (known : String → Prop) (eids : EndpointMapExtended) : Prop :=
  ∀ device entry, eids.find device = some entry → known entry.2

/-- The services a coroutine has in hand are known. -/
def Scan.Knows (known : String → Prop) : Scan → Prop
  | .getObject => True
  | .getNameOwner buses service rest =>
      (∀ bus ∈ buses, known bus.2) ∧ known service ∧ ∀ other ∈ rest, known other
  | .getManagedObjects eids bus rest =>
      Routed known eids ∧ known bus.2 ∧ ∀ other ∈ rest, known other.2

/-- The names and the object paths that come with a reply. -/
def Reply.names : Reply → List String
  | .object (.ok services) => services
  | .nameOwner (.ok uniqueName) => [uniqueName]
  | _ => []

def Reply.paths : Reply → List String
  | .managedObjects (.ok values) => values.map Prod.fst
  | _ => []

/-- The sender of a base object with the binding's interface introduces itself. -/
def Message.introduces (config : MCTPConfiguration) (msg : Message) : Bool :=
  match msg.signal with
  | .interfacesAdded objectPath values =>
      objectPath = basePath && (values.lookup (bindingToInterface config.bindingType)).isSome
  | _ => false

def Label.names (config : MCTPConfiguration) : Label → List String
  | .resume _ _ reply => reply.names
  | .signal _ msg => if msg.introduces config then [msg.sender] else []
  | _ => []

def Label.paths : Label → List String
  | .resume _ _ reply => reply.paths
  | _ => []

namespace MCTPImpl

variable {allowed : Effect → Prop} {known paths : String → Prop} {s t u : MCTPImpl}

/-- All services the library holds are known. -/
structure Acquainted (known : String → Prop) (s : MCTPImpl) : Prop where
  matched : ∀ service ∈ s.matchedBuses, known service
  routed : Routed known s.endpointMap
  spawned : ∀ service device, Spawned.newEID service device ∈ s.spawned → known service

theorem Acquainted.of_emits (acquainted : Acquainted known s) (emits : Emits allowed s t) :
    Acquainted known t := by
  obtain ⟨_, _, _, _, rfl⟩ := emits
  exact ⟨acquainted.matched, acquainted.routed, acquainted.spawned⟩

theorem Acquainted.of_match (acquainted : Acquainted known s) {service : String}
    (knows : known service) : Acquainted known (s.matchService service) := by
  refine ⟨?_, ?_, ?_⟩
  · intro other member
    rw [matchService_matchedBuses] at member
    rcases Finset.mem_insert.mp member with rfl | member
    · exact knows
    · exact acquainted.matched other member
  · rw [matchService_endpointMap]
    exact acquainted.routed
  · rw [matchService_spawned]
    exact acquainted.spawned

/-- The library has said what is allowed, and all it holds is known. -/
structure Speaks (allowed : Effect → Prop) (known : String → Prop) (s : MCTPImpl)
    (outcome : Progress × MCTPImpl) : Prop where
  grows : Grows allowed s outcome.2
  acquainted : Acquainted known outcome.2
  scan : ∀ scan, outcome.1 = .suspended scan → scan.Knows known

theorem Speaks.after {outcome : Progress × MCTPImpl} (first : Grows allowed s t)
    (speaks : Speaks allowed known t outcome) : Speaks allowed known s outcome :=
  ⟨first.trans speaks.grows, speaks.acquainted, speaks.scan⟩

theorem scanObjects_routed (env : Env) {bus : Bus} (nwid : UInt8) (values : DictType Interfaces)
    (knows : known bus.2) {eids : EndpointMapExtended} (routed : Routed known eids)
    (s : MCTPImpl) : Routed known (scanObjects env bus nwid values eids s).1 := by
  intro device entry filed
  rcases scanObjects_find filed with before | ⟨rfl, _⟩
  · exact routed device entry before
  · exact knows

variable (speech : Speech allowed known paths)

include speech

theorem finishDetect_speaks (env : Env) (acquainted : Acquainted known s) :
    Speaks allowed known s (finishDetect env s) := by
  refine ⟨?_, acquainted.of_emits (finishDetect_reports env s).emits,
    fun scan suspended => absurd suspended (finishDetect_not_suspended env s scan)⟩
  have registered : Grows allowed s
      (if s.responderVersions.isEmpty then (.ok .success, s)
        else registerResponder env s.responderVersions s).2 := by
    split
    · exact .refl s
    · exact registerResponder_grows speech env _ acquainted.matched
  have kept : (if s.responderVersions.isEmpty then (.ok .success, s)
      else registerResponder env s.responderVersions s).2.matchedBuses = s.matchedBuses := by
    split
    · rfl
    · obtain ⟨_, _, _, same⟩ := registerResponder_reports env s.responderVersions s
      rw [same]
  unfold finishDetect
  dsimp only
  generalize (if s.responderVersions.isEmpty then (.ok .success, s)
    else registerResponder env s.responderVersions s) = outcome at registered kept ⊢
  split
  · exact registered
  · refine registered.trans (getOwnEIDs_grows speech env _ ?_)
    rw [kept]
    exact acquainted.matched

theorem buildMatchingEndpointMap_speaks (env : Env) {eids : EndpointMapExtended}
    {buses : List Bus} (acquainted : Acquainted known s) (routed : Routed known eids)
    (knows : ∀ bus ∈ buses, known bus.2) :
    Speaks allowed known s (buildMatchingEndpointMap env eids buses s) := by
  unfold buildMatchingEndpointMap
  split
  · have filed : Grows allowed s { s with endpointMap := eids } := .of_eq rfl rfl
    exact .after filed (finishDetect_speaks speech env
      ⟨acquainted.matched, routed, acquainted.spawned⟩)
  · rename_i bus rest
    refine ⟨.emit s (speech.objects bus.2 (knows bus (.head _))),
      ⟨acquainted.matched, acquainted.routed, acquainted.spawned⟩, ?_⟩
    rintro _ ⟨⟩
    exact ⟨routed, knows bus (.head _), fun other member => knows other (.tail _ member)⟩

theorem findBuses_speaks (env : Env) {buses : List Bus} {services : List String}
    (acquainted : Acquainted known s) (found : ∀ bus ∈ buses, known bus.2)
    (knows : ∀ service ∈ services, known service) :
    Speaks allowed known s (findBuses env buses services s) := by
  induction services generalizing s with
  | nil =>
      have opened : Grows allowed s { s with isInitialisationsDone := true } := .of_eq rfl rfl
      exact .after opened (buildMatchingEndpointMap_speaks speech env
        ⟨acquainted.matched, acquainted.routed, acquainted.spawned⟩ (by simp [Routed]) found)
  | cons service rest ih =>
      have service_known := knows service (.head _)
      have rest_known : ∀ other ∈ rest, known other := fun other member =>
        knows other (.tail _ member)
      have read := getBusId_grows speech env service_known s
      have read_acquainted := acquainted.of_emits (getBusId_emits env service s)
      unfold findBuses
      dsimp only
      split
      · exact .after read (ih read_acquainted rest_known)
      · rename_i bus _
        refine ⟨read.trans (.emit _ (speech.owner service service_known)),
          read_acquainted.of_emits (Reports.call _ _).emits, ?_⟩
        rintro _ ⟨⟩
        refine ⟨?_, service_known, rest_known⟩
        intro other member
        rcases List.mem_append.mp member with member | member
        · exact found other member
        · rw [List.mem_singleton.mp member]
          exact service_known

theorem resume_speaks (networked : Networked allowed known s) {env : Env} {scan : Scan}
    {reply : Reply} {outcome : Progress × MCTPImpl} (acquainted : Acquainted known s)
    (scanned : scan.Knows known) (names : ∀ name ∈ reply.names, known name)
    (listed : ∀ objectPath ∈ reply.paths, paths objectPath)
    (resumed : resume env scan reply s = some outcome) : Speaks allowed known s outcome := by
  cases resume_resumes resumed with
  | unlisted failed =>
      have opened : Grows allowed s { s with isInitialisationsDone := true } := .of_eq rfl rfl
      exact .after opened (finishDetect_speaks speech env
        ⟨acquainted.matched, acquainted.routed, acquainted.spawned⟩)
  | listed services => exact findBuses_speaks speech env acquainted (by simp) names
  | owned buses service rest reply name matched =>
      obtain ⟨found, asked, later⟩ := scanned
      have named : known name := by
        cases reply with
        | nameOwner answer =>
            cases answer with
            | error failed =>
                cases matched
                exact asked
            | ok uniqueName =>
                cases matched
                exact names name (.head _)
        | _ => cases matched
      exact .after (matchService_grows speech s name)
        (findBuses_speaks speech env (acquainted.of_match named) found later)
  | skipped eids bus rest failed =>
      obtain ⟨routed, _, later⟩ := scanned
      exact buildMatchingEndpointMap_speaks speech env acquainted routed later
  | scanned eids bus rest values =>
      obtain ⟨routed, knows, later⟩ := scanned
      have paths_known : ∀ object ∈ values, paths object.1 := fun object member =>
        listed object.1 (List.mem_map_of_mem member)
      exact .after (scanService_grows speech networked env knows paths_known eids)
        (buildMatchingEndpointMap_speaks speech env
          (acquainted.of_emits (scanService_emits env bus values eids s))
          (scanObjects_routed env _ values knows routed _) later)

theorem deliver_grows (networked : Networked allowed known s) (env : Env) {sender : String}
    (knows : known sender) (srcEid msgTag : UInt8) (tagOwner : Bool) (payload : ByteArray) :
    Grows allowed s (deliver env sender srcEid msgTag tagOwner payload s) := by
  have plain : Grows allowed s
      (if s.receiveCallback then s.emit (.received srcEid tagOwner msgTag payload) else s) := by
    split
    · exact .emit s (speech.quiet _ (by simp) (by simp))
    · exact .refl s
  have cache : (if s.receiveCallback then s.emit (.received srcEid tagOwner msgTag payload)
      else s).networkIDCache = s.networkIDCache := by
    split <;> rfl
  unfold deliver
  dsimp only
  generalize (if s.receiveCallback then s.emit (.received srcEid tagOwner msgTag payload) else s) =
    handed at plain cache ⊢
  have networked' := networked.of_eq cache
  split
  · have extended := speech.quiet (.extReceived (DeviceID.make srcEid (getNetworkID env sender
      handed).1) tagOwner msgTag payload) (by simp) (by simp)
    exact ((plain.trans (getNetworkID_grows networked' env knows)).trans
      (.emit _ (networked'.formed env sender srcEid knows))).trans (.emit _ extended)
  · exact plain

theorem onMessageReceived_grows (networked : Networked allowed known s) (env : Env)
    {sender : String} (knows : known sender) (messageType srcEid msgTag : UInt8) (tagOwner : Bool)
    (payload : ByteArray) : Grows allowed s
      (onMessageReceived env sender messageType srcEid msgTag tagOwner payload s).2 := by
  unfold onMessageReceived
  split
  · exact .refl s
  · split
    · exact .refl s
    · split
      · have inspected := Grows.emit s
          (speech.quiet (.inspected (vendorHeaderMatches env payload s).offsets) (by simp) (by simp))
        have networked' : Networked allowed known
            (s.emit (.inspected (vendorHeaderMatches env payload s).offsets)) := networked.of_eq rfl
        dsimp only
        split
        · exact inspected
        · exact inspected
        · exact inspected.trans (deliver_grows speech networked' env knows _ _ _ _)
      · exact deliver_grows speech networked env knows _ _ _ _

theorem onNewService_grows (env : Env) {sender : String} (knows : known sender) (s : MCTPImpl) :
    Grows allowed s (onNewService env sender s).2 := by
  have registered := (matchService_grows speech s sender).trans
    (registerResponderService_grows speech env knows _)
  unfold onNewService
  dsimp only
  split
  · exact registered
  · exact registered.trans (triggerGetOwnEID_grows speech env knows _)

omit speech in
/-- A sender that is neither matched nor introduces itself is not listened to. -/
theorem onMCTPEvent_sender (env : Env) (msg : Message) (s : MCTPImpl) :
    msg.sender ∈ s.matchedBuses ∨ msg.introduces s.config = true ∨
      onMCTPEvent env msg s = (.ok (), s) := by
  by_cases matched : msg.sender ∈ s.matchedBuses
  · exact .inl matched
  · refine .inr ?_
    obtain ⟨sender, signal⟩ := msg
    unfold onMCTPEvent Message.introduces
    cases signal with
    | interfacesAdded objectPath values =>
        by_cases base : objectPath = basePath
        · cases held : values.lookup (bindingToInterface s.config.bindingType) with
          | some properties => exact .inl (by simp [base, held])
          | none =>
              right
              simp only [onNewInterface, if_pos base, held]
              split <;> rfl
        · right
          simp only [onNewInterface, if_neg base, if_pos matched]
          split <;> rfl
    | other member =>
        right
        split <;> rfl
    | _ =>
        right
        simp only [if_pos matched]
        split <;> rfl

/-- The library has said what is allowed, and all it holds is known. -/
theorem onMCTPEvent_speaks (networked : Networked allowed known s) (env : Env) {msg : Message}
    (acquainted : Acquainted known s)
    (introduced : msg.introduces s.config = true → known msg.sender) :
    Grows allowed s (onMCTPEvent env msg s).2 ∧ Acquainted known (onMCTPEvent env msg s).2 := by
  have heard (knows : known msg.sender) :
      Grows allowed s (onMCTPEvent env msg s).2 ∧ Acquainted known (onMCTPEvent env msg s).2 := by
    have looked := fun objectPath => getDeviceIDFromPath_grows networked env objectPath knows
    have looked_acquainted := fun objectPath =>
      acquainted.of_emits (getDeviceIDFromPath_emits env objectPath msg.sender s)
    have handles := onMCTPEvent_handles env msg s
    generalize (onMCTPEvent env msg s).2 = t at handles ⊢
    cases handles with
    | ignored => exact ⟨.refl s, acquainted⟩
    | newService values =>
        exact ⟨onNewService_grows speech env knows s,
          (acquainted.of_match knows).of_emits (onNewService_reports env msg.sender s).emits⟩
    | looked objectPath => exact ⟨looked objectPath, looked_acquainted objectPath⟩
    | newEID objectPath values device =>
        obtain ⟨matched, routed, spawned⟩ := looked_acquainted objectPath
        refine ⟨(looked objectPath).trans (.of_eq rfl rfl), matched, routed, ?_⟩
        intro service other member
        rcases List.mem_append.mp member with member | member
        · exact acquainted.spawned service other member
        · cases List.mem_singleton.mp member
          exact knows
    | eidRemoved objectPath interfaces device =>
        obtain ⟨matched, routed, spawned⟩ := looked_acquainted objectPath
        obtain ⟨more, notices, same⟩ :=
          onEIDRemoved_eq device (getDeviceIDFromPath env objectPath msg.sender s).2
        rw [same]
        refine ⟨(looked objectPath).trans (.of_eq rfl rfl), matched, ?_, ?_⟩
        · intro other entry held
          rw [UnorderedMap.find_erase] at held
          split at held
          · cases held
          · exact routed other entry held
        · intro service other member
          rcases List.mem_append.mp member with member | member
          · exact spawned service other member
          · cases notices _ member
    | serviceRemoved interfaces =>
        refine ⟨.of_eq rfl rfl, ?_, acquainted.routed, acquainted.spawned⟩
        exact fun service member => acquainted.matched service (Finset.mem_of_mem_erase member)
    | message messageType srcEid msgTag tagOwner payload =>
        exact ⟨onMessageReceived_grows speech networked env knows _ _ _ _ _,
          acquainted.of_emits (onMessageReceived_emits env msg.sender _ _ _ _ _ s)⟩
    | ownEID callback eid =>
        exact ⟨.emit s (speech.quiet _ (by simp) (by simp)),
          ⟨acquainted.matched, acquainted.routed, acquainted.spawned⟩⟩
  rcases onMCTPEvent_sender env msg s with matched | introduces | same
  · exact heard (acquainted.matched msg.sender matched)
  · exact heard (introduced introduces)
  · rw [same]
    exact ⟨.refl s, acquainted⟩

theorem send_grows (request : SendRequest) (devID : DeviceID) (acquainted : Acquainted known s) :
    Grows allowed s (send request devID s) := by
  cases held : s.endpointMap.find devID with
  | some entry =>
      rw [send_known request devID s entry held]
      exact .emit s (speech.sent request entry.2 devID (acquainted.routed devID entry held))
  | none =>
      cases request with
      | sendAsync callback msgTag tagOwner request =>
          simp only [send, sendAsync, held]
          split
          · exact .emit s (speech.quiet _ (by simp) (by simp))
          · exact .refl s
      | sendReceiveAsync callback request timeout =>
          simp only [send, sendReceiveAsync, held]
          split
          · exact .emit s (speech.quiet _ (by simp) (by simp))
          · exact .refl s
      | _ =>
          simp only [send, sendYield, sendReceiveYield, sendReceiveBlocked, held]
          exact .refl s

omit speech

end MCTPImpl

namespace System

variable {allowed : Effect → Prop} {known paths : String → Prop} {s t : System}

structure Acquainted (known : String → Prop) (s : System) : Prop where
  lib : s.lib.Acquainted known
  scans : ∀ scan ∈ s.scans, scan.Knows known

theorem resume_speaks (speech : Speech allowed known paths)
    (networked : s.lib.Networked allowed known) (acquainted : s.Acquainted known) {index : Nat}
    {env : Env} {reply : Reply} (names : ∀ name ∈ reply.names, known name)
    (listed : ∀ objectPath ∈ reply.paths, paths objectPath)
    (stepped : s.step (.resume index env reply) = some t) :
    MCTPImpl.Grows allowed s.lib t.lib ∧ t.Acquainted known := by
  obtain ⟨lib, scans⟩ := acquainted
  obtain ⟨scan, progress, next, waiting, resumed, rfl, left⟩ := step_resume stepped
  have speaks := MCTPImpl.resume_speaks speech networked lib
    (scans scan (List.mem_of_getElem? waiting)) names listed resumed
  refine ⟨speaks.grows, speaks.acquainted, ?_⟩
  rcases left with ⟨following, rfl, same⟩ | ⟨ec, _, same⟩
  · intro other member
    rw [same] at member
    rcases List.mem_or_eq_of_mem_set member with member | rfl
    · exact scans other member
    · exact speaks.scan other rfl
  · intro other member
    rw [same] at member
    exact scans other (List.mem_of_mem_eraseIdx member)

theorem body_speaks (speech : Speech allowed known paths) (acquainted : s.Acquainted known)
    (stepped : s.step .body = some t) :
    MCTPImpl.Grows allowed s.lib t.lib ∧ t.Acquainted known := by
  obtain ⟨lib, scans⟩ := acquainted
  obtain ⟨body, rest, queued, rfl⟩ := step_body stepped
  have rest_known : ∀ service device, Spawned.newEID service device ∈ rest → known service :=
    fun service device member => lib.spawned service device (by rw [queued]; exact .tail _ member)
  obtain ⟨eids, event, same⟩ := MCTPImpl.runSpawned_eq body rest s.lib
  have routed : Routed known
      (MCTPImpl.runSpawned body { s.lib with spawned := rest }).endpointMap := by
    intro device entry found
    rcases MCTPImpl.runSpawned_find found with before | ⟨service, rfl, rfl⟩
    · exact lib.routed device entry before
    · exact lib.spawned service device (by rw [queued]; exact .head _)
  rw [same] at routed ⊢
  refine ⟨⟨⟨[.networkChange event], ?_, rfl⟩, fun _ _ held => held⟩,
    ⟨lib.matched, routed, rest_known⟩, scans⟩
  have fine := speech.quiet (.networkChange event) (by simp) (by simp)
  simpa using fine

/-- Whatever happens, what is said is in the class, and no service is taken up
but those named to the library. -/
theorem step_speaks (speech : Speech allowed known paths)
    (networked : s.lib.Networked allowed known) (acquainted : s.Acquainted known) {label : Label}
    (names : ∀ name ∈ label.names s.lib.config, known name)
    (listed : ∀ objectPath ∈ label.paths, paths objectPath) (stepped : s.step label = some t) :
    MCTPImpl.Grows allowed s.lib t.lib ∧ t.Acquainted known := by
  obtain ⟨lib, scans⟩ := acquainted
  cases label with
  | detect =>
      cases stepped
      have watching : MCTPImpl.Grows allowed s.lib { s.lib with mctpChangesWatch := true } :=
        .of_eq rfl rfl
      refine ⟨watching.trans (.emit _ (speech.mapper _)), ⟨lib.matched, lib.routed, lib.spawned⟩, ?_⟩
      intro scan member
      rcases List.mem_append.mp member with member | member
      · exact scans scan member
      · rw [List.mem_singleton.mp member]
        trivial
  | resume index env reply =>
      exact resume_speaks speech networked ⟨lib, scans⟩ names listed stepped
  | signal env msg =>
      obtain ⟨_, _, rfl⟩ := step_signal stepped
      obtain ⟨grows, kept⟩ := MCTPImpl.onMCTPEvent_speaks speech networked env lib fun introduces =>
        names msg.sender (by simp [Label.names, introduces])
      exact ⟨grows, kept, scans⟩
  | body => exact body_speaks speech ⟨lib, scans⟩ stepped
  | registerResponder env specVersion =>
      rw [step_registerResponder stepped]
      refine ⟨MCTPImpl.registerResponder_grows speech env _ lib.matched, ?_, scans⟩
      obtain ⟨_, _, _, same⟩ := MCTPImpl.registerResponder_reports env specVersion s.lib
      rw [same]
      exact ⟨lib.matched, lib.routed, lib.spawned⟩
  | getOwnEIDs env callback =>
      cases stepped
      refine ⟨MCTPImpl.getOwnEIDs_grows speech env _ lib.matched, ?_, scans⟩
      obtain ⟨_, _, _, same⟩ := MCTPImpl.getOwnEIDs_reports env callback s.lib
      rw [same]
      exact ⟨lib.matched, lib.routed, lib.spawned⟩
  | setExtendedReceiveCallback callback =>
      cases stepped
      dsimp only [MCTPImpl.setExtendedReceiveCallback]
      split
      · exact ⟨.of_eq rfl rfl, lib, scans⟩
      · exact ⟨.of_eq rfl rfl, ⟨lib.matched, lib.routed, lib.spawned⟩, scans⟩
  | send request devID =>
      cases stepped
      exact ⟨MCTPImpl.send_grows speech request devID lib,
        lib.of_emits (MCTPImpl.send_reports request devID s.lib).emits, scans⟩

/-- Every effect and every service: what is left is what is remembered. -/
theorem anything_speech : Speech (fun _ => True) (fun _ => True) (fun _ => True) := by
  constructor <;> intros <;> trivial

theorem anything_acquainted (s : System) : s.Acquainted fun _ => True := by
  refine ⟨⟨fun _ _ => trivial, fun _ _ _ => trivial, fun _ _ _ => trivial⟩, ?_⟩
  intro scan _
  cases scan with
  | getObject => trivial
  | getNameOwner => exact ⟨fun _ _ => trivial, trivial, fun _ _ => trivial⟩
  | getManagedObjects => exact ⟨fun _ _ _ => trivial, trivial, fun _ _ => trivial⟩

end System

end Mctpw
