import Mctpw.Selection

set_option autoImplicit false

/- Which DeviceIDs a step of the library forms, and from what. -/
namespace Mctpw

open Runs Strings

/-- The world a label brings along. -/
def Label.env : Label → Option Env
  | .resume _ env _ => some env
  | .signal env _ => some env
  | .registerResponder env _ => some env
  | .getOwnEIDs env _ => some env
  | _ => none

/-- Every read of a NetworkID succeeds, with the network of the name. -/
def ReadsNetworks (network : String → UInt8) (label : Label) : Prop :=
  ∀ env, label.env = some env →
    ∀ name, env.readByte (networkIDProperty name) = some (network name)

/-- The step forms a DeviceID for the endpoint of that EID behind the name: its EID is
spelled by the path of an object, or it is the source of a message. -/
def FormsFor (s : System) (name : String) (eid : UInt8) : Label → Prop
  | .resume index env reply =>
      ∃ eids bus rest values object, s.scans[index]? = some (.getManagedObjects eids bus rest) ∧
        reply = .managedObjects (.ok values) ∧ name = bus.2 ∧ object ∈ values ∧
        (MCTPImpl.acceptObject env bus.2 object s.lib).1.isSome ∧
        MCTPImpl.splitEID object.1 = .ok eid
  | .signal env ⟨sender, signal⟩ =>
      name = sender ∧ s.lib.isInitialisationsDone = true ∧ sender ∈ s.lib.matchedBuses ∧
        match signal with
        | .interfacesAdded objectPath values =>
            startsWith objectPath endpointPrefix = true ∧ MCTPImpl.pathEID objectPath = some eid ∧
              ∃ properties, values.lookup supportedMessageTypes = some properties ∧
                supportsType s.lib.config.type properties = .ok true
        | .interfacesRemoved objectPath interfaces =>
            startsWith objectPath endpointPrefix = true ∧ MCTPImpl.pathEID objectPath = some eid ∧
              supportedMessageTypes ∈ interfaces
        | .messageReceived messageType srcEid _ _ payload =>
            srcEid = eid ∧ s.lib.extReceiveCallback = true ∧
              messageType = s.lib.config.type.toByte ∧
              (s.lib.config.type = .vdpci →
                (MCTPImpl.vendorHeaderMatches env payload s.lib).result = .ok true)
        | _ => False
  | _ => False

/-- No DeviceID occurs in the effect. -/
def Effect.Silent : Effect → Prop
  | .identified _ _ _ => False
  | .networkChange _ => False
  | .extReceived _ _ _ _ => False
  | _ => True

namespace MCTPImpl

/-- More history in which no DeviceID occurs, and the cache as it was. -/
def Quiet (s t : MCTPImpl) : Prop :=
  t.networkIDCache = s.networkIDCache ∧ ∃ effects, t.trace = s.trace ++ effects ∧
    ∀ effect ∈ effects, effect.Silent

theorem Quiet.trans {s t u : MCTPImpl} (first : Quiet s t) (second : Quiet t u) : Quiet s u := by
  obtain ⟨cache, effects, trace, silent⟩ := first
  obtain ⟨cache', effects', trace', silent'⟩ := second
  refine ⟨cache'.trans cache, effects ++ effects', ?_, ?_⟩
  · rw [trace', trace, List.append_assoc]
  · intro effect member
    rcases List.mem_append.mp member with member | member
    · exact silent effect member
    · exact silent' effect member

theorem Quiet.refl (s : MCTPImpl) : Quiet s s := ⟨rfl, [], by simp, by simp⟩

theorem Reports.quiet {allowed : Effect → Prop} {s t : MCTPImpl} (reports : Reports allowed s t)
    (silent : ∀ effect, allowed effect → effect.Silent) : Quiet s t := by
  obtain ⟨effects, fine, rfl⟩ := reports
  exact ⟨rfl, effects, rfl, fun effect member => silent effect (fine effect member)⟩

theorem Quiet.emit (s : MCTPImpl) {effect : Effect} (silent : effect.Silent) :
    Quiet s (s.emit effect) :=
  (Reports.emit s silent).quiet fun _ => id

theorem read_silent (effect : Effect) (read : effect.Read) : effect.Silent := by
  cases read
  trivial

theorem finishing_silent (config : MCTPConfiguration) (effect : Effect)
    (finishing : effect.Finishing config) : effect.Silent := by
  rcases finishing with ⟨call, rfl, _⟩ | report
  · trivial
  · cases report <;> trivial

theorem matchService_quiet (s : MCTPImpl) (serviceName : String) :
    Quiet s (s.matchService serviceName) := by
  unfold matchService
  split
  · exact .refl s
  · exact ⟨rfl, [.matched serviceName], rfl, by simp [Effect.Silent]⟩

theorem finishDetect_quiet (env : Env) (s : MCTPImpl) : Quiet s (finishDetect env s).2 :=
  (finishDetect_reports env s).quiet (finishing_silent s.config)

theorem buildMatchingEndpointMap_quiet (env : Env) (eids : EndpointMapExtended) (buses : List Bus)
    (s : MCTPImpl) : Quiet s (buildMatchingEndpointMap env eids buses s).2 := by
  unfold buildMatchingEndpointMap
  cases buses with
  | nil => exact finishDetect_quiet env { s with endpointMap := eids }
  | cons bus rest => exact .emit s trivial

theorem findBuses_quiet (env : Env) (buses : List Bus) (services : List String) (s : MCTPImpl) :
    Quiet s (findBuses env buses services s).2 := by
  obtain ⟨_, read, reads, outcome⟩ := findBuses_cases env buses services s
  have quiet : Quiet s read := reads.quiet read_silent
  rcases outcome with built | ⟨_, service, _, asked⟩
  · rw [built]
    have ended := buildMatchingEndpointMap_quiet env ∅ buses { read with isInitialisationsDone := true }
    exact quiet.trans ended
  · rw [asked]
    exact quiet.trans (.emit read trivial)

theorem onNewService_quiet (env : Env) (serviceName : String) (s : MCTPImpl) :
    Quiet s (onNewService env serviceName s).2 :=
  (matchService_quiet s serviceName).trans
    ((onNewService_reports env serviceName s).quiet (finishing_silent s.config))

/-- An effect of a step that began in `s`: a DeviceID formed carries the network
`s` remembers, or 0, and one handed to the extended callback has been formed. -/
def Formed (s : MCTPImpl) (effects : List Effect) : Effect → Prop
  | .identified name eid device =>
      device = DeviceID.make eid ((s.networkIDCache.find name).getD 0)
  | .extReceived device _ _ _ => ∃ name eid, .identified name eid device ∈ effects
  | .networkChange _ => False
  | _ => True

theorem Formed.of_silent {s : MCTPImpl} {effects : List Effect} {effect : Effect}
    (silent : effect.Silent) : Formed s effects effect := by
  cases effect <;> first | exact silent.elim | trivial

theorem Formed.mono {s : MCTPImpl} {effects more : List Effect} {effect : Effect}
    (subset : effects ⊆ more) (formed : Formed s effects effect) : Formed s more effect := by
  cases effect with
  | extReceived =>
      obtain ⟨name, eid, member⟩ := formed
      exact ⟨name, eid, subset member⟩
  | _ => exact formed

/-- `t` goes on from `s`: what it has learnt is right, and the DeviceIDs formed
on the way are formed from `s`, for exactly the names and EIDs given. -/
structure Identifies (network : String → UInt8) (s t : MCTPImpl) (forms : String → UInt8 → Prop) :
    Prop where
  learnt : ∀ name value, t.networkIDCache.find name = some value →
    s.networkIDCache.find name = some value ∨ value = network name
  formed : ∃ effects, t.trace = s.trace ++ effects ∧
    (∀ effect ∈ effects, Formed s effects effect) ∧
    ∀ name eid, (∃ device, .identified name eid device ∈ effects) ↔ forms name eid

variable {network : String → UInt8} {s t u : MCTPImpl} {forms : String → UInt8 → Prop}

theorem not_identified {effects : List Effect} (silent : ∀ effect ∈ effects, effect.Silent)
    (name : String) (eid : UInt8) (device : DeviceID) : .identified name eid device ∉ effects :=
  fun member => silent _ member

theorem Quiet.identifies (quiet : Quiet s t) : Identifies network s t fun _ _ => False := by
  obtain ⟨cache, effects, trace, silent⟩ := quiet
  refine ⟨fun name value found => .inl (cache ▸ found), effects, trace, ?_, ?_⟩
  · exact fun effect member => .of_silent (silent effect member)
  · simp [not_identified silent]

theorem Identifies.congr {forms' : String → UInt8 → Prop} (identifies : Identifies network s t forms)
    (same : ∀ name eid, forms name eid ↔ forms' name eid) : Identifies network s t forms' := by
  obtain rfl : forms = forms' := funext fun name => funext fun eid => propext (same name eid)
  exact identifies

theorem Identifies.append {forms' : String → UInt8 → Prop} {more : List Effect}
    (identifies : Identifies network s t forms) (cache : u.networkIDCache = t.networkIDCache)
    (trace : u.trace = t.trace ++ more) (fine : ∀ effect ∈ more, Formed s more effect)
    (names : ∀ name eid, (∃ device, .identified name eid device ∈ more) ↔ forms' name eid) :
    Identifies network s u fun name eid => forms name eid ∨ forms' name eid := by
  obtain ⟨learnt, effects, before, formed, exact⟩ := identifies
  rw [← cache] at learnt
  refine ⟨learnt, effects ++ more, by rw [trace, before, List.append_assoc], ?_, ?_⟩
  · intro effect member
    rcases List.mem_append.mp member with member | member
    · exact (formed effect member).mono (List.subset_append_left _ _)
    · exact (fine effect member).mono (List.subset_append_right _ _)
  · intro name eid
    simp only [List.mem_append, exists_or, exact, names]

theorem Identifies.quiet (identifies : Identifies network s t forms) (quiet : Quiet t u) :
    Identifies network s u forms := by
  obtain ⟨cache, more, trace, silent⟩ := quiet
  have none : ∀ name eid, (∃ device, .identified name eid device ∈ more) ↔ False := by
    simp [not_identified silent]
  have fine : ∀ effect ∈ more, Formed s more effect :=
    fun effect member => .of_silent (silent effect member)
  exact (identifies.append cache trace fine none).congr fun name eid => by simp

theorem Identifies.emit (identifies : Identifies network s t forms) {name : String} {eid : UInt8}
    {device : DeviceID}
    (right : device = DeviceID.make eid ((s.networkIDCache.find name).getD 0)) :
    Identifies network s (t.emit (.identified name eid device))
      fun other eid' => forms other eid' ∨ (other = name ∧ eid = eid') := by
  refine identifies.append rfl rfl ?_ ?_
  · simpa [Formed] using right
  · simp [eq_comm]

/-- The DeviceID just formed goes to the extended callback. -/
theorem Identifies.handOver (identifies : Identifies network s t forms) {name : String}
    {eid : UInt8} {device : DeviceID} (tagOwner : Bool) (msgTag : UInt8) (payload : ByteArray)
    (right : device = DeviceID.make eid ((s.networkIDCache.find name).getD 0)) :
    Identifies network s
      ((t.emit (.identified name eid device)).emit (.extReceived device tagOwner msgTag payload))
      fun other eid' => forms other eid' ∨ (other = name ∧ eid = eid') := by
  have trace : ((t.emit (.identified name eid device)).emit
      (.extReceived device tagOwner msgTag payload)).trace =
      t.trace ++ [.identified name eid device, .extReceived device tagOwner msgTag payload] := by
    simp [MCTPImpl.emit]
  refine identifies.append rfl trace ?_ ?_
  · simp [Formed, right]
  · simp [eq_comm]

theorem Quiet.andThen (quiet : Quiet s t) (identifies : Identifies network t u forms) :
    Identifies network s u forms := by
  obtain ⟨cache, effects, trace, silent⟩ := quiet
  obtain ⟨learnt, effects', trace', formed, exact⟩ := identifies
  have same : ∀ effect, Formed t effects' effect → Formed s effects' effect := by
    intro effect formed
    cases effect with
    | identified =>
        rw [Formed, ← cache]
        exact formed
    | _ => exact formed
  rw [cache] at learnt
  refine ⟨learnt, effects ++ effects', ?_, ?_, ?_⟩
  · rw [trace', trace, List.append_assoc]
  · intro effect member
    rcases List.mem_append.mp member with member | member
    · exact .of_silent (silent effect member)
    · exact (same effect (formed effect member)).mono (List.subset_append_right _ _)
  · intro name eid
    simp only [List.mem_append, not_identified silent, false_or, exact]

theorem getNetworkID_fst (env : Env) (serviceName : String) (s : MCTPImpl) :
    (getNetworkID env serviceName s).1 = (s.networkIDCache.find serviceName).getD 0 := by
  unfold getNetworkID
  cases s.networkIDCache.find serviceName with
  | some networkID => rfl
  | none =>
      dsimp only
      split <;> rfl

theorem getNetworkID_identifies {env : Env} (serviceName : String)
    (reads : env.readByte (networkIDProperty serviceName) = some (network serviceName))
    (s : MCTPImpl) :
    Identifies network s (getNetworkID env serviceName s).2 fun _ _ => False := by
  cases cached : s.networkIDCache.find serviceName with
  | some networkID =>
      have same : (getNetworkID env serviceName s).2 = s := by
        simp only [getNetworkID, cached]
      rw [same]
      exact (Quiet.refl s).identifies
  | none =>
      have missed : (getNetworkID env serviceName s).2 =
          { s.emit (.call (networkIDProperty serviceName).get) with
            networkIDCache := s.networkIDCache.emplace serviceName (network serviceName) } := by
        simp only [getNetworkID, cached, readPropertyValue, reads]
        rfl
      have asked : Quiet s (s.emit (.call (networkIDProperty serviceName).get)) :=
        .emit s trivial
      have silent : Identifies network s _ fun _ _ => False := asked.identifies
      rw [missed]
      refine ⟨?_, silent.formed⟩
      intro name value found
      rw [UnorderedMap.find_emplace, cached, Option.getD_none] at found
      split at found
      · rename_i same
        rw [same]
        exact .inr (Option.some.inj found).symm
      · exact .inl found

/-- Reads answered as the networks have it. -/
def EnvReads (network : String → UInt8) (env : Env) : Prop :=
  ∀ name, env.readByte (networkIDProperty name) = some (network name)

theorem getDeviceIDFromPath_identifies {env : Env} (reads : EnvReads network env)
    (objectPath serviceName : String) (s : MCTPImpl) :
    Identifies network s (getDeviceIDFromPath env objectPath serviceName s).2
      fun name eid => name = serviceName ∧ pathEID objectPath = some eid := by
  have silent : Identifies network s s fun _ _ => False := (Quiet.refl s).identifies
  have network := getNetworkID_identifies serviceName (reads serviceName) s
  have answer := getNetworkID_fst env serviceName s
  unfold getDeviceIDFromPath pathEID
  cases findLastOf '/' objectPath.toList with
  | none => exact silent.congr fun name eid => by simp
  | some slashLoc =>
      by_cases low : slashLoc < 2
      · simp only [low, ↓reduceIte]
        exact silent.congr fun name eid => by simp
      · simp only [low, ↓reduceIte]
        cases stoi 10 (objectPath.toList.drop (slashLoc + 1)) with
        | error failed => exact network.congr fun name eid => by simp
        | ok value => exact (network.emit (by rw [answer])).congr fun name eid => by simp

/-- Whether an object is accepted does not depend on the history. -/
theorem acceptObject_fst_congr (env : Env) (service : String) (object : String × Interfaces)
    {s t : MCTPImpl} (host : t.host = s.host) (config : t.config = s.config) :
    (acceptObject env service object t).1 = (acceptObject env service object s).1 := by
  apply Option.ext
  intro eid
  rw [acceptObject_eq_some_iff, acceptObject_eq_some_iff, host, config]

/-- What is accepted is filed under the EID its path spells. -/
theorem acceptObject_eq_some {env : Env} {service : String} {object : String × Interfaces} {eid : UInt8} :
    (acceptObject env service object s).1 = some eid ↔
      (acceptObject env service object s).1.isSome ∧ splitEID object.1 = .ok eid := by
  have spelled : ∀ eid', (acceptObject env service object s).1 = some eid' →
      splitEID object.1 = .ok eid' := fun eid' accepted =>
    splitEID_eq_ok_iff.mpr ((acceptObject_eq_some_iff env service object s eid').mp accepted).path
  constructor
  · intro accepted
    exact ⟨by rw [accepted]; rfl, spelled eid accepted⟩
  · rintro ⟨some, read⟩
    obtain ⟨eid', accepted⟩ := Option.isSome_iff_exists.mp some
    have same := spelled eid' accepted
    rw [read] at same
    cases same
    exact accepted

theorem scanObjects_identifies (env : Env) (bus : Bus) {nwid : UInt8}
    (answer : nwid = (s.networkIDCache.find bus.2).getD 0) (values : DictType Interfaces)
    (eids : EndpointMapExtended) (identifies : Identifies network s t forms) :
    Identifies network s (scanObjects env bus nwid values eids t).2 fun name eid =>
      forms name eid ∨
        (name = bus.2 ∧ ∃ object ∈ values, (acceptObject env bus.2 object t).1 = some eid) := by
  induction values generalizing eids t forms with
  | nil => exact identifies.congr fun name eid => by simp
  | cons object rest ih =>
      have reports := acceptObject_reports env bus.2 object t
      have accepted : Identifies network s (acceptObject env bus.2 object t).2 forms :=
        identifies.quiet (reports.quiet read_silent)
      have later : ∀ {u}, Reports (fun _ => True) t u → ∀ other,
          (acceptObject env bus.2 other u).1 = (acceptObject env bus.2 other t).1 := by
        rintro _ ⟨_, _, rfl⟩ other
        exact acceptObject_fst_congr env bus.2 other rfl rfl
      have grown := reports.mono fun _ _ => trivial
      unfold scanObjects
      dsimp only
      cases outcome : (acceptObject env bus.2 object t).1 with
      | none =>
          refine (ih eids accepted).congr fun name eid => ?_
          simp [later grown, outcome]
      | some eid =>
          have device : DeviceID.make eid nwid =
              DeviceID.make eid ((s.networkIDCache.find bus.2).getD 0) := by rw [answer]
          refine (ih (eids.assign (DeviceID.make eid nwid) bus) (accepted.emit device)).congr
            fun name eid => ?_
          simp [later (grown.trans (.emit _ trivial)), outcome]
          tauto

theorem scanService_identifies {env : Env} (reads : EnvReads network env) (bus : Bus)
    (values : DictType Interfaces) (eids : EndpointMapExtended) (s : MCTPImpl) :
    Identifies network s (scanService env bus values eids s).2 fun name eid =>
      name = bus.2 ∧ ∃ object ∈ values, (acceptObject env bus.2 object s).1 = some eid := by
  have network := getNetworkID_identifies bus.2 (reads bus.2) s
  obtain ⟨_, _, _, _, same⟩ := getNetworkID_emits env bus.2 s
  refine (scanObjects_identifies env bus (getNetworkID_fst env bus.2 s) values eids network).congr
    fun name eid => ?_
  have kept : ∀ object, (acceptObject env bus.2 object (getNetworkID env bus.2 s).2).1 =
      (acceptObject env bus.2 object s).1 :=
    fun object => acceptObject_fst_congr env bus.2 object (by rw [same]) (by rw [same])
  simp [kept]

theorem deliver_identifies {env : Env} (reads : EnvReads network env) (sender : String)
    (srcEid msgTag : UInt8) (tagOwner : Bool) (payload : ByteArray) (s : MCTPImpl) :
    Identifies network s (deliver env sender srcEid msgTag tagOwner payload s)
      fun name eid => name = sender ∧ srcEid = eid ∧ s.extReceiveCallback = true := by
  have plain : ∃ handed, Quiet s handed ∧
      handed = if s.receiveCallback then s.emit (.received srcEid tagOwner msgTag payload) else s := by
    refine ⟨_, ?_, rfl⟩
    split
    · exact .emit s trivial
    · exact .refl s
  obtain ⟨handed, quiet, same⟩ := plain
  unfold deliver
  dsimp only
  rw [← same]
  cases ext : s.extReceiveCallback with
  | false => exact quiet.identifies.congr fun name eid => by simp
  | true =>
      have looked := getNetworkID_identifies sender (reads sender) handed
      have answer := getNetworkID_fst env sender handed
      have right : DeviceID.make srcEid (getNetworkID env sender handed).1 =
          DeviceID.make srcEid ((handed.networkIDCache.find sender).getD 0) := by rw [answer]
      exact (quiet.andThen (looked.handOver tagOwner msgTag payload right)).congr
        fun name eid => by simp

theorem onMessageReceived_identifies {env : Env} (reads : EnvReads network env) (sender : String)
    (messageType srcEid msgTag : UInt8) (tagOwner : Bool) (payload : ByteArray) (s : MCTPImpl) :
    Identifies network s
      (onMessageReceived env sender messageType srcEid msgTag tagOwner payload s).2 fun name eid =>
        name = sender ∧ srcEid = eid ∧ s.extReceiveCallback = true ∧
          messageType = s.config.type.toByte ∧
          (s.config.type = .vdpci → (vendorHeaderMatches env payload s).result = .ok true) := by
  have silent : Identifies network s s fun _ _ => False := (Quiet.refl s).identifies
  have inspected : ∀ offsets, Quiet s (s.emit (.inspected offsets)) :=
    fun offsets => .emit s trivial
  unfold onMessageReceived
  by_cases deaf : ¬ s.receiveCallback = true ∧ ¬ s.extReceiveCallback = true
  · rw [if_pos deaf]
    exact silent.congr fun name eid => by simp [deaf.2]
  · rw [if_neg deaf]
    by_cases wanted : messageType = s.config.type.toByte
    · by_cases vdpci : s.config.type = .vdpci
      · simp only [wanted, ne_eq, not_true_eq_false, ↓reduceIte, vdpci]
        cases accepted : (vendorHeaderMatches env payload s).result with
        | error fault => exact (inspected _).identifies.congr fun name eid => by simp
        | ok fits =>
            cases fits with
            | false => exact (inspected _).identifies.congr fun name eid => by simp
            | true =>
                refine ((inspected _).andThen (deliver_identifies reads sender srcEid msgTag tagOwner
                  payload _)).congr fun name eid => ?_
                simp [emit]
      · simp only [wanted, ne_eq, not_true_eq_false, ↓reduceIte, vdpci]
        exact (deliver_identifies reads sender srcEid msgTag tagOwner payload s).congr
          fun name eid => by simp
    · rw [if_pos wanted]
      exact silent.congr fun name eid => by simp [wanted]

theorem onNewInterface_identifies {env : Env} (reads : EnvReads network env)
    (sender objectPath : String) (values : Interfaces) (s : MCTPImpl) :
    Identifies network s (onNewInterface env sender objectPath values s).2 fun name eid =>
      name = sender ∧ sender ∈ s.matchedBuses ∧ startsWith objectPath endpointPrefix = true ∧
        pathEID objectPath = some eid ∧
        ∃ properties, values.lookup supportedMessageTypes = some properties ∧
          supportsType s.config.type properties = .ok true := by
  have silent : Identifies network s s fun _ _ => False := (Quiet.refl s).identifies
  have looked := getDeviceIDFromPath_identifies reads objectPath sender s
  unfold onNewInterface
  by_cases base : objectPath = basePath
  · have outside : startsWith objectPath endpointPrefix ≠ true :=
      fun under => endpointPath_ne_base under base
    rw [if_pos base]
    cases values.lookup (bindingToInterface s.config.bindingType) with
    | none => exact silent.congr fun name eid => by simp [outside]
    | some binding =>
        exact (onNewService_quiet env sender s).identifies.congr fun name eid => by simp [outside]
  · rw [if_neg base]
    by_cases matched : sender ∈ s.matchedBuses
    · rw [if_neg (not_not.mpr matched)]
      by_cases under : startsWith objectPath endpointPrefix = true
      · rw [if_pos under]
        cases values.lookup supportedMessageTypes with
        | none => exact silent.congr fun name eid => by simp
        | some properties =>
            dsimp only
            cases supported : supportsType s.config.type properties with
            | error fault => exact silent.congr fun name eid => by simp [supported]
            | ok flag =>
                cases flag with
                | false => exact silent.congr fun name eid => by simp [supported]
                | true =>
                    have exact : ∀ name eid, (name = sender ∧ pathEID objectPath = some eid) ↔
                        name = sender ∧ sender ∈ s.matchedBuses ∧
                          startsWith objectPath endpointPrefix = true ∧ pathEID objectPath = some eid ∧
                          ∃ properties', some properties = some properties' ∧
                            supportsType s.config.type properties' = .ok true := by
                      intro name eid
                      simp [matched, under, supported]
                    dsimp only
                    split
                    · exact looked.congr exact
                    · rename_i device _
                      refine (looked.quiet ?_).congr exact
                      unfold onNewEID
                      split
                      · exact ⟨rfl, [], by simp, by simp⟩
                      · exact .refl _
      · rw [if_neg under]
        exact silent.congr fun name eid => by simp [under]
    · rw [if_pos matched]
      exact silent.congr fun name eid => by simp [matched]

theorem onInterfaceRemoved_identifies {env : Env} (reads : EnvReads network env)
    (sender objectPath : String) (interfaces : List String) (s : MCTPImpl) :
    Identifies network s (onInterfaceRemoved env sender objectPath interfaces s) fun name eid =>
      name = sender ∧ startsWith objectPath endpointPrefix = true ∧ pathEID objectPath = some eid ∧
        supportedMessageTypes ∈ interfaces := by
  have silent : Identifies network s s fun _ _ => False := (Quiet.refl s).identifies
  have looked := getDeviceIDFromPath_identifies reads objectPath sender s
  unfold onInterfaceRemoved
  by_cases under : startsWith objectPath endpointPrefix = true
  · rw [if_pos under]
    by_cases held : supportedMessageTypes ∈ interfaces
    · rw [if_pos held]
      have exact : ∀ name eid, (name = sender ∧ pathEID objectPath = some eid) ↔
          name = sender ∧ startsWith objectPath endpointPrefix = true ∧
            pathEID objectPath = some eid ∧ supportedMessageTypes ∈ interfaces := by
        intro name eid
        simp [under, held]
      dsimp only
      split
      · exact looked.congr exact
      · refine (looked.quiet ?_).congr exact
        unfold onEIDRemoved
        split
        · exact .refl _
        · dsimp only
          split <;> exact ⟨rfl, [], by simp, by simp⟩
    · rw [if_neg held]
      exact silent.congr fun name eid => by simp [held]
  · rw [if_neg under]
    have unchanged : ∀ buses, Quiet s { s with matchedBuses := buses } :=
      fun buses => ⟨rfl, [], by simp, by simp⟩
    split
    · split
      · exact (unchanged _).identifies.congr fun name eid => by simp [under]
      · exact silent.congr fun name eid => by simp [under]
    · exact silent.congr fun name eid => by simp [under]

theorem onPropertiesChanged_quiet (sender intfName : String) (changed : Properties)
    (s : MCTPImpl) : Quiet s (onPropertiesChanged sender intfName changed s).2 := by
  unfold onPropertiesChanged
  split
  · split
    · split
      · exact .emit s trivial
      · exact .refl s
    · exact .refl s
  · exact .refl s

theorem onMCTPEvent_identifies {env : Env} (reads : EnvReads network env) (msg : Message)
    (s : System) :
    Identifies network s.lib (onMCTPEvent env msg s.lib).2 fun name eid =>
      FormsFor s name eid (.signal env msg) := by
  have silent : Identifies network s.lib s.lib fun _ _ => False := (Quiet.refl s.lib).identifies
  obtain ⟨sender, signal⟩ := msg
  unfold onMCTPEvent FormsFor
  by_cases closed : s.lib.isInitialisationsDone = false
  · rw [if_pos closed]
    exact silent.congr fun name eid => by simp [closed]
  · rw [if_neg closed]
    have done : s.lib.isInitialisationsDone = true := by simpa using closed
    by_cases matched : sender ∈ s.lib.matchedBuses
    · cases signal with
      | interfacesAdded objectPath values =>
          exact (onNewInterface_identifies reads sender objectPath values s.lib).congr
            fun name eid => by simp [done, matched]
      | interfacesRemoved objectPath interfaces =>
          simp only [matched, not_true_eq_false, ↓reduceIte]
          exact (onInterfaceRemoved_identifies reads sender objectPath interfaces s.lib).congr
            fun name eid => by simp [done]
      | messageReceived messageType srcEid msgTag tagOwner payload =>
          simp only [matched, not_true_eq_false, ↓reduceIte]
          exact (onMessageReceived_identifies reads sender messageType srcEid msgTag tagOwner payload
            s.lib).congr fun name eid => by simp [done]
      | propertiesChanged intfName changed =>
          simp only [matched, not_true_eq_false, ↓reduceIte]
          exact (onPropertiesChanged_quiet sender intfName changed s.lib).identifies.congr
            fun name eid => by simp
      | other => exact silent.congr fun name eid => by simp
    · cases signal with
      | interfacesAdded objectPath values =>
          exact (onNewInterface_identifies reads sender objectPath values s.lib).congr
            fun name eid => by simp [matched]
      | other => exact silent.congr fun name eid => by simp
      | _ =>
          simp only [matched, not_false_eq_true, ↓reduceIte]
          exact silent.congr fun name eid => by simp

theorem resume_identifies {env : Env} (reads : EnvReads network env) {scan : Scan} {reply : Reply}
    {progress : Progress} (resumed : resume env scan reply s = some (progress, t)) :
    Identifies network s t fun name eid =>
      ∃ eids bus rest values object, scan = .getManagedObjects eids bus rest ∧
        reply = .managedObjects (.ok values) ∧ name = bus.2 ∧ object ∈ values ∧
        (acceptObject env bus.2 object s).1.isSome ∧ splitEID object.1 = .ok eid := by
  have resumes := resume_resumes resumed
  generalize whole : (progress, t) = outcome at resumes
  obtain rfl : t = outcome.2 := congrArg Prod.snd whole
  cases resumes with
  | unlisted failed =>
      have quiet : Quiet s _ := finishDetect_quiet env { s with isInitialisationsDone := true }
      exact quiet.identifies.congr fun name eid => by simp
  | listed services =>
      exact (findBuses_quiet env _ _ s).identifies.congr fun name eid => by simp
  | owned buses service rest reply name matched =>
      have quiet := (matchService_quiet s name).trans (findBuses_quiet env buses rest _)
      exact quiet.identifies.congr fun name eid => by simp
  | skipped eids bus rest failed =>
      exact (buildMatchingEndpointMap_quiet env _ _ s).identifies.congr fun name eid => by simp
  | scanned eids bus rest values =>
      refine ((scanService_identifies reads bus values eids s).quiet
        (buildMatchingEndpointMap_quiet env _ _ _)).congr fun name eid => ?_
      constructor
      · rintro ⟨same, object, member, accepted⟩
        exact ⟨eids, bus, rest, values, object, rfl, rfl, same, member,
          acceptObject_eq_some.mp accepted⟩
      · rintro ⟨_, _, _, _, object, asked, answered, same, member, accepted⟩
        cases asked
        cases answered
        exact ⟨same, object, member, acceptObject_eq_some.mpr accepted⟩

end MCTPImpl

/-- What a step other than a body forms, and from what. -/
theorem step_identifies {network : String → UInt8} {s t : System} {label : Label}
    (reads : ReadsNetworks network label) (quiet : label ≠ .body) (stepped : s.step label = some t) :
    MCTPImpl.Identifies network s.lib t.lib fun name eid => FormsFor s name eid label := by
  have nothing : ∀ {t : MCTPImpl}, MCTPImpl.Quiet s.lib t →
      MCTPImpl.Identifies network s.lib t fun _ _ => False := MCTPImpl.Quiet.identifies
  cases label with
  | detect =>
      cases stepped
      exact nothing ⟨rfl, [_], rfl, by simp [Effect.Silent]⟩
  | resume index env reply =>
      obtain ⟨scan, progress, lib, waiting, resumed, rfl, _⟩ := System.step_resume stepped
      refine (MCTPImpl.resume_identifies (reads env rfl) resumed).congr fun name eid => ?_
      simp only [FormsFor, waiting, Option.some.injEq]
  | signal env msg =>
      obtain ⟨_, _, rfl⟩ := System.step_signal stepped
      exact MCTPImpl.onMCTPEvent_identifies (reads env rfl) msg s
  | body => exact absurd rfl quiet
  | registerResponder env specVersion =>
      rw [System.step_registerResponder stepped]
      obtain ⟨_, registered⟩ := MCTPImpl.registerResponder_reports env specVersion s.lib
      exact nothing (registered.quiet fun effect registration =>
        MCTPImpl.finishing_silent s.lib.config effect (.inl registration))
  | getOwnEIDs env callback =>
      cases stepped
      obtain ⟨_, reported⟩ := MCTPImpl.getOwnEIDs_reports env callback s.lib
      exact nothing (reported.quiet fun effect report =>
        MCTPImpl.finishing_silent s.lib.config effect (.inr report))
  | setExtendedReceiveCallback callback =>
      cases stepped
      refine nothing ?_
      unfold MCTPImpl.setExtendedReceiveCallback
      split
      · exact .refl s.lib
      · exact ⟨rfl, [], by simp, by simp⟩
  | send request devID =>
      cases stepped
      refine nothing ((MCTPImpl.send_reports request devID s.lib).quiet ?_)
      rintro _ (_ | _ | _) <;> trivial

end Mctpw
