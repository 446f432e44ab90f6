import Mctpw.System

set_option autoImplicit false

/- What the own-EID callback has last been told about each matched service. -/
namespace Mctpw

open Runs Strings

/-- The EID an effect gives a callback for a service. -/
def told (callback : Nat) (service : String) : Effect → Option UInt8
  | .ownEID callback' service' eid =>
      if callback' = callback ∧ service' = service then some eid else none
  | _ => none

/-- The EID last reported for a service to a callback. -/
def lastTold (callback : Nat) (service : String) (trace : List Effect) : Option UInt8 :=
  (trace.filterMap (told callback service)).getLast?

/-- The registered callback, if there is one, was last told this EID. -/
def UpToDate (eid : String → UInt8) (s : MCTPImpl) (service : String) : Prop :=
  ∀ callback, s.eidChangeCallback = some callback →
    lastTold callback service s.trace = some (eid service)

/-- The service says that its own EID has changed. -/
def Signal.ChangesEid : Signal → Prop
  | .propertiesChanged intfName changed =>
      intfName = baseInterface ∧ (changed.lookup "Eid").isSome
  | _ => False

theorem lastTold_append (callback : Nat) (service : String) (before after : List Effect) :
    lastTold callback service (before ++ after) =
      (lastTold callback service after).or (lastTold callback service before) := by
  unfold lastTold
  rw [List.filterMap_append, List.getLast?_append]

theorem lastTold_emit (callback : Nat) (service : String) (s : MCTPImpl) (effect : Effect) :
    lastTold callback service (s.emit effect).trace =
      (told callback service effect).or (lastTold callback service s.trace) := by
  have alone : lastTold callback service [effect] = told callback service effect := by
    unfold lastTold
    rw [List.filterMap_cons]
    cases told callback service effect <;> rfl
  rw [MCTPImpl.emit, lastTold_append, alone]

theorem lastTold_none {callback : Nat} {service : String} {effects : List Effect}
    (silent : ∀ effect ∈ effects, told callback service effect = none) :
    lastTold callback service effects = none := by
  unfold lastTold
  rw [List.filterMap_eq_nil_iff.mpr silent, List.getLast?_nil]

theorem told_reception (callback : Nat) (service : String) (effect : Effect)
    (reception : effect.Reception) : told callback service effect = none := by
  rcases reception with (⟨⟨_⟩⟩ | _ | _ | _) | _ <;> rfl

theorem told_registration (callback : Nat) (service : String) {config : MCTPConfiguration}
    (effect : Effect) (registration : effect.Registration config) :
    told callback service effect = none := by
  obtain ⟨_, rfl, _⟩ := registration
  rfl

theorem told_sending (callback : Nat) (service : String) (effect : Effect)
    (sending : effect.Sending) : told callback service effect = none := by
  cases sending <;> rfl

namespace MCTPImpl

/-- Nothing is reported to the own-EID callback, and no service is matched. -/
structure Unreported (s t : MCTPImpl) : Prop where
  callback : t.eidChangeCallback = s.eidChangeCallback
  matched : t.matchedBuses ⊆ s.matchedBuses
  silent : ∃ effects, t.trace = s.trace ++ effects ∧
    ∀ callback service, lastTold callback service effects = none

variable {s t u : MCTPImpl} {eid : String → UInt8} {env : Env} {service name : String}

theorem Emits.unreported {allowed : Effect → Prop} (emits : Emits allowed s t)
    (silent : ∀ callback service effect, allowed effect → told callback service effect = none) :
    Unreported s t := by
  obtain ⟨effects, cache, busId, fine, rfl⟩ := emits
  refine ⟨rfl, Finset.Subset.refl _, effects, rfl, ?_⟩
  exact fun callback service => lastTold_none fun effect member => silent _ _ _ (fine effect member)

theorem Unreported.refl (s : MCTPImpl) : Unreported s s :=
  ⟨rfl, Finset.Subset.refl _, [], (List.append_nil _).symm, fun _ _ => rfl⟩

/-- What happens to the endpoint map and the bodies outstanding is not reported. -/
theorem Unreported.changed (unreported : Unreported s t) (callback : u.eidChangeCallback = t.eidChangeCallback)
    (matched : u.matchedBuses ⊆ t.matchedBuses) (trace : u.trace = t.trace) : Unreported s u := by
  refine ⟨callback.trans unreported.callback, matched.trans unreported.matched, ?_⟩
  obtain ⟨effects, grown, silent⟩ := unreported.silent
  exact ⟨effects, trace.trans grown, silent⟩

theorem Unreported.upToDate (unreported : Unreported s t) (current : UpToDate eid s service) :
    UpToDate eid t service := by
  obtain ⟨effects, grown, silent⟩ := unreported.silent
  intro callback registered
  rw [unreported.callback] at registered
  rw [grown, lastTold_append, silent, Option.none_or]
  exact current callback registered

/-- A report brings its service up to date and takes nothing from the others. -/
theorem triggerGetOwnEID_upToDate
    (answered : env.readByte (eidProperty service) = some (eid service)) :
    UpToDate eid (triggerGetOwnEID env service s) service ∧
      ∀ name, UpToDate eid s name → UpToDate eid (triggerGetOwnEID env service s) name := by
  unfold triggerGetOwnEID readPropertyValue
  cases registered : s.eidChangeCallback with
  | none =>
      refine ⟨?_, fun _ => id⟩
      intro callback there
      rw [registered] at there
      cases there
  | some callback =>
      dsimp only
      rw [answered]
      have last : ∀ callback' name, lastTold callback' name
          (((s.emit (.call (eidProperty service).get)).emit
            (.ownEID callback service (eid service))).trace) =
          (if callback = callback' ∧ service = name then some (eid service) else none).or
            (lastTold callback' name s.trace) := by
        intro callback' name
        rw [lastTold_emit, lastTold_emit]
        rfl
      constructor
      · intro callback' there
        have same : callback = callback' := Option.some.inj (registered.symm.trans there)
        rw [last, if_pos ⟨same, rfl⟩, Option.some_or]
      · intro name current callback' there
        rw [last]
        split
        · rename_i both
          rw [both.2, Option.some_or]
        · rw [Option.none_or]
          exact current callback' there

theorem triggerAll_upToDate {services : List String}
    (answered : ∀ service ∈ services, env.readByte (eidProperty service) = some (eid service)) :
    (∀ service ∈ services, UpToDate eid (triggerAll env services s) service) ∧
      ∀ name, UpToDate eid s name → UpToDate eid (triggerAll env services s) name := by
  induction services generalizing s with
  | nil => exact ⟨by simp, fun _ => id⟩
  | cons service rest ih =>
      have first := triggerGetOwnEID_upToDate (s := s) (answered service (by simp))
      have later := @ih (triggerGetOwnEID env service s)
        fun other member => answered other (List.mem_cons_of_mem _ member)
      refine ⟨?_, fun name before => later.2 name (first.2 name before)⟩
      intro other member
      rcases List.mem_cons.mp member with rfl | member
      · exact later.2 other first.1
      · exact later.1 other member

/-- getOwnEIDs with a callback tells it about every matched service. -/
theorem getOwnEIDs_upToDate {callback : Option Nat}
    (answered : ∀ service ∈ s.matchedBuses, env.readByte (eidProperty service) = some (eid service))
    (matched : service ∈ s.matchedBuses) (before : callback = none → UpToDate eid s service) :
    UpToDate eid (getOwnEIDs env callback s) service := by
  cases callback with
  | none => exact before rfl
  | some callback =>
      have asked : ∀ service ∈ env.order s.matchedBuses,
          env.readByte (eidProperty service) = some (eid service) :=
        fun service member => answered service ((env.order_mem s.matchedBuses service).mp member)
      have told := triggerAll_upToDate (s := { s with eidChangeCallback := some callback }) asked
      exact told.1 service ((env.order_mem s.matchedBuses service).mpr matched)

/-- A scan that returns has told the callback about every matched service. -/
theorem finishDetect_upToDate {ec : ErrorCode} (ended : finishDetect env s = (.returned ec, t))
    (answered : ∀ service ∈ t.matchedBuses, env.readByte (eidProperty service) = some (eid service)) :
    ∀ service ∈ t.matchedBuses, UpToDate eid t service := by
  unfold finishDetect at ended
  dsimp only at ended
  generalize (if s.responderVersions.isEmpty then (.ok .success, s)
    else registerResponder env s.responderVersions s) = registered at ended
  split at ended
  · cases ended
  · have told := Prod.mk.inj ended
    obtain ⟨_, _, _, same⟩ := getOwnEIDs_reports env registered.2.eidChangeCallback registered.2
    have kept : t.matchedBuses = registered.2.matchedBuses := by
      rw [← told.2, same]
    rw [kept] at answered ⊢
    rw [← told.2]
    intro service matched
    apply getOwnEIDs_upToDate answered matched
    intro none callback there
    rw [none] at there
    cases there

/-- The one fault of a registration is to read vendor parameters that are not there. -/
theorem registerResponderService_error {fault : Fault}
    (failed : (registerResponderService env service s).1 = .error fault) :
    fault = .undefinedBehaviour := by
  unfold registerResponderService registerCall at failed
  dsimp only at failed
  split at failed
  · cases failed
  · split at failed
    · rename_i refused
      cases failed
      split at refused
      · split at refused <;> cases refused
        rfl
      · cases refused
    · cases failed

/-- A new service is reported at once; no other service is forgotten. -/
theorem onNewService_upToDate (defined : (onNewService env name s).1 ≠ .error .undefinedBehaviour)
    (answered : env.readByte (eidProperty name) = some (eid name)) :
    UpToDate eid (onNewService env name s).2 name ∧
      ∀ service, UpToDate eid s service → UpToDate eid (onNewService env name s).2 service := by
  have matched : ∀ service, UpToDate eid s service → UpToDate eid (s.matchService name) service := by
    intro service current callback there
    rw [matchService_keeps MCTPImpl.eidChangeCallback s name fun _ _ => rfl] at there
    unfold matchService
    split
    · exact current callback there
    · have silent := lastTold_emit callback service s (.matched name)
      exact silent.trans (current callback there)
  have registered := (registerResponderService_reports env name (s.matchService name)).emits.unreported
    fun callback service => told_registration callback service
  unfold onNewService at defined ⊢
  dsimp only at defined ⊢
  split
  · rename_i fault failed
    rw [failed, registerResponderService_error failed] at defined
    exact absurd rfl defined
  · obtain ⟨first, others⟩ := triggerGetOwnEID_upToDate
      (s := (registerResponderService env name (s.matchService name)).2) answered
    exact ⟨first, fun service current => others service (registered.upToDate (matched service current))⟩

theorem looked_unreported (env : Env) (objectPath name : String) (s : MCTPImpl) :
    Unreported s (getDeviceIDFromPath env objectPath name s).2 := by
  refine (getDeviceIDFromPath_emits env objectPath name s).unreported ?_
  rintro callback service _ (⟨⟨_⟩⟩ | _) <;> rfl

theorem onNewInterface_unreported (objectPath : String) (values : Interfaces) :
    onNewInterface env name objectPath values s = onNewService env name s ∨
      Unreported s (onNewInterface env name objectPath values s).2 := by
  unfold onNewInterface
  split
  · split
    · exact .inl rfl
    · exact .inr (.refl s)
  · right
    split
    · exact .refl s
    · split
      · split
        · exact .refl s
        · split
          · exact .refl s
          · exact .refl s
          · have looked := looked_unreported env objectPath name s
            dsimp only
            split
            · exact looked
            · unfold onNewEID
              split
              · exact looked.changed rfl (Finset.Subset.refl _) rfl
              · exact looked
      · exact .refl s

theorem onInterfaceRemoved_unreported (objectPath : String) (interfaces : List String) :
    Unreported s (onInterfaceRemoved env name objectPath interfaces s) := by
  unfold onInterfaceRemoved
  split
  · split
    · have looked := looked_unreported env objectPath name s
      dsimp only
      split
      · exact looked
      · rename_i device _
        obtain ⟨_, _, same⟩ :=
          onEIDRemoved_eq device (getDeviceIDFromPath env objectPath name s).2
        rw [same]
        exact looked.changed rfl (Finset.Subset.refl _) rfl
    · exact .refl s
  · split
    · split
      · exact (Unreported.refl s).changed rfl (Finset.erase_subset _ _) rfl
      · exact .refl s
    · exact .refl s

/-- A signal that is no own-EID change reports nothing, unless a new service. -/
theorem onMCTPEvent_unreported (env : Env) (s : MCTPImpl) {msg : Message}
    (other : ¬ msg.signal.ChangesEid) :
    (s.isInitialisationsDone = true ∧ onMCTPEvent env msg s = onNewService env msg.sender s) ∨
      Unreported s (onMCTPEvent env msg s).2 := by
  unfold onMCTPEvent
  split
  · exact .inr (.refl s)
  · rename_i closed
    split
    · rename_i objectPath values _
      have done : s.isInitialisationsDone = true := by simpa using closed
      exact (onNewInterface_unreported objectPath values).imp (fun same => ⟨done, same⟩) id
    · right
      split
      · exact .refl s
      · exact onInterfaceRemoved_unreported _ _
    · right
      split
      · exact .refl s
      · exact (onMessageReceived_emits env msg.sender _ _ _ _ _ s).unreported told_reception
    · rename_i intfName changed sent
      right
      split
      · exact .refl s
      · unfold onPropertiesChanged
        split
        · rename_i held
          split
          · rename_i base
            rw [sent] at other
            exact absurd ⟨base, by rw [held]; rfl⟩ other
          · exact .refl s
        · exact .refl s
    · exact .inr (.refl s)

/-- An own-EID change is reported for its service alone, and is when the service is
matched and events are let in. -/
theorem onMCTPEvent_changesEid (env : Env) (service : String) (s : MCTPImpl) {changed : Properties}
    {value : UInt8} (held : changed.lookup "Eid" = some (.uint8 value)) :
    ∃ effects, (onMCTPEvent env ⟨service, .propertiesChanged baseInterface changed⟩ s).2 =
        { s with trace := s.trace ++ effects } ∧
      (∀ callback name, name ≠ service → lastTold callback name effects = none) ∧
      (s.isInitialisationsDone = true → service ∈ s.matchedBuses →
        ∀ callback, s.eidChangeCallback = some callback →
          lastTold callback service effects = some value) := by
  have handled : (onMCTPEvent env ⟨service, .propertiesChanged baseInterface changed⟩ s).2 =
      if s.isInitialisationsDone ∧ service ∈ s.matchedBuses then
        (onPropertiesChanged service baseInterface changed s).2
      else s := by
    unfold onMCTPEvent
    cases s.isInitialisationsDone with
    | false => simp
    | true => by_cases matched : service ∈ s.matchedBuses <;> simp [matched]
  rw [handled]
  split
  · rcases Option.eq_none_or_eq_some s.eidChangeCallback with unregistered | ⟨callback, registered⟩
    · have silent : (onPropertiesChanged service baseInterface changed s).2 = s := by
        unfold onPropertiesChanged
        rw [unregistered]
      rw [silent]
      refine ⟨[], by simp, fun _ _ _ => rfl, ?_⟩
      intro _ _ callback there
      cases unregistered.symm.trans there
    · have said : (onPropertiesChanged service baseInterface changed s).2 =
          s.emit (.ownEID callback service value) := by
        unfold onPropertiesChanged
        rw [registered, held]
        rfl
      rw [said]
      refine ⟨[.ownEID callback service value], rfl, ?_, ?_⟩
      · intro callback' name other
        apply lastTold_none
        intro effect member
        rw [List.mem_singleton.mp member]
        exact if_neg fun both => other both.2.symm
      · intro _ _ callback' there
        have same : callback = callback' := Option.some.inj (registered.symm.trans there)
        simp [lastTold, told, same]
  · rename_i refused
    refine ⟨[], by simp, fun _ _ _ => rfl, ?_⟩
    exact fun done matched => absurd ⟨done, matched⟩ refused

end MCTPImpl

end Mctpw
