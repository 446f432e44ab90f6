import Mctpw.OwnReports

set_option autoImplicit false

/- The services' own EIDs, the broadcasts of their changes, and the library that
is told about both. -/
namespace Mctpw

open Runs Strings

/-- A name the bus gives to a connection, as the sender of every signal has one. -/
def Unique (name : String) : Prop := startsWith name ":" = true

/-- The library, each connection's own EID, and the PropertiesChanged signals on
their way from each connection, oldest first. -/
structure OwnBus where
  system : System
  eid : String → UInt8
  undelivered : String → List Properties

inductive OwnAct
  | library (label : Label)
  | change (service : String) (changed : Properties)
  | deliver (env : Env) (service : String)

namespace OwnBus

def start (system : System) (eid : String → UInt8) : OwnBus := ⟨system, eid, fun _ => []⟩

/-- A change is broadcast with the new value. The match rule is only there once
discovery has begun. -/
def step (w : OwnBus) : OwnAct → Option OwnBus
  | .library label => (w.system.step label).map fun system => { w with system := system }
  | .change service changed =>
      match changed.lookup "Eid" with
      | some (.uint8 value) =>
          some { w with
            eid := Function.update w.eid service value
            undelivered :=
              if w.system.lib.mctpChangesWatch then
                Function.update w.undelivered service (w.undelivered service ++ [changed])
              else w.undelivered }
      | _ => none
  | .deliver env service =>
      match w.undelivered service with
      | [] => none
      | changed :: rest =>
          (w.system.step (.signal env ⟨service, .propertiesChanged baseInterface changed⟩)).map
            fun system =>
              { w with
                system := system
                undelivered := Function.update w.undelivered service rest }

/-- Every connection's Eid can be read. -/
def Reads (w : OwnBus) (env : Env) : Prop :=
  ∀ name, Unique name → env.readByte (eidProperty name) = some (w.eid name)

/-- Reads of the Eid and GetNameOwner succeed, signals come from connections, and
an own EID changes by `change` alone. A change during a blocking call of the library
comes before the step or after it, for the step reads each Eid at most once. -/
def Honest (w : OwnBus) : OwnAct → Prop
  | .library (.resume _ env reply) =>
      w.Reads env ∧ ∀ answer, reply = .nameOwner answer → ∃ name, answer = .ok name ∧ Unique name
  | .library (.signal env msg) => w.Reads env ∧ Unique msg.sender ∧ ¬ msg.signal.ChangesEid
  | .library (.getOwnEIDs env _) => w.Reads env
  | _ => True

/-- Every signal carries a value, and the newest the EID there is now. -/
structure Queued (eid : UInt8) (queue : List Properties) : Prop where
  carries : ∀ changed ∈ queue, ∃ value, changed.lookup "Eid" = some (.uint8 value)
  latest : ∀ changed, queue.getLast? = some changed → changed.lookup "Eid" = some (.uint8 eid)

/-- What the library has been told, kept beside what is still to come. -/
structure Tracked (w : OwnBus) : Prop where
  unwatched : w.system.lib.mctpChangesWatch = false →
    w.system.scans = [] ∧ w.system.lib.matchedBuses = ∅ ∧ ∀ service, w.undelivered service = []
  opened : ∀ scan ∈ w.system.scans, MCTPImpl.Opened (.suspended scan) w.system.lib
  gated : w.system.scans = [] →
    w.system.lib.isInitialisationsDone = true ∨ w.system.lib.matchedBuses = ∅
  unique : ∀ service ∈ w.system.lib.matchedBuses, Unique service
  queued : ∀ service, Queued (w.eid service) (w.undelivered service)
  known : w.system.scans = [] → ∀ service ∈ w.system.lib.matchedBuses,
    w.undelivered service = [] → UpToDate w.eid w.system.lib service

variable {w v : OwnBus}

theorem queued_nil (eid : UInt8) : Queued eid [] := by
  constructor
  · intro changed waiting
    cases waiting
  · intro changed last
    cases last

theorem Queued.push {eid value : UInt8} {queue : List Properties} {changed : Properties}
    (queued : Queued eid queue) (held : changed.lookup "Eid" = some (.uint8 value)) :
    Queued value (queue ++ [changed]) := by
  constructor
  · intro other waiting
    rcases List.mem_append.mp waiting with before | new
    · exact queued.carries other before
    · exact ⟨value, by rw [List.mem_singleton.mp new]; exact held⟩
  · intro other last
    rw [List.getLast?_append, List.getLast?_singleton, Option.some_or] at last
    cases last
    exact held

/-- The oldest signal tells a value, and the EID there is now if it is the last. -/
theorem Queued.pop {eid : UInt8} {rest : List Properties} {changed : Properties}
    (queued : Queued eid (changed :: rest)) :
    (∃ value, changed.lookup "Eid" = some (.uint8 value) ∧ (rest = [] → value = eid)) ∧
      Queued eid rest := by
  obtain ⟨carries, latest⟩ := queued
  obtain ⟨value, held⟩ := carries changed List.mem_cons_self
  refine ⟨⟨value, held, ?_⟩, ?_, ?_⟩
  · rintro rfl
    have last := latest changed rfl
    rw [held] at last
    cases last
    rfl
  · exact fun other waiting => carries other (List.mem_cons_of_mem _ waiting)
  · intro other last
    cases rest with
    | nil => cases last
    | cons next rest => exact latest other (by rw [List.getLast?_cons_cons]; exact last)

theorem tracked_start (host : ByteOrder.Endian) (config : MCTPConfiguration)
    (networkChangeCb rxCb : Bool) (eid : String → UInt8) :
    Tracked (start (.construct host config networkChangeCb rxCb) eid) := by
  have none : ∀ service, service ∉ (∅ : Finset String) := Finset.notMem_empty
  constructor
  · exact fun _ => ⟨rfl, rfl, fun _ => rfl⟩
  · intro scan running
    cases running
  · exact fun _ => .inr rfl
  · exact fun service matched => absurd matched (none service)
  · exact fun service => queued_nil _
  · exact fun _ service matched => absurd matched (none service)

/-- A new value is behind everything that waits, and is the last to be told. -/
theorem tracked_change {service : String} {changed : Properties} (tracked : Tracked w)
    (stepped : w.step (.change service changed) = some v) : Tracked v := by
  obtain ⟨unwatched, opened, gated, unique, queued, known⟩ := tracked
  dsimp only [step] at stepped
  split at stepped
  · rename_i value held
    cases stepped
    cases watching : w.system.lib.mctpChangesWatch with
    | false =>
        obtain ⟨_, unmatched, empty⟩ := unwatched watching
        simp only [Bool.false_eq_true, ↓reduceIte]
        refine ⟨unwatched, opened, gated, unique, ?_, ?_⟩
        · intro other
          dsimp only
          rw [empty other]
          exact queued_nil _
        · intro _ other matched
          simp [unmatched] at matched
    | true =>
        simp only [↓reduceIte]
        refine ⟨fun off => absurd (watching.symm.trans off) (by simp), opened, gated, unique, ?_, ?_⟩
        · intro other
          by_cases same : other = service
          · subst same
            simp only [Function.update_self]
            exact (queued other).push held
          · simp only [Function.update_of_ne same]
            exact queued other
        · intro quiet other matched drained
          by_cases same : other = service
          · subst same
            simp at drained
          · simp only [Function.update_of_ne same] at drained
            intro callback registered
            simp only [Function.update_of_ne same]
            exact known quiet other matched drained callback registered
  · cases stepped

/-- A signal of a service tells nothing about the others. -/
theorem tracked_deliver {env : Env} {service : String} (tracked : Tracked w)
    (stepped : w.step (.deliver env service) = some v) : Tracked v := by
  obtain ⟨unwatched, opened, gated, unique, queued, known⟩ := tracked
  dsimp only [step] at stepped
  split at stepped
  · cases stepped
  · rename_i changed rest waiting
    obtain ⟨system, handled, rfl⟩ := Option.map_eq_some_iff.mp stepped
    obtain ⟨watching, _, rfl⟩ := System.step_signal handled
    have head := queued service
    rw [waiting] at head
    obtain ⟨⟨value, held, current⟩, tail⟩ := head.pop
    obtain ⟨effects, same, others, reported⟩ :=
      MCTPImpl.onMCTPEvent_changesEid env service w.system.lib held
    rw [same]
    refine ⟨fun off => absurd (watching.symm.trans off) (by simp), opened, gated, unique, ?_, ?_⟩
    · intro other
      by_cases here : other = service
      · subst here
        simpa only [Function.update_self] using tail
      · simpa only [Function.update_of_ne here] using queued other
    · intro quiet other matched drained callback registered
      dsimp only at drained ⊢
      rw [lastTold_append]
      by_cases here : other = service
      · subst here
        rw [Function.update_self] at drained
        have done := (gated quiet).resolve_right (Finset.ne_empty_of_mem matched)
        rw [reported done matched callback registered, current drained, Option.some_or]
      · rw [Function.update_of_ne here] at drained
        rw [others callback other here, Option.none_or]
        exact known quiet other matched drained callback registered

section Library

variable {system : System}

/-- Steps that report nothing and match no service keep the library up to date. -/
theorem Tracked.unreported (tracked : Tracked w)
    (unreported : MCTPImpl.Unreported w.system.lib system.lib) (scans : system.scans = w.system.scans)
    (gate : system.lib.isInitialisationsDone = w.system.lib.isInitialisationsDone)
    (watch : system.lib.mctpChangesWatch = w.system.lib.mctpChangesWatch) :
    Tracked { w with system := system } := by
  obtain ⟨unwatched, opened, gated, unique, queued, known⟩ := tracked
  constructor
  · intro off
    dsimp only at off ⊢
    rw [watch] at off
    obtain ⟨idle, unmatched, empty⟩ := unwatched off
    rw [scans]
    refine ⟨idle, ?_, empty⟩
    exact Finset.subset_empty.mp (unmatched ▸ unreported.matched)
  · intro scan running
    dsimp only at running ⊢
    rw [scans] at running
    have before := opened scan running
    unfold MCTPImpl.Opened at before ⊢
    rwa [gate]
  · intro quiet
    dsimp only at quiet ⊢
    rw [scans] at quiet
    rw [gate]
    refine (gated quiet).imp id ?_
    intro unmatched
    exact Finset.subset_empty.mp (unmatched ▸ unreported.matched)
  · exact fun service matched => unique service (unreported.matched matched)
  · exact queued
  · intro quiet service matched drained
    dsimp only at quiet
    rw [scans] at quiet
    exact unreported.upToDate (known quiet service (unreported.matched matched) drained)

theorem tracked_detect (tracked : Tracked w) (stepped : w.system.step .detect = some system) :
    Tracked { w with system := system } := by
  obtain ⟨unwatched, opened, gated, unique, queued, known⟩ := tracked
  cases stepped
  constructor
  · intro off
    cases off
  · intro scan running
    rcases List.mem_append.mp running with before | new
    · exact opened scan before
    · rw [List.mem_singleton.mp new]
      trivial
  · intro quiet
    simp at quiet
  · exact unique
  · exact queued
  · intro quiet
    simp at quiet

/-- Only the owners GetNameOwner tells are matched. -/
theorem unique_resume {env : Env} {scan : Scan} {reply : Reply} {progress : Progress}
    {lib lib' : MCTPImpl} (unique : ∀ service ∈ lib.matchedBuses, Unique service)
    (owners : ∀ answer, reply = .nameOwner answer → ∃ name, answer = .ok name ∧ Unique name)
    (resumed : MCTPImpl.resume env scan reply lib = some (progress, lib')) :
    ∀ service ∈ lib'.matchedBuses, Unique service := by
  have matched := MCTPImpl.resume_matchedBuses resumed
  intro service member
  rw [matched] at member
  split at member
  · rename_i name matchedBy
    rcases Finset.mem_insert.mp member with rfl | before
    · unfold MCTPImpl.matchedBy at matchedBy
      split at matchedBy
      · obtain ⟨_, answer, _⟩ := owners _ rfl
        cases answer
      · obtain ⟨name, answer, unique⟩ := owners _ rfl
        cases answer
        cases matchedBy
        exact unique
      · cases matchedBy
    · exact unique service before
  · exact unique service member

theorem tracked_resume {index : Nat} {env : Env} {reply : Reply} (tracked : Tracked w)
    (honest : w.Honest (.library (.resume index env reply)))
    (stepped : w.system.step (.resume index env reply) = some system) :
    Tracked { w with system := system } := by
  obtain ⟨unwatched, opened, gated, unique, queued, known⟩ := tracked
  obtain ⟨reads, owners⟩ := honest
  obtain ⟨scan, progress, lib, waiting, resumed, rfl, left⟩ := System.step_resume stepped
  have running : scan ∈ w.system.scans := List.mem_of_getElem? waiting
  have opens := (MCTPImpl.resume_resumes resumed).opens (opened scan running)
  have unique' := unique_resume unique owners resumed
  constructor
  · intro off
    obtain ⟨idle, _⟩ := unwatched ((MCTPImpl.resume_watch resumed).symm.trans off)
    rw [idle] at running
    cases running
  · have before : ∀ other ∈ w.system.scans, MCTPImpl.Opened (.suspended other) system.lib :=
      fun other member => (opened other member).mono opens.kept
    intro other stays
    rcases left with ⟨next, rfl, scans⟩ | ⟨ec, rfl, scans⟩
    · rw [scans] at stays
      rcases List.mem_or_eq_of_mem_set stays with stays | rfl
      · exact before other stays
      · exact opens.opened
    · rw [scans] at stays
      exact before other (List.mem_of_mem_eraseIdx stays)
  · intro quiet
    obtain ⟨scan, ec, running, returned⟩ := System.step_resume_quiet stepped quiet
    exact .inl ((MCTPImpl.resume_resumes returned).opens (opened scan running)).opened
  · exact unique'
  · exact queued
  · intro quiet service matched _
    obtain ⟨_, ec, _, returned⟩ := System.step_resume_quiet stepped quiet
    obtain ⟨base, _, finished⟩ := MCTPImpl.resume_returned returned
    have answered : ∀ service ∈ system.lib.matchedBuses,
        env.readByte (eidProperty service) = some (w.eid service) :=
      fun service member => reads service (unique' service member)
    exact MCTPImpl.finishDetect_upToDate finished answered service matched

theorem tracked_signal {env : Env} {msg : Message} (tracked : Tracked w)
    (honest : w.Honest (.library (.signal env msg)))
    (stepped : w.system.step (.signal env msg) = some system) :
    Tracked { w with system := system } := by
  obtain ⟨reads, sender, other⟩ := honest
  obtain ⟨watching, defined, rfl⟩ := System.step_signal stepped
  obtain ⟨gate, watch⟩ := MCTPImpl.onMCTPEvent_gate env msg w.system.lib
  rcases MCTPImpl.onMCTPEvent_unreported env w.system.lib other with
    ⟨done, new⟩ | unreported
  · obtain ⟨unwatched, opened, gated, unique, queued, known⟩ := tracked
    rw [new] at defined gate watch
    obtain ⟨first, others⟩ := MCTPImpl.onNewService_upToDate defined (reads msg.sender sender)
    have matched : ∀ service ∈ (MCTPImpl.onNewService env msg.sender w.system.lib).2.matchedBuses,
        service = msg.sender ∨ service ∈ w.system.lib.matchedBuses := by
      obtain ⟨_, _, same⟩ := MCTPImpl.onNewService_reports env msg.sender w.system.lib
      rw [same]
      change ∀ service ∈ (w.system.lib.matchService msg.sender).matchedBuses, _
      rw [MCTPImpl.matchService_matchedBuses]
      exact fun service member => Finset.mem_insert.mp member
    rw [new]
    refine ⟨?_, ?_, ?_, ?_, queued, ?_⟩
    · intro off
      exact absurd (watching.symm.trans (watch.symm.trans off)) (by simp)
    · exact fun scan running => (opened scan running).mono gate.trans
    · exact fun _ => .inl (gate.trans done)
    · intro service member
      rcases matched service member with rfl | before
      · exact sender
      · exact unique service before
    · intro quiet service member drained
      rcases matched service member with rfl | before
      · exact first
      · exact others service (known quiet service before drained)
  · exact tracked.unreported unreported rfl gate watch

/-- Nothing else the library does reports an own EID, but for getOwnEIDs. -/
theorem tracked_library {label : Label} (tracked : Tracked w) (honest : w.Honest (.library label))
    (stepped : w.system.step label = some system) : Tracked { w with system := system } := by
  cases label with
  | detect => exact tracked_detect tracked stepped
  | resume index env reply => exact tracked_resume tracked honest stepped
  | signal env msg => exact tracked_signal tracked honest stepped
  | body =>
      obtain ⟨body, rest, _, rfl⟩ := System.step_body stepped
      obtain ⟨_, event, same⟩ := MCTPImpl.runSpawned_eq body rest w.system.lib
      rw [same]
      exact tracked.unreported
        ⟨rfl, Finset.Subset.refl _, [.networkChange event], rfl, fun _ _ => rfl⟩ rfl rfl rfl
  | registerResponder env specVersion =>
      rw [System.step_registerResponder stepped]
      obtain ⟨versions, reports⟩ := MCTPImpl.registerResponder_reports env specVersion w.system.lib
      have unreported := reports.emits.unreported fun callback service =>
        told_registration callback service
      obtain ⟨_, _, same⟩ := reports
      rw [same] at unreported ⊢
      exact tracked.unreported ⟨unreported.callback, unreported.matched, unreported.silent⟩ rfl rfl rfl
  | getOwnEIDs env callback =>
      cases stepped
      obtain ⟨unwatched, opened, gated, unique, queued, known⟩ := tracked
      have told : w.system.scans = [] → ∀ service ∈ w.system.lib.matchedBuses,
          w.undelivered service = [] →
            UpToDate w.eid (MCTPImpl.getOwnEIDs env callback w.system.lib) service := by
        intro quiet service matched drained
        refine MCTPImpl.getOwnEIDs_upToDate ?_ matched fun _ => known quiet service matched drained
        exact fun other member => honest other (unique other member)
      obtain ⟨kept, _, _, same⟩ := MCTPImpl.getOwnEIDs_reports env callback w.system.lib
      rw [same] at told ⊢
      exact ⟨unwatched, opened, gated, unique, queued, told⟩
  | setExtendedReceiveCallback callback =>
      cases stepped
      dsimp only [MCTPImpl.setExtendedReceiveCallback]
      split
      · exact tracked
      · exact tracked.unreported ⟨rfl, Finset.Subset.refl _, [], by simp, fun _ _ => rfl⟩ rfl rfl rfl
  | send request devID =>
      cases stepped
      have reports := MCTPImpl.send_reports request devID w.system.lib
      have unreported := reports.emits.unreported fun callback service =>
        told_sending callback service
      obtain ⟨_, _, same⟩ := reports
      rw [same] at unreported ⊢
      exact tracked.unreported unreported rfl rfl rfl

end Library

theorem tracked_step {act : OwnAct} (tracked : Tracked w) (honest : w.Honest act)
    (stepped : w.step act = some v) : Tracked v := by
  cases act with
  | library label =>
      obtain ⟨system, taken, rfl⟩ := Option.map_eq_some_iff.mp stepped
      exact tracked_library tracked honest taken
  | change service changed => exact tracked_change tracked stepped
  | deliver env service => exact tracked_deliver tracked stepped

end OwnBus

/-- Outside scans the registered callback was last told each matched service's own
EID, unless a change of it is still on its way. -/
theorem ownEIDs_known {host : ByteOrder.Endian} {config : MCTPConfiguration}
    {networkChangeCb rxCb : Bool} {eid : String → UInt8} {acts : List OwnAct} {w : OwnBus}
    (run : Run OwnBus.step OwnBus.Honest
      (.start (.construct host config networkChangeCb rxCb) eid) acts w)
    (idle : w.system.scans = []) {callback : Nat}
    (registered : w.system.lib.eidChangeCallback = some callback) {service : String}
    (matched : service ∈ w.system.lib.matchedBuses) (delivered : w.undelivered service = []) :
    lastTold callback service w.system.lib.trace = some (w.eid service) := by
  have tracked := run.invariant OwnBus.Tracked
    (OwnBus.tracked_start host config networkChangeCb rxCb eid)
    fun _ _ _ tracked honest stepped => OwnBus.tracked_step tracked honest stepped
  exact tracked.known idle service matched delivered callback registered

namespace Slot

/-- Every service has its EID, and everything else is as before. -/
def eidEnv (eid : String → UInt8) : Env :=
  { env with
    readByte := fun property =>
      if property.name = "Eid" then some (eid property.service) else some 0 }

def eight : String → UInt8 := fun _ => 8

def nine : String → UInt8 := Function.update eight owner 9

/-- A callback is set before discovery, and the EID changes during it. The end of
discovery reads the new value before the signal that tells it is handled. -/
def reporting : List OwnAct :=
  [.library (.getOwnEIDs (eidEnv eight) (some 1)), .library (.getOwnEIDs (eidEnv eight) none),
    .library .detect, .library (.resume 0 (eidEnv eight) (.object (.ok [service]))),
    .library (.resume 0 (eidEnv eight) (.nameOwner (.ok owner))),
    .change owner [("Eid", .uint8 9)],
    .library (.resume 0 (eidEnv nine) (.managedObjects (.ok []))), .deliver env owner]

def reported : OwnBus := (exec OwnBus.step (.start start eight) reporting).get (by decide)

theorem ownEIDs_known_reported : lastTold 1 owner reported.system.lib.trace = some 9 := by
  have run : Run OwnBus.step OwnBus.Honest (.start start eight) reporting reported := by
    have other : ∀ {reply : Reply}, (∀ answer, reply ≠ .nameOwner answer) →
        ∀ answer, reply = .nameOwner answer → ∃ name, answer = .ok name ∧ Unique name :=
      fun different answer same => absurd same (different answer)
    refine .cons (fun _ _ => rfl) rfl (.cons (fun _ _ => rfl) rfl (.cons trivial rfl ?_))
    refine .cons ⟨fun _ _ => rfl, other (by simp)⟩ rfl ?_
    refine .cons ⟨fun _ _ => rfl, ?_⟩ rfl ?_
    · rintro _ ⟨⟩
      exact ⟨owner, rfl, rfl⟩
    · refine .cons trivial rfl (.cons ⟨fun _ _ => rfl, other (by simp)⟩ rfl ?_)
      exact .cons trivial rfl .nil
  exact ownEIDs_known run rfl rfl (by decide) rfl

/-- It has been told twice: by the read and by the signal behind it. -/
example : reported.system.lib.trace.filterMap (told 1 owner) = [9, 9] := by decide

end Slot

end Mctpw
