import Mctpw.Tracking

set_option autoImplicit false

/- What a scan has established at each call it can be waiting at, while services
and endpoint objects come and go. -/
namespace Mctpw

open Runs Strings Feed DeferredSet

/-- The Endpoint objects of a reply are what a service held. -/
structure Shows (network : Network) (unique : String) (values : DictType Interfaces)
    (held : UInt8 → Bool) : Prop where
  only : ∀ objectPath interfaces, (objectPath, interfaces) ∈ values →
    (interfaces.lookup endpointInterface).isSome →
    ∃ eid, objectPath = network.path eid ∧ network.home eid = unique ∧
      held eid = network.supports interfaces
  all : ∀ eid, network.home eid = unique → held eid = true →
    ∃ interfaces, (network.path eid, interfaces) ∈ values ∧
      (interfaces.lookup endpointInterface).isSome ∧ network.supports interfaces = true

/-- The services found so far, in order, and those still to be looked at. -/
structure Found (network : Network) (listed matched : Finset String) (buses : List Bus)
    (rest : List String) : Prop where
  distinct : (buses.map Prod.snd ++ rest).Nodup
  covers : ∀ name, name ∈ buses.map Prod.snd ++ rest ↔
    ∃ unique ∈ listed, name = network.wellKnown unique
  matched : ∀ unique, unique ∈ matched ↔
    unique ∈ listed ∧ network.wellKnown unique ∈ buses.map Prod.snd

/-- Events are still dropped. -/
structure Unopened (w : World) : Prop where
  closed : w.system.lib.isInitialisationsDone = false
  idle : w.system.lib.spawned = []
  announced : w.announced = ∅
  snapshot : ∀ unique, w.snapshot unique = none

/-- Waiting for the services. -/
structure Asked (network : Network) (w : World) : Prop where
  scans : w.system.scans = [.getObject]
  unopened : Unopened w
  matched : w.system.lib.matchedBuses = ∅
  served : ∀ reply, w.served = some reply → ∃ services, reply = .object (.ok services) ∧
    Found network w.listed ∅ [] services

/-- Waiting for the owner of a service. -/
structure Naming (network : Network) (w : World) (buses : List Bus) (service : String)
    (rest : List String) : Prop where
  scans : w.system.scans = [.getNameOwner buses service rest]
  unopened : Unopened w
  found : Found network w.listed (insert (network.owner service) w.system.lib.matchedBuses) buses rest
  served : ∀ reply, w.served = some reply → reply = .nameOwner (.ok (network.owner service))

/-- What the scan will have seen of a service. One not listed is never asked. -/
def World.seen (w : World) (unique : String) : Option Snapshot :=
  if unique ∈ w.listed then w.snapshot unique else some ⟨0, fun _ => false⟩

/-- The endpoint will be as the snapshot has it when the signals older than the
snapshot have been handled, but for an insertion newer than it still waiting. -/
def Faithful (network : Network) (w : World) (told : UInt8 → Bool) (eid : UInt8)
    (taken : Snapshot) : Prop :=
  (taken.older ≤ (w.queue (network.home eid)).length ∧
    after (network.tells eid) (told eid) (w.queue (network.home eid)) taken.older =
      taken.held eid) ∨
  (taken.older = 0 ∧ taken.held eid = false ∧
    Owed (deviceSet 0 w.system.lib) (DeviceID.make eid 0))

/-- The map built so far holds what the services scanned so far held. -/
def Collects (network : Network) (w : World) (left : List Bus) (eids : EndpointMapExtended) : Prop :=
  ∀ device, device ∈ eids.keySet ↔ ∃ eid taken, device = DeviceID.make eid 0 ∧
    network.home eid ∈ w.listed ∧ network.wellKnown (network.home eid) ∉ left.map Prod.snd ∧
    w.snapshot (network.home eid) = some taken ∧ taken.held eid = true

/-- Waiting for the objects of a service. -/
structure Collecting (network : Network) (w : World) (told : UInt8 → Bool)
    (eids : EndpointMapExtended) (bus : Bus) (rest : List Bus) : Prop where
  scans : w.system.scans = [.getManagedObjects eids bus rest]
  opened : w.system.lib.isInitialisationsDone = true
  noticed : ∀ unique, unique ∈ w.system.lib.matchedBuses ↔ network.Noticed w unique
  distinct : ((bus :: rest).map Prod.snd).Nodup
  asked : ∀ name ∈ (bus :: rest).map Prod.snd, ∃ unique ∈ w.listed, name = network.wellKnown unique
  scanned : ∀ unique ∈ w.listed, network.wellKnown unique ∉ (bus :: rest).map Prod.snd →
    (w.snapshot unique).isSome
  served : ∀ reply, w.served = some reply → ∃ values taken,
    reply = .managedObjects (.ok values) ∧ w.snapshot (network.owner bus.2) = some taken ∧
      Shows network (network.owner bus.2) values taken.held
  collects : Collects network w (bus :: rest) eids
  tracked : ∀ eid, network.Noticed w (network.home eid) →
    ∀ taken, w.seen (network.home eid) = some taken → Faithful network w told eid taken

/-- The scan is over. The map, with the insertions waiting, has each endpoint as
it was or will be at some point of the signals still to be handled. -/
structure Returned (network : Network) (w : World) (told : UInt8 → Bool) : Prop where
  scans : w.system.scans = []
  opened : w.system.lib.isInitialisationsDone = true
  noticed : ∀ unique, unique ∈ w.system.lib.matchedBuses ↔ network.Noticed w unique
  tracked : ∀ eid, network.Noticed w (network.home eid) → ∃ held,
    Reached (network.tells eid) (told eid) (w.queue (network.home eid)) held ∧
      ((DeviceID.make eid 0 ∈ (deviceSet 0 w.system.lib).present ∨
        Owed (deviceSet 0 w.system.lib) (DeviceID.make eid 0)) ↔ held = true)
  filed : ∀ device ∈ (deviceSet 0 w.system.lib).present,
    ∃ eid, device = DeviceID.make eid 0 ∧ network.Noticed w (network.home eid)

/-- Where the scan is. -/
inductive Phase (network : Network) (w : World) (told : UInt8 → Bool) : Prop
  | asked : Asked network w → Phase network w told
  | naming (buses : List Bus) (service : String) (rest : List String) :
      Naming network w buses service rest → Phase network w told
  | collecting (eids : EndpointMapExtended) (bus : Bus) (rest : List Bus) :
      Collecting network w told eids bus rest → Phase network w told
  | returned : Returned network w told → Phase network w told

/-- What holds from detectMctpEndpoints on. An insertion waits only for a device
the library has last been told is there. -/
structure Sound (network : Network) (w : World) (told : UInt8 → Bool) : Prop where
  consistent : Consistent network w told
  config : w.system.lib.config = network.config
  callback : w.system.lib.networkChangeCallback = true
  cache : CacheRight (fun _ => 0) w.system.lib
  watching : w.system.lib.mctpChangesWatch = true
  bound : ∀ unique ∈ w.listed, network.bound unique = true
  owed : ∀ device, Owed (deviceSet 0 w.system.lib) device → ∃ eid, device = DeviceID.make eid 0 ∧
    told eid = true ∧ network.home eid ∈ w.system.lib.matchedBuses
  phase : Phase network w told

namespace MCTPImpl

/-- The keys one service adds are those of the objects accepted. -/
theorem scanObjects_keySet (env : Env) (bus : Bus) (nwid : UInt8) (values : DictType Interfaces)
    (eids : EndpointMapExtended) {s t : MCTPImpl} (host : t.host = s.host)
    (config : t.config = s.config) (device : DeviceID) :
    device ∈ (scanObjects env bus nwid values eids t).1.keySet ↔ device ∈ eids.keySet ∨
      ∃ object ∈ values, ∃ eid, (acceptObject env bus.2 object s).1 = some eid ∧
        device = DeviceID.make eid nwid := by
  induction values generalizing eids t with
  | nil => simp [scanObjects]
  | cons object rest ih =>
      obtain ⟨_, _, looked⟩ := acceptObject_reports env bus.2 object t
      have same := acceptObject_fst_congr env bus.2 object host config
      have host' : (acceptObject env bus.2 object t).2.host = s.host := by rw [looked, ← host]
      have config' : (acceptObject env bus.2 object t).2.config = s.config := by
        rw [looked, ← config]
      unfold scanObjects
      dsimp only
      cases accepted : (acceptObject env bus.2 object t).1 with
      | none =>
          rw [same] at accepted
          dsimp only
          rw [ih eids host' config']
          simp [accepted]
      | some eid =>
          have host'' : ((acceptObject env bus.2 object t).2.emit
              (.identified bus.2 eid (DeviceID.make eid nwid))).host = s.host := host'
          rw [same] at accepted
          dsimp only
          rw [ih (eids.assign (DeviceID.make eid nwid) bus) host'' config',
            UnorderedMap.keySet_assign]
          simp only [Set.mem_insert_iff, List.mem_cons, exists_eq_or_imp, accepted,
            Option.some.injEq, exists_eq_left']
          tauto

end MCTPImpl

variable {network : Network}

/-- What a scan accepts on the bus. -/
theorem acceptObject_path_iff (env : Env) (service : String) (eid : UInt8) (interfaces : Interfaces)
    {s : MCTPImpl} (config : s.config = network.config) (accepted : UInt8) :
    (MCTPImpl.acceptObject env service (network.path eid, interfaces) s).1 = some accepted ↔
      accepted = eid ∧ (interfaces.lookup endpointInterface).isSome ∧
        network.supports interfaces = true := by
  rw [MCTPImpl.acceptObject_iff env service (network.path eid) interfaces s accepted
    (network.path_under eid), Network.supports_iff, Advertised, network.path_eid, config]
  simp only [supportsType_eq_ok_iff, network.plain, false_implies, and_true, Option.some.injEq]
  constructor
  · rintro ⟨⟨rfl, properties, held, type⟩, endpoint⟩
    exact ⟨rfl, endpoint, properties, held, type⟩
  · rintro ⟨rfl, endpoint, properties, held, type⟩
    exact ⟨⟨rfl, properties, held, type⟩, endpoint⟩

theorem acceptObject_endpoint {env : Env} {service : String} {object : String × Interfaces}
    {s : MCTPImpl} {eid : UInt8} (accepted : (MCTPImpl.acceptObject env service object s).1 = some eid) :
    (object.2.lookup endpointInterface).isSome := by
  unfold MCTPImpl.acceptObject at accepted
  cases held : object.2.lookup endpointInterface with
  | none => simp [held] at accepted
  | some endpoint => rfl

theorem Shows.accepted_iff {unique : String} {values : DictType Interfaces} {held : UInt8 → Bool}
    (shows' : Shows network unique values held) (env : Env) (service : String) {s : MCTPImpl}
    (config : s.config = network.config) (device : DeviceID) :
    (∃ object ∈ values, ∃ eid, (MCTPImpl.acceptObject env service object s).1 = some eid ∧
      device = DeviceID.make eid 0) ↔
      ∃ eid, device = DeviceID.make eid 0 ∧ network.home eid = unique ∧ held eid = true := by
  constructor
  · rintro ⟨⟨objectPath, interfaces⟩, member, eid, accepted, rfl⟩
    obtain ⟨eid', rfl, home, same⟩ :=
      shows'.only objectPath interfaces member (acceptObject_endpoint accepted)
    obtain ⟨rfl, _, supported⟩ :=
      (acceptObject_path_iff env service eid' interfaces config eid).mp accepted
    exact ⟨eid, rfl, home, same.trans supported⟩
  · rintro ⟨eid, rfl, home, there⟩
    obtain ⟨interfaces, member, endpoint, supported⟩ := shows'.all eid home there
    exact ⟨(network.path eid, interfaces), member, eid,
      (acceptObject_path_iff env service eid interfaces config eid).mpr ⟨rfl, endpoint, supported⟩, rfl⟩

variable {w v : World} {told : UInt8 → Bool}

/-- Which insertions wait is in the bodies alone. -/
theorem owed_congr {s t : MCTPImpl} (same : t.spawned = s.spawned) (device : DeviceID) :
    Owed (deviceSet 0 t) device ↔ Owed (deviceSet 0 s) device := by
  simp only [Owed, deviceSet, same]

theorem Sound.told_of_owed {eid : UInt8} (sound : Sound network w told)
    (owed : Owed (deviceSet 0 w.system.lib) (DeviceID.make eid 0)) :
    told eid = true ∧ network.home eid ∈ w.system.lib.matchedBuses := by
  obtain ⟨eid', made, there, home⟩ := sound.owed _ owed
  obtain ⟨rfl, _⟩ := DeviceID.make_inj.mp made
  exact ⟨there, home⟩

theorem World.push_watching (watching : w.system.lib.mctpChangesWatch = true) (unique : String)
    (note : Note) : w.push unique note =
      { w with queue := Function.update w.queue unique (w.queue unique ++ [note]) } :=
  if_pos watching

theorem World.push_unwatched (unwatched : w.system.lib.mctpChangesWatch = false) (unique : String)
    (note : Note) : w.push unique note = w :=
  if_neg (by simp [unwatched])

/-- What one more signal leaves true of a queue is true of all queues then. -/
theorem update_append {α : Type} (holds : List α → Prop) {queue : String → List α} {name : String}
    (kept : holds (queue name)) (grows : ∀ last, holds (queue name ++ [last])) (unique : String)
    (last : α) : holds (Function.update queue unique (queue unique ++ [last]) name) := by
  by_cases same : name = unique
  · subst same
    rw [Function.update_self]
    exact grows last
  · rw [Function.update_of_ne same]
    exact kept

/-- The scan does not notice what happens on the bus. -/
theorem Phase.push (phase : Phase network w told) (present : Finset String)
    (objects : UInt8 → Option Interfaces) (unique : String) (note : Note) :
    Phase network { w with
      present := present
      objects := objects
      queue := Function.update w.queue unique (w.queue unique ++ [note]) } told := by
  cases phase with
  | asked asked =>
      obtain ⟨closed, idle, announced, snapshot⟩ := asked.unopened
      exact .asked ⟨asked.scans, ⟨closed, idle, announced, snapshot⟩, asked.matched, asked.served⟩
  | naming buses service rest naming =>
      obtain ⟨closed, idle, announced, snapshot⟩ := naming.unopened
      exact .naming buses service rest
        ⟨naming.scans, ⟨closed, idle, announced, snapshot⟩, naming.found, naming.served⟩
  | collecting eids bus rest collecting =>
      refine .collecting eids bus rest ⟨collecting.scans, collecting.opened, collecting.noticed,
        collecting.distinct, collecting.asked, collecting.scanned, collecting.served,
        collecting.collects, ?_⟩
      intro eid noticed taken seen
      rcases collecting.tracked eid noticed taken seen with ⟨within, same⟩ | waiting
      · refine .inl (update_append (fun queue => taken.older ≤ queue.length ∧
          after (network.tells eid) (told eid) queue taken.older = taken.held eid)
          ⟨within, same⟩ ?_ unique note)
        intro last
        rw [List.length_append, after_push within]
        exact ⟨Nat.le_add_right_of_le within, same⟩
      · exact .inr waiting
  | returned returned =>
      refine .returned ⟨returned.scans, returned.opened, returned.noticed, ?_, returned.filed⟩
      intro eid noticed
      obtain ⟨held, reached, exact'⟩ := returned.tracked eid noticed
      exact ⟨held, update_append (fun queue => Reached (network.tells eid) (told eid) queue held)
        reached (fun _ => reached.push) unique note, exact'⟩

theorem Sound.push (sound : Sound network w told) (present : Finset String)
    (objects : UInt8 → Option Interfaces) (unique : String) (note : Note)
    (consistent : Consistent network { w with
      present := present
      objects := objects
      queue := Function.update w.queue unique (w.queue unique ++ [note]) } told) :
    Sound network { w with
      present := present
      objects := objects
      queue := Function.update w.queue unique (w.queue unique ++ [note]) } told where
  consistent := consistent
  config := sound.config
  callback := sound.callback
  cache := sound.cache
  watching := sound.watching
  bound := sound.bound
  owed := sound.owed
  phase := sound.phase.push present objects unique note

theorem sound_appear {unique : String} {values : Interfaces} (sound : Sound network w told)
    (honest : network.Honest w (.appear unique values))
    (stepped : w.step network (.appear unique values) = some v) : Sound network v told := by
  simp only [World.step] at stepped
  split at stepped
  · cases stepped
  · rename_i gone
    rw [World.push_watching (by exact sound.watching)] at stepped
    cases stepped
    refine sound.push _ w.objects unique (.announced values) ?_
    refine sound.consistent.push rfl (Finset.subset_insert _ _) (Finset.mem_insert_self _ _) ?_ ?_ ?_
      ?_ ?_
    · intro eid values there
      obtain ⟨endpoint, home⟩ := sound.consistent.endpoints eid values there
      exact ⟨endpoint, Finset.mem_insert_of_mem home⟩
    · intro eid about
      cases about
    · exact fun _ => trivial
    · exact fun _ => rfl
    · intro values' same
      cases same
      exact ⟨honest, gone⟩

/-- The objects are endpoints on present services still when one has come or gone. -/
theorem endpoints_update {w : World} {eid : UInt8} {values : Option Interfaces}
    (endpoints : ∀ other held, w.objects other = some held →
      (held.lookup endpointInterface).isSome ∧ network.home other ∈ w.present)
    (fine : ∀ held, values = some held →
      (held.lookup endpointInterface).isSome ∧ network.home eid ∈ w.present)
    (other : UInt8) (held : Interfaces) (there : Function.update w.objects eid values other = some held) :
    (held.lookup endpointInterface).isSome ∧ network.home other ∈ w.present := by
  by_cases same : other = eid
  · subst same
    rw [Function.update_self] at there
    exact fine held there
  · rw [Function.update_of_ne same] at there
    exact endpoints other held there

/-- What is there after one object has come or gone. -/
theorem holds_update (w : World) (eid other : UInt8) (values : Option Interfaces)
    (queue : String → List Note) :
    network.holds { w with objects := Function.update w.objects eid values, queue := queue } other =
      if eid = other then values.any network.supports else network.holds w other := by
  unfold Network.holds
  dsimp only
  by_cases same : eid = other
  · subst same
    rw [Function.update_self, if_pos rfl]
  · rw [Function.update_of_ne (Ne.symm same), if_neg same]

theorem sound_plug {eid : UInt8} {values : Interfaces} (sound : Sound network w told)
    (honest : network.Honest w (.plug eid values))
    (stepped : w.step network (.plug eid values) = some v) : Sound network v told := by
  simp only [World.step] at stepped
  split at stepped
  · rename_i free
    obtain ⟨none, home⟩ := free
    rw [Option.isNone_iff_eq_none] at none
    rw [World.push_watching (by exact sound.watching)] at stepped
    cases stepped
    refine sound.push w.present _ (network.home eid) (.added eid values) ?_
    refine sound.consistent.push rfl (Finset.Subset.refl _) home ?_ ?_ ?_ ?_ ?_
    · refine endpoints_update sound.consistent.endpoints ?_
      intro held same
      cases same
      exact ⟨honest, home⟩
    · intro other about
      cases about
      rfl
    · rintro other rfl
      simp [Network.holds, none]
    · intro other
      exact holds_update w eid other (some values) _
    · intro values' same
      cases same
  · cases stepped

theorem sound_unplug {eid : UInt8} (sound : Sound network w told)
    (stepped : w.step network (.unplug eid) = some v) : Sound network v told := by
  simp only [World.step] at stepped
  split at stepped
  · cases stepped
  · rename_i values there
    obtain ⟨endpoint, home⟩ := sound.consistent.endpoints eid values there
    rw [World.push_watching (by exact sound.watching)] at stepped
    cases stepped
    refine sound.push w.present _ (network.home eid) (.removed eid values) ?_
    refine sound.consistent.push rfl (Finset.Subset.refl _) home ?_ ?_ ?_ ?_ ?_
    · refine endpoints_update sound.consistent.endpoints ?_
      intro held gone
      cases gone
    · intro other about
      cases about
      rfl
    · rintro other rfl
      simp [Network.holds, there]
    · intro other
      exact holds_update w eid other none _
    · intro values' same
      cases same

/-- GetObject names the services with the binding that are there. -/
theorem asked_serve {reply : Reply} (asked : Asked network w)
    (answers : network.Answers w .getObject reply) :
    Asked network (w.serve network .getObject reply) := by
  obtain ⟨services, answered, distinct, covers⟩ := answers
  obtain ⟨closed, idle, announced, snapshot⟩ := asked.unopened
  refine ⟨asked.scans, ⟨closed, idle, announced, snapshot⟩, asked.matched, ?_⟩
  intro reply' served
  cases served
  refine ⟨services, answered, distinct, ?_, ?_⟩
  · intro name
    simp [World.serve, covers, and_assoc]
  · simp

/-- The objects of a service are its snapshot, older than any signal to come. -/
theorem collecting_serve {eids : EndpointMapExtended} {bus : Bus} {rest : List Bus} {reply : Reply}
    (sound : Sound network w told) (collecting : Collecting network w told eids bus rest)
    (answers : network.Answers w (.getManagedObjects eids bus rest) reply) :
    Collecting network (w.serve network (.getManagedObjects eids bus rest) reply) told eids bus
      rest := by
  obtain ⟨values, answered, objects⟩ := answers
  have apart : ∀ unique, network.wellKnown unique ∉ (bus :: rest).map Prod.snd →
      unique ≠ network.owner bus.2 := by
    rintro unique other rfl
    obtain ⟨asked, _, named⟩ := collecting.asked bus.2 (by simp)
    rw [named, network.owner_wellKnown] at other
    exact other (by simp [named])
  refine ⟨collecting.scans, collecting.opened, collecting.noticed, collecting.distinct,
    collecting.asked, ?_, ?_, ?_, ?_⟩
  · intro unique listed other
    simp only [World.serve, Function.update_of_ne (apart unique other)]
    exact collecting.scanned unique listed other
  · intro reply' served
    cases served
    refine ⟨values, _, answered, Function.update_self _ _ _, ?_, ?_⟩
    · intro objectPath interfaces member endpoint
      obtain ⟨eid, path, home, there⟩ := (objects objectPath interfaces).mp ⟨member, endpoint⟩
      exact ⟨eid, path, home, by simp [Network.holds, there]⟩
    · intro eid home there
      obtain ⟨interfaces, there', supported⟩ := Network.holds_iff.mp there
      obtain ⟨member, endpoint⟩ :=
        (objects (network.path eid) interfaces).mpr ⟨eid, rfl, home, there'⟩
      exact ⟨interfaces, member, endpoint, supported⟩
  · intro device
    rw [collecting.collects device]
    constructor
    · rintro ⟨eid, taken, made, home, other, seen, there⟩
      refine ⟨eid, taken, made, home, other, ?_, there⟩
      simp only [World.serve, Function.update_of_ne (apart _ other), seen]
    · rintro ⟨eid, taken, made, home, other, seen, there⟩
      refine ⟨eid, taken, made, home, other, ?_, there⟩
      simpa only [World.serve, Function.update_of_ne (apart _ other)] using seen
  · intro eid noticed taken seen
    by_cases home : network.home eid = network.owner bus.2
    · -- All signals sent so far are older than the snapshot.
      obtain ⟨asked, listed, named⟩ := collecting.asked bus.2 (by simp)
      have here : network.owner bus.2 ∈ w.listed := by
        rw [named, network.owner_wellKnown]
        exact listed
      simp only [World.seen, World.serve, home, here, ↓reduceIte, Function.update_self,
        Option.some.injEq] at seen
      subst seen
      refine .inl ⟨by simp [World.serve, home], ?_⟩
      rw [← home]
      exact after_length.trans (sound.consistent.current eid)
    · refine collecting.tracked eid noticed taken ?_
      simpa only [World.seen, World.serve, Function.update_of_ne home] using seen

theorem sound_serve {reply : Reply} (sound : Sound network w told)
    (honest : network.Honest w (.serve reply)) (stepped : w.step network (.serve reply) = some v) :
    Sound network v told := by
  simp only [World.step] at stepped
  split at stepped
  · rename_i scan waiting unserved
    cases stepped
    have answers := honest scan waiting
    cases sound.phase with
    | asked asked =>
        have same : scan = .getObject := by simpa [asked.scans] using waiting.symm
        subst same
        have listed : ∀ unique ∈ (w.serve network .getObject reply).listed,
            network.bound unique = true :=
          fun unique listed => (Finset.mem_filter.mp listed).2
        exact ⟨sound.consistent.congr rfl rfl rfl, sound.config, sound.callback, sound.cache,
          sound.watching, listed, sound.owed, .asked (asked_serve asked answers)⟩
    | naming buses service rest naming =>
        have same : scan = .getNameOwner buses service rest := by
          simpa [naming.scans] using waiting.symm
        subst same
        obtain ⟨closed, idle, announced, snapshot⟩ := naming.unopened
        refine ⟨sound.consistent.congr rfl rfl rfl, sound.config, sound.callback, sound.cache,
          sound.watching, sound.bound, sound.owed, .naming buses service rest
            ⟨naming.scans, ⟨closed, idle, announced, snapshot⟩, naming.found, ?_⟩⟩
        intro reply' served
        cases served
        exact answers
    | collecting eids bus rest collecting =>
        have same : scan = .getManagedObjects eids bus rest := by
          simpa [collecting.scans] using waiting.symm
        subst same
        exact ⟨sound.consistent.congr rfl rfl rfl, sound.config, sound.callback, sound.cache,
          sound.watching, sound.bound, sound.owed,
          .collecting eids bus rest (collecting_serve sound collecting answers)⟩
    | returned returned => simp [returned.scans] at waiting
  · cases stepped

/-- What one service's reply adds to the map. -/
theorem scanService_keySet (env : Env) (bus : Bus) (eids : EndpointMapExtended)
    {values : DictType Interfaces} {s : MCTPImpl} {unique : String} {held : UInt8 → Bool}
    (config : s.config = network.config) (right : CacheRight (fun _ => 0) s)
    (shows' : Shows network unique values held) (device : DeviceID) :
    device ∈ (MCTPImpl.scanService env bus values eids s).1.keySet ↔ device ∈ eids.keySet ∨
      ∃ eid, device = DeviceID.make eid 0 ∧ network.home eid = unique ∧ held eid = true := by
  obtain ⟨_, _, _, _, looked⟩ := MCTPImpl.getNetworkID_emits env bus.2 s
  have host : (MCTPImpl.getNetworkID env bus.2 s).2.host = s.host := by rw [looked]
  have config' : (MCTPImpl.getNetworkID env bus.2 s).2.config = s.config := by rw [looked]
  rw [← shows'.accepted_iff env bus.2 config device]
  simp only [MCTPImpl.scanService]
  rw [getNetworkID_zero env bus.2 right]
  exact MCTPImpl.scanObjects_keySet env bus 0 values eids host config' device

/-- A service whose bus id can be read is asked for its owner next. -/
theorem findBuses_cons {env : Env} (reads : network.ReadsBuses env) (buses : List Bus)
    {unique : String} (bound : network.bound unique = true) (rest : List String) {s : MCTPImpl}
    (config : s.config = network.config) :
    ∃ id t, MCTPImpl.findBuses env buses (network.wellKnown unique :: rest) s =
        (.suspended (.getNameOwner (buses ++ [(id, network.wellKnown unique)])
          (network.wellKnown unique) rest), t) ∧
      MCTPImpl.Emits (fun _ => True) s t := by
  obtain ⟨bus, read⟩ := reads unique bound s config
  have looked := (MCTPImpl.getBusId_emits env (network.wellKnown unique) s).mono
    fun _ _ => trivial
  refine ⟨UInt32.ofInt bus, (MCTPImpl.getBusId env (network.wellKnown unique) s).2.emit
    (.call (getNameOwner (network.wellKnown unique))), ?_, looked.trans (.emit _ trivial)⟩
  rw [MCTPImpl.findBuses, read]

/-- The only coroutine waits again, or is gone. -/
def Waits (progress : Progress) (scans : List Scan) : Prop :=
  (∃ next, progress = .suspended next ∧ scans = [next]) ∨ ∃ ec, progress = .returned ec ∧ scans = []

theorem step_resume_only {env : Env} {scan : Scan} {reply : Reply} {s t : System}
    (only : s.scans = [scan]) (stepped : s.step (.resume 0 env reply) = some t) :
    ∃ progress, MCTPImpl.resume env scan reply s.lib = some (progress, t.lib) ∧
      Waits progress t.scans := by
  obtain ⟨scan', progress, lib, waiting, resumed, same, scans⟩ := System.step_resume stepped
  rw [only] at waiting scans
  cases waiting
  subst same
  exact ⟨progress, resumed, scans⟩

/-- The service asked for its owner next has been found as well. -/
theorem Found.named {listed matched : Finset String} {buses : List Bus} {rest : List String}
    {unique : String} (found : Found network listed matched buses (network.wellKnown unique :: rest))
    (here : unique ∈ listed) (bus : UInt32) :
    Found network listed (insert unique matched) (buses ++ [(bus, network.wellKnown unique)])
      rest := by
  refine ⟨by simpa using found.distinct, by simpa using found.covers, ?_⟩
  intro other
  simp only [Finset.mem_insert, found.matched other, List.map_append, List.map_cons, List.map_nil,
    List.mem_append, List.mem_singleton]
  constructor
  · rintro (rfl | ⟨listed', before⟩)
    · exact ⟨here, .inr rfl⟩
    · exact ⟨listed', .inl before⟩
  · rintro ⟨listed', before | last⟩
    · exact .inr ⟨listed', before⟩
    · refine .inl ?_
      rw [← network.owner_wellKnown other, last, network.owner_wellKnown]

/-- The map has what the services scanned so far held, that of this reply with them. -/
theorem Collects.scanned {eids eids' : EndpointMapExtended} {bus : Bus} {rest : List Bus}
    {unique : String} {taken : Snapshot} (collects : Collects network w (bus :: rest) eids)
    (named : bus.2 = network.wellKnown unique) (listed : unique ∈ w.listed)
    (once : bus.2 ∉ rest.map Prod.snd) (seen : w.snapshot unique = some taken)
    (adds : ∀ device, device ∈ eids'.keySet ↔ device ∈ eids.keySet ∨
      ∃ eid, device = DeviceID.make eid 0 ∧ network.home eid = unique ∧ taken.held eid = true) :
    Collects network w rest eids' := by
  intro device
  rw [adds, collects]
  constructor
  · rintro (⟨eid, taken', made, listed', other, seen', held⟩ | ⟨eid, made, rfl, held⟩)
    · exact ⟨eid, taken', made, listed', fun member => other (List.mem_cons_of_mem _ member), seen',
        held⟩
    · exact ⟨eid, taken, made, listed, named ▸ once, seen, held⟩
  · rintro ⟨eid, taken', made, listed', other, seen', held⟩
    by_cases here : network.wellKnown (network.home eid) = bus.2
    · have home : network.home eid = unique := by
        rw [← network.owner_wellKnown (network.home eid), here, named, network.owner_wellKnown]
      rw [home, seen] at seen'
      cases seen'
      exact .inr ⟨eid, made, home, held⟩
    · exact .inl ⟨eid, taken', made, listed', by simp [here, other], seen', held⟩

/-- With no service left the map has each endpoint as it was seen. -/
theorem Collects.filed_iff {eids : EndpointMapExtended} {eid : UInt8} {taken : Snapshot}
    (collects : Collects network w [] eids) (seen : w.seen (network.home eid) = some taken) :
    DeviceID.make eid 0 ∈ eids.keySet ↔ taken.held eid = true := by
  rw [collects]
  unfold World.seen at seen
  constructor
  · rintro ⟨eid', taken', made, listed, _, seen', held⟩
    obtain ⟨rfl, _⟩ := DeviceID.make_inj.mp made
    rw [if_pos listed, seen'] at seen
    cases seen
    exact held
  · intro held
    split at seen
    · rename_i listed
      exact ⟨eid, taken, rfl, listed, by simp, seen, held⟩
    · cases seen
      cases held

/-- The scan has built its map. -/
theorem returned_finished {env : Env} {eids : EndpointMapExtended} {s : MCTPImpl}
    {progress : Progress} (bound : ∀ unique ∈ v.listed, network.bound unique = true)
    (opened : s.isInitialisationsDone = true)
    (noticed : ∀ unique, unique ∈ s.matchedBuses ↔ network.Noticed v unique)
    (scanned : ∀ unique ∈ v.listed, (v.snapshot unique).isSome) (collects : Collects network v [] eids)
    (tracked : ∀ eid, network.Noticed v (network.home eid) →
      ∀ taken, v.seen (network.home eid) = some taken → Faithful network v told eid taken)
    (owed : ∀ eid, Owed (deviceSet 0 v.system.lib) (DeviceID.make eid 0) → told eid = true)
    (finished : MCTPImpl.finishDetect env { s with endpointMap := eids } = (progress, v.system.lib))
    (waits : Waits progress v.system.scans) : Returned network v told := by
  have reports := MCTPImpl.finishDetect_reports env { s with endpointMap := eids }
  rw [finished] at reports
  obtain ⟨_, _, same⟩ := reports
  dsimp only at same
  have scans : v.system.scans = [] := by
    rcases waits with ⟨next, waiting, _⟩ | ⟨_, _, scans⟩
    · refine absurd ?_ (MCTPImpl.finishDetect_not_suspended env { s with endpointMap := eids } next)
      rw [finished]
      exact waiting
    · exact scans
  have present : (deviceSet 0 v.system.lib).present = eids.keySet := by rw [deviceSet, same]
  refine ⟨scans, by rw [same]; exact opened, by rw [same]; exact noticed, ?_, ?_⟩
  · intro eid there
    obtain ⟨taken, seen⟩ : ∃ taken, v.seen (network.home eid) = some taken := by
      unfold World.seen
      split
      · rename_i listed
        exact Option.isSome_iff_exists.mp (scanned _ listed)
      · exact ⟨_, rfl⟩
    rw [present, collects.filed_iff seen]
    -- A waiting insertion brings the endpoint to what has been told of it.
    by_cases waiting : Owed (deviceSet 0 v.system.lib) (DeviceID.make eid 0)
    · exact ⟨told eid, .now, by simp [waiting, owed eid waiting]⟩
    · rcases tracked eid there taken seen with ⟨within, same'⟩ | ⟨_, _, owed'⟩
      · exact ⟨taken.held eid, ⟨taken.older, within, same'⟩, by simp [waiting]⟩
      · exact absurd owed' waiting
  · intro device member
    rw [present, collects] at member
    obtain ⟨eid, _, made, listed, _⟩ := member
    exact ⟨eid, made, bound _ listed, .inl listed⟩

/-- Where the scan goes on from a map under construction. -/
theorem phase_built {env : Env} {eids : EndpointMapExtended} {left : List Bus} {s : MCTPImpl}
    {progress : Progress} (bound : ∀ unique ∈ v.listed, network.bound unique = true)
    (opened : s.isInitialisationsDone = true)
    (noticed : ∀ unique, unique ∈ s.matchedBuses ↔ network.Noticed v unique)
    (distinct : (left.map Prod.snd).Nodup)
    (asked : ∀ name ∈ left.map Prod.snd, ∃ unique ∈ v.listed, name = network.wellKnown unique)
    (scanned : ∀ unique ∈ v.listed, network.wellKnown unique ∉ left.map Prod.snd →
      (v.snapshot unique).isSome)
    (unserved : v.served = none) (collects : Collects network v left eids)
    (tracked : ∀ eid, network.Noticed v (network.home eid) →
      ∀ taken, v.seen (network.home eid) = some taken → Faithful network v told eid taken)
    (owed : ∀ eid, Owed (deviceSet 0 v.system.lib) (DeviceID.make eid 0) → told eid = true)
    (result : MCTPImpl.buildMatchingEndpointMap env eids left s = (progress, v.system.lib))
    (waits : Waits progress v.system.scans) : Phase network v told := by
  cases left with
  | cons bus rest =>
      obtain ⟨suspended, same⟩ := Prod.mk.inj result
      rcases waits with ⟨next, waiting, scans⟩ | ⟨_, gone, _⟩
      · rw [← suspended] at waiting
        cases waiting
        refine .collecting eids bus rest ⟨scans, by rw [← same]; exact opened, ?_, distinct, asked,
          scanned, ?_, collects, tracked⟩
        · rw [← same]
          exact noticed
        · intro reply served
          rw [unserved] at served
          cases served
      · rw [← suspended] at gone
        cases gone
  | nil =>
      exact .returned (returned_finished bound opened noticed
        (fun unique listed => scanned unique listed (by simp)) collects tracked owed result waits)

/-- Where the search leads once every service listed has been found. -/
theorem phase_found {env : Env} {buses : List Bus} {s : MCTPImpl} {progress : Progress}
    (bound : ∀ unique ∈ v.listed, network.bound unique = true)
    (found : Found network v.listed s.matchedBuses buses []) (idle : v.system.lib.spawned = [])
    (announced : v.announced = ∅) (snapshot : ∀ unique, v.snapshot unique = none)
    (unserved : v.served = none)
    (result : MCTPImpl.buildMatchingEndpointMap env ∅ buses { s with isInitialisationsDone := true } =
      (progress, v.system.lib))
    (waits : Waits progress v.system.scans) : Phase network v told := by
  have covered : ∀ unique ∈ v.listed, network.wellKnown unique ∈ buses.map Prod.snd := by
    intro unique listed
    simpa using (found.covers (network.wellKnown unique)).mpr ⟨unique, listed, rfl⟩
  have noticed_iff : ∀ unique, network.Noticed v unique ↔ unique ∈ v.listed := by
    intro unique
    simp only [Network.Noticed, announced, Finset.notMem_empty, or_false, and_iff_right_iff_imp]
    exact bound unique
  refine phase_built (s := { s with isInitialisationsDone := true }) bound rfl ?_ ?_ ?_ ?_
    unserved ?_ ?_ ?_ result waits
  · intro unique
    rw [noticed_iff, found.matched unique, and_iff_left_iff_imp]
    exact covered unique
  · simpa using found.distinct
  · intro name member
    exact (found.covers name).mp (by simpa using member)
  · intro unique listed other
    exact absurd (covered unique listed) other
  · intro device
    simp only [UnorderedMap.keySet_empty, Set.mem_empty_iff_false, false_iff]
    rintro ⟨eid, taken, _, listed, other, _⟩
    exact other (covered _ listed)
  · intro eid noticed taken seen
    rw [World.seen, if_pos ((noticed_iff _).mp noticed), snapshot] at seen
    cases seen
  · intro eid owed
    exact absurd owed (not_owed_of_idle (idle_of_drained 0 idle) _)

/-- Where the search for services leads from those found so far. -/
theorem phase_searched {env : Env} {buses : List Bus} {rest : List String} {s : MCTPImpl}
    {progress : Progress} (reads : network.ReadsBuses env)
    (bound : ∀ unique ∈ v.listed, network.bound unique = true)
    (config : s.config = network.config) (found : Found network v.listed s.matchedBuses buses rest)
    (closed : s.isInitialisationsDone = false) (idle : s.spawned = []) (announced : v.announced = ∅)
    (snapshot : ∀ unique, v.snapshot unique = none) (unserved : v.served = none)
    (result : MCTPImpl.findBuses env buses rest s = (progress, v.system.lib))
    (waits : Waits progress v.system.scans) : Phase network v told := by
  have idle' : v.system.lib.spawned = [] := by
    rw [← idle, ← MCTPImpl.findBuses_keeps MCTPImpl.unscanned_spawned env buses rest s, result]
  cases rest with
  | cons service rest =>
      obtain ⟨unique, listed, named⟩ := (found.covers service).mp (by simp)
      subst named
      obtain ⟨id, t, asked, emits⟩ := findBuses_cons reads buses (bound unique listed) rest config
      rw [asked] at result
      obtain ⟨suspended, lib⟩ := Prod.mk.inj result
      obtain ⟨_, _, _, _, same⟩ := emits
      rcases waits with ⟨next, waiting, scans⟩ | ⟨_, gone, _⟩
      · rw [← suspended] at waiting
        cases waiting
        refine .naming _ _ _ ⟨scans, ⟨?_, idle', announced, snapshot⟩, ?_, ?_⟩
        · rw [← lib, same]
          exact closed
        · rw [← lib, same, network.owner_wellKnown]
          exact found.named listed id
        · intro reply served
          rw [unserved] at served
          cases served
      · rw [← suspended] at gone
        cases gone
  | nil => exact phase_found bound found idle' announced snapshot unserved result waits

end Mctpw
