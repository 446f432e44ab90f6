import Mctpw.Rediscovery
import Mctpw.ScanWork

set_option autoImplicit false

/- Discoveries that overlap each other and anything else, on a bus that keeps its
answers. What one is heading for is the map it would file if it went on alone. -/
namespace Mctpw

open Runs

namespace SteadyBus

variable (bus : SteadyBus)

/-- What the bus replies to the call a coroutine waits at. -/
def reply : Scan → Reply
  | .getObject => .object (.ok bus.services)
  | .getNameOwner _ service _ => .nameOwner (bus.nameOwner service)
  | .getManagedObjects _ entry _ => .managedObjects (bus.managedObjects entry.2)

/-- A coroutine is taken up with what the bus replies. Nothing is asked of any other label. -/
def Answers (s : System) : Label → Prop
  | .resume index env reply =>
      ∃ scan, s.scans[index]? = some scan ∧ env = bus.env ∧ reply = bus.reply scan
  | _ => True

/-- The services a coroutine would still scan if it went on alone, the map it would add
to and the state it would start in. -/
def onward : Scan → MCTPImpl → List Bus × EndpointMapExtended × MCTPImpl
  | .getObject, s =>
      let found := Direct.findBusLoop bus.world bus.services [] (bus.env, s)
      (found.1, ∅, found.2.2)
  | .getNameOwner buses service rest, s =>
      let found := Direct.findBusLoop bus.world rest buses
        (bus.env, s.matchService (bus.ownerName service))
      (found.1, ∅, found.2.2)
  | .getManagedObjects eids entry rest, s => (entry :: rest, eids, s)

def ahead (scan : Scan) (s : MCTPImpl) : List String := (bus.onward scan s).1.map Prod.snd

/-- The map a coroutine would file if it went on alone. -/
def heading (scan : Scan) (s : MCTPImpl) : EndpointMapExtended :=
  let next := bus.onward scan s
  (Direct.buildMatchingEndpointMap bus.world next.1 next.2.1 (bus.env, next.2.2)).1

theorem onward_searched (scan : Scan) (s : MCTPImpl) : Searched s (bus.onward scan s).2.2 := by
  cases scan with
  | getObject => exact (bus.findBusLoop_searched _ _ s).2
  | getNameOwner buses service rest =>
      exact (matchService_searched _ s).trans (bus.findBusLoop_searched _ _ _).2
  | getManagedObjects eids entry rest => exact ⟨rfl, rfl⟩

/-- Under the same settings a coroutine has the same services ahead of it. -/
theorem onward_congr (scan : Scan) {s t : MCTPImpl} (settings : s.settings = t.settings) :
    (bus.onward scan t).1.map Prod.snd = (bus.onward scan s).1.map Prod.snd ∧
      (bus.onward scan t).2.1 = (bus.onward scan s).2.1 := by
  cases scan with
  | getObject => exact ⟨bus.findBusLoop_congr _ rfl (MCTPImpl.config_of_settings settings), rfl⟩
  | getNameOwner buses service rest =>
      refine ⟨bus.findBusLoop_congr rest rfl (MCTPImpl.config_of_settings ?_), rfl⟩
      rw [(matchService_searched _ s).settings, (matchService_searched _ t).settings, settings]
  | getManagedObjects eids entry rest => exact ⟨rfl, rfl⟩

/-- The networks of the named services that list their objects are known, and nothing
known or configured has been lost since. -/
structure Knows (names : List String) (origin s : MCTPImpl) : Prop where
  settings : s.settings = origin.settings
  networks : ∀ service ∈ names, bus.Lists service → ∃ networkID,
    origin.networkIDCache.find service = some networkID ∧
      s.networkIDCache.find service = some networkID

variable {bus} {names : List String} {origin s t : MCTPImpl}

theorem Knows.later (knows : bus.Knows names origin s) (settings : t.settings = s.settings)
    (remembers : Remembers s t) : bus.Knows names origin t := by
  refine ⟨settings.trans knows.settings, fun service member lists => ?_⟩
  obtain ⟨networkID, first, now⟩ := knows.networks service member lists
  exact ⟨networkID, first, remembers.remembers _ _ now⟩

theorem Knows.searched (knows : bus.Knows names origin s) (searched : Searched s t) :
    bus.Knows names origin t := by
  refine ⟨searched.settings.trans knows.settings, ?_⟩
  rw [searched.cache]
  exact knows.networks

theorem Knows.first (knows : bus.Knows names origin s) : bus.Knows names origin origin := by
  refine ⟨rfl, fun service member lists => ?_⟩
  obtain ⟨networkID, first, _⟩ := knows.networks service member lists
  exact ⟨networkID, first, first⟩

/-- Two states that know the networks know the same ones. -/
theorem Knows.network (knows : bus.Knows names origin s) (knows' : bus.Knows names origin t)
    {service : String} (member : service ∈ names) (lists : bus.Lists service) :
    ∃ networkID, s.networkIDCache.find service = some networkID ∧
      t.networkIDCache.find service = some networkID := by
  obtain ⟨networkID, first, now⟩ := knows.networks service member lists
  obtain ⟨networkID', first', now'⟩ := knows'.networks service member lists
  rw [first, Option.some.injEq] at first'
  rw [← first'] at now'
  exact ⟨networkID, now, now'⟩

/-- Two builds that know the networks give the same map. -/
theorem Knows.build (knows : bus.Knows names origin s) (knows' : bus.Knows names origin t)
    {buses buses' : List Bus} (listed : buses.map Prod.snd = buses'.map Prod.snd)
    (known : buses.map Prod.snd ⊆ names) {eids eids' : EndpointMapExtended}
    (same : SameServices eids eids') :
    SameServices (Direct.buildMatchingEndpointMap bus.world buses eids (bus.env, s)).1
      (Direct.buildMatchingEndpointMap bus.world buses' eids' (bus.env, t)).1 :=
  bus.build_congr listed same (knows'.settings.trans knows.settings.symm)
    fun _ member lists => knows.network knows' (known member) lists

variable (bus) in
/-- A coroutine that waits again is heading for the map, with no other services ahead of
it; one that has returned has filed the map. -/
def Heads (names : List String) (eids : EndpointMapExtended) (outcome : Progress × MCTPImpl) :
    Prop :=
  match outcome.1 with
  | .suspended next =>
      bus.ahead next outcome.2 ⊆ names ∧ SameServices (bus.heading next outcome.2) eids
  | .returned _ => SameServices outcome.2.endpointMap eids
  | .raised _ => True

theorem Heads.trans {eids eids' : EndpointMapExtended} {outcome : Progress × MCTPImpl}
    (heads : bus.Heads names eids outcome) (same : SameServices eids eids') :
    bus.Heads names eids' outcome := by
  unfold Heads at heads ⊢
  split at heads
  · exact ⟨heads.1, heads.2.trans same⟩
  · exact heads.trans same
  · trivial

theorem build_heads (knows : bus.Knows names origin s) {buses : List Bus}
    (known : buses.map Prod.snd ⊆ names) (eids : EndpointMapExtended) :
    bus.Heads names (Direct.buildMatchingEndpointMap bus.world buses eids (bus.env, s)).1
      (MCTPImpl.buildMatchingEndpointMap bus.env eids buses s) := by
  cases buses with
  | nil =>
      obtain ⟨_, _, same⟩ := MCTPImpl.finishDetect_reports bus.env { s with endpointMap := eids }
      unfold Heads MCTPImpl.buildMatchingEndpointMap
      dsimp only
      split
      · rename_i next suspended
        exact absurd suspended (MCTPImpl.finishDetect_not_suspended _ _ next)
      · rw [same]
        exact .refl eids
      · trivial
  | cons entry rest =>
      have asked : bus.Knows names origin (s.emit (.call (getManagedObjects entry.2))) :=
        knows.later rfl (.emit s trivial)
      exact ⟨known, asked.build knows rfl known (.refl eids)⟩

theorem find_heads (knows : bus.Knows names origin s) (services : List String) (buses : List Bus)
    (known : (Direct.findBusLoop bus.world services buses (bus.env, s)).1.map Prod.snd ⊆ names) :
    bus.Heads names
      (Direct.buildMatchingEndpointMap bus.world
        (Direct.findBusLoop bus.world services buses (bus.env, s)).1 ∅
        (bus.env, (Direct.findBusLoop bus.world services buses (bus.env, s)).2.2)).1
      (MCTPImpl.findBuses bus.env buses services s) := by
  induction services generalizing buses s with
  | nil =>
      have opened : bus.Knows names origin { s with isInitialisationsDone := true } :=
        knows.later rfl (.of_eq rfl rfl)
      exact (build_heads opened known ∅).trans (opened.build knows rfl known (.refl ∅))
  | cons service rest ih =>
      have read := knows.searched (getBusId_searched bus.env service s)
      rw [Direct.findBusLoop] at known ⊢
      rw [MCTPImpl.findBuses]
      dsimp only at known ⊢
      cases busId : (MCTPImpl.getBusId bus.env service s).1 with
      | error fault =>
          rw [busId] at known
          exact ih read buses known
      | ok id =>
          rw [busId] at known
          exact ⟨known, .refl _⟩

/-- However far it is, a coroutine that goes on stays on its way. -/
theorem resume_heads (knows : bus.Knows names origin s) {scan : Scan}
    (known : bus.ahead scan s ⊆ names) {outcome : Progress × MCTPImpl}
    (resumed : MCTPImpl.resume bus.env scan (bus.reply scan) s = some outcome) :
    bus.Heads names (bus.heading scan s) outcome := by
  cases scan with
  | getObject =>
      cases resumed
      exact find_heads knows bus.services [] known
  | getNameOwner buses service rest =>
      have matched := knows.searched (matchService_searched (bus.ownerName service) s)
      have taken : MCTPImpl.resume bus.env (.getNameOwner buses service rest)
          (bus.reply (.getNameOwner buses service rest)) s =
            some (MCTPImpl.findBuses bus.env buses rest
              (s.matchService (bus.ownerName service))) := by
        dsimp only [reply, ownerName]
        cases bus.nameOwner service <;> rfl
      rw [taken] at resumed
      cases resumed
      exact find_heads matched rest buses known
  | getManagedObjects eids entry rest =>
      have asked : bus.Knows names origin (s.emit (.call (getManagedObjects entry.2))) :=
        knows.later rfl (.emit s trivial)
      have known' : rest.map Prod.snd ⊆ names := List.Subset.trans (List.subset_cons_self ..) known
      unfold heading onward
      dsimp only
      rw [Direct.buildMatchingEndpointMap]
      dsimp only [world, reply] at resumed ⊢
      cases objects : bus.managedObjects entry.2 with
      | error failed =>
          rw [objects] at resumed
          cases resumed
          exact (build_heads knows known' eids).trans (knows.build asked rfl known' (.refl eids))
      | ok values =>
          rw [objects] at resumed
          cases resumed
          have scanned : ∀ {state}, bus.Knows names origin state →
              bus.Knows names origin (MCTPImpl.scanService bus.env entry values eids state).2 :=
            fun knows => knows.later (MCTPImpl.unscanned_settings.emitted
              (MCTPImpl.scanService_emits ..)) (scanService_remembers ..)
          refine (build_heads (scanned knows) known' _).trans
            ((scanned knows).build (scanned asked) rfl known' ?_)
          obtain ⟨networkID, now, now'⟩ := knows.network asked (known (.head _)) ⟨values, objects⟩
          refine scanService_same bus.env rfl values (.refl eids) rfl ?_
          simp only [MCTPImpl.getNetworkID, now, now']

/-- What others do in the meantime does not change what a coroutine is heading for. -/
theorem Heads.later (knows : bus.Knows names origin s) (knows' : bus.Knows names origin t)
    {scan : Scan} {eids : EndpointMapExtended} (heads : bus.Heads names eids (.suspended scan, s)) :
    bus.Heads names eids (.suspended scan, t) := by
  obtain ⟨known, same⟩ := heads
  have settings : s.settings = t.settings := knows.settings.trans knows'.settings.symm
  obtain ⟨listed, begun⟩ := bus.onward_congr scan settings
  have known' : bus.ahead scan t ⊆ names := by
    unfold ahead at known ⊢
    rwa [listed]
  have onward := knows'.searched (bus.onward_searched scan t)
  have onward' := knows.searched (bus.onward_searched scan s)
  refine ⟨known', (onward.build onward' listed known' ?_).trans same⟩
  rw [begun]
  exact .refl _

/-- A coroutine that starts is heading for what a discovery alone would file. -/
theorem detect_heads {origin s : MCTPImpl}
    (knows : bus.Knows ((bus.found origin).1.map Prod.snd) origin s) :
    bus.Heads ((bus.found origin).1.map Prod.snd) (bus.discover origin).endpointMap
      (.suspended s.detectMctpEndpoints.1, s.detectMctpEndpoints.2) := by
  have listed := bus.found_services knows.settings
  have here := knows.searched (bus.found_searched s).2
  have there := knows.first.searched (bus.found_searched origin).2
  have opened : bus.Knows ((bus.found origin).1.map Prod.snd) origin
      { (bus.found origin).2.2 with isInitialisationsDone := true } :=
    there.later rfl (.of_eq rfl rfl)
  have known : (bus.found s).1.map Prod.snd ⊆ (bus.found origin).1.map Prod.snd := by
    rw [listed]
    exact List.Subset.refl _
  refine ⟨known, ?_⟩
  rw [discover_endpointMap]
  exact here.build opened listed.symm known (.refl ∅)

variable (bus) in
/-- Every coroutine is heading for what a discovery alone would have filed at first. -/
structure Underway (origin : MCTPImpl) (s : System) : Prop where
  knows : bus.Knows ((bus.found origin).1.map Prod.snd) origin s.lib
  heads : ∀ scan ∈ s.scans, bus.Heads ((bus.found origin).1.map Prod.snd)
    (bus.discover origin).endpointMap (.suspended scan, s.lib)

variable {start s t : System}

theorem Underway.others (underway : bus.Underway origin s) {label : Label}
    (stepped : s.step label = some t) :
    bus.Knows ((bus.found origin).1.map Prod.snd) origin t.lib ∧
      ∀ scan ∈ s.scans, bus.Heads ((bus.found origin).1.map Prod.snd)
        (bus.discover origin).endpointMap (.suspended scan, t.lib) := by
  have knows := underway.knows.later (System.step_settings stepped) (System.step_remembers stepped)
  exact ⟨knows, fun scan member => (underway.heads scan member).later underway.knows knows⟩

/-- The coroutine taken up stays on its way. -/
theorem Underway.taken (underway : bus.Underway origin s) {index : Nat} {env : Env} {reply : Reply}
    (answers : bus.Answers s (.resume index env reply))
    (stepped : s.step (.resume index env reply) = some t) :
    ∃ progress, bus.Heads ((bus.found origin).1.map Prod.snd) (bus.discover origin).endpointMap
        (progress, t.lib) ∧
      ((∃ next, progress = .suspended next ∧ t.scans = s.scans.set index next) ∨
        ∃ ec, progress = .returned ec ∧ t.scans = s.scans.eraseIdx index) := by
  obtain ⟨scan, progress, lib, waiting, resumed, rfl, left⟩ := System.step_resume stepped
  obtain ⟨scan', waiting', rfl, rfl⟩ := answers
  rw [waiting] at waiting'
  cases waiting'
  obtain ⟨known, same⟩ := underway.heads scan (List.mem_of_getElem? waiting)
  exact ⟨progress, (resume_heads underway.knows known resumed).trans same, left⟩

theorem Underway.step (underway : bus.Underway origin s) {label : Label}
    (answers : bus.Answers s label) (stepped : s.step label = some t) : bus.Underway origin t := by
  obtain ⟨knows, others⟩ := underway.others stepped
  refine ⟨knows, ?_⟩
  cases label with
  | detect =>
      cases stepped
      intro scan member
      rcases List.mem_append.mp member with member | member
      · exact others scan member
      · rw [List.mem_singleton.mp member]
        exact detect_heads underway.knows
  | resume index env reply =>
      intro scan member
      obtain ⟨progress, heads, ⟨next, rfl, left⟩ | ⟨ec, rfl, left⟩⟩ :=
        underway.taken answers stepped
      · rw [left] at member
        rcases List.mem_or_eq_of_mem_set member with member | rfl
        · exact others scan member
        · exact heads
      · rw [left] at member
        exact others scan (List.mem_of_mem_eraseIdx member)
  | _ =>
      rw [System.step_scans stepped rfl rfl]
      exact others

end SteadyBus

/-- Discoveries that overlap each other, and signals, bodies and calls in between, come
to one map: where the network of every service they will scan is known, each of them files
what a discovery alone would have filed when the first of them began. -/
theorem overlapping_agree (bus : SteadyBus) {u : MCTPImpl} {t v : System} {labels : List Label}
    {index : Nat} {env : Env} {reply : Reply}
    (known : ∀ service ∈ (bus.found u).1.map Prod.snd, bus.Lists service →
      (u.networkIDCache.find service).isSome)
    (overlapping : Run System.step bus.Answers ⟨u, []⟩ labels t)
    (answers : bus.Answers t (.resume index env reply))
    (stepped : t.step (.resume index env reply) = some v)
    (returned : v.scans.length < t.scans.length) :
    SameServices v.lib.endpointMap (bus.discover u).endpointMap := by
  have knows : bus.Knows ((bus.found u).1.map Prod.snd) u u := by
    refine ⟨rfl, fun service member lists => ?_⟩
    obtain ⟨networkID, cached⟩ := Option.isSome_iff_exists.mp (known service member lists)
    exact ⟨networkID, cached, cached⟩
  have underway : bus.Underway u t := by
    refine overlapping.invariant (bus.Underway u) ⟨knows, fun _ member => absurd member (by simp)⟩ ?_
    intro state label next underway answers stepped
    exact underway.step answers stepped
  obtain ⟨progress, heads, ⟨next, rfl, left⟩ | ⟨ec, rfl, left⟩⟩ := underway.taken answers stepped
  · rw [left, List.length_set] at returned
    exact absurd returned (Nat.lt_irrefl _)
  · exact heads

namespace Slot

/-- The bus has been discovered once. -/
def discovered : System := ⟨steadyBus.discover start.lib, []⟩

/-- The bus answers the coroutine. -/
def answered (index : Nat) (scan : Scan) : Label :=
  .resume index steadyBus.env (steadyBus.reply scan)

/-- Two discoveries side by side, and a removal in between. -/
def sideBySide : List Label :=
  [.detect, answered 0 .getObject, .detect, answered 0 (.getNameOwner [] service []),
    answered 1 .getObject, removed]

def overlapped : System := (exec System.step discovered sideBySide).get (by decide)

def last : Label := answered 0 (.getManagedObjects ∅ (2, service) [])

def filedFirst : System := (System.step overlapped last).get (by decide)

theorem overlapping_agree_filedFirst :
    SameServices filedFirst.lib.endpointMap
      (steadyBus.discover discovered.lib).endpointMap := by
  have stepped : overlapped.step last = some filedFirst := by
    simp only [filedFirst, Option.some_get]
  have run : Run System.step steadyBus.Answers discovered sideBySide overlapped := by
    refine .cons trivial rfl (.cons ⟨_, rfl, rfl, rfl⟩ rfl (.cons trivial rfl
      (.cons ⟨_, rfl, rfl, rfl⟩ rfl (.cons ⟨_, rfl, rfl, rfl⟩ rfl (.cons trivial rfl ?_)))))
    exact .nil
  refine overlapping_agree steadyBus (fun service member lists => ?_) run ⟨_, rfl, rfl, rfl⟩ stepped
    (by decide)
  -- The first discovery has read the networks.
  have since : Run System.step Any discovered [] discovered := .nil
  obtain ⟨networkID, cached⟩ := steadyBus.discovered_networks (fun _ _ => rfl) since member lists
  exact Option.isSome_iff_exists.mpr ⟨networkID, cached⟩

/-- The other discovery is still under way, and the endpoint is filed. -/
example : filedFirst.scans.length = 1 ∧
    (filedFirst.lib.endpointMap.find (DeviceID.make 8 3)).isSome := by decide

end Slot

end Mctpw
