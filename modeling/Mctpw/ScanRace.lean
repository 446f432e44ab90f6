import Mctpw.ScanSignals

set_option autoImplicit false

/- A scan against everything that can happen meanwhile. -/
namespace Mctpw

open Runs Strings Feed DeferredSet

variable {network : Network} {w v : World} {told : UInt8 → Bool}

/-- Only the phase is left to show when the scan goes on. -/
theorem Sound.resume {env : Env} {scan : Scan} {reply : Reply} {progress : Progress}
    {system : System} (sound : Sound network w told)
    (reads : MCTPImpl.EnvReads (fun _ => 0) env)
    (resumed : MCTPImpl.resume env scan reply w.system.lib = some (progress, system.lib))
    (phase : Phase network { w with system := system, served := none } told) :
    Sound network { w with system := system, served := none } told := by
  have settings : system.lib.settings = w.system.lib.settings :=
    congrArg Prod.fst (MCTPImpl.resume_installed resumed)
  have matched : w.system.lib.matchedBuses ⊆ system.lib.matchedBuses := by
    rw [MCTPImpl.resume_matchedBuses resumed]
    split
    · exact Finset.subset_insert _ _
    · exact Finset.Subset.refl _
  refine ⟨sound.consistent.congr rfl rfl rfl, ?_, ?_,
    sound.cache.identifies (MCTPImpl.resume_identifies reads resumed), ?_, sound.bound, ?_, phase⟩
  · rw [← sound.config]
    exact congrArg (fun kept => kept.2.1) settings
  · rw [← sound.callback]
    exact congrArg (fun kept => kept.2.2) settings
  · exact (MCTPImpl.resume_watch resumed).trans sound.watching
  · intro device owed
    rw [owed_congr (MCTPImpl.resume_spawned resumed)] at owed
    obtain ⟨eid, made, there, home⟩ := sound.owed device owed
    exact ⟨eid, made, there, matched home⟩

/-- The owner of a service has come. -/
theorem naming_resume {env : Env} {buses : List Bus} {service : String} {rest : List String}
    {reply : Reply} {progress : Progress} {system : System} (sound : Sound network w told)
    (reads : network.ReadsBuses env) (naming : Naming network w buses service rest)
    (served : w.served = some reply)
    (resumed : MCTPImpl.resume env (.getNameOwner buses service rest) reply w.system.lib =
      some (progress, system.lib)) (waits : Waits progress system.scans) :
    Phase network { w with system := system, served := none } told := by
  have answered := naming.served reply served
  subst answered
  obtain ⟨closed, idle, announced, snapshot⟩ := naming.unopened
  have same : ∀ {α : Type} (field : MCTPImpl → α),
      (∀ s buses trace, field { s with matchedBuses := buses, trace := trace } = field s) →
      field (w.system.lib.matchService (network.owner service)) = field w.system.lib :=
    fun field apart => MCTPImpl.matchService_keeps field _ _ (apart _)
  have found := naming.found
  rw [← MCTPImpl.matchService_matchedBuses] at found
  refine phase_searched reads sound.bound ?_ found ?_ ?_ announced snapshot rfl
    (Option.some.inj resumed) waits
  · exact (same MCTPImpl.config fun _ _ _ => rfl).trans sound.config
  · exact (same MCTPImpl.isInitialisationsDone fun _ _ _ => rfl).trans closed
  · exact (same MCTPImpl.spawned fun _ _ _ => rfl).trans idle

/-- The objects of a service have come. -/
theorem collecting_resume {env : Env} {eids : EndpointMapExtended} {bus : Bus} {rest : List Bus}
    {reply : Reply} {progress : Progress} {system : System} (sound : Sound network w told)
    (collecting : Collecting network w told eids bus rest) (served : w.served = some reply)
    (resumed : MCTPImpl.resume env (.getManagedObjects eids bus rest) reply w.system.lib =
      some (progress, system.lib)) (waits : Waits progress system.scans) :
    Phase network { w with system := system, served := none } told := by
  obtain ⟨values, taken, rfl, seen, shows'⟩ := collecting.served reply served
  obtain ⟨unique, listed, named⟩ := collecting.asked bus.2 (by simp)
  have owner : network.owner bus.2 = unique := by rw [named, network.owner_wellKnown]
  rw [owner] at seen shows'
  have keySet := scanService_keySet env bus eids sound.config sound.cache shows'
  have distinct := List.nodup_cons.mp collecting.distinct
  have spawned := MCTPImpl.resume_spawned resumed
  obtain ⟨_, _, _, _, same⟩ := MCTPImpl.scanService_emits env bus values eids w.system.lib
  refine phase_built sound.bound ?_ ?_ distinct.2 ?_ ?_ rfl ?_ ?_ ?_ (Option.some.inj resumed) waits
  · rw [same]
    exact collecting.opened
  · rw [same]
    exact collecting.noticed
  · exact fun name member => collecting.asked name (List.mem_cons_of_mem _ member)
  · intro unique' listed' other
    by_cases here : network.wellKnown unique' = bus.2
    · rw [← network.owner_wellKnown unique', here, owner]
      exact Option.isSome_iff_exists.mpr ⟨taken, seen⟩
    · exact collecting.scanned unique' listed' (by simp [here, other])
  · exact collecting.collects.scanned named listed distinct.1 seen keySet
  · intro eid noticed taken' seen'
    rcases collecting.tracked eid noticed taken' seen' with older | ⟨none, absent, owed⟩
    · exact .inl older
    · exact .inr ⟨none, absent, (owed_congr spawned _).mpr owed⟩
  · intro eid owed
    exact (sound.told_of_owed ((owed_congr spawned _).mp owed)).1

theorem sound_resume {env : Env} (sound : Sound network w told)
    (honest : network.Honest w (.resume env)) (stepped : w.step network (.resume env) = some v) :
    Sound network v told := by
  obtain ⟨reads, buses⟩ := honest
  simp only [World.step] at stepped
  split at stepped
  · cases stepped
  · rename_i reply served
    obtain ⟨system, ran, rfl⟩ := Option.map_eq_some_iff.mp stepped
    cases sound.phase with
    | asked asked =>
        obtain ⟨progress, resumed, waits⟩ := step_resume_only asked.scans ran
        obtain ⟨services, rfl, found⟩ := asked.served reply served
        rw [← asked.matched] at found
        obtain ⟨closed, idle, announced, snapshot⟩ := asked.unopened
        exact sound.resume reads resumed (phase_searched buses sound.bound sound.config found closed
          idle announced snapshot rfl (Option.some.inj resumed) waits)
    | naming _ service rest naming =>
        obtain ⟨progress, resumed, waits⟩ := step_resume_only naming.scans ran
        exact sound.resume reads resumed (naming_resume sound buses naming served resumed waits)
    | collecting eids bus rest collecting =>
        obtain ⟨progress, resumed, waits⟩ := step_resume_only collecting.scans ran
        exact sound.resume reads resumed (collecting_resume sound collecting served resumed waits)
    | returned returned =>
        have gone : w.system.step (.resume 0 env reply) = none := by
          simp [System.step, returned.scans]
        rw [gone] at ran
        cases ran

section Body

variable {body : Spawned} {rest : List Spawned}
  (queued : w.system.lib.spawned = body :: rest)

include queued

/-- A body other than the insertion of a device leaves that insertion waiting. -/
theorem owed_body {device : DeviceID} (owed : Owed (deviceSet 0 w.system.lib) device)
    (other : ∀ serviceName, body ≠ .newEID serviceName device) :
    Owed (DeferredSet.step (deviceSet 0 w.system.lib) .run) device := by
  refine owed_run owed ?_
  simp only [deviceSet, queued, List.map_cons, List.head?_cons, ne_eq, Option.some.injEq]
  cases body with
  | newEID serviceName extendedEID =>
      intro first
      cases first
      exact other serviceName rfl
  | eidRemoved deviceID => exact fun first => by cases first

variable {lib : MCTPImpl}
  (devices : deviceSet 0 lib = DeferredSet.step (deviceSet 0 w.system.lib) .run)
  (opened : lib.isInitialisationsDone = w.system.lib.isInitialisationsDone)
  (matched : lib.matchedBuses = w.system.lib.matchedBuses)

include devices opened matched

/-- While the new map is built, an insertion that is run is in a snapshot or older
than it. -/
theorem collecting_body {eids : EndpointMapExtended} {bus : Bus} {left : List Bus}
    (collecting : Collecting network w told eids bus left)
    (undisturbed : network.Undisturbed w .body) :
    Collecting network { w with system := { w.system with lib := lib } } told eids bus left := by
  refine ⟨collecting.scans, opened.trans collecting.opened, ?_, collecting.distinct,
    collecting.asked, collecting.scanned, collecting.served, collecting.collects, ?_⟩
  · dsimp only
    rw [matched]
    exact collecting.noticed
  · intro eid noticed taken seen
    rcases collecting.tracked eid noticed taken seen with older | ⟨none, absent, owed⟩
    · exact .inl older
    · refine .inr ⟨none, absent, ?_⟩
      dsimp only
      rw [devices]
      refine owed_body queued owed ?_
      -- The snapshot does not show the device, so its insertion waits for the new map.
      rintro serviceName rfl
      obtain ⟨listed, shown⟩ := undisturbed serviceName _ rest queued
        ⟨eids, bus, left, collecting.scans⟩
      rw [DeviceID.mctpEID_make] at listed shown
      unfold World.seen at seen
      rw [if_pos listed] at seen
      rcases shown taken seen with older | there
      · omega
      · rw [absent] at there
        cases there

omit queued in
/-- After the scan a body only moves a device from the insertions to the map. -/
theorem returned_body (returned : Returned network w told)
    (homes : ∀ device, Owed (deviceSet 0 w.system.lib) device → ∃ eid,
      device = DeviceID.make eid 0 ∧ network.home eid ∈ w.system.lib.matchedBuses) :
    Returned network { w with system := { w.system with lib := lib } } told := by
  refine ⟨returned.scans, opened.trans returned.opened, ?_, ?_, ?_⟩
  · dsimp only
    rw [matched]
    exact returned.noticed
  · intro eid noticed
    obtain ⟨held, reached, exact'⟩ := returned.tracked eid noticed
    refine ⟨held, reached, ?_⟩
    rw [← exact']
    dsimp only
    rw [devices]
    constructor
    · intro kept
      by_contra gone
      rw [not_or] at gone
      obtain ⟨absent, free⟩ := step_gone _ .run (DeviceID.make eid 0) (by simp) gone
      rcases kept with there | waiting
      · exact absent there
      · exact free waiting
    · exact step_kept _ .run (DeviceID.make eid 0) (by simp)
  · intro device there
    dsimp only at there
    rw [devices] at there
    by_cases before : device ∈ (deviceSet 0 w.system.lib).present
    · exact returned.filed device before
    · have owed : Owed (deviceSet 0 w.system.lib) device := by
        by_contra free
        exact (step_gone _ .run device (by simp) ⟨before, free⟩).1 there
      obtain ⟨eid, made, home⟩ := homes device owed
      exact ⟨eid, made, (returned.noticed _).mp home⟩

end Body

theorem sound_body (sound : Sound network w told) (undisturbed : network.Undisturbed w .body)
    (stepped : w.step network .body = some v) : Sound network v told := by
  simp only [World.step] at stepped
  obtain ⟨system, ran, rfl⟩ := Option.map_eq_some_iff.mp stepped
  obtain ⟨body, rest, queued, rfl⟩ := System.step_body ran
  have devices := MCTPImpl.deviceSet_runSpawned queued (Nat.zero_le _)
  obtain ⟨eids, event, same⟩ := MCTPImpl.runSpawned_eq body rest w.system.lib
  rw [same] at devices ⊢
  refine ⟨sound.consistent.congr rfl rfl rfl, sound.config, sound.callback, sound.cache,
    sound.watching, sound.bound, ?_, ?_⟩
  · intro device owed
    dsimp only at owed
    rw [devices] at owed
    exact sound.owed device (owed_of_run owed)
  · cases sound.phase with
    | asked asked => simp [asked.unopened.idle] at queued
    | naming buses service rest' naming => simp [naming.unopened.idle] at queued
    | collecting eids bus left collecting =>
        exact .collecting eids bus left
          (collecting_body queued devices rfl rfl collecting undisturbed)
    | returned returned =>
        refine .returned (returned_body devices rfl rfl returned ?_)
        intro device owed
        obtain ⟨eid, made, _, home⟩ := sound.owed device owed
        exact ⟨eid, made, home⟩

theorem sound_step {act : Act} (sound : Sound network w told) (honest : network.Honest w act)
    (undisturbed : network.Undisturbed w act) (stepped : w.step network act = some v) :
    ∃ told', Sound network v told' := by
  cases act with
  | appear unique values => exact ⟨told, sound_appear sound honest stepped⟩
  | plug eid values => exact ⟨told, sound_plug sound honest stepped⟩
  | unplug eid => exact ⟨told, sound_unplug sound stepped⟩
  | detect => simp [World.step, sound.watching] at stepped
  | serve reply => exact ⟨told, sound_serve sound honest stepped⟩
  | resume env => exact ⟨told, sound_resume sound honest stepped⟩
  | deliver env unique => exact sound_deliver sound honest undisturbed stepped
  | body => exact ⟨told, sound_body sound undisturbed stepped⟩

/-- Discovery begins. -/
theorem sound_detect (fresh : network.Fresh w) (stepped : w.step network .detect = some v) :
    Sound network v (network.holds v) := by
  simp only [World.step, fresh.unwatched, Bool.false_eq_true, ↓reduceIte] at stepped
  cases stepped
  refine ⟨.of_quiet fresh.endpoints fresh.queue, fresh.config, fresh.callback, ?_, rfl, ?_, ?_,
    .asked ⟨?_, ⟨fresh.closed, fresh.spawned, fresh.announced, fresh.snapshot⟩, fresh.matched, ?_⟩⟩
  · intro name value found
    change w.system.lib.networkIDCache.find name = some value at found
    simp [fresh.cache] at found
  · intro unique listed
    simp [fresh.listed] at listed
  · intro device owed
    exact absurd owed (not_owed_of_idle (idle_of_drained 0 fresh.spawned) device)
  · simp [fresh.scans, MCTPImpl.detectMctpEndpoints]
  · intro reply served
    simp [fresh.served] at served

theorem fresh_step {act : Act} (fresh : network.Fresh w) (honest : network.Honest w act)
    (stepped : w.step network act = some v) : network.Fresh v ∨ ∃ told, Sound network v told := by
  cases act with
  | appear unique values =>
      simp only [World.step] at stepped
      split at stepped
      · cases stepped
      · rw [World.push_unwatched (by exact fresh.unwatched)] at stepped
        cases stepped
        refine .inl { fresh with endpoints := ?_ }
        intro eid values there
        obtain ⟨endpoint, home⟩ := fresh.endpoints eid values there
        exact ⟨endpoint, Finset.mem_insert_of_mem home⟩
  | plug eid values =>
      simp only [World.step] at stepped
      split at stepped
      · rename_i free
        rw [World.push_unwatched (by exact fresh.unwatched)] at stepped
        cases stepped
        refine .inl { fresh with endpoints := endpoints_update fresh.endpoints ?_ }
        intro held same
        cases same
        exact ⟨honest, free.2⟩
      · cases stepped
  | unplug eid =>
      simp only [World.step] at stepped
      split at stepped
      · cases stepped
      · rw [World.push_unwatched (by exact fresh.unwatched)] at stepped
        cases stepped
        refine .inl { fresh with endpoints := endpoints_update fresh.endpoints ?_ }
        intro held gone
        cases gone
  | detect => exact .inr ⟨_, sound_detect fresh stepped⟩
  | serve reply => simp [World.step, fresh.scans] at stepped
  | resume env => simp [World.step, fresh.served] at stepped
  | deliver env unique => simp [World.step, fresh.queue] at stepped
  | body => simp [World.step, System.step, fresh.spawned] at stepped

/-- Once all is settled, the map has the supported endpoints of every service the
library has noticed. -/
theorem Sound.settled (sound : Sound network w told) (settled : w.Settled) :
    w.system.lib.endpointMap.keySet = network.endpointsOf w (network.Noticed w) := by
  cases sound.phase with
  | asked asked => exact absurd settled.returned (by simp [asked.scans])
  | naming buses service rest naming => exact absurd settled.returned (by simp [naming.scans])
  | collecting eids bus rest collecting =>
      exact absurd settled.returned (by simp [collecting.scans])
  | returned returned =>
      have idle := not_owed_of_idle (idle_of_drained 0 settled.drained)
      have decided : ∀ eid, network.Noticed w (network.home eid) →
          (DeviceID.make eid 0 ∈ w.system.lib.endpointMap.keySet ↔ network.holds w eid = true) := by
        intro eid noticed
        obtain ⟨held, reached, exact'⟩ := returned.tracked eid noticed
        have current := sound.consistent.current eid
        have handled : w.queue (network.home eid) = [] := by
          by_cases there : network.home eid ∈ w.present
          · exact settled.handled _ there
          · exact (sound.consistent.absent _ there).1
        rw [handled] at reached current
        rw [← current]
        rw [reached.of_nil, or_iff_left (idle _)] at exact'
        exact exact'
      ext device
      constructor
      · intro filed
        obtain ⟨eid, rfl, noticed⟩ := returned.filed device filed
        obtain ⟨values, there, supported⟩ := Network.holds_iff.mp ((decided eid noticed).mp filed)
        exact ⟨eid, values, rfl, noticed, there, supported⟩
      · rintro ⟨eid, values, rfl, noticed, there, supported⟩
        exact (decided eid noticed).mpr (Network.holds_iff.mpr ⟨values, there, supported⟩)

/-- No endpoint change is lost across a scan that is not disturbed. -/
theorem scan_loses_nothing (network : Network) {start w : World} {acts : List Act}
    (fresh : network.Fresh start)
    (run : Run (World.step network)
      (fun w act => network.Honest w act ∧ network.Undisturbed w act) start acts w)
    (settled : w.Settled) :
    w.system.lib.endpointMap.keySet = network.endpointsOf w (network.Noticed w) := by
  have invariant : network.Fresh w ∨ ∃ told, Sound network w told := by
    refine run.invariant (fun w => network.Fresh w ∨ ∃ told, Sound network w told) (.inl fresh) ?_
    rintro state act next (fresh | ⟨told, sound⟩) ⟨honest, undisturbed⟩ stepped
    · exact fresh_step fresh honest stepped
    · exact .inr (sound_step sound honest undisturbed stepped)
  rcases invariant with fresh | ⟨told, sound⟩
  · exact absurd fresh.unwatched (by simp [settled.watching])
  · exact sound.settled settled

namespace Slot

/-- The path of an endpoint, ending in its EID. -/
def pathOf (eid : UInt8) : String := endpointPrefix ++ "device/" ++ toString eid.toNat

theorem pathOf_toList (eid : UInt8) : (pathOf eid).toList =
    endpointPrefix.toList ++ "device".toList ++ '/' :: Nat.toDigits 10 eid.toNat := by
  simp [pathOf, String.toList_append]

theorem pathOf_under (eid : UInt8) : startsWith (pathOf eid) endpointPrefix = true :=
  startsWith_iff.mpr ⟨_, by rw [pathOf_toList, List.append_assoc]⟩

theorem numerals : ∀ n : Fin 256, '/' ∉ Nat.toDigits 10 n ∧
    stoi 10 (Nat.toDigits 10 n) = .ok (n.val : Int) := by
  decide +kernel

theorem pathOf_eid (eid : UInt8) : MCTPImpl.pathEID (pathOf eid) = some eid := by
  obtain ⟨free, value⟩ := numerals ⟨eid.toNat, eid.toNat_lt⟩
  have small : ((eid.toNat : Int) % 2 ^ 8).toNat = eid.toNat := by
    have bound := eid.toNat_lt
    omega
  rw [MCTPImpl.pathEID_eq_some_iff (pathOf_under eid), MCTPImpl.splitEID, splitOn_getLast?,
    pathOf_toList, afterLast_append _ _ _ free]
  simp only [value, UInt8.ofInt, small, UInt8.ofNat_toNat]

/-- The bus with its one service, for any endpoint. -/
def bus : Network where
  config := config
  plain := by decide
  wellKnown name := if name = owner then service else if name = service then owner else name
  owner name := if name = owner then service else if name = service then owner else name
  owner_wellKnown := by
    intro name
    by_cases unique : name = owner
    · subst unique
      decide
    · by_cases known : name = service
      · subst known
        decide
      · simp [unique, known]
  bound name := name = owner
  home _ := owner
  path := pathOf
  path_under := pathOf_under
  path_eid := pathOf_eid

/-- Nothing has happened yet. -/
def bare (present : Finset String) : World where
  system := start
  present := present
  objects _ := none
  queue _ := []
  served := none
  listed := ∅
  announced := ∅
  snapshot _ := none

theorem bare_fresh (present : Finset String) : bus.Fresh (bare present) where
  config := rfl
  callback := rfl
  closed := rfl
  unwatched := rfl
  scans := rfl
  spawned := rfl
  matched := rfl
  cache := rfl
  endpoints := by
    intro eid values there
    cases there
  queue := fun _ => rfl
  served := rfl
  listed := rfl
  announced := rfl
  snapshot := fun _ => rfl

theorem env_zero : MCTPImpl.EnvReads (fun _ => 0) env := fun _ => rfl

theorem env_buses : bus.ReadsBuses env := by
  intro unique bound s configured
  refine ⟨2, ?_⟩
  unfold MCTPImpl.getBusId
  rw [configured]
  rfl

/-- The scan until it waits for the objects of the service. -/
def asking : List Act :=
  [.detect, .serve (.object (.ok [service])), .resume env, .serve (.nameOwner (.ok owner)),
    .resume env]

def asked : World := (exec (World.step bus) (bare {owner}) asking).get (by decide)

theorem asked_run : Run (World.step bus)
    (fun w act => bus.Honest w act ∧ bus.Undisturbed w act) (bare {owner}) asking asked := by
  have goesOn : ∀ w, bus.Honest w (.resume env) ∧ bus.Undisturbed w (.resume env) :=
    fun _ => ⟨⟨env_zero, env_buses⟩, trivial⟩
  refine .cons ⟨trivial, trivial⟩ rfl (.cons ⟨?_, trivial⟩ rfl (.cons (goesOn _) rfl
    (.cons ⟨?_, trivial⟩ rfl (.cons (goesOn _) rfl .nil))))
  · intro scan waiting
    cases waiting
    refine ⟨[service], rfl, by decide, ?_⟩
    intro name
    simp [bare, bus]
  · intro scan waiting
    cases waiting
    rfl

def slotDevice : List Act := [.plug 8 object, .deliver env owner, .body]

/-- While the new map is built the endpoint comes up, goes away and comes up again. -/
def reappearing : List Act :=
  slotDevice ++ [.unplug 8, .deliver env owner, .plug 8 object]

def reappeared : World := (exec (World.step bus) asked reappearing).get (by decide)

theorem reappeared_run : Run (World.step bus)
    (fun w act => bus.Honest w act ∧ bus.Undisturbed w act) asked reappearing reappeared := by
  refine .cons ⟨rfl, trivial⟩ rfl (.cons ⟨env_zero, ?_⟩ rfl (.cons ⟨trivial, ?_⟩ rfl
    (.cons ⟨trivial, trivial⟩ rfl (.cons ⟨env_zero, ?_⟩ rfl (.cons ⟨rfl, trivial⟩ rfl .nil)))))
  · intro eid values rest head
    cases head
  · intro serviceName device rest queued _
    cases queued
    exact ⟨by decide, fun taken none => by cases none⟩
  · -- No insertion is outstanding when the removal is handled.
    intro eid values rest head _ _
    cases head
    exact ⟨fun _ => List.not_mem_nil, fun _ => ⟨by decide, fun taken none => by cases none⟩⟩

theorem reappeared_objects (eid : UInt8) :
    reappeared.objects eid = if eid = 8 then some object else none := by
  change Function.update (Function.update (Function.update (fun _ => none) 8 (some object)) 8
    none) 8 (some object) eid = _
  by_cases same : eid = 8 <;> simp [same]

theorem reappeared_answers {scan : Scan} (waiting : reappeared.system.scans = [scan]) :
    bus.Answers reappeared scan (.managedObjects (.ok [(pathOf 8, object)])) := by
  have scans : reappeared.system.scans = [.getManagedObjects ∅ (2, service) []] := rfl
  rw [scans] at waiting
  obtain rfl := List.singleton_inj.mp waiting
  refine ⟨_, rfl, ?_⟩
  intro objectPath interfaces
  rw [List.mem_singleton, Prod.mk.injEq]
  constructor
  · rintro ⟨⟨rfl, rfl⟩, _⟩
    exact ⟨8, rfl, by decide, reappeared_objects 8⟩
  · rintro ⟨eid, rfl, _, there⟩
    rw [reappeared_objects] at there
    by_cases same : eid = 8
    · subst same
      cases there
      exact ⟨⟨rfl, rfl⟩, rfl⟩
    · simp [same] at there

/-- The snapshot shows the endpoint before its second insertion is run. -/
def showing : List Act :=
  [.serve (.managedObjects (.ok [(pathOf 8, object)])), .deliver env owner, .body, .body,
    .resume env]

def shown : World := (exec (World.step bus) reappeared showing).get (by decide)

theorem shown_run : Run (World.step bus)
    (fun w act => bus.Honest w act ∧ bus.Undisturbed w act) reappeared showing shown := by
  refine .cons ⟨fun _ => reappeared_answers, trivial⟩ rfl (.cons ⟨env_zero, ?_⟩ rfl
    (.cons ⟨trivial, ?_⟩ rfl (.cons ⟨trivial, ?_⟩ rfl
    (.cons ⟨⟨env_zero, env_buses⟩, trivial⟩ rfl .nil))))
  · intro eid values rest head
    cases head
  · intro serviceName device rest queued
    cases queued
  · intro serviceName device rest queued _
    cases queued
    exact ⟨by decide, fun taken shows' => .inr (by cases shows'; rfl)⟩

theorem scan_loses_nothing_shown :
    shown.system.lib.endpointMap.keySet = bus.endpointsOf shown (bus.Noticed shown) := by
  refine scan_loses_nothing bus (bare_fresh {owner})
    (asked_run.append (reappeared_run.append shown_run)) ⟨rfl, rfl, rfl, ?_⟩
  intro unique there
  cases Finset.mem_singleton.mp there
  rfl

/-- The scan up to the snapshot of the service, which holds nothing. -/
def scanning : List Act := asking ++ [.serve (.managedObjects (.ok []))]

def scanned : World := (exec (World.step bus) (bare {owner}) scanning).get (by decide)

theorem scanned_honest : Run (World.step bus) bus.Honest (bare {owner}) scanning scanned := by
  refine (asked_run.mono fun _ _ => And.left).append (.cons ?_ rfl .nil)
  intro scan waiting
  cases waiting
  refine ⟨[], rfl, ?_⟩
  intro objectPath interfaces
  constructor
  · rintro ⟨member, _⟩
    cases member
  · rintro ⟨eid, _, _, there⟩
    cases there

/-- A service that comes up after GetObject has been served, and before events
are let in. -/
def dropping : List Act :=
  [.detect, .serve (.object (.ok [])),
    .appear owner [(baseInterface, []), (bindingToInterface .mctpOverSmBus, [])],
    .plug 8 object, .deliver env owner, .deliver env owner, .resume env]

def dropped : World := (exec (World.step bus) (bare ∅) dropping).get (by decide)

/-- An endpoint that comes up after the snapshot, and is inserted before the map
is replaced. -/
def overwritten : World :=
  (exec (World.step bus) scanned (slotDevice ++ [.resume env])).get (by decide)

/-- An endpoint removed before its insertion has run. -/
def overtaking : List Act :=
  [.resume env, .plug 8 object, .unplug 8, .deliver env owner, .deliver env owner, .body]

def stale : World := (exec (World.step bus) scanned overtaking).get (by decide)

/-- The map is not what is there on the services with the configured binding. -/
def Misses (w : World) : Prop :=
  w.Settled ∧ w.system.lib.endpointMap.keySet ≠
    bus.endpointsOf w fun unique => bus.bound unique = true

theorem misses_of_unfiled {w : World} (settled : w.Settled) (there : w.objects 8 = some object)
    (unfiled : ¬ (w.system.lib.endpointMap.find device).isSome) : Misses w := by
  refine ⟨settled, ?_⟩
  intro same
  have member : device ∈ bus.endpointsOf w fun unique => bus.bound unique = true :=
    ⟨8, object, rfl, by decide, there, by decide⟩
  rw [← same] at member
  exact unfiled member

theorem dropped_misses : Run (World.step bus) bus.Honest (bare ∅) dropping dropped ∧
    Misses dropped := by
  refine ⟨.cons trivial rfl (.cons ?_ rfl (.cons rfl rfl (.cons rfl rfl (.cons env_zero rfl
    (.cons env_zero rfl (.cons ⟨env_zero, env_buses⟩ rfl .nil)))))),
    misses_of_unfiled ⟨rfl, rfl, rfl, ?_⟩ rfl (by decide)⟩
  · intro scan waiting
    cases waiting
    exact ⟨[], rfl, by decide, by simp [bare]⟩
  · intro unique there
    cases Finset.mem_singleton.mp there
    rfl

theorem overwritten_misses :
    Run (World.step bus) bus.Honest (bare {owner}) (scanning ++ (slotDevice ++ [.resume env]))
        overwritten ∧ Misses overwritten := by
  refine ⟨scanned_honest.append (.cons rfl rfl (.cons env_zero rfl (.cons trivial rfl
    (.cons ⟨env_zero, env_buses⟩ rfl .nil)))),
    misses_of_unfiled ⟨rfl, rfl, rfl, ?_⟩ rfl (by decide)⟩
  intro unique there
  cases Finset.mem_singleton.mp there
  rfl

theorem stale_misses :
    Run (World.step bus) bus.Honest (bare {owner}) (scanning ++ overtaking) stale ∧
      Misses stale := by
  refine ⟨scanned_honest.append (.cons ⟨env_zero, env_buses⟩ rfl (.cons rfl rfl (.cons trivial rfl
    (.cons env_zero rfl (.cons env_zero rfl (.cons trivial rfl .nil)))))), ⟨rfl, rfl, rfl, ?_⟩, ?_⟩
  · intro unique there
    cases Finset.mem_singleton.mp there
    rfl
  · intro same
    have there : (stale.system.lib.endpointMap.find device).isSome := by decide
    have filed : device ∈ stale.system.lib.endpointMap.keySet := there
    rw [same] at filed
    obtain ⟨eid, values, made, _, gone, _⟩ := filed
    obtain ⟨rfl, _⟩ := DeviceID.make_inj.mp made
    cases gone

/-- Three ways a map goes wrong: a service announced to a closed gate, a change
made to the map about to be replaced, and a removal overtaking an insertion. -/
theorem scan_loses :
    bus.Fresh (bare ∅) ∧ bus.Fresh (bare {owner}) ∧
      (Run (World.step bus) bus.Honest (bare ∅) dropping dropped ∧ Misses dropped) ∧
      (Run (World.step bus) bus.Honest (bare {owner}) (scanning ++ (slotDevice ++ [.resume env]))
        overwritten ∧ Misses overwritten) ∧
      (Run (World.step bus) bus.Honest (bare {owner}) (scanning ++ overtaking) stale ∧
        Misses stale) :=
  ⟨bare_fresh ∅, bare_fresh {owner}, dropped_misses, overwritten_misses, stale_misses⟩

end Slot

end Mctpw
