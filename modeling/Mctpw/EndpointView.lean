import Mctpw.Wrapper

set_option autoImplicit false

/- When getEndpointMap is a view of the extended map it is called on. -/
namespace Mctpw

open Runs

/-- The keys are the EIDs of the extended map's keys, each with the pair of a
DeviceID of that EID. -/
structure IsView (eids : EndpointMap) (extendedMap : EndpointMapExtended) : Prop where
  keys : ∀ eid, eid ∈ eids.keySet ↔ ∃ device ∈ extendedMap.keySet, device.mctpEID = eid
  pairs : ∀ eid bus, eids.find eid = some bus →
    ∃ device, device.mctpEID = eid ∧ extendedMap.find device = some bus

/-- Whatever earlier calls on any wrapper visited first for an EID, the extended
map now gives to a DeviceID of that EID. -/
def NothingStale (operations : List Operation) (extendedMap : EndpointMapExtended) : Prop :=
  ∀ eid bus, Process.firstVisited eid (Process.visited operations) = some bus →
    ∃ device, device.mctpEID = eid ∧ extendedMap.find device = some bus

theorem firstVisited_some {eid : UInt8} {entries : List (DeviceID × Bus)} {bus : Bus}
    (first : Process.firstVisited eid entries = some bus) :
    ∃ device, device.mctpEID = eid ∧ (device, bus) ∈ entries := by
  obtain ⟨⟨device, bus'⟩, found, same⟩ := Option.map_eq_some_iff.mp first
  cases same
  have member := List.mem_of_find?_eq_some found
  have wanted := List.find?_some found
  exact ⟨device, by simpa using wanted, member⟩

theorem firstVisited_isSome_iff {eid : UInt8} {entries : List (DeviceID × Bus)} :
    (Process.firstVisited eid entries).isSome ↔
      ∃ device bus, device.mctpEID = eid ∧ (device, bus) ∈ entries := by
  constructor
  · intro seen
    obtain ⟨bus, first⟩ := Option.isSome_iff_exists.mp seen
    obtain ⟨device, same, member⟩ := firstVisited_some first
    exact ⟨device, bus, same, member⟩
  · rintro ⟨device, bus, same, member⟩
    unfold Process.firstVisited
    rw [Option.isSome_map, List.find?_isSome]
    exact ⟨(device, bus), member, by simpa using same⟩

/-- Filling a map that holds nothing foreign gives a view, and only then. -/
theorem getEndpointMap_isView_iff {extendedMap : EndpointMapExtended} {localEidMap : EndpointMap}
    {entries : List (DeviceID × Bus)} (lists : extendedMap.Lists entries) :
    IsView (MCTPWrapper.getEndpointMap entries localEidMap) extendedMap ↔
      ∀ eid bus, localEidMap.find eid = some bus →
        ∃ device, device.mctpEID = eid ∧ extendedMap.find device = some bus := by
  have filled := MCTPWrapper.find_getEndpointMap entries localEidMap
  constructor
  · intro view eid bus held
    apply view.pairs
    rw [filled, held, Option.some_or]
  · intro current
    have pairs : ∀ eid bus,
        (MCTPWrapper.getEndpointMap entries localEidMap).find eid = some bus →
          ∃ device, device.mctpEID = eid ∧ extendedMap.find device = some bus := by
      intro eid bus found
      rw [filled] at found
      cases held : localEidMap.find eid with
      | some old =>
          rw [held, Option.some_or] at found
          cases found
          exact current eid bus held
      | none =>
          rw [held, Option.none_or] at found
          obtain ⟨device, same, member⟩ := firstVisited_some found
          exact ⟨device, same, (lists.mem device bus).mp member⟩
    refine ⟨?_, pairs⟩
    intro eid
    constructor
    · intro member
      obtain ⟨bus, found⟩ := Option.isSome_iff_exists.mp member
      obtain ⟨device, same, held⟩ := pairs eid bus found
      exact ⟨device, by simp [UnorderedMap.mem_keySet, held], same⟩
    · rintro ⟨device, member, same⟩
      obtain ⟨bus, held⟩ := Option.isSome_iff_exists.mp member
      have seen : (Process.firstVisited eid entries).isSome :=
        firstVisited_isSome_iff.mpr ⟨device, bus, same, (lists.mem device bus).mpr held⟩
      rw [UnorderedMap.mem_keySet, filled]
      cases localEidMap.find eid with
      | some old => rfl
      | none => simpa using seen

/-- After any operations on any wrappers, a call of getEndpointMap returns a view
of its wrapper's map exactly when nothing visited by the calls before is stale. -/
theorem endpointMap_view_iff {host : ByteOrder.Endian} {operations : List Operation} {p : Process}
    (run : Run Process.step Process.Visits (Process.fresh host) operations p) {index : Nat}
    {wrapper : System} (called : p.wrappers[index]? = some wrapper)
    {entries : List (DeviceID × Bus)} (visits : p.Visits (.getEndpointMap index entries)) :
    IsView (MCTPWrapper.getEndpointMap entries p.localEidMap) wrapper.lib.endpointMap ↔
      NothingStale operations wrapper.lib.endpointMap := by
  have lists := visits wrapper called
  rw [getEndpointMap_isView_iff lists, Process.localEidMap_eq run]
  unfold NothingStale
  simp only [MCTPWrapper.find_getEndpointMap]
  simp [Process.fresh]

namespace Slot

/-- A process whose one wrapper has discovered the bus and one endpoint on it. -/
def filing : List Operation :=
  .construct config true false :: (discovery ++ [added, .body]).map (.wrapper 0)

def filed : Process := (exec Process.step (Process.fresh .little) filing).get (by decide)

theorem filed_run : Run Process.step Process.Visits (Process.fresh .little) filing filed := by
  have done : exec Process.step (Process.fresh .little) filing = some filed := by
    simp only [filed, Option.some_get]
  apply (Run.of_exec done).admitted
  intro state operation member
  simp only [filing, List.mem_cons, List.mem_map] at member
  rcases member with rfl | ⟨label, _, rfl⟩
  · trivial
  · trivial

theorem filed_lists : (plugged.lib.endpointMap).Lists [(device, (0, owner))] := by
  have same : plugged.lib.endpointMap = UnorderedMap.emplace ∅ device (0, owner) := rfl
  rw [same]
  constructor
  · decide
  · intro key value
    rw [UnorderedMap.find_emplace]
    by_cases here : key = device
    · simp [here, eq_comm]
    · simp [here]

/-- The first call shows the endpoint, as it should. -/
theorem endpointMap_view_first :
    IsView (MCTPWrapper.getEndpointMap [(device, (0, owner))] filed.localEidMap)
      plugged.lib.endpointMap := by
  have called : filed.wrappers[0]? = some plugged := rfl
  apply (endpointMap_view_iff filed_run called ?_).mpr
  · intro eid bus first
    cases first
  · intro wrapper same
    cases same
    exact filed_lists

/-- After the call the endpoint is removed, and a second wrapper is made. -/
def emptying : List Operation :=
  [.getEndpointMap 0 [(device, (0, owner))], .wrapper 0 removed, .construct config true false]

def emptied : Process := (exec Process.step filed emptying).get (by decide)

def unplugged : System := (exec System.step plugged [removed]).get (by decide)

theorem emptied_run :
    Run Process.step Process.Visits (Process.fresh .little) (filing ++ emptying) emptied := by
  have visits : filed.Visits (.getEndpointMap 0 [(device, (0, owner))]) := by
    intro wrapper same
    cases same
    exact filed_lists
  exact filed_run.append (.cons visits rfl (.cons trivial rfl (.cons trivial rfl .nil)))

theorem lists_nil {m : EndpointMapExtended} (empty : ∀ key, m.find key = none) : m.Lists [] := by
  constructor
  · exact List.nodup_nil
  · intro key value
    simp [empty key]

/-- What the first call put into the static map is no view of an empty one. -/
theorem emptied_not_view {m : EndpointMapExtended} (empty : ∀ key, m.find key = none) :
    ¬ IsView (MCTPWrapper.getEndpointMap [] emptied.localEidMap) m := by
  intro view
  have kept : (MCTPWrapper.getEndpointMap [] emptied.localEidMap).find 8 = some (0, owner) := by
    decide
  obtain ⟨device, _, held⟩ := view.pairs 8 _ kept
  rw [empty device] at held
  cases held

/-- The next calls show it still, on the wrapper that lost it and on the one
that never had it. -/
theorem endpointMap_view_stale :
    Run Process.step Process.Visits (Process.fresh .little) (filing ++ emptying) emptied ∧
      (∃ wrapper, emptied.wrappers[0]? = some wrapper ∧
        emptied.Visits (.getEndpointMap 0 []) ∧
        ¬ IsView (MCTPWrapper.getEndpointMap [] emptied.localEidMap) wrapper.lib.endpointMap) ∧
      ∃ wrapper, emptied.wrappers[1]? = some wrapper ∧
        emptied.Visits (.getEndpointMap 1 []) ∧
        ¬ IsView (MCTPWrapper.getEndpointMap [] emptied.localEidMap) wrapper.lib.endpointMap := by
  have lost : ∀ key, unplugged.lib.endpointMap.find key = none := by
    have same : unplugged.lib.endpointMap =
        (UnorderedMap.emplace ∅ device (0, owner)).erase device := rfl
    intro key
    rw [same, UnorderedMap.find_erase, UnorderedMap.find_emplace]
    split <;> simp
  have never : ∀ key, start.lib.endpointMap.find key = none := UnorderedMap.find_empty
  refine ⟨emptied_run, ⟨unplugged, rfl, ?_, emptied_not_view lost⟩,
    ⟨start, rfl, ?_, emptied_not_view never⟩⟩
  · intro wrapper same
    cases same
    exact lists_nil lost
  · intro wrapper same
    cases same
    exact lists_nil never

end Slot

end Mctpw
