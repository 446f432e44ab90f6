import Mctpw.EndpointView
import Mctpw.Identity

set_option autoImplicit false

/- Whether the EIDs the plain interface hands out reach an endpoint when they
are handed back to it. -/
namespace Mctpw

open Runs

/-- Every overload on the EID finds an endpoint and calls the service. -/
def PlainRoutedTo (eid : UInt8) (service : String) (s : MCTPImpl) : Prop :=
  ∀ request, MCTPWrapper.send request eid s =
    s.emit (.call (sendMessage request service (DeviceID.make eid 0)))

/-- The service hosts an endpoint with the EID, on whatever network. -/
def Hosts (service : String) (eid : UInt8) (s : MCTPImpl) : Prop :=
  ∃ device bus, device.mctpEID = eid ∧ s.endpointMap.find device = some (bus, service)

/-- The events the networkChangeCallback has been given. -/
def givenEvents (s : MCTPImpl) : List Event :=
  s.trace.filterMap fun effect =>
    match effect with
    | .networkChange event => some event
    | _ => none

/-- EIDs that getEndpointMap returns now, in whatever order it visits the map,
and EIDs of added devices that are still there, can be sent to. -/
structure PlainEidsWork (p : Process) (s : MCTPImpl) : Prop where
  entries : ∀ extendedMap, s.endpointMap.Lists extendedMap → ∀ eid bus,
    (MCTPWrapper.getEndpointMap extendedMap p.localEidMap).find eid = some bus →
      PlainRoutedTo eid bus.2 s ∧ Hosts bus.2 eid s
  events : ∀ event ∈ givenEvents s, event.type = .deviceAdded →
    event.deviceId ∈ s.endpointMap.keySet →
      ∃ service, PlainRoutedTo event.eid service s ∧ Hosts service event.eid s

/-- On network 0 the EID is filed under the service. -/
def OnNetworkZero (eid : UInt8) (service : String) (s : MCTPImpl) : Prop :=
  ∃ bus, s.endpointMap.find (DeviceID.make eid 0) = some (bus, service)

/-- Network 0 has the EIDs handed out before under the service first visited
with them, every other entry's EID under the entry's service, and the EIDs of
the added devices that are still there. -/
structure NetworkZeroAnswers (operations : List Operation) (s : MCTPImpl) : Prop where
  handed : ∀ eid bus, Process.firstVisited eid (Process.visited operations) = some bus →
    OnNetworkZero eid bus.2 s
  held : ∀ device bus, s.endpointMap.find device = some bus →
    Process.firstVisited device.mctpEID (Process.visited operations) = none →
      OnNetworkZero device.mctpEID bus.2 s
  announced : ∀ event ∈ givenEvents s, event.type = .deviceAdded →
    event.deviceId ∈ s.endpointMap.keySet → ∃ service, OnNetworkZero event.eid service s

variable {eid : UInt8} {service : String} {s : MCTPImpl}

/-- The overloads go to network 0 and nowhere else. -/
theorem plainRoutedTo_iff : PlainRoutedTo eid service s ↔ OnNetworkZero eid service s := by
  have same : PlainRoutedTo eid service s ↔ RoutedTo (DeviceID.make eid 0) service s := by
    simp only [PlainRoutedTo, MCTPWrapper.send_eq, RoutedTo, MCTPImpl.Addresses]
  exact same.trans routedTo_iff_filed

theorem OnNetworkZero.hosts (zero : OnNetworkZero eid service s) : Hosts service eid s := by
  obtain ⟨bus, filed⟩ := zero
  exact ⟨DeviceID.make eid 0, bus, DeviceID.mctpEID_make eid 0, filed⟩

section Shown

variable {start p : Process} {admits : Process → Operation → Prop} {operations : List Operation}
  (run : Run Process.step admits start operations p) (empty : start.localEidMap = ∅)

include run empty

/-- What a call of getEndpointMap can show for an EID: the pair first visited by
the calls before, else that of any entry of the map, for some order has it first. -/
theorem shown_iff (shown : UInt8 → Bus → Prop) :
    (∀ extendedMap, s.endpointMap.Lists extendedMap → ∀ eid bus,
        (MCTPWrapper.getEndpointMap extendedMap p.localEidMap).find eid = some bus → shown eid bus) ↔
      (∀ eid bus, Process.firstVisited eid (Process.visited operations) = some bus →
        shown eid bus) ∧
      ∀ device bus, s.endpointMap.find device = some bus →
        Process.firstVisited device.mctpEID (Process.visited operations) = none →
          shown device.mctpEID bus := by
  have kept : ∀ eid, p.localEidMap.find eid =
      Process.firstVisited eid (Process.visited operations) := by
    intro eid
    rw [Process.localEidMap_eq run, empty, MCTPWrapper.find_getEndpointMap, UnorderedMap.find_empty,
      Option.none_or]
  simp only [MCTPWrapper.find_getEndpointMap, kept]
  constructor
  · intro every
    constructor
    · intro eid bus before
      obtain ⟨extendedMap, lists⟩ := s.endpointMap.exists_lists
      apply every extendedMap lists
      rw [before, Option.some_or]
    · intro device bus held unseen
      obtain ⟨rest, lists⟩ := UnorderedMap.exists_lists_cons held
      apply every _ lists
      rw [unseen, Option.none_or]
      simp [Process.firstVisited]
  · rintro ⟨handed, first⟩ extendedMap lists eid bus found
    cases before : Process.firstVisited eid (Process.visited operations) with
    | some old =>
        rw [before, Option.some_or] at found
        cases found
        exact handed eid bus before
    | none =>
        rw [before, Option.none_or] at found
        obtain ⟨device, rfl, member⟩ := firstVisited_some found
        exact first device bus ((lists.mem device bus).mp member) before

theorem plainEidsWork_iff :
    PlainEidsWork p s ↔ NetworkZeroAnswers operations s := by
  have entries := shown_iff (s := s) run empty fun eid bus => PlainRoutedTo eid bus.2 s ∧ Hosts bus.2 eid s
  have routed : ∀ eid service, (PlainRoutedTo eid service s ∧ Hosts service eid s) ↔
      OnNetworkZero eid service s := by
    intro eid service
    rw [plainRoutedTo_iff]
    exact ⟨And.left, fun zero => ⟨zero, zero.hosts⟩⟩
  simp only [routed] at entries
  constructor
  · intro work
    have shown := work.entries
    have events := work.events
    simp only [routed] at shown events
    obtain ⟨handed, held⟩ := entries.mp shown
    exact ⟨handed, held, events⟩
  · rintro ⟨handed, held, announced⟩
    constructor
    · simpa only [routed] using entries.mpr ⟨handed, held⟩
    · simpa only [routed] using announced

end Shown

/-- In every state a single wrapper can reach, the plain EIDs work exactly when
network 0 answers for them. -/
theorem plainEids_work_iff {host : ByteOrder.Endian} {config : MCTPConfiguration}
    {networkChangeCb rxCb : Bool} {operations : List Operation} {p : Process}
    (run : Run Process.step Process.VisitsAlone (Process.single host config networkChangeCb rxCb)
      operations p) :
    ∃ wrapper, p.wrappers = [wrapper] ∧
      (PlainEidsWork p wrapper.lib ↔ NetworkZeroAnswers operations wrapper.lib) := by
  obtain ⟨wrapper, single⟩ := Process.wrappers_single run
  exact ⟨wrapper, single, plainEidsWork_iff run rfl⟩

namespace Slot

/-- The service's second endpoint gets the network 7 its first lookup cached. -/
def distant : List Label :=
  [.signal networkEnv ⟨owner, .interfacesAdded path object⟩,
    .signal networkEnv ⟨owner, .interfacesAdded distantPath object⟩, .body, .body]

def distantOperations : List Operation := (discovery ++ distant).map (.wrapper 0)

def distantFiled : Process :=
  (exec Process.step (Process.single .little config true false) distantOperations).get (by decide)

theorem alone_of_wrapper {labels : List Label} (state : Process) (operation : Operation)
    (member : operation ∈ labels.map (Operation.wrapper 0)) : state.VisitsAlone operation := by
  obtain ⟨label, _, rfl⟩ := List.mem_map.mp member
  exact ⟨trivial, by simp⟩

/-- EID 9 is announced and listed, but no send to it finds an endpoint. -/
theorem plainEid_unreachable :
    Run Process.step Process.VisitsAlone (.single .little config true false) distantOperations
        distantFiled ∧
      ∃ wrapper, distantFiled.wrappers = [wrapper] ∧ ¬ PlainEidsWork distantFiled wrapper.lib := by
  have done : exec Process.step (.single .little config true false) distantOperations =
      some distantFiled := by
    simp only [distantFiled, Option.some_get]
  refine ⟨(Run.of_exec done).admitted alone_of_wrapper, _, rfl, ?_⟩
  intro work
  obtain ⟨service, routed, _⟩ :=
    work.events ⟨.deviceAdded, 9, DeviceID.make 9 7⟩ (by decide) rfl rfl
  obtain ⟨bus, filed⟩ := plainRoutedTo_iff.mp routed
  cases filed

/-- On network 0 the endpoint can be sent to. -/
theorem plainEids_work_plugged : PlainEidsWork ⟨.little, [plugged], ∅, 0⟩ plugged.lib := by
  have done : exec Process.step (.single .little config true false)
      ((discovery ++ [added, .body]).map (.wrapper 0)) = some ⟨.little, [plugged], ∅, 0⟩ := rfl
  obtain ⟨wrapper, single, exactly⟩ :=
    plainEids_work_iff ((Run.of_exec done).admitted alone_of_wrapper)
  cases single
  have zero : OnNetworkZero 8 owner plugged.lib := ⟨0, rfl⟩
  apply exactly.mpr
  constructor
  · intro eid bus first
    cases first
  · intro key bus held _
    have same := (filed_lists.mem key bus).mpr held
    cases List.mem_singleton.mp same
    exact zero
  · intro event member
    have given : givenEvents plugged.lib = [⟨.deviceAdded, 8, device⟩] := by decide
    rw [given] at member
    cases List.mem_singleton.mp member
    exact fun _ _ => ⟨owner, zero⟩

end Slot

end Mctpw
