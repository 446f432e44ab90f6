import Mctpw.EndpointDirectory
import Mctpw.LatestRoute
import Mctpw.PathEids
import Mctpw.Withdrawal

set_option autoImplicit false

/- The rest of what can be asked of the library: the calls made for one endpoint,
and the additions to the map that no discovery makes. -/
namespace Mctpw

open Runs Directory

def reserveBandwidthCall (devID : DeviceID) (timeout : UInt16) (destination : String) : MethodCall :=
  ⟨destination, basePath, baseInterface, "ReserveBandwidth", [.u8 devID.mctpEID, .u16 timeout]⟩

def releaseBandwidthCall (devID : DeviceID) (destination : String) : MethodCall :=
  ⟨destination, basePath, baseInterface, "ReleaseBandwidth", [.u8 devID.mctpEID]⟩

def triggerDeviceDiscoveryCall (destination : String) : MethodCall :=
  ⟨destination, basePath, baseInterface, "TriggerDeviceDiscovery", []⟩

namespace MCTPImpl

/-- The reply is the error code and status yield_method_call produces. A negative
status is logged and handed on. -/
def bandwidthYield (call : String → MethodCall) (reply : ErrorCode × Int) (devID : DeviceID)
    (s : MCTPImpl) : Int × MCTPImpl :=
  match s.endpointMap.find devID with
  | none => (-1, s)
  | some entry =>
      let status := if reply.1 = .success then reply.2 else -1
      (status, s.emit (.call (call entry.2)))

def reserveBandwidth (reply : ErrorCode × Int) (devID : DeviceID) (timeout : UInt16)
    (s : MCTPImpl) : Int × MCTPImpl :=
  bandwidthYield (reserveBandwidthCall devID timeout) reply devID s

def releaseBandwidth (reply : ErrorCode × Int) (devID : DeviceID) (s : MCTPImpl) : Int × MCTPImpl :=
  bandwidthYield (releaseBandwidthCall devID) reply devID s

/-- Its handler only logs. -/
def triggerMCTPDeviceDiscovery (devID : DeviceID) (s : MCTPImpl) : MCTPImpl :=
  match s.endpointMap.find devID with
  | none => s
  | some entry => s.emit (.call (triggerDeviceDiscoveryCall entry.2))

/-- addToEidMap up to its suspension, with the bus it asks for objects. -/
def addToEidMap (env : Env) (serviceName : String) (s : MCTPImpl) : Option Bus × MCTPImpl :=
  let read := getBusId env serviceName s
  match read.1 with
  | .error _ => (none, read.2)
  | .ok busID =>
      (some (UInt32.ofInt busID, serviceName),
        read.2.emit (.call (getManagedObjects serviceName)))

/-- And from the reply on. What is filed by then stays. -/
def insertEids (env : Env) (bus : Bus) (reply : Except ErrorCode (DictType Interfaces))
    (s : MCTPImpl) : MCTPImpl :=
  match reply with
  | .error _ => { s with endpointMap := s.endpointMap.insertAll ∅ }
  | .ok values =>
      let scanned := scanService env bus values ∅ s
      { scanned.2 with endpointMap := scanned.2.endpointMap.insertAll scanned.1 }

/-- The number of entries erased. -/
def eraseDevice (extendedEID : DeviceID) (s : MCTPImpl) : Nat × MCTPImpl :=
  (if (s.endpointMap.find extendedEID).isSome then 1 else 0,
    { s with endpointMap := s.endpointMap.erase extendedEID })

end MCTPImpl

/-- The four uses of a device that are no sends, with the answers they would get. -/
inductive DeviceUse
  | reserveBandwidth (reply : ErrorCode × Int) (timeout : UInt16)
  | releaseBandwidth (reply : ErrorCode × Int)
  | triggerMCTPDeviceDiscovery
  | getDeviceLocation (env : Env)

namespace MCTPImpl

def operate (use : DeviceUse) (devID : DeviceID) (s : MCTPImpl) : MCTPImpl :=
  match use with
  | .reserveBandwidth reply timeout => (reserveBandwidth reply devID timeout s).2
  | .releaseBandwidth reply => (releaseBandwidth reply devID s).2
  | .triggerMCTPDeviceDiscovery => triggerMCTPDeviceDiscovery devID s
  | .getDeviceLocation env => (getDeviceLocation env devID s).2

/-- The call a use makes to a given destination. -/
def useCall (use : DeviceUse) (devID : DeviceID) (destination : String) : MethodCall :=
  match use with
  | .reserveBandwidth _ timeout => reserveBandwidthCall devID timeout destination
  | .releaseBandwidth _ => releaseBandwidthCall devID destination
  | .triggerMCTPDeviceDiscovery => triggerDeviceDiscoveryCall destination
  | .getDeviceLocation _ => (locationCodeProperty destination devID.mctpEID).get

end MCTPImpl

/-- The library with the additions that wait for their reply. -/
structure Library where
  system : System
  additions : List Bus

inductive Use
  | label (label : Label)
  | device (use : DeviceUse) (devID : DeviceID)
  | addToEidMap (env : Env) (serviceName : String)
  | added (index : Nat) (env : Env) (reply : Except ErrorCode (DictType Interfaces))
  | eraseDevice (devID : DeviceID)

namespace Library

def lib (library : Library) : MCTPImpl := library.system.lib

/-- The library after a step that no coroutine takes. -/
def moved (library : Library) (lib : MCTPImpl) : Library :=
  { library with system := { library.system with lib := lib } }

def step (library : Library) : Use → Option Library
  | .label label => (library.system.step label).map fun next => { library with system := next }
  | .device use devID => some (library.moved (library.lib.operate use devID))
  | .addToEidMap env serviceName =>
      let asked := library.lib.addToEidMap env serviceName
      some { library.moved asked.2 with additions := library.additions ++ asked.1.toList }
  | .added index env reply =>
      match library.additions[index]? with
      | none => none
      | some bus =>
          some { library.moved (library.lib.insertEids env bus reply) with
            additions := library.additions.eraseIdx index }
  | .eraseDevice devID => some (library.moved (library.lib.eraseDevice devID).2)

def construct (host : ByteOrder.Endian) (config : MCTPConfiguration)
    (networkChangeCb rxCb : Bool) : Library :=
  ⟨.construct host config networkChangeCb rxCb, []⟩

/-- The use takes no entry of the device away: it removes no endpoint of its EID,
erases something else, and ends no discovery. -/
def Spares (devID : DeviceID) (library : Library) : Use → Prop
  | .label label =>
      (∀ env sender objectPath interfaces,
        label = .signal env ⟨sender, .interfacesRemoved objectPath interfaces⟩ →
          MCTPImpl.pathEID objectPath ≠ some devID.mctpEID) ∧
        ∀ next, library.system.step label = some next →
          library.system.scans.length ≤ next.scans.length
  | .eraseDevice other => other ≠ devID
  | _ => True

end Library

namespace MCTPImpl

theorem operate_known (use : DeviceUse) (devID : DeviceID) (s : MCTPImpl) {entry : Bus}
    (known : s.endpointMap.find devID = some entry) :
    operate use devID s = s.emit (.call (useCall use devID entry.2)) := by
  cases use with
  | getDeviceLocation env =>
      simp only [operate, useCall, getDeviceLocation, readPropertyValue, known]
      split <;> rfl
  | _ =>
      simp only [operate, useCall, reserveBandwidth, releaseBandwidth, bandwidthYield,
        triggerMCTPDeviceDiscovery, known]

theorem operate_emits (use : DeviceUse) (devID : DeviceID) (s : MCTPImpl) :
    Emits Effect.Asked s (operate use devID s) := by
  cases known : s.endpointMap.find devID with
  | some entry =>
      rw [operate_known use devID s known]
      exact .emit s (.call _)
  | none =>
      cases use <;>
        simp only [operate, reserveBandwidth, releaseBandwidth, bandwidthYield,
          triggerMCTPDeviceDiscovery, getDeviceLocation, known] <;>
        exact .refl s

theorem addToEidMap_emits (env : Env) (serviceName : String) (s : MCTPImpl) :
    Emits Effect.Asked s (addToEidMap env serviceName s).2 := by
  have read : Emits Effect.Asked s (getBusId env serviceName s).2 := by
    refine (getBusId_emits env serviceName s).mono ?_
    rintro _ ⟨property⟩
    exact .call _
  unfold addToEidMap
  dsimp only
  split
  · exact read
  · exact read.trans (.emit _ (.call _))

/-- From the reply on an addition only fills the map up. -/
theorem insertEids_eq (env : Env) (bus : Bus) (reply : Except ErrorCode (DictType Interfaces))
    (s : MCTPImpl) : ∃ t eids, Emits Effect.Lookup s t ∧
      insertEids env bus reply s = { t with endpointMap := s.endpointMap.insertAll eids } := by
  unfold insertEids
  cases reply with
  | error failed => exact ⟨s, ∅, .refl s, rfl⟩
  | ok values =>
      have looked := scanService_emits env bus values ∅ s
      refine ⟨_, (scanService env bus values ∅ s).1, looked, ?_⟩
      dsimp only
      rw [looked.endpointMap_eq]

end MCTPImpl

namespace Library

variable {library next later : Library} {use : Use}

/-- A use that is no label neither opens the gate nor closes it, and leaves the
coroutines of discoveries alone. -/
theorem step_aside (stepped : library.step use = some next)
    (aside : ∀ label, use ≠ .label label) :
    next.system.scans = library.system.scans ∧
      next.lib.isInitialisationsDone = library.lib.isInitialisationsDone := by
  cases use with
  | label label => exact absurd rfl (aside label)
  | device use devID =>
      cases stepped
      obtain ⟨_, _, _, _, same⟩ := MCTPImpl.operate_emits use devID library.lib
      refine ⟨rfl, ?_⟩
      simp only [moved, lib] at same ⊢
      rw [same]
  | addToEidMap env serviceName =>
      cases stepped
      obtain ⟨_, _, _, _, same⟩ := MCTPImpl.addToEidMap_emits env serviceName library.lib
      refine ⟨rfl, ?_⟩
      simp only [moved, lib] at same ⊢
      rw [same]
  | added index env reply =>
      simp only [step] at stepped
      split at stepped
      · cases stepped
      · rename_i bus waiting
        cases stepped
        obtain ⟨_, _, ⟨_, _, _, _, rfl⟩, same⟩ :=
          MCTPImpl.insertEids_eq env bus reply library.lib
        refine ⟨rfl, ?_⟩
        simp only [moved, lib] at same ⊢
        rw [same]
  | eraseDevice devID =>
      cases stepped
      exact ⟨rfl, rfl⟩

theorem step_underway (underway : library.system.Underway)
    (stepped : library.step use = some next) : next.system.Underway := by
  by_cases labelled : ∃ label, use = .label label
  · obtain ⟨label, rfl⟩ := labelled
    simp only [step] at stepped
    obtain ⟨system, moved, rfl⟩ := Option.map_eq_some_iff.mp stepped
    exact (System.step_making underway moved).1
  · obtain ⟨scans, gate⟩ := step_aside stepped fun label same => labelled ⟨label, same⟩
    exact underway.of_scans (fun done => gate.trans done) scans

/-- A label that spares the device makes only changes that do. -/
theorem makes_spares {devID : DeviceID} {system : System} {label : Label}
    {made : List EndpointChange} (making : library.system.Making system label made)
    (stepped : library.system.step label = some system)
    (spares : library.Spares devID (.label label)) :
    ∀ one ∈ made, Directory.Spares devID one := by
  obtain ⟨removes, ends⟩ := spares
  have still := making.ended
  have waits := ends system stepped
  intro one member
  cases making.makes with
  | call => cases member
  | unasked => cases member
  | body =>
      cases List.mem_singleton.mp member
      trivial
  | @asked env msg change asks =>
      cases List.mem_singleton.mp member
      obtain ⟨sender, signal⟩ := msg
      cases asks with
      | introduced | left | announced => trivial
      | withdrawn objectPath interfaces device removed _ _ _ _ formed =>
          subst removed
          rintro rfl
          exact removes env sender objectPath interfaces rfl (MCTPImpl.pathEID_of_formed formed)
  | scanned scan progress =>
      have silent : publishes one ≠ true := by
        intro publishing
        have some := List.countP_pos_iff.mpr ⟨one, member, publishing⟩
        simp only [Label.isDetect, Bool.false_eq_true, ↓reduceIte] at still
        omega
      simp only [Scan.opening, Progress.published, List.mem_append, List.mem_map] at member
      rcases member with (⟨service, _, rfl⟩ | opens) | published
      · trivial
      · split at opens
        · cases List.mem_singleton.mp opens
          trivial
        · cases opens
      · split at published
        · cases published
        · obtain ⟨eids, _, rfl⟩ := List.mem_map.mp published
          exact absurd rfl silent

theorem step_filed {devID : DeviceID} {entry : Bus} (underway : library.system.Underway)
    (filed : library.lib.endpointMap.find devID = some entry)
    (spares : library.Spares devID use) (stepped : library.step use = some next) :
    next.lib.endpointMap.find devID = some entry := by
  cases use with
  | label label =>
      simp only [step] at stepped
      obtain ⟨system, moved, rfl⟩ := Option.map_eq_some_iff.mp stepped
      obtain ⟨_, made, making⟩ := System.step_making underway moved
      exact making.changes.kept (makes_spares making moved spares) filed
  | device use devID =>
      cases stepped
      exact (congrArg (UnorderedMap.find · _)
        (MCTPImpl.operate_emits use _ library.lib).endpointMap_eq).trans filed
  | addToEidMap env serviceName =>
      cases stepped
      exact (congrArg (UnorderedMap.find · _)
        (MCTPImpl.addToEidMap_emits env serviceName library.lib).endpointMap_eq).trans filed
  | added index env reply =>
      simp only [step] at stepped
      split at stepped
      · cases stepped
      · rename_i bus waiting
        cases stepped
        obtain ⟨t, eids, _, same⟩ := MCTPImpl.insertEids_eq env bus reply library.lib
        simp only [moved, lib] at same filed ⊢
        rw [same]
        exact (UnorderedMap.find_insertAll _ _ _).trans (by rw [filed]; rfl)
  | eraseDevice other =>
      cases stepped
      have apart : devID ≠ other := Ne.symm spares
      exact (UnorderedMap.find_erase _ _ _).trans ((if_neg apart).trans filed)

theorem run_underway {admits : Library → Use → Prop} {uses : List Use}
    (underway : library.system.Underway) (run : Run step admits library uses later) :
    later.system.Underway :=
  run.invariant (fun library => library.system.Underway) underway
    fun _ _ _ underway _ stepped => step_underway underway stepped

end Library

/-- Once a device is filed, and until an endpoint of its EID is removed, it is erased
or a discovery ends, every send to it and every other use of it goes to the same
service, whatever is announced and added meanwhile: bandwidth is released where it
was reserved. -/
theorem uses_settled {host : ByteOrder.Endian} {config : MCTPConfiguration}
    {networkChangeCb rxCb : Bool} {before after : List Use} {library later : Library}
    (reached : Run Library.step Any (.construct host config networkChangeCb rxCb) before library)
    {devID : DeviceID} {entry : Bus} (filed : library.lib.endpointMap.find devID = some entry)
    (run : Run Library.step (Library.Spares devID) library after later) :
    RoutedTo devID entry.2 later.lib ∧
      ∀ use, later.lib.operate use devID =
        later.lib.emit (.call (MCTPImpl.useCall use devID entry.2)) := by
  have underway := Library.run_underway
    (System.underway_construct host config networkChangeCb rxCb) reached
  have still : later.system.Underway ∧ later.lib.endpointMap.find devID = some entry := by
    refine run.invariant (fun library => library.system.Underway ∧
      library.lib.endpointMap.find devID = some entry) ⟨underway, filed⟩ ?_
    rintro state use next ⟨underway, filed⟩ spares stepped
    exact ⟨Library.step_underway underway stepped, Library.step_filed underway filed spares stepped⟩
  exact ⟨fun request => MCTPImpl.send_known request devID later.lib entry still.2,
    fun use => MCTPImpl.operate_known use devID later.lib still.2⟩

namespace Slot

/-- A reservation on the plugged endpoint, and the endpoint announced once more. -/
def reserving : List Use :=
  [.device (.reserveBandwidth (.success, 0) 100) device, .label added, .label .body]

def pluggedLibrary : Library :=
  (exec Library.step (.construct .little config true false)
    ((discovery ++ [added, .body]).map Use.label)).get (by decide)

def reservedLibrary : Library := (exec Library.step pluggedLibrary reserving).get (by decide)

theorem reserving_spares :
    Run Library.step (Library.Spares device) pluggedLibrary reserving reservedLibrary := by
  have done : exec Library.step pluggedLibrary reserving = some reservedLibrary := rfl
  refine (Run.of_exec done).admitted ?_
  intro library use member
  simp only [reserving, List.mem_cons, List.not_mem_nil, or_false] at member
  rcases member with rfl | rfl | rfl
  · trivial
  · refine ⟨?_, ?_⟩
    · rintro _ _ _ _ same
      cases same
    · intro next stepped
      obtain ⟨_, _, rfl⟩ := System.step_signal stepped
      exact Nat.le_refl _
  · refine ⟨nofun, ?_⟩
    intro next stepped
    obtain ⟨_, _, _, rfl⟩ := System.step_body stepped
    exact Nat.le_refl _

theorem uses_settled_reserved :
    RoutedTo device owner reservedLibrary.lib ∧
      ∀ use, reservedLibrary.lib.operate use device =
        reservedLibrary.lib.emit (.call (MCTPImpl.useCall use device owner)) := by
  have plugging : exec Library.step (.construct .little config true false)
      ((discovery ++ [added, .body]).map Use.label) = some pluggedLibrary := rfl
  have filed : pluggedLibrary.lib.endpointMap.find device = some (0, owner) := by decide
  exact uses_settled (.of_exec plugging) filed reserving_spares

end Slot

end Mctpw
