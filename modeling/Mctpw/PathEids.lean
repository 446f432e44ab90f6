import Mctpw.Base.Numerals
import Mctpw.HotPlug

set_option autoImplicit false

/- The EID at the end of an object path, as the scan and as the signal handlers
take it off. -/
namespace Mctpw

open Runs Strings

/-- What follows the last slash. -/
def lastSegment (objectPath : String) : List Char := afterLast '/' objectPath.toList

/-- A character of a D-Bus path element. -/
def isElementChar (c : Char) : Bool :=
  (48 ≤ c.toNat && c.toNat ≤ 57) || (65 ≤ c.toNat && c.toNat ≤ 90) ||
    (97 ≤ c.toNat && c.toNat ≤ 122) || c.toNat == 95

/-- A path below /xyz/openbmc_project/mctp/ all of whose segments are elements. -/
structure ElementPath (objectPath : String) : Prop where
  under : startsWith objectPath endpointPrefix = true
  elements : ∀ segment ∈ (objectPath.toList.drop endpointPrefix.toList.length).splitOn '/',
    segment ≠ [] ∧ ∀ c ∈ segment, isElementChar c = true

/-- The same by a test that evaluates. -/
theorem ElementPath.of_all {objectPath : String}
    (under : startsWith objectPath endpointPrefix = true)
    (elements : ((objectPath.toList.drop endpointPrefix.toList.length).splitOn '/').all
      (fun segment => !segment.isEmpty && segment.all isElementChar) = true) :
    ElementPath objectPath := by
  refine ⟨under, fun segment member => ?_⟩
  have element := List.all_eq_true.mp elements segment member
  simpa [Bool.and_eq_true, List.all_eq_true] using element

/-- A last segment that begins with a number an int can hold is the numeral of an
EID. -/
def SpellsEID (objectPath : String) : Prop :=
  ∀ number, leadingNumber (lastSegment objectPath) = some number → number < 2 ^ 31 →
    ∃ eid : UInt8, lastSegment objectPath = numeral eid.toNat

/-- The object gets as far in the scan's loop as having its path read. -/
structure Offered (env : Env) (service objectPath : String) (interfaces : Interfaces)
    (s : MCTPImpl) : Prop where
  endpoint : (interfaces.lookup endpointInterface).isSome
  supported : ∃ properties, interfaces.lookup supportedMessageTypes = some properties ∧
    properties.lookup (msgTypeToPropertyName s.config.type) = some (.bool true)
  vendor : s.config.type = .vdpci → VendorSelected s.host s.config env service objectPath

/-- An EID taken off the path, by the scan or by a lookup. -/
inductive Takes (objectPath : String) (eid : UInt8) : Prop
  | scan (env : Env) (service : String) (interfaces : Interfaces) (s : MCTPImpl) :
      Offered env service objectPath interfaces s →
      (MCTPImpl.acceptObject env service (objectPath, interfaces) s).1 = some eid →
      Takes objectPath eid
  | lookup (env : Env) (service : String) (s : MCTPImpl) (nwid : UInt8) :
      (MCTPImpl.getDeviceIDFromPath env objectPath service s).1 = .ok (DeviceID.make eid nwid) →
      Takes objectPath eid

/-- Both take exactly the EID numerals for what they spell, so that an EID tells
the last segment it came from. -/
structure NumeralsExact (paths : Set String) : Prop where
  scan : ∀ objectPath ∈ paths, ∀ env service interfaces s,
    Offered env service objectPath interfaces s → ∀ eid : UInt8,
      (MCTPImpl.acceptObject env service (objectPath, interfaces) s).1 = some eid ↔
        lastSegment objectPath = numeral eid.toNat
  lookup : ∀ objectPath ∈ paths, ∀ env service s, ∀ eid : UInt8,
    (∃ nwid, (MCTPImpl.getDeviceIDFromPath env objectPath service s).1 =
        .ok (DeviceID.make eid nwid)) ↔
      lastSegment objectPath = numeral eid.toNat
  respelled : ∀ objectPath ∈ paths, ∀ eid, Takes objectPath eid →
    numeral eid.toNat = lastSegment objectPath
  apart : ∀ left ∈ paths, ∀ right ∈ paths, ∀ eid, Takes left eid → Takes right eid →
    lastSegment left = lastSegment right

namespace MCTPImpl

variable {objectPath : String}

theorem acceptObject_offered_iff {env : Env} {service : String} {interfaces : Interfaces}
    {s : MCTPImpl} (offered : Offered env service objectPath interfaces s) (eid : UInt8) :
    (acceptObject env service (objectPath, interfaces) s).1 = some eid ↔
      splitEID objectPath = .ok eid := by
  rw [acceptObject_eq_some_iff, splitEID_eq_ok_iff]
  constructor
  · intro selected
    exact selected.path
  · intro path
    exact ⟨offered.endpoint, offered.supported, offered.vendor, path⟩

/-- Under the prefix the lookup forms its DeviceID from the EID the scan reads. -/
theorem getDeviceIDFromPath_eq_ok_iff (under : startsWith objectPath endpointPrefix = true)
    (env : Env) (service : String) (s : MCTPImpl) (device : DeviceID) :
    (getDeviceIDFromPath env objectPath service s).1 = .ok device ↔
      ∃ eid, splitEID objectPath = .ok eid ∧
        device = DeviceID.make eid (getNetworkID env service s).1 := by
  rw [getDeviceIDFromPath_fst]
  simp only [← pathEID_eq_some_iff under]
  cases pathEID objectPath with
  | none => simp
  | some eid => simp [eq_comm]

/-- A removal of an endpoint from a matched service erases the DeviceID that its
path and the service's network make. -/
theorem onMCTPEvent_erases (under : startsWith objectPath endpointPrefix = true) {eid : UInt8}
    (spelled : splitEID objectPath = .ok eid) (env : Env) {sender : String}
    {interfaces : List String} {s : MCTPImpl} (done : s.isInitialisationsDone = true)
    (matched : sender ∈ s.matchedBuses) (held : supportedMessageTypes ∈ interfaces) :
    (onMCTPEvent env ⟨sender, .interfacesRemoved objectPath interfaces⟩ s).2.endpointMap =
      s.endpointMap.erase (DeviceID.make eid (getNetworkID env sender s).1) := by
  have formed := (getDeviceIDFromPath_eq_ok_iff under env sender s _).mpr ⟨eid, spelled, rfl⟩
  obtain ⟨_, _, _, _, looked⟩ := getDeviceIDFromPath_emits env objectPath sender s
  obtain ⟨_, _, erased⟩ := onEIDRemoved_eq (DeviceID.make eid (getNetworkID env sender s).1)
    (getDeviceIDFromPath env objectPath sender s).2
  simp only [onMCTPEvent_interfacesRemoved done, matched, not_true_eq_false, ↓reduceIte,
    onInterfaceRemoved, under, held, formed]
  rw [erased, looked]

/-- The scan and the lookup read the same EID off a path or refuse it together,
so what a scan has filed for a path a removal of it erases. -/
theorem extractors_agree (under : startsWith objectPath endpointPrefix = true) :
    (∀ env service s,
      (∃ eid, splitEID objectPath = .ok eid ∧
        (getDeviceIDFromPath env objectPath service s).1 =
          .ok (DeviceID.make eid (getNetworkID env service s).1)) ∨
      ∃ failed fault, splitEID objectPath = .error failed ∧
        (getDeviceIDFromPath env objectPath service s).1 = .error fault) ∧
    ∀ (env : Env) (bus : Bus) (values : DictType Interfaces) (eids : EndpointMapExtended)
      (s : MCTPImpl) (interfaces : Interfaces) (eid : UInt8), (objectPath, interfaces) ∈ values →
      (acceptObject env bus.2 (objectPath, interfaces) s).1 = some eid →
      (scanService env bus values eids s).1.find
          (DeviceID.make eid (getNetworkID env bus.2 s).1) = some bus ∧
        ∀ (env' : Env) (sender : String) (removed : List String) (t : MCTPImpl),
          t.isInitialisationsDone = true → sender ∈ t.matchedBuses →
          supportedMessageTypes ∈ removed →
          (getNetworkID env' sender t).1 = (getNetworkID env bus.2 s).1 →
          (onMCTPEvent env' ⟨sender, .interfacesRemoved objectPath removed⟩ t).2.endpointMap =
            t.endpointMap.erase (DeviceID.make eid (getNetworkID env bus.2 s).1) := by
  constructor
  · intro env service s
    cases spelled : splitEID objectPath with
    | ok eid =>
        exact .inl ⟨eid, rfl,
          (getDeviceIDFromPath_eq_ok_iff under env service s _).mpr ⟨eid, spelled, rfl⟩⟩
    | error failed =>
        right
        cases formed : (getDeviceIDFromPath env objectPath service s).1 with
        | ok device =>
            obtain ⟨eid, read, _⟩ := (getDeviceIDFromPath_eq_ok_iff under env service s device).mp formed
            rw [spelled] at read
            cases read
        | error fault => exact ⟨failed, fault, rfl, rfl⟩
  · intro env bus values eids s interfaces eid member accepted
    have selected := (acceptObject_eq_some_iff env bus.2 (objectPath, interfaces) s eid).mp accepted
    have spelled : splitEID objectPath = .ok eid := splitEID_eq_ok_iff.mpr selected.path
    refine ⟨?_, ?_⟩
    · exact (scanService_find env bus values eids s _).1 ⟨_, member, eid, selected, rfl⟩
    · intro env' sender removed t done matched held network
      rw [onMCTPEvent_erases under spelled env' done matched held, network]

def devicePrefix : String := "/xyz/openbmc_project/mctp/device/"

/-- The path rebuilt from an EID. -/
def devicePath (eid : UInt8) : String := devicePrefix ++ toString eid.toNat

def locationCodeProperty (service : String) (eid : UInt8) : Property :=
  ⟨service, devicePath eid, "xyz.openbmc_project.Inventory.Decorator.LocationCode", "LocationCode"⟩

def getDeviceLocation (env : Env) (extendedEID : DeviceID) (s : MCTPImpl) :
    Option String × MCTPImpl :=
  match s.endpointMap.find extendedEID with
  | none => (none, s)
  | some entry =>
      let read := readPropertyValue env.readString
        (locationCodeProperty entry.2 extendedEID.mctpEID) s
      match read.1 with
      | none => (none, read.2)
      | some locationCode => (if locationCode = "" then none else some locationCode, read.2)

section Elements

variable (path : ElementPath objectPath)

include path

theorem lastSegment_element :
    lastSegment objectPath ≠ [] ∧ ∀ c ∈ lastSegment objectPath, isElementChar c = true := by
  obtain ⟨rest, spelled⟩ := startsWith_iff.mp path.under
  have front : endpointPrefix.toList = "/xyz/openbmc_project/mctp".toList ++ ['/'] := by decide
  have below : objectPath.toList.drop endpointPrefix.toList.length = rest := by
    rw [spelled, List.drop_left]
  have last : lastSegment objectPath = afterLast '/' rest := by
    rw [lastSegment, spelled, front, List.append_assoc, List.singleton_append,
      afterLast_append_sep]
  rw [last]
  refine path.elements _ ?_
  rw [below]
  exact afterLast_mem_splitOn '/' rest

/-- An element has no sign and no white space for stoi to pass over. -/
theorem lastSegment_unsigned : Unsigned (lastSegment objectPath) := by
  intro c first
  have element := (lastSegment_element path).2 c (List.mem_of_mem_head? first)
  simp only [isElementChar, Bool.or_eq_true, Bool.and_eq_true, decide_eq_true_eq, beq_iff_eq] at element
  refine ⟨?_, ?_, ?_⟩
  · simp only [isSpace, Bool.or_eq_false_iff, beq_eq_false_iff_ne, Bool.and_eq_false_iff,
      decide_eq_false_iff_not]
    omega
  · rintro rfl
    revert element
    decide
  · rintro rfl
    revert element
    decide

theorem splitEID_leading_iff (eid : UInt8) :
    splitEID objectPath = .ok eid ↔
      ∃ number, leadingNumber (lastSegment objectPath) = some number ∧ number < 2 ^ 31 ∧
        eid = UInt8.ofNat number := by
  have narrowed : ∀ number : Nat, UInt8.ofInt number = UInt8.ofNat number := by
    intro number
    have remainder : ((number : Int) % 2 ^ 8).toNat = number % 2 ^ 8 := by omega
    rw [UInt8.ofInt, remainder, UInt8.ofNat_mod_size]
  rw [splitEID_eq_ok_iff]
  change (∃ value, stoi 10 (lastSegment objectPath) = .ok value ∧ eid = UInt8.ofInt value) ↔ _
  simp only [stoi_unsigned_eq_ok_iff (lastSegment_unsigned path)]
  constructor
  · rintro ⟨_, ⟨number, read, small, rfl⟩, rfl⟩
    exact ⟨number, read, small, narrowed number⟩
  · rintro ⟨number, read, small, rfl⟩
    exact ⟨number, ⟨number, read, small, rfl⟩, (narrowed number).symm⟩

/-- An EID's own numeral is always read as that EID. -/
theorem splitEID_numeral {eid : UInt8} (spelled : lastSegment objectPath = numeral eid.toNat) :
    splitEID objectPath = .ok eid := by
  have small := eid.toNat_lt
  refine (splitEID_leading_iff path eid).mpr ⟨eid.toNat, ?_, by omega, UInt8.ofNat_toNat.symm⟩
  rw [spelled, leadingNumber_numeral]

/-- Only numerals are read as EIDs exactly when no other segment begins with a
number that fits an int. -/
theorem splitEID_exact_iff :
    (∀ eid, splitEID objectPath = .ok eid ↔ lastSegment objectPath = numeral eid.toNat) ↔
      SpellsEID objectPath := by
  constructor
  · intro exactly number read small
    exact ⟨_, (exactly (UInt8.ofNat number)).mp
      ((splitEID_leading_iff path _).mpr ⟨number, read, small, rfl⟩)⟩
  · intro spells eid
    constructor
    · intro read
      obtain ⟨number, leading, small, rfl⟩ := (splitEID_leading_iff path eid).mp read
      obtain ⟨eid, spelled⟩ := spells number leading small
      rw [spelled, leadingNumber_numeral] at leading
      cases leading
      rw [UInt8.ofNat_toNat, spelled]
    · exact splitEID_numeral path

theorem takes_iff (eid : UInt8) : Takes objectPath eid ↔ splitEID objectPath = .ok eid := by
  constructor
  · rintro (⟨env, service, interfaces, s, offered, accepted⟩ | ⟨env, service, s, nwid, formed⟩)
    · exact (acceptObject_offered_iff offered eid).mp accepted
    · obtain ⟨eid', read, same⟩ :=
        (getDeviceIDFromPath_eq_ok_iff path.under env service s _).mp formed
      obtain ⟨rfl, _⟩ := DeviceID.make_inj.mp same
      exact read
  · intro read
    exact .lookup .silent "" (construct .little (.ofType .pldm .mctpOverSmBus) false false) _
      ((getDeviceIDFromPath_eq_ok_iff path.under _ _ _ _).mpr ⟨eid, read, rfl⟩)

theorem lookup_iff (env : Env) (service : String) (s : MCTPImpl) (eid : UInt8) :
    (∃ nwid, (getDeviceIDFromPath env objectPath service s).1 = .ok (DeviceID.make eid nwid)) ↔
      splitEID objectPath = .ok eid := by
  constructor
  · rintro ⟨nwid, formed⟩
    exact (takes_iff path eid).mp (.lookup env service s nwid formed)
  · intro read
    exact ⟨_, (getDeviceIDFromPath_eq_ok_iff path.under env service s _).mpr ⟨eid, read, rfl⟩⟩

end Elements

/-- The EID parser is exact on a set of paths exactly when none of them ends in a
segment that only begins with a number, or spells one no EID is. -/
theorem numerals_exact_iff {paths : Set String} (elements : ∀ path ∈ paths, ElementPath path) :
    NumeralsExact paths ↔ ∀ path ∈ paths, SpellsEID path := by
  constructor
  · intro exactly objectPath member
    have path := elements objectPath member
    rw [← splitEID_exact_iff path]
    intro eid
    rw [← exactly.lookup objectPath member .silent ""
      (construct .little (.ofType .pldm .mctpOverSmBus) false false) eid, lookup_iff path]
  · intro spells
    have exactly : ∀ path ∈ paths, ∀ eid : UInt8,
        splitEID path = .ok eid ↔ lastSegment path = numeral eid.toNat :=
      fun path member => (splitEID_exact_iff (elements path member)).mpr (spells path member)
    have respelled : ∀ path ∈ paths, ∀ eid, Takes path eid → numeral eid.toNat = lastSegment path := by
      intro path member eid takes
      rw [takes_iff (elements path member), exactly path member] at takes
      exact takes.symm
    refine ⟨?_, ?_, respelled, ?_⟩
    · intro path member env service interfaces s offered eid
      rw [acceptObject_offered_iff offered, exactly path member]
    · intro path member env service s eid
      rw [lookup_iff (elements path member), exactly path member]
    · intro left inLeft right inRight eid takesLeft takesRight
      rw [← respelled left inLeft eid takesLeft, respelled right inRight eid takesRight]

/-- A device's location is asked of the object it was filed for. -/
theorem getDeviceLocation_path {paths : Set String} (exactly : NumeralsExact paths)
    (member : objectPath ∈ paths) {segment : List Char} (single : '/' ∉ segment)
    (spelled : objectPath.toList = devicePrefix.toList ++ segment)
    {eid nwid : UInt8} (takes : Takes objectPath eid) {entry : UInt32 × String} {s : MCTPImpl}
    (found : s.endpointMap.find (DeviceID.make eid nwid) = some entry) (env : Env) :
    (getDeviceLocation env (DeviceID.make eid nwid) s).2 = s.emit (.call (Property.get ⟨entry.2,
      objectPath, "xyz.openbmc_project.Inventory.Decorator.LocationCode", "LocationCode"⟩)) := by
  have front : devicePrefix.toList = "/xyz/openbmc_project/mctp/device".toList ++ ['/'] := by
    decide
  have last : lastSegment objectPath = segment := by
    rw [lastSegment, spelled, front, List.append_assoc, List.singleton_append,
      afterLast_append '/' _ _ single]
  have rebuilt : devicePath eid = objectPath := by
    apply String.toList_inj.mp
    rw [devicePath, String.toList_append, spelled, ← last,
      ← exactly.respelled objectPath member eid takes, numeral]
  unfold getDeviceLocation
  rw [found]
  dsimp only
  rw [DeviceID.mctpEID_make, locationCodeProperty, rebuilt]
  split <;> rfl

end MCTPImpl

namespace Slot

/-- One that a uint8_t does not hold. -/
def widePath : String := "/xyz/openbmc_project/mctp/device/264"

theorem path_elements : ElementPath path := .of_all (by decide) (by decide)

theorem widePath_elements : ElementPath widePath := .of_all (by decide) (by decide)

theorem numerals_wide :
    ElementPath path ∧ ElementPath widePath ∧ Takes path 8 ∧ Takes widePath 8 ∧
      ¬ NumeralsExact {path, widePath} := by
  have takes : Takes path 8 := (MCTPImpl.takes_iff path_elements 8).mpr rfl
  have takes' : Takes widePath 8 := (MCTPImpl.takes_iff widePath_elements 8).mpr rfl
  refine ⟨path_elements, widePath_elements, takes, takes', ?_⟩
  intro exactly
  have same := exactly.apart path (by simp) widePath (by simp) 8 takes takes'
  revert same
  decide

theorem numerals_exact_slot : NumeralsExact {path} := by
  refine (MCTPImpl.numerals_exact_iff ?_).mpr ?_
  · rintro _ rfl
    exact path_elements
  · rintro _ rfl number _ _
    exact ⟨8, by decide⟩

/-- The endpoint is filed by a scan, and erased when it is removed. -/
theorem extractors_agree_slot :
    (MCTPImpl.scanService env (2, service) [(path, object)] ∅ ready.lib).1.find device =
        some (2, service) ∧
      (MCTPImpl.onMCTPEvent env ⟨owner, .interfacesRemoved path [supportedMessageTypes]⟩
        plugged.lib).2.endpointMap = plugged.lib.endpointMap.erase device := by
  have under : startsWith path endpointPrefix = true := by decide
  have accepted : (MCTPImpl.acceptObject env service (path, object) ready.lib).1 = some 8 := by
    decide
  obtain ⟨_, filed⟩ := MCTPImpl.extractors_agree under
  obtain ⟨found, erased⟩ := filed env (2, service) [(path, object)] ∅ ready.lib object 8
    (List.mem_singleton_self _) accepted
  exact ⟨found, erased env owner [supportedMessageTypes] plugged.lib rfl (by decide)
    (List.mem_singleton_self _) (by decide)⟩

end Slot

end Mctpw
