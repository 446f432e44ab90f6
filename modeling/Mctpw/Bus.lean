import Mathlib.Data.Finset.Basic
import Mathlib.Data.List.Sort
import Mathlib.Data.String.Basic
import Mctpw.Base.Strings
import Mctpw.DeviceId

set_option autoImplicit false

/- What crosses the D-Bus connection: property values, method calls, signals,
and the answers the rest of the bus gives to a blocking call. -/
namespace Mctpw

inductive MctpPropertiesVariantType
  | uint16 (value : UInt16)
  | int16 (value : Int16)
  | int32 (value : Int32)
  | uint32 (value : UInt32)
  | bool (value : Bool)
  | string (value : String)
  | uint8 (value : UInt8)
  | bytes (value : List UInt8)
deriving DecidableEq

/-- A flat_map keyed by strings, as the list of its entries. -/
abbrev DictType (β : Type) := List (String × β)

abbrev Properties := DictType MctpPropertiesVariantType
abbrev Interfaces := DictType Properties
abbrev ByteArray := List UInt8

/-- Exceptions, and undefined behaviour: reading an empty optional, or loading from where
there is nothing to load. -/
inductive Fault
  | outOfRange
  | badVariantAccess
  | runtimeError
  | systemError
  | sdBusError
  | conversion (error : Strings.ConversionError)
  | undefinedBehaviour
deriving DecidableEq

/-- boost::system::error_code. -/
inductive ErrorCode
  | success
  | ioError
  | other (value : Nat)
deriving DecidableEq

def basePath : String := "/xyz/openbmc_project/mctp"
def endpointPrefix : String := "/xyz/openbmc_project/mctp/"
def baseInterface : String := "xyz.openbmc_project.MCTP.Base"
def endpointInterface : String := "xyz.openbmc_project.MCTP.Endpoint"
def supportedMessageTypes : String := "xyz.openbmc_project.MCTP.SupportedMessageTypes"
def vdMsgTypeInterface : String := "xyz.openbmc_project.MCTP.PCIVendorDefined"

inductive Argument
  | u8 (value : UInt8)
  | u16 (value : UInt16)
  | bool (value : Bool)
  | string (value : String)
  | strings (value : List String)
  | bytes (value : ByteArray)
deriving DecidableEq

structure MethodCall where
  destination : String
  path : String
  interface : String
  member : String
  args : List Argument
deriving DecidableEq

/-- Where a property lives. -/
structure Property where
  service : String
  path : String
  interface : String
  name : String
deriving DecidableEq

def Property.get (property : Property) : MethodCall :=
  ⟨property.service, property.path, "org.freedesktop.DBus.Properties", "Get",
    [.string property.interface, .string property.name]⟩

def getObject (interface : String) : MethodCall :=
  ⟨"xyz.openbmc_project.ObjectMapper", "/xyz/openbmc_project/object_mapper",
    "xyz.openbmc_project.ObjectMapper", "GetObject", [.string basePath, .strings [interface]]⟩

def getNameOwner (service : String) : MethodCall :=
  ⟨"org.freedesktop.DBus", "/org/freedesktop/DBus", "org.freedesktop.DBus", "GetNameOwner",
    [.string service]⟩

def getManagedObjects (service : String) : MethodCall :=
  ⟨service, basePath, "org.freedesktop.DBus.ObjectManager", "GetManagedObjects", []⟩

/-- What comes back from a blocking RegisterResponder call. -/
inductive RegisterReply
  | reply (rc : Bool)
  | methodError
  | raised
deriving DecidableEq

/-- The rest of the world during one step of the library: the answers to its
blocking calls, `none` where the read throws, the order in which it happens to
visit an unordered set, and the memory past the end of a received payload, `none` where
a load from it faults. -/
structure Env where
  readString : Property → Option String
  readUint16 : Property → Option UInt16
  readUint16s : Property → Option (List UInt16)
  readByte : Property → Option UInt8
  register : MethodCall → RegisterReply
  order : Finset String → List String
  order_nodup : ∀ names, (order names).Nodup
  order_mem : ∀ names name, name ∈ order names ↔ name ∈ names
  beyond : Nat → Option UInt8

/-- The names in order, by a sort that evaluates. -/
def sorted (names : Finset String) : List String :=
  Quot.liftOn names.val (List.insertionSort (· ≤ ·)) fun left right perm => by
    have both := (List.perm_insertionSort (· ≤ ·) left).trans
      (perm.trans (List.perm_insertionSort (· ≤ ·) right).symm)
    exact both.eq_of_sortedLE List.sortedLE_insertionSort List.sortedLE_insertionSort

theorem sorted_eq (names : Finset String) :
    ∃ listed : List String, names.val = listed ∧
      sorted names = listed.insertionSort (· ≤ ·) := by
  obtain ⟨listed, same⟩ := Quot.exists_rep names.val
  refine ⟨listed, same.symm, ?_⟩
  unfold sorted
  rw [← same]

theorem sorted_nodup (names : Finset String) : (sorted names).Nodup := by
  obtain ⟨listed, same, sorted⟩ := sorted_eq names
  rw [sorted, (List.perm_insertionSort (· ≤ ·) listed).nodup_iff, ← Multiset.coe_nodup, ← same]
  exact names.nodup

theorem mem_sorted (names : Finset String) (name : String) :
    name ∈ sorted names ↔ name ∈ names := by
  obtain ⟨listed, same, sorted⟩ := sorted_eq names
  rw [sorted, List.mem_insertionSort, ← Multiset.mem_coe, ← same, Finset.mem_val]

/-- An environment whose reads all fail and whose registrations all succeed. -/
def Env.silent : Env where
  readString := fun _ => none
  readUint16 := fun _ => none
  readUint16s := fun _ => none
  readByte := fun _ => none
  register := fun _ => .reply true
  order := sorted
  order_nodup := sorted_nodup
  order_mem := mem_sorted
  beyond := fun _ => none

/-- The signals the match rule selects, decoded as their handlers read them. -/
inductive Signal
  | interfacesAdded (objectPath : String) (values : Interfaces)
  | interfacesRemoved (objectPath : String) (interfaces : List String)
  | messageReceived (messageType srcEid msgTag : UInt8) (tagOwner : Bool) (payload : ByteArray)
  | propertiesChanged (intfName : String) (propertiesChanged : Properties)
  | other (member : String)
deriving DecidableEq

structure Message where
  sender : String
  signal : Signal
deriving DecidableEq

inductive EventType
  | deviceAdded
  | deviceRemoved
deriving DecidableEq

structure Event where
  type : EventType
  eid : UInt8
  deviceId : DeviceID
deriving DecidableEq

/-- What a step of the library does to the outside, in order. The last three
are history only: a name entering matchedBuses, a DeviceID being formed for
the endpoint `eid` of `service`, and the payload bytes a filter looked at. -/
inductive Effect
  | call (call : MethodCall)
  | networkChange (event : Event)
  | received (srcEid : UInt8) (tagOwner : Bool) (msgTag : UInt8) (payload : ByteArray)
  | extReceived (device : DeviceID) (tagOwner : Bool) (msgTag : UInt8) (payload : ByteArray)
  | ownEID (callback : Nat) (service : String) (eid : UInt8)
  | sent (ec : ErrorCode) (status : Int)
  | responded (ec : ErrorCode) (response : ByteArray)
  | matched (service : String)
  | identified (service : String) (eid : UInt8) (device : DeviceID)
  | inspected (offsets : List Nat)
deriving DecidableEq

end Mctpw
