import Mathlib.Logic.Function.Basic
import Mctpw.Base.Feed
import Mctpw.EndpointSignals
import Mctpw.Formation

set_option autoImplicit false

/- The library together with the bus it discovers: services and endpoint objects
come up, endpoint objects go away, and what has changed is broadcast while the
library listens. -/
namespace Mctpw

open Runs Strings Feed DeferredSet

/-- What is fixed about a bus. A service is named by the connection that owns it.
Every EID has one object path, on one service. -/
structure Network where
  config : MCTPConfiguration
  plain : config.type ≠ .vdpci
  wellKnown : String → String
  owner : String → String
  owner_wellKnown : ∀ unique, owner (wellKnown unique) = unique
  bound : String → Bool
  home : UInt8 → String
  path : UInt8 → String
  path_under : ∀ eid, startsWith (path eid) endpointPrefix = true
  path_eid : ∀ eid, MCTPImpl.pathEID (path eid) = some eid

/-- A change that is broadcast. A removed object's interfaces are those it had. -/
inductive Note
  | announced (values : Interfaces)
  | added (eid : UInt8) (values : Interfaces)
  | removed (eid : UInt8) (values : Interfaces)

/-- The endpoint a note is about. -/
def Note.eid : Note → Option UInt8
  | .announced _ => none
  | .added eid _ => some eid
  | .removed eid _ => some eid

/-- What a service held when its objects were asked for, and how many of the
signals it had sent by then are still to be handled. -/
structure Snapshot where
  older : Nat
  held : UInt8 → Bool

/-- The library, the connections present, their endpoint objects, the signals on
their way from each of them, and the reply on its way to the scan. The last three
record what the replies and the announcements have shown the library. -/
structure World where
  system : System
  present : Finset String
  objects : UInt8 → Option Interfaces
  queue : String → List Note
  served : Option Reply
  listed : Finset String
  announced : Finset String
  snapshot : String → Option Snapshot

inductive Act
  | appear (unique : String) (values : Interfaces)
  | plug (eid : UInt8) (values : Interfaces)
  | unplug (eid : UInt8)
  | detect
  | serve (reply : Reply)
  | resume (env : Env)
  | deliver (env : Env) (unique : String)
  | body

namespace Network

variable (network : Network)

def message (unique : String) : Note → Message
  | .announced values => ⟨unique, .interfacesAdded basePath values⟩
  | .added eid values => ⟨unique, .interfacesAdded (network.path eid) values⟩
  | .removed eid values => ⟨unique, .interfacesRemoved (network.path eid) (values.map Prod.fst)⟩

/-- The object supports the configured message type. -/
def supports (values : Interfaces) : Bool :=
  match values.lookup supportedMessageTypes with
  | none => false
  | some properties =>
      match supportsType network.config.type properties with
      | .ok supported => supported
      | .error _ => false

/-- The endpoint is there and supports the configured message type. -/
def holds (w : World) (eid : UInt8) : Bool := (w.objects eid).any network.supports

/-- What is known of an endpoint after one more note. -/
def tells (eid : UInt8) (held : Bool) : Note → Bool
  | .announced _ => held
  | .added other values => if other = eid then network.supports values else held
  | .removed other _ => if other = eid then false else held

/-- A note that can come after what is known of an endpoint. -/
def Fits (eid : UInt8) (held : Bool) : Note → Prop
  | .announced _ => True
  | .added other _ => other = eid → held = false
  | .removed other values => other = eid → held = network.supports values

end Network

namespace World

/-- A signal goes out. The match rule is only there once discovery has begun. -/
def push (w : World) (unique : String) (note : Note) : World :=
  if w.system.lib.mctpChangesWatch then
    { w with queue := Function.update w.queue unique (w.queue unique ++ [note]) }
  else w

/-- A call of the scan is served. -/
def serve (network : Network) (w : World) (scan : Scan) (reply : Reply) : World :=
  match scan with
  | .getObject =>
      { w with
        served := some reply
        listed := w.present.filter fun unique => network.bound unique }
  | .getNameOwner _ _ _ => { w with served := some reply }
  | .getManagedObjects _ bus _ =>
      { w with
        served := some reply
        snapshot := Function.update w.snapshot (network.owner bus.2)
          (some ⟨(w.queue (network.owner bus.2)).length, network.holds w⟩) }

/-- A note has left the queue. An announcement counts once events are let in. -/
def delivered (w : World) (unique : String) (note : Note) (rest : List Note)
    (system : System) : World :=
  { w with
    system := system
    queue := Function.update w.queue unique rest
    announced :=
      match note with
      | .announced _ =>
          if w.system.lib.isInitialisationsDone then insert unique w.announced else w.announced
      | _ => w.announced
    snapshot := Function.update w.snapshot unique ((w.snapshot unique).map fun taken =>
      { taken with older := taken.older - 1 }) }

/-- Services do not go away. A call of the scan is served before it resumes. -/
def step (network : Network) (w : World) : Act → Option World
  | .appear unique values =>
      if unique ∈ w.present then none
      else some ({ w with present := insert unique w.present }.push unique (.announced values))
  | .plug eid values =>
      if (w.objects eid).isNone ∧ network.home eid ∈ w.present then
        some ({ w with objects := Function.update w.objects eid (some values) }.push
          (network.home eid) (.added eid values))
      else none
  | .unplug eid =>
      match w.objects eid with
      | none => none
      | some values =>
          some ({ w with objects := Function.update w.objects eid none }.push
            (network.home eid) (.removed eid values))
  | .detect =>
      if w.system.lib.mctpChangesWatch then none
      else (w.system.step .detect).map fun system => { w with system := system }
  | .serve reply =>
      match w.system.scans, w.served with
      | [scan], none => some (w.serve network scan reply)
      | _, _ => none
  | .resume env =>
      match w.served with
      | none => none
      | some reply =>
          (w.system.step (.resume 0 env reply)).map fun system =>
            { w with system := system, served := none }
  | .deliver env unique =>
      match w.queue unique with
      | [] => none
      | note :: rest =>
          (w.system.step (.signal env (network.message unique note))).map
            (w.delivered unique note rest)
  | .body => (w.system.step .body).map fun system => { w with system := system }

/-- The new endpoint map is under construction. -/
def Building (w : World) : Prop :=
  ∃ eids bus rest, w.system.scans = [.getManagedObjects eids bus rest]

/-- detectMctpEndpoints has returned, and no signal or body is outstanding. -/
structure Settled (w : World) : Prop where
  watching : w.system.lib.mctpChangesWatch = true
  returned : w.system.scans = []
  drained : w.system.lib.spawned = []
  handled : ∀ unique ∈ w.present, w.queue unique = []

end World

namespace Network

variable (network : Network)

/-- A reply that is a snapshot of the bus, taken when the call is served. -/
def Answers (w : World) : Scan → Reply → Prop
  | .getObject, reply =>
      ∃ services, reply = .object (.ok services) ∧ services.Nodup ∧
        ∀ name, name ∈ services ↔
          ∃ unique ∈ w.present, network.bound unique = true ∧ name = network.wellKnown unique
  | .getNameOwner _ service _, reply => reply = .nameOwner (.ok (network.owner service))
  | .getManagedObjects _ bus _, reply =>
      ∃ values, reply = .managedObjects (.ok values) ∧ ∀ objectPath interfaces,
        (objectPath, interfaces) ∈ values ∧ (interfaces.lookup endpointInterface).isSome ↔
          ∃ eid, objectPath = network.path eid ∧ network.home eid = network.owner bus.2 ∧
            w.objects eid = some interfaces

/-- The bus id of every service with the configured binding can be read. -/
def ReadsBuses (env : Env) : Prop :=
  ∀ unique, network.bound unique = true → ∀ s : MCTPImpl, s.config = network.config →
    ∃ bus, (MCTPImpl.getBusId env (network.wellKnown unique) s).1 = .ok bus

/-- Calls succeed and tell the truth, a base object is announced with its
binding, every object is an endpoint, and there is one network, 0. -/
def Honest (w : World) : Act → Prop
  | .appear unique values =>
      (values.lookup (bindingToInterface network.config.bindingType)).isSome = network.bound unique
  | .plug _ values => (values.lookup endpointInterface).isSome
  | .serve reply => ∀ scan, w.system.scans = [scan] → network.Answers w scan reply
  | .resume env => MCTPImpl.EnvReads (fun _ => 0) env ∧ network.ReadsBuses env
  | .deliver env _ => MCTPImpl.EnvReads (fun _ => 0) env
  | _ => True

/-- A change of the endpoint map that the map under construction does not lose:
the service is one the scan asks, and its objects are still to be asked for, or
signals it sent before it was asked are still to come, or it showed the change. -/
def Survives (w : World) (eid : UInt8) (held : Bool) : Prop :=
  w.Building → network.home eid ∈ w.listed ∧
    ∀ taken, w.snapshot (network.home eid) = some taken → 0 < taken.older ∨ taken.held eid = held

/-- No change is made to a map about to be replaced without it, and no removal
overtakes the insertion of its device. -/
def Undisturbed (w : World) : Act → Prop
  | .deliver _ unique => ∀ eid values rest, w.queue unique = .removed eid values :: rest →
      network.supports values = true → unique ∈ w.system.lib.matchedBuses →
      NotOutstanding (DeviceID.make eid 0) w.system.lib ∧ network.Survives w eid false
  | .body => ∀ serviceName device rest, w.system.lib.spawned = .newEID serviceName device :: rest →
      network.Survives w device.mctpEID true
  | _ => True

/-- Before discovery. Whatever is on the bus is an endpoint on a present service. -/
structure Fresh (w : World) : Prop where
  config : w.system.lib.config = network.config
  callback : w.system.lib.networkChangeCallback = true
  closed : w.system.lib.isInitialisationsDone = false
  unwatched : w.system.lib.mctpChangesWatch = false
  scans : w.system.scans = []
  spawned : w.system.lib.spawned = []
  matched : w.system.lib.matchedBuses = ∅
  cache : w.system.lib.networkIDCache = ∅
  endpoints : ∀ eid values, w.objects eid = some values →
    (values.lookup endpointInterface).isSome ∧ network.home eid ∈ w.present
  queue : ∀ unique, w.queue unique = []
  served : w.served = none
  listed : w.listed = ∅
  announced : w.announced = ∅
  snapshot : ∀ unique, w.snapshot unique = none

/-- A service with the configured binding, in the reply to GetObject or announced
since events are let in. -/
def Noticed (w : World) (unique : String) : Prop :=
  network.bound unique = true ∧ (unique ∈ w.listed ∨ unique ∈ w.announced)

/-- The DeviceIDs of the supported endpoints that are there on some services. -/
def endpointsOf (w : World) (services : String → Prop) : Set DeviceID :=
  fun device => ∃ eid values, device = DeviceID.make eid 0 ∧ services (network.home eid) ∧
    w.objects eid = some values ∧ network.supports values = true

variable {network : Network} {w : World}

theorem supports_iff {values : Interfaces} : network.supports values = true ↔
    ∃ properties, values.lookup supportedMessageTypes = some properties ∧
      supportsType network.config.type properties = .ok true := by
  unfold supports
  cases values.lookup supportedMessageTypes with
  | none => simp
  | some properties =>
      simp only [Option.some.injEq, exists_eq_left']
      cases supportsType network.config.type properties <;> simp

theorem mem_of_supports {values : Interfaces} (supported : network.supports values = true) :
    supportedMessageTypes ∈ values.map Prod.fst := by
  obtain ⟨properties, held, _⟩ := supports_iff.mp supported
  obtain ⟨before, after, rfl, _⟩ := List.lookup_eq_some_iff.mp held
  simp

theorem holds_iff {eid : UInt8} : network.holds w eid = true ↔
    ∃ values, w.objects eid = some values ∧ network.supports values = true := by
  unfold holds
  cases w.objects eid <;> simp

theorem tells_other {eid : UInt8} {note : Note} (other : note.eid ≠ some eid) (held : Bool) :
    network.tells eid held note = held := by
  cases note with
  | announced => rfl
  | added => exact if_neg fun same => other (congrArg some same)
  | removed => exact if_neg fun same => other (congrArg some same)

end Network

end Mctpw
