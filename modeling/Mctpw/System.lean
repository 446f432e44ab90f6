import Mctpw.Base.Runs
import Mctpw.Events
import Mctpw.Send

set_option autoImplicit false

/- The library with everything that can happen to it: API calls, signals, spawned
bodies, and any number of detectMctpEndpoints coroutines taking turns with them. -/
namespace Mctpw

open Runs

structure System where
  lib : MCTPImpl
  scans : List Scan

/-- A label carries what the rest of the world answers during its step. -/
inductive Label
  | detect
  | resume (index : Nat) (env : Env) (reply : Reply)
  | signal (env : Env) (msg : Message)
  | body
  | registerResponder (env : Env) (specVersion : List VersionFields)
  | getOwnEIDs (env : Env) (callback : Option Nat)
  | setExtendedReceiveCallback (callback : Bool)
  | send (request : SendRequest) (devID : DeviceID)

/-- The label takes a body off the queue. -/
def Label.isBody : Label → Bool
  | .body => true
  | _ => false

namespace System

/-- A coroutine that leaves the processor waits again or is gone. There is no
state after undefined behaviour. -/
def settle (s : System) (index : Nat) : Progress × MCTPImpl → Option System
  | (.suspended scan, lib) => some ⟨lib, s.scans.set index scan⟩
  | (.returned _, lib) => some ⟨lib, s.scans.eraseIdx index⟩
  | (.raised _, _) => none

/-- An exception leaves the state it was thrown in. -/
def unwind {α : Type} (s : System) : Except Fault α × MCTPImpl → Option System
  | (.error .undefinedBehaviour, _) => none
  | (_, lib) => some { s with lib := lib }

def step (s : System) : Label → Option System
  | .detect =>
      let started := s.lib.detectMctpEndpoints
      some ⟨started.2, s.scans ++ [started.1]⟩
  | .resume index env reply =>
      match s.scans[index]? with
      | none => none
      | some scan => (MCTPImpl.resume env scan reply s.lib).bind (s.settle index)
  | .signal env msg =>
      if s.lib.mctpChangesWatch then s.unwind (MCTPImpl.onMCTPEvent env msg s.lib) else none
  | .body =>
      match s.lib.spawned with
      | [] => none
      | body :: rest =>
          some { s with lib := MCTPImpl.runSpawned body { s.lib with spawned := rest } }
  | .registerResponder env specVersion =>
      s.unwind (MCTPImpl.registerResponder env specVersion s.lib)
  | .getOwnEIDs env callback => some { s with lib := MCTPImpl.getOwnEIDs env callback s.lib }
  | .setExtendedReceiveCallback callback =>
      some { s with lib := MCTPImpl.setExtendedReceiveCallback callback s.lib }
  | .send request devID => some { s with lib := MCTPImpl.send request devID s.lib }

/-- A freshly constructed library. -/
def construct (host : ByteOrder.Endian) (config : MCTPConfiguration)
    (networkChangeCb rxCb : Bool) : System :=
  ⟨MCTPImpl.construct host config networkChangeCb rxCb, []⟩

/-- What construction and any labels can lead to. -/
def Reachable (s : System) : Prop :=
  ∃ host config networkChangeCb rxCb labels,
    Run step Any (construct host config networkChangeCb rxCb) labels s

theorem Reachable.of_exec {host : ByteOrder.Endian} {config : MCTPConfiguration}
    {networkChangeCb rxCb : Bool} {labels : List Label} {s : System}
    (done : exec step (construct host config networkChangeCb rxCb) labels = some s) :
    s.Reachable :=
  ⟨host, config, networkChangeCb, rxCb, labels, .of_exec done⟩

theorem unwind_some {α : Type} {s t : System} {result : Except Fault α × MCTPImpl}
    (unwound : s.unwind result = some t) :
    result.1 ≠ .error .undefinedBehaviour ∧ t = { s with lib := result.2 } := by
  obtain ⟨outcome, lib⟩ := result
  unfold unwind at unwound
  split at unwound
  · cases unwound
  · rename_i defined same
    cases same
    exact ⟨defined, (Option.some.inj unwound).symm⟩

theorem step_signal {s t : System} {env : Env} {msg : Message}
    (stepped : s.step (.signal env msg) = some t) :
    s.lib.mctpChangesWatch = true ∧
      (MCTPImpl.onMCTPEvent env msg s.lib).1 ≠ .error .undefinedBehaviour ∧
      t = { s with lib := (MCTPImpl.onMCTPEvent env msg s.lib).2 } := by
  simp only [step] at stepped
  split at stepped
  · rename_i watching
    exact ⟨watching, unwind_some stepped⟩
  · cases stepped

theorem step_body {s t : System} (stepped : s.step .body = some t) :
    ∃ body rest, s.lib.spawned = body :: rest ∧
      t = { s with lib := MCTPImpl.runSpawned body { s.lib with spawned := rest } } := by
  simp only [step] at stepped
  split at stepped
  · cases stepped
  · rename_i body rest queued
    exact ⟨body, rest, queued, (Option.some.inj stepped).symm⟩

theorem step_registerResponder {s t : System} {env : Env} {specVersion : List VersionFields}
    (stepped : s.step (.registerResponder env specVersion) = some t) :
    t = { s with lib := (MCTPImpl.registerResponder env specVersion s.lib).2 } :=
  (unwind_some stepped).2

/-- What taking up a coroutine does to the list of them. -/
theorem step_resume {s t : System} {index : Nat} {env : Env} {reply : Reply}
    (stepped : s.step (.resume index env reply) = some t) :
    ∃ scan progress lib, s.scans[index]? = some scan ∧
      MCTPImpl.resume env scan reply s.lib = some (progress, lib) ∧ t.lib = lib ∧
      ((∃ next, progress = .suspended next ∧ t.scans = s.scans.set index next) ∨
        ∃ ec, progress = .returned ec ∧ t.scans = s.scans.eraseIdx index) := by
  simp only [step] at stepped
  split at stepped
  · cases stepped
  · rename_i scan waiting
    obtain ⟨result, resumed, settled⟩ := Option.bind_eq_some_iff.mp stepped
    obtain ⟨progress, lib⟩ := result
    refine ⟨scan, progress, lib, waiting, resumed, ?_⟩
    cases progress with
    | suspended next =>
        cases settled
        exact ⟨rfl, .inl ⟨next, rfl, rfl⟩⟩
    | returned ec =>
        cases settled
        exact ⟨rfl, .inr ⟨ec, rfl, rfl⟩⟩
    | raised fault => cases settled

/-- When no coroutine is left, the one taken up has returned: one that waits again
is still there. -/
theorem step_resume_quiet {s t : System} {index : Nat} {env : Env} {reply : Reply}
    (stepped : s.step (.resume index env reply) = some t) (quiet : t.scans = []) :
    ∃ scan ec, scan ∈ s.scans ∧
      MCTPImpl.resume env scan reply s.lib = some (.returned ec, t.lib) := by
  obtain ⟨scan, progress, lib, waiting, resumed, rfl, left⟩ := step_resume stepped
  have running : scan ∈ s.scans := List.mem_of_getElem? waiting
  rcases left with ⟨next, _, scans⟩ | ⟨ec, rfl, _⟩
  · rw [quiet] at scans
    have none : s.scans = [] := by simpa using scans.symm
    rw [none] at running
    cases running
  · exact ⟨scan, ec, running, resumed⟩

/-- Only setExtendedReceiveCallback sets a callback for messages. -/
theorem step_installed {s t : System} {label : Label} (stepped : s.step label = some t)
    (others : ∀ callback, label ≠ .setExtendedReceiveCallback callback) :
    t.lib.installed = s.lib.installed := by
  cases label with
  | detect =>
      cases stepped
      rfl
  | resume index env reply =>
      obtain ⟨scan, progress, lib, _, resumed, rfl, _⟩ := step_resume stepped
      exact MCTPImpl.resume_installed resumed
  | signal env msg =>
      obtain ⟨_, _, rfl⟩ := step_signal stepped
      exact MCTPImpl.onMCTPEvent_installed env msg s.lib
  | body =>
      obtain ⟨body, rest, _, rfl⟩ := step_body stepped
      obtain ⟨_, _, same⟩ := MCTPImpl.runSpawned_eq body rest s.lib
      rw [same]
      rfl
  | registerResponder env specVersion =>
      rw [step_registerResponder stepped]
      obtain ⟨_, _, _, same⟩ := MCTPImpl.registerResponder_reports env specVersion s.lib
      rw [same]
      rfl
  | getOwnEIDs env callback =>
      cases stepped
      obtain ⟨_, _, _, same⟩ := MCTPImpl.getOwnEIDs_reports env callback s.lib
      rw [same]
      rfl
  | setExtendedReceiveCallback callback => exact absurd rfl (others callback)
  | send request devID =>
      cases stepped
      obtain ⟨_, _, same⟩ := MCTPImpl.send_reports request devID s.lib
      rw [same]
      rfl

theorem step_settings {s t : System} {label : Label} (stepped : s.step label = some t) :
    t.lib.settings = s.lib.settings := by
  cases label with
  | setExtendedReceiveCallback callback =>
      cases stepped
      dsimp only [MCTPImpl.setExtendedReceiveCallback]
      split <;> rfl
  | _ => exact congrArg Prod.fst (step_installed stepped (by simp))

theorem run_settings {admits : System → Label → Prop} {s t : System} {labels : List Label}
    (run : Run step admits s labels t) : t.lib.settings = s.lib.settings := by
  refine run.invariant (fun state => state.lib.settings = s.lib.settings) rfl ?_
  intro state label next same _ stepped
  rw [step_settings stepped, same]

/-- A body leaves the front of the queue; anything else only adds to the back. -/
theorem step_spawned {s t : System} {label : Label} (stepped : s.step label = some t) :
    ∃ ran more, s.lib.spawned ++ more = ran ++ t.lib.spawned ∧
      ran.length = if label.isBody then 1 else 0 := by
  have kept : ∀ {t : MCTPImpl}, t.spawned = s.lib.spawned →
      ∃ ran more, s.lib.spawned ++ more = ran ++ t.spawned ∧ ran.length = 0 :=
    fun same => ⟨[], [], by simp [same], rfl⟩
  cases label with
  | detect =>
      cases stepped
      exact kept rfl
  | resume index env reply =>
      obtain ⟨scan, progress, lib, _, resumed, same, _⟩ := step_resume stepped
      rw [same]
      exact kept (MCTPImpl.resume_spawned resumed)
  | signal env msg =>
      obtain ⟨_, _, rfl⟩ := step_signal stepped
      obtain ⟨more, grown⟩ := MCTPImpl.onMCTPEvent_spawned env msg s.lib
      exact ⟨[], more, by simp [grown], rfl⟩
  | body =>
      obtain ⟨body, rest, queued, rfl⟩ := step_body stepped
      obtain ⟨_, _, same⟩ := MCTPImpl.runSpawned_eq body rest s.lib
      exact ⟨[body], [], by rw [same, List.append_nil, queued, List.singleton_append], rfl⟩
  | registerResponder env specVersion =>
      rw [step_registerResponder stepped]
      obtain ⟨_, _, _, same⟩ := MCTPImpl.registerResponder_reports env specVersion s.lib
      exact kept (by rw [same])
  | getOwnEIDs env callback =>
      cases stepped
      obtain ⟨_, _, _, same⟩ := MCTPImpl.getOwnEIDs_reports env callback s.lib
      exact kept (by rw [same])
  | setExtendedReceiveCallback callback =>
      cases stepped
      refine kept ?_
      dsimp only [MCTPImpl.setExtendedReceiveCallback]
      split <;> rfl
  | send request devID =>
      cases stepped
      obtain ⟨_, _, same⟩ := MCTPImpl.send_reports request devID s.lib
      exact kept (by rw [same])

/-- How many bodies a list of labels runs. -/
def bodies (labels : List Label) : Nat := labels.countP Label.isBody

/-- Bodies run in the order they were spawned. -/
theorem spawned_fifo {admits : System → Label → Prop} {s t : System} {labels : List Label}
    (run : Run step admits s labels t) :
    ∃ ran more, s.lib.spawned ++ more = ran ++ t.lib.spawned ∧ ran.length = bodies labels := by
  induction run with
  | nil => exact ⟨[], [], by simp, rfl⟩
  | @snoc labels state next label _ _ stepped ih =>
      obtain ⟨ran, more, queue, count⟩ := ih
      obtain ⟨ran', more', queue', count'⟩ := step_spawned stepped
      refine ⟨ran ++ ran', more ++ more', ?_, ?_⟩
      · rw [← List.append_assoc, queue, List.append_assoc, queue', List.append_assoc]
      · rw [List.length_append, count, count', bodies, bodies, List.countP_append,
          List.countP_singleton]

end System

/- A bus with one SMBus service, owned by one connection, that holds no endpoint
while it is scanned. -/
namespace Slot

def service : String := "xyz.openbmc_project.mctp_slot"
def owner : String := ":1.7"
def path : String := "/xyz/openbmc_project/mctp/device/8"

def env : Env :=
  { Env.silent with
    readString := fun property => if property.name = "BusPath" then some "/dev/i2c-2" else none
    readByte := fun property => if property.name = "NetworkID" then some 0 else none }

def config : MCTPConfiguration := .ofType .pldm .mctpOverSmBus

def vendorConfig : MCTPConfiguration :=
  (MCTPConfiguration.ofType .vdpci .mctpOverSmBus).setVendorId .little 0x8086
    |>.setVendorMessageType .little 0x8000 0x8000

def object : Interfaces :=
  [(endpointInterface, []), (supportedMessageTypes, [("PLDM", .bool true)])]

def added : Label := .signal env ⟨owner, .interfacesAdded path object⟩

def removed : Label :=
  .signal env ⟨owner, .interfacesRemoved path [endpointInterface, supportedMessageTypes]⟩

def start : System := .construct .little config true false

def discovery : List Label :=
  [.detect, .resume 0 env (.object (.ok [service])), .resume 0 env (.nameOwner (.ok owner)),
    .resume 0 env (.managedObjects (.ok []))]

/-- The library once it has discovered the bus. -/
def ready : System := (exec System.step start discovery).get (by decide)

theorem ready_reachable : ready.Reachable := by
  have done : exec System.step start discovery = some ready := by simp only [ready, Option.some_get]
  exact .of_exec done

end Slot

end Mctpw
