import Mctpw.Base.UnorderedMap
import Mctpw.Configuration
import Mctpw.Bus

set_option autoImplicit false

namespace Mctpw

open ByteOrder

structure VersionFields where
  major : UInt8
  minor : UInt8
  update : UInt8
  alpha : UInt8
deriving DecidableEq

/-- The packed struct as it lies in memory. -/
def VersionFields.bytes (version : VersionFields) : ByteArray :=
  [version.major, version.minor, version.update, version.alpha]

/-- A method has been called. -/
inductive Effect.Asked : Effect → Prop
  | call (call : MethodCall) : Asked (.call call)

/-- A coroutine body handed to boost::asio::spawn. -/
inductive Spawned
  | newEID (serviceName : String) (extendedEID : DeviceID)
  | eidRemoved (deviceID : DeviceID)
deriving DecidableEq

abbrev EndpointMapExtended := UnorderedMap DeviceID (UInt32 × String)

/-- The members of MCTPImpl, the host it runs on, the bodies it has spawned and
not yet run, the counter behind I3C bus ids, and everything it has done so far.
A callback is present or null; the own-EID callback keeps its identity. -/
structure MCTPImpl where
  host : Endian
  config : MCTPConfiguration
  networkChangeCallback : Bool
  receiveCallback : Bool
  extReceiveCallback : Bool
  eidChangeCallback : Option Nat
  endpointMap : EndpointMapExtended
  matchedBuses : Finset String
  responderVersions : List VersionFields
  networkIDCache : UnorderedMap String UInt8
  isInitialisationsDone : Bool
  mctpChangesWatch : Bool
  spawned : List Spawned
  i3cBusId : Int
  trace : List Effect

namespace MCTPImpl

/-- The library as its constructor leaves it. -/
def construct (host : Endian) (config : MCTPConfiguration)
    (networkChangeCb rxCb : Bool) : MCTPImpl where
  host := host
  config := config
  networkChangeCallback := networkChangeCb
  receiveCallback := rxCb
  extReceiveCallback := false
  eidChangeCallback := none
  endpointMap := ∅
  matchedBuses := ∅
  responderVersions := []
  networkIDCache := ∅
  isInitialisationsDone := false
  mctpChangesWatch := false
  spawned := []
  i3cBusId := 0
  trace := []

/-- What the constructor sets for good. -/
def settings (s : MCTPImpl) : Endian × MCTPConfiguration × Bool :=
  (s.host, s.config, s.networkChangeCallback)

/-- The settings, and the callbacks a received message can go to. -/
def installed (s : MCTPImpl) : (Endian × MCTPConfiguration × Bool) × Bool × Bool :=
  (s.settings, s.receiveCallback, s.extReceiveCallback)

def emit (s : MCTPImpl) (effect : Effect) : MCTPImpl :=
  { s with trace := s.trace ++ [effect] }

/-- matchedBuses.emplace. -/
def matchService (s : MCTPImpl) (serviceName : String) : MCTPImpl :=
  if serviceName ∈ s.matchedBuses then s
  else { s with
    matchedBuses := insert serviceName s.matchedBuses
    trace := s.trace ++ [.matched serviceName] }

/-- readPropertyValue: the call goes out, and a value or an exception comes back. -/
def readPropertyValue {α : Type} (answer : Property → Option α) (property : Property)
    (s : MCTPImpl) : Option α × MCTPImpl :=
  (answer property, s.emit (.call property.get))

/-- `t` is `s` with more history, all of it allowed, and other lookup results
remembered. Nothing the handlers decide by has changed. -/
def Emits (allowed : Effect → Prop) (s t : MCTPImpl) : Prop :=
  ∃ effects cache busId, (∀ effect ∈ effects, allowed effect) ∧
    t = { s with
      trace := s.trace ++ effects
      networkIDCache := cache
      i3cBusId := busId }

/-- `t` is `s` with more history, all of it allowed, and nothing else. -/
def Reports (allowed : Effect → Prop) (s t : MCTPImpl) : Prop :=
  ∃ effects, (∀ effect ∈ effects, allowed effect) ∧ t = { s with trace := s.trace ++ effects }

variable {allowed : Effect → Prop} {s t u : MCTPImpl}

theorem Reports.refl (s : MCTPImpl) : Reports allowed s s := ⟨[], by simp, by simp⟩

theorem Reports.emit (s : MCTPImpl) {effect : Effect} (fine : allowed effect) :
    Reports allowed s (s.emit effect) :=
  ⟨[effect], by simpa using fine, rfl⟩

theorem Reports.trans (first : Reports allowed s t) (second : Reports allowed t u) :
    Reports allowed s u := by
  obtain ⟨effects, fine, rfl⟩ := first
  obtain ⟨effects', fine', rfl⟩ := second
  refine ⟨effects ++ effects', ?_, by simp⟩
  intro effect member
  rcases List.mem_append.mp member with member | member
  · exact fine effect member
  · exact fine' effect member

theorem Reports.mono {weaker : Effect → Prop} (implied : ∀ effect, allowed effect → weaker effect)
    (reports : Reports allowed s t) : Reports weaker s t := by
  obtain ⟨effects, fine, same⟩ := reports
  exact ⟨effects, fun effect member => implied effect (fine effect member), same⟩

theorem Reports.emits (reports : Reports allowed s t) : Emits allowed s t := by
  obtain ⟨effects, fine, rfl⟩ := reports
  exact ⟨effects, s.networkIDCache, s.i3cBusId, fine, rfl⟩

/-- The counter behind I3C bus ids may have moved before. -/
theorem Reports.emits_of_busId {busId : Int} (reports : Reports allowed { s with i3cBusId := busId } t) :
    Emits allowed s t := by
  obtain ⟨effects, fine, same⟩ := reports
  exact ⟨effects, s.networkIDCache, busId, fine, same⟩

theorem Reports.config_eq (reports : Reports allowed s t) : t.config = s.config := by
  obtain ⟨_, _, rfl⟩ := reports
  rfl

theorem Emits.refl (s : MCTPImpl) : Emits allowed s s := (Reports.refl s).emits

theorem Emits.emit (s : MCTPImpl) {effect : Effect} (fine : allowed effect) :
    Emits allowed s (s.emit effect) := (Reports.emit s fine).emits

theorem Emits.trans (first : Emits allowed s t) (second : Emits allowed t u) :
    Emits allowed s u := by
  obtain ⟨effects, cache, busId, fine, rfl⟩ := first
  obtain ⟨effects', cache', busId', fine', rfl⟩ := second
  refine ⟨effects ++ effects', cache', busId', ?_, by simp⟩
  intro effect member
  rcases List.mem_append.mp member with member | member
  · exact fine effect member
  · exact fine' effect member

theorem Emits.mono {weaker : Effect → Prop} (implied : ∀ effect, allowed effect → weaker effect)
    (emits : Emits allowed s t) : Emits weaker s t := by
  obtain ⟨effects, cache, busId, fine, same⟩ := emits
  exact ⟨effects, cache, busId, fun effect member => implied effect (fine effect member), same⟩

theorem Reports.call (s : MCTPImpl) (call : MethodCall) :
    Reports Effect.Asked s (s.emit (.call call)) := .emit s (.call call)

theorem readPropertyValue_reports {α : Type} (answer : Property → Option α) (property : Property)
    (s : MCTPImpl) (fine : allowed (.call property.get)) :
    Reports allowed s (readPropertyValue answer property s).2 :=
  .emit s fine

theorem matchService_matchedBuses (s : MCTPImpl) (serviceName : String) :
    (s.matchService serviceName).matchedBuses = insert serviceName s.matchedBuses := by
  unfold matchService
  split
  · rename_i already
    exact (Finset.insert_eq_of_mem already).symm
  · rfl

/-- Anything but the services and the history is the same after matching. -/
theorem matchService_keeps {α : Type} (field : MCTPImpl → α) (s : MCTPImpl) (serviceName : String)
    (apart : ∀ buses trace, field { s with matchedBuses := buses, trace := trace } = field s) :
    field (s.matchService serviceName) = field s := by
  unfold matchService
  split
  · rfl
  · exact apart _ _

theorem matchService_config (s : MCTPImpl) (serviceName : String) :
    (s.matchService serviceName).config = s.config :=
  matchService_keeps MCTPImpl.config s serviceName fun _ _ => rfl

theorem matchService_responderVersions (s : MCTPImpl) (serviceName : String) :
    (s.matchService serviceName).responderVersions = s.responderVersions :=
  matchService_keeps MCTPImpl.responderVersions s serviceName fun _ _ => rfl

theorem matchService_endpointMap (s : MCTPImpl) (serviceName : String) :
    (s.matchService serviceName).endpointMap = s.endpointMap :=
  matchService_keeps MCTPImpl.endpointMap s serviceName fun _ _ => rfl

theorem matchService_spawned (s : MCTPImpl) (serviceName : String) :
    (s.matchService serviceName).spawned = s.spawned :=
  matchService_keeps MCTPImpl.spawned s serviceName fun _ _ => rfl

end MCTPImpl

end Mctpw
