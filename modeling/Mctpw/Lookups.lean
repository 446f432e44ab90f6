import Mctpw.State

set_option autoImplicit false

namespace Mctpw

open Strings

/-- A property has been read. -/
inductive Effect.Read : Effect → Prop
  | get (property : Property) : Read (.call property.get)

/-- The history a lookup leaves behind: property reads and DeviceIDs formed. -/
inductive Effect.Lookup : Effect → Prop
  | read {effect : Effect} : effect.Read → Lookup effect
  | identified (service : String) (eid : UInt8) (device : DeviceID) :
      Lookup (.identified service eid device)

def networkIDProperty (serviceName : String) : Property :=
  ⟨serviceName, basePath, baseInterface, "NetworkID"⟩

namespace MCTPImpl

/-- A miss fills the cache but answers 0. -/
def getNetworkID (env : Env) (serviceName : String) (s : MCTPImpl) : UInt8 × MCTPImpl :=
  match s.networkIDCache.find serviceName with
  | some networkID => (networkID, s)
  | none =>
      let read := readPropertyValue env.readByte (networkIDProperty serviceName) s
      match read.1 with
      | some networkID =>
          (0, { read.2 with
            networkIDCache := read.2.networkIDCache.emplace serviceName networkID })
      | none => (0, read.2)

def getDeviceIDFromPath (env : Env) (objectPath serviceName : String) (s : MCTPImpl) :
    Except Fault DeviceID × MCTPImpl :=
  match findLastOf '/' objectPath.toList with
  | none => (.error .runtimeError, s)
  | some slashLoc =>
      if slashLoc < 2 then (.error .runtimeError, s)
      else
        let network := getNetworkID env serviceName s
        -- The cache keeps what it read even when the EID does not parse.
        match stoi 10 (objectPath.toList.drop (slashLoc + 1)) with
        | .error _ => (.error .runtimeError, network.2)
        | .ok value =>
            let device := DeviceID.make (UInt8.ofInt value) network.1
            (.ok device, network.2.emit (.identified serviceName (UInt8.ofInt value) device))

def getBusId (env : Env) (serviceName : String) (s : MCTPImpl) : Except Fault Int × MCTPImpl :=
  let binding := bindingToInterface s.config.bindingType
  match s.config.bindingType with
  | .mctpOverSmBus =>
      let read := readPropertyValue env.readString ⟨serviceName, basePath, binding, "BusPath"⟩ s
      match read.1 with
      | none => (.error .systemError, read.2)
      | some pv =>
          match pv.toList.splitOn '-' with
          | [_, number] =>
              match stoi 10 number with
              | .ok bus => (.ok bus, read.2)
              | .error _ => (.error .systemError, read.2)
          | _ => (.ok (-1), read.2)
  | .mctpOverPcieVdm =>
      let read := readPropertyValue env.readUint16 ⟨serviceName, basePath, binding, "BDF"⟩ s
      match read.1 with
      | none => (.error .systemError, read.2)
      | some bus => (.ok bus.toNat, read.2)
  | .mctpOverI3C => (.ok s.i3cBusId, { s with i3cBusId := s.i3cBusId + 1 })
  | _ => (.error .systemError, s)

theorem getNetworkID_emits (env : Env) (serviceName : String) (s : MCTPImpl) :
    Emits Effect.Read s (getNetworkID env serviceName s).2 := by
  unfold getNetworkID
  split
  · exact .refl s
  · obtain ⟨effects, reads, same⟩ :=
      readPropertyValue_reports env.readByte (networkIDProperty serviceName) s (Effect.Read.get _)
    dsimp only
    split
    · exact ⟨effects, _, s.i3cBusId, reads, by rw [same]⟩
    · exact ⟨effects, s.networkIDCache, s.i3cBusId, reads, by rw [same]⟩

theorem getDeviceIDFromPath_emits (env : Env) (objectPath serviceName : String) (s : MCTPImpl) :
    Emits Effect.Lookup s (getDeviceIDFromPath env objectPath serviceName s).2 := by
  have network := (getNetworkID_emits env serviceName s).mono fun _ => Effect.Lookup.read
  unfold getDeviceIDFromPath
  split
  · exact .refl s
  · split
    · exact .refl s
    · dsimp only
      split
      · exact network
      · exact network.trans (.emit _ (.identified _ _ _))

/-- Only the counter behind I3C bus ids may move besides. -/
theorem getBusId_reports (env : Env) (serviceName : String) (s : MCTPImpl) :
    ∃ busId, Reports Effect.Read { s with i3cBusId := busId } (getBusId env serviceName s).2 := by
  unfold getBusId
  dsimp only
  split
  · have read := readPropertyValue_reports env.readString
      ⟨serviceName, basePath, bindingToInterface s.config.bindingType, "BusPath"⟩ s (Effect.Read.get _)
    refine ⟨s.i3cBusId, ?_⟩
    split
    · exact read
    · split
      · split <;> exact read
      · exact read
  · have read := readPropertyValue_reports env.readUint16
      ⟨serviceName, basePath, bindingToInterface s.config.bindingType, "BDF"⟩ s (Effect.Read.get _)
    refine ⟨s.i3cBusId, ?_⟩
    split <;> exact read
  · exact ⟨s.i3cBusId + 1, .refl _⟩
  · exact ⟨s.i3cBusId, .refl s⟩

theorem getBusId_emits (env : Env) (serviceName : String) (s : MCTPImpl) :
    Emits Effect.Read s (getBusId env serviceName s).2 := by
  obtain ⟨busId, reads⟩ := getBusId_reports env serviceName s
  exact reads.emits_of_busId

/-- The EID a path spells, whatever service it is asked of. -/
def pathEID (objectPath : String) : Option UInt8 :=
  match findLastOf '/' objectPath.toList with
  | none => none
  | some slashLoc =>
      if slashLoc < 2 then none
      else
        match stoi 10 (objectPath.toList.drop (slashLoc + 1)) with
        | .error _ => none
        | .ok value => some (UInt8.ofInt value)

/-- The outcome depends on the path alone, the network on the cache. -/
theorem getDeviceIDFromPath_fst (env : Env) (objectPath serviceName : String) (s : MCTPImpl) :
    (getDeviceIDFromPath env objectPath serviceName s).1 =
      match pathEID objectPath with
      | none => .error .runtimeError
      | some eid => .ok (DeviceID.make eid (getNetworkID env serviceName s).1) := by
  unfold getDeviceIDFromPath pathEID
  cases findLastOf '/' objectPath.toList with
  | none => rfl
  | some slashLoc =>
      by_cases low : slashLoc < 2
      · simp only [low, ↓reduceIte]
      · simp only [low, ↓reduceIte]
        cases stoi 10 (objectPath.toList.drop (slashLoc + 1)) <;> rfl

/-- A DeviceID that is formed has the EID the path spells. -/
theorem getDeviceIDFromPath_ok {env : Env} {objectPath serviceName : String} {s : MCTPImpl}
    {device : DeviceID} (formed : (getDeviceIDFromPath env objectPath serviceName s).1 = .ok device) :
    ∃ eid, pathEID objectPath = some eid ∧
      device = DeviceID.make eid (getNetworkID env serviceName s).1 := by
  rw [getDeviceIDFromPath_fst] at formed
  split at formed
  · cases formed
  · rename_i eid spelled
    exact ⟨eid, spelled, (Except.ok.inj formed).symm⟩

end MCTPImpl

end Mctpw
