import Mctpw.Scan

set_option autoImplicit false

/- The signal handlers and the bodies they spawn. -/
namespace Mctpw

open ByteOrder Strings

theorem endpointPath_ne_base {objectPath : String}
    (under : startsWith objectPath endpointPrefix = true) : objectPath ≠ basePath := by
  rintro rfl
  revert under
  decide

/-- The effects of handing over a payload: the callbacks and the network lookup. -/
inductive Effect.Delivery : Effect → Prop
  | read {effect : Effect} : effect.Read → Delivery effect
  | identified (service : String) (eid : UInt8) (device : DeviceID) :
      Delivery (.identified service eid device)
  | received (srcEid : UInt8) (tagOwner : Bool) (msgTag : UInt8) (payload : ByteArray) :
      Delivery (.received srcEid tagOwner msgTag payload)
  | extReceived (device : DeviceID) (tagOwner : Bool) (msgTag : UInt8) (payload : ByteArray) :
      Delivery (.extReceived device tagOwner msgTag payload)

/-- What a look at a payload comes to, and the offsets it has loaded by then. -/
structure Loaded (α : Type) where
  result : Except Fault α
  offsets : List Nat

namespace Loaded

variable {α β : Type}

def pure (value : α) : Loaded α := ⟨.ok value, []⟩

def bind (first : Loaded α) (next : α → Loaded β) : Loaded β :=
  match first.result with
  | .error fault => ⟨.error fault, first.offsets⟩
  | .ok value => ⟨(next value).result, first.offsets ++ (next value).offsets⟩

end Loaded

/-- A delivery, or a look at the payload before it. -/
inductive Effect.Reception : Effect → Prop
  | delivery {effect : Effect} : effect.Delivery → Reception effect
  | inspected (offsets : List Nat) : Reception (.inspected offsets)

namespace MCTPImpl

def onNewService (env : Env) (serviceName : String) (s : MCTPImpl) :
    Except Fault Unit × MCTPImpl :=
  let registered := registerResponderService env serviceName (s.matchService serviceName)
  match registered.1 with
  | .error fault => (.error fault, registered.2)
  | .ok _ => (.ok (), triggerGetOwnEID env serviceName registered.2)

def onNewEID (serviceName : String) (extendedEID : DeviceID) (s : MCTPImpl) : MCTPImpl :=
  if s.networkChangeCallback then
    { s with spawned := s.spawned ++ [.newEID serviceName extendedEID] }
  else s

def onNewInterface (env : Env) (sender objectPath : String) (values : Interfaces)
    (s : MCTPImpl) : Except Fault Unit × MCTPImpl :=
  if objectPath = basePath then
    match values.lookup (bindingToInterface s.config.bindingType) with
    | some _ => onNewService env sender s
    | none => (.ok (), s)
  else if sender ∉ s.matchedBuses then (.ok (), s)
  else if startsWith objectPath endpointPrefix then
    match values.lookup supportedMessageTypes with
    | none => (.ok (), s)
    | some properties =>
        -- Neither this lookup nor the path is inside a try block.
        match supportsType s.config.type properties with
        | .error fault => (.error fault, s)
        | .ok false => (.ok (), s)
        | .ok true =>
            let device := getDeviceIDFromPath env objectPath sender s
            match device.1 with
            | .error fault => (.error fault, device.2)
            | .ok newExtendedEID => (.ok (), onNewEID sender newExtendedEID device.2)
  else (.ok (), s)

def onEIDRemoved (deviceID : DeviceID) (s : MCTPImpl) : MCTPImpl :=
  match s.endpointMap.find deviceID with
  | none => s
  | some _ =>
      let erased := { s with endpointMap := s.endpointMap.erase deviceID }
      if s.networkChangeCallback then
        { erased with spawned := s.spawned ++ [.eidRemoved deviceID] }
      else erased

/-- The last loop of the source only logs the entries it leaves behind. -/
def onInterfaceRemoved (env : Env) (sender objectPath : String) (interfaces : List String)
    (s : MCTPImpl) : MCTPImpl :=
  if startsWith objectPath endpointPrefix then
    if supportedMessageTypes ∈ interfaces then
      let device := getDeviceIDFromPath env objectPath sender s
      match device.1 with
      | .error _ => device.2
      | .ok deviceID => onEIDRemoved deviceID device.2
    else s
  else if objectPath = basePath then
    if baseInterface ∈ interfaces then
      { s with matchedBuses := s.matchedBuses.erase sender }
    else s
  else s

/-- A byte at an offset from payload.data(). Past the end there may be nothing to load. -/
def byteAt (env : Env) (payload : ByteArray) (offset : Nat) : Option UInt8 :=
  payload[offset]?.or (env.beyond offset)

/-- A field of two bytes of a struct overlaid on the payload. -/
def fieldAt (env : Env) (host : Endian) (payload : ByteArray) (offset : Nat) : Loaded UInt16 where
  result :=
    match byteAt env payload offset, byteAt env payload (offset + 1) with
    | some first, some second => .ok (load16 host first second)
    | _, _ => .error .undefinedBehaviour
  offsets := [offset, offset + 1]

/-- The VDPCI filter over the overlaid VendorHeader. The header is packed: vendorId at 1,
intelVendorMessageId at 3. -/
def vendorHeaderMatches (env : Env) (payload : ByteArray) (s : MCTPImpl) : Loaded Bool :=
  match s.config.vendorId, s.config.vendorMessageType with
  | some vendorId, some vendor =>
      (fieldAt env s.host payload 1).bind fun found =>
        if found ≠ vendorId then .pure false
        else
          (fieldAt env s.host payload 3).bind fun intelVendorMessageId =>
            .pure (intelVendorMessageId &&& vendor.mask = vendor.value &&& vendor.mask)
  | _, _ => .pure false

/-- Both callbacks, each when it is set. -/
def deliver (env : Env) (sender : String) (srcEid msgTag : UInt8) (tagOwner : Bool)
    (payload : ByteArray) (s : MCTPImpl) : MCTPImpl :=
  let plain :=
    if s.receiveCallback then s.emit (.received srcEid tagOwner msgTag payload) else s
  if s.extReceiveCallback then
    let network := getNetworkID env sender plain
    let device := DeviceID.make srcEid network.1
    (network.2.emit (.identified sender srcEid device)).emit
      (.extReceived device tagOwner msgTag payload)
  else plain

def onMessageReceived (env : Env) (sender : String) (messageType srcEid msgTag : UInt8)
    (tagOwner : Bool) (payload : ByteArray) (s : MCTPImpl) : Except Fault Unit × MCTPImpl :=
  if ¬ s.receiveCallback ∧ ¬ s.extReceiveCallback then (.ok (), s)
  else if messageType ≠ s.config.type.toByte then (.ok (), s)
  else if s.config.type = .vdpci then
    -- The header is overlaid without a look at payload.size().
    let filter := vendorHeaderMatches env payload s
    let inspected := s.emit (.inspected filter.offsets)
    match filter.result with
    | .error fault => (.error fault, inspected)
    | .ok false => (.ok (), inspected)
    | .ok true => (.ok (), deliver env sender srcEid msgTag tagOwner payload inspected)
  else (.ok (), deliver env sender srcEid msgTag tagOwner payload s)

def onPropertiesChanged (sender intfName : String) (propertiesChanged : Properties)
    (s : MCTPImpl) : Except Fault Unit × MCTPImpl :=
  match s.eidChangeCallback, propertiesChanged.lookup "Eid" with
  | some callback, some value =>
      if intfName = baseInterface then
        match value with
        | .uint8 eid => (.ok (), s.emit (.ownEID callback sender eid))
        | _ => (.error .badVariantAccess, s)
      else (.ok (), s)
  | _, _ => (.ok (), s)

/-- InterfacesAdded is handled before the sender is checked; no later branch
takes its member, so the check that follows it changes nothing. -/
def onMCTPEvent (env : Env) (msg : Message) (s : MCTPImpl) : Except Fault Unit × MCTPImpl :=
  if s.isInitialisationsDone = false then (.ok (), s)
  else
    match msg.signal with
    | .interfacesAdded objectPath values => onNewInterface env msg.sender objectPath values s
    | .interfacesRemoved objectPath interfaces =>
        if msg.sender ∉ s.matchedBuses then (.ok (), s)
        else (.ok (), onInterfaceRemoved env msg.sender objectPath interfaces s)
    | .messageReceived messageType srcEid msgTag tagOwner payload =>
        if msg.sender ∉ s.matchedBuses then (.ok (), s)
        else onMessageReceived env msg.sender messageType srcEid msgTag tagOwner payload s
    | .propertiesChanged intfName propertiesChanged =>
        if msg.sender ∉ s.matchedBuses then (.ok (), s)
        else onPropertiesChanged msg.sender intfName propertiesChanged s
    | .other _ => (.ok (), s)

def setExtendedReceiveCallback (callback : Bool) (s : MCTPImpl) : MCTPImpl :=
  if s.receiveCallback then s else { s with extReceiveCallback := callback }

/-- A spawned body up to the user callback it ends in. The insertion of a new
device is part of the body. -/
def runSpawned (body : Spawned) (s : MCTPImpl) : MCTPImpl :=
  match body with
  | .newEID serviceName extendedEID =>
      { s with endpointMap := s.endpointMap.emplace extendedEID (0, serviceName) }.emit
        (.networkChange ⟨.deviceAdded, extendedEID.mctpEID, extendedEID⟩)
  | .eidRemoved deviceID =>
      s.emit (.networkChange ⟨.deviceRemoved, deviceID.mctpEID, deviceID⟩)

/-- A body may file its device, and ends in one delivery. -/
theorem runSpawned_eq (body : Spawned) (rest : List Spawned) (s : MCTPImpl) :
    ∃ eids event, runSpawned body { s with spawned := rest } = { s with
      endpointMap := eids
      spawned := rest
      trace := s.trace ++ [.networkChange event] } := by
  cases body with
  | newEID serviceName device => exact ⟨_, _, rfl⟩
  | eidRemoved device => exact ⟨_, _, rfl⟩

theorem runSpawned_spawned (body : Spawned) (rest : List Spawned) (s : MCTPImpl) :
    (runSpawned body { s with spawned := rest }).spawned = rest := by
  obtain ⟨_, _, same⟩ := runSpawned_eq body rest s
  rw [same]

/-- What is filed after a body was filed before, or is the device it announces. -/
theorem runSpawned_find {body : Spawned} {rest : List Spawned} {s : MCTPImpl} {device : DeviceID}
    {entry : UInt32 × String}
    (found : (runSpawned body { s with spawned := rest }).endpointMap.find device = some entry) :
    s.endpointMap.find device = some entry ∨
      ∃ serviceName, body = .newEID serviceName device ∧ entry = (0, serviceName) := by
  cases body with
  | eidRemoved deviceID => exact .inl found
  | newEID serviceName extendedEID =>
      change (s.endpointMap.emplace extendedEID (0, serviceName)).find device = _ at found
      rw [UnorderedMap.find_emplace] at found
      split at found
      · rename_i same
        subst same
        cases held : s.endpointMap.find device with
        | none =>
            rw [held] at found
            cases found
            exact .inr ⟨serviceName, rfl, rfl⟩
        | some kept =>
            rw [held] at found
            exact .inl found
      · exact .inl found

theorem deliver_emits (env : Env) (sender : String) (srcEid msgTag : UInt8) (tagOwner : Bool)
    (payload : ByteArray) (s : MCTPImpl) :
    Emits Effect.Delivery s (deliver env sender srcEid msgTag tagOwner payload s) := by
  have plain : Emits Effect.Delivery s
      (if s.receiveCallback then s.emit (.received srcEid tagOwner msgTag payload) else s) := by
    split
    · exact .emit s (.received _ _ _ _)
    · exact .refl s
  unfold deliver
  dsimp only
  generalize (if s.receiveCallback then s.emit (.received srcEid tagOwner msgTag payload) else s) =
    handed at plain ⊢
  split
  · have network := (getNetworkID_emits env sender handed).mono fun _ => Effect.Delivery.read
    exact ((plain.trans network).trans (.emit _ (.identified _ _ _))).trans
      (.emit _ (.extReceived _ _ _ _))
  · exact plain

theorem onMessageReceived_emits (env : Env) (sender : String)
    (messageType srcEid msgTag : UInt8) (tagOwner : Bool) (payload : ByteArray) (s : MCTPImpl) :
    Emits Effect.Reception s
      (onMessageReceived env sender messageType srcEid msgTag tagOwner payload s).2 := by
  have delivered := fun s => (deliver_emits env sender srcEid msgTag tagOwner payload s).mono
    fun _ => Effect.Reception.delivery
  unfold onMessageReceived
  split
  · exact .refl s
  · split
    · exact .refl s
    · split
      · have inspected := Emits.emit s
          (Effect.Reception.inspected (vendorHeaderMatches env payload s).offsets)
        dsimp only
        split
        · exact inspected
        · exact inspected
        · exact inspected.trans (delivered _)
      · exact delivered s

/-- A removal erases, and spawns nothing but its own notice. -/
theorem onEIDRemoved_eq (device : DeviceID) (s : MCTPImpl) :
    ∃ more, (∀ body ∈ more, body = .eidRemoved device) ∧ onEIDRemoved device s =
      { s with endpointMap := s.endpointMap.erase device, spawned := s.spawned ++ more } := by
  unfold onEIDRemoved
  split
  · rename_i absent
    exact ⟨[], by simp, by rw [UnorderedMap.erase_absent _ _ absent, List.append_nil]⟩
  · dsimp only
    split
    · exact ⟨[.eidRemoved device], by simp, rfl⟩
    · exact ⟨[], by simp, by rw [List.append_nil]⟩

/-- All that handling a signal can do, with what it is done on. -/
inductive Handles (env : Env) (msg : Message) (s : MCTPImpl) : MCTPImpl → Prop
  | ignored : Handles env msg s s
  | newService (values : Interfaces) : msg.signal = .interfacesAdded basePath values →
      s.isInitialisationsDone = true →
      (values.lookup (bindingToInterface s.config.bindingType)).isSome →
      Handles env msg s (onNewService env msg.sender s).2
  | looked (objectPath : String) :
      Handles env msg s (getDeviceIDFromPath env objectPath msg.sender s).2
  | newEID (objectPath : String) (values : Interfaces) (device : DeviceID) :
      msg.signal = .interfacesAdded objectPath values → s.isInitialisationsDone = true →
      msg.sender ∈ s.matchedBuses → startsWith objectPath endpointPrefix = true →
      (getDeviceIDFromPath env objectPath msg.sender s).1 = .ok device →
      (∃ properties, values.lookup supportedMessageTypes = some properties ∧
        supportsType s.config.type properties = .ok true) →
      s.networkChangeCallback = true →
      Handles env msg s
        { (getDeviceIDFromPath env objectPath msg.sender s).2 with
          spawned := s.spawned ++ [.newEID msg.sender device] }
  | eidRemoved (objectPath : String) (interfaces : List String) (device : DeviceID) :
      msg.signal = .interfacesRemoved objectPath interfaces → s.isInitialisationsDone = true →
      msg.sender ∈ s.matchedBuses → startsWith objectPath endpointPrefix = true →
      (getDeviceIDFromPath env objectPath msg.sender s).1 = .ok device →
      supportedMessageTypes ∈ interfaces →
      Handles env msg s
        (onEIDRemoved device (getDeviceIDFromPath env objectPath msg.sender s).2)
  | serviceRemoved (interfaces : List String) :
      msg.signal = .interfacesRemoved basePath interfaces → baseInterface ∈ interfaces →
      s.isInitialisationsDone = true → msg.sender ∈ s.matchedBuses →
      Handles env msg s { s with matchedBuses := s.matchedBuses.erase msg.sender }
  | message (messageType srcEid msgTag : UInt8) (tagOwner : Bool) (payload : ByteArray) :
      Handles env msg s
        (onMessageReceived env msg.sender messageType srcEid msgTag tagOwner payload s).2
  | ownEID (callback : Nat) (eid : UInt8) :
      Handles env msg s (s.emit (.ownEID callback msg.sender eid))

theorem onNewInterface_handles (env : Env) (msg : Message) (objectPath : String)
    (values : Interfaces) (s : MCTPImpl) (added : msg.signal = .interfacesAdded objectPath values)
    (done : s.isInitialisationsDone = true) :
    Handles env msg s (onNewInterface env msg.sender objectPath values s).2 := by
  unfold onNewInterface
  split
  · rename_i base
    split
    · rename_i properties held
      exact .newService values (by rw [added, base]) done (by rw [held]; rfl)
    · exact .ignored
  · split
    · exact .ignored
    · rename_i matched
      split
      · rename_i under
        split
        · exact .ignored
        · rename_i properties held
          split
          · exact .ignored
          · exact .ignored
          · rename_i supported
            dsimp only
            split
            · exact .looked objectPath
            · rename_i device formed
              obtain ⟨_, _, _, _, looked⟩ := getDeviceIDFromPath_emits env objectPath msg.sender s
              have spawned : (getDeviceIDFromPath env objectPath msg.sender s).2.spawned =
                  s.spawned := by rw [looked]
              unfold onNewEID
              split
              · rename_i listens
                rw [spawned]
                exact .newEID objectPath values device added done (not_not.mp matched) under formed
                  ⟨properties, held, supported⟩ (by rwa [looked] at listens)
              · exact .looked objectPath
      · exact .ignored

theorem onInterfaceRemoved_handles (env : Env) (msg : Message) (objectPath : String)
    (interfaces : List String) (s : MCTPImpl)
    (removed : msg.signal = .interfacesRemoved objectPath interfaces)
    (done : s.isInitialisationsDone = true) (matched : msg.sender ∈ s.matchedBuses) :
    Handles env msg s (onInterfaceRemoved env msg.sender objectPath interfaces s) := by
  unfold onInterfaceRemoved
  split
  · rename_i under
    split
    · rename_i held
      dsimp only
      split
      · exact .looked objectPath
      · rename_i device formed
        exact .eidRemoved objectPath interfaces device removed done matched under formed held
    · exact .ignored
  · split
    · rename_i base
      split
      · rename_i held
        exact .serviceRemoved interfaces (by rw [removed, base]) held done matched
      · exact .ignored
    · exact .ignored

theorem onMCTPEvent_handles (env : Env) (msg : Message) (s : MCTPImpl) :
    Handles env msg s (onMCTPEvent env msg s).2 := by
  unfold onMCTPEvent
  split
  · exact .ignored
  · rename_i closed
    have done : s.isInitialisationsDone = true := by simpa using closed
    split
    · rename_i objectPath values added
      exact onNewInterface_handles env msg objectPath values s added done
    · rename_i objectPath interfaces removed
      split
      · exact .ignored
      · rename_i matched
        exact onInterfaceRemoved_handles env msg objectPath interfaces s removed done
          (not_not.mp matched)
    · split
      · exact .ignored
      · exact .message _ _ _ _ _
    · split
      · exact .ignored
      · unfold onPropertiesChanged
        split
        · split
          · split
            · exact .ownEID _ _
            · exact .ignored
          · exact .ignored
        · exact .ignored
    · exact .ignored

theorem onNewService_reports (env : Env) (serviceName : String) (s : MCTPImpl) :
    Reports (Effect.Finishing s.config) (s.matchService serviceName)
      (onNewService env serviceName s).2 := by
  have registered := registerResponderService_reports env serviceName (s.matchService serviceName)
  rw [matchService_config] at registered
  have registered' : Reports (Effect.Finishing s.config) (s.matchService serviceName)
      (registerResponderService env serviceName (s.matchService serviceName)).2 :=
    registered.mono fun _ => Or.inl
  unfold onNewService
  dsimp only
  split
  · exact registered'
  · exact registered'.trans ((triggerGetOwnEID_reports env serviceName _).mono fun _ => Or.inr)

/-- A new service changes neither the map nor the bodies outstanding. -/
theorem onNewService_endpointMap (env : Env) (serviceName : String) (s : MCTPImpl) :
    (onNewService env serviceName s).2.endpointMap = s.endpointMap := by
  obtain ⟨_, _, same⟩ := onNewService_reports env serviceName s
  rw [same]
  exact matchService_endpointMap s serviceName

theorem onNewService_spawned (env : Env) (serviceName : String) (s : MCTPImpl) :
    (onNewService env serviceName s).2.spawned = s.spawned := by
  obtain ⟨_, _, same⟩ := onNewService_reports env serviceName s
  rw [same]
  exact matchService_spawned s serviceName

/-- A signal only adds to the bodies outstanding. -/
theorem onMCTPEvent_spawned (env : Env) (msg : Message) (s : MCTPImpl) :
    ∃ more, (onMCTPEvent env msg s).2.spawned = s.spawned ++ more := by
  have looked : ∀ objectPath,
      (getDeviceIDFromPath env objectPath msg.sender s).2.spawned = s.spawned := by
    intro objectPath
    obtain ⟨_, _, _, _, same⟩ := getDeviceIDFromPath_emits env objectPath msg.sender s
    rw [same]
  have handles := onMCTPEvent_handles env msg s
  generalize (onMCTPEvent env msg s).2 = t at handles ⊢
  cases handles with
  | ignored => exact ⟨[], by simp⟩
  | newService values =>
      exact ⟨[], by rw [onNewService_spawned, List.append_nil]⟩
  | looked objectPath => exact ⟨[], by simp [looked]⟩
  | newEID => exact ⟨_, rfl⟩
  | eidRemoved objectPath interfaces device =>
      obtain ⟨more, _, same⟩ :=
        onEIDRemoved_eq device (getDeviceIDFromPath env objectPath msg.sender s).2
      exact ⟨more, by rw [same, looked]⟩
  | serviceRemoved => exact ⟨[], by simp⟩
  | message messageType srcEid msgTag tagOwner payload =>
      obtain ⟨_, _, _, _, same⟩ :=
        onMessageReceived_emits env msg.sender messageType srcEid msgTag tagOwner payload s
      exact ⟨[], by rw [same]; simp⟩
  | ownEID => exact ⟨[], by simp [emit]⟩

theorem onMCTPEvent_interfacesAdded {s : MCTPImpl} (done : s.isInitialisationsDone = true)
    (env : Env) (sender objectPath : String) (values : Interfaces) :
    onMCTPEvent env ⟨sender, .interfacesAdded objectPath values⟩ s =
      onNewInterface env sender objectPath values s :=
  if_neg (by simp [done])

theorem onMCTPEvent_interfacesRemoved {s : MCTPImpl} (done : s.isInitialisationsDone = true)
    (env : Env) (sender objectPath : String) (interfaces : List String) :
    onMCTPEvent env ⟨sender, .interfacesRemoved objectPath interfaces⟩ s =
      if sender ∉ s.matchedBuses then (.ok (), s)
      else (.ok (), onInterfaceRemoved env sender objectPath interfaces s) :=
  if_neg (by simp [done])

/-- What no signal touches: anything but the history, the lookups, the map, the
services matched and the bodies outstanding. -/
structure Unhandled {α : Type} (field : MCTPImpl → α) : Prop where
  emitted : ∀ {allowed : Effect → Prop} {s t : MCTPImpl}, Emits allowed s t → field t = field s
  changed : ∀ s eids buses spawned, field { s with
    endpointMap := eids
    matchedBuses := buses
    spawned := spawned } = field s

theorem onMCTPEvent_keeps {α : Type} {field : MCTPImpl → α} (keeps : Unhandled field) (env : Env)
    (msg : Message) (s : MCTPImpl) : field (onMCTPEvent env msg s).2 = field s := by
  have looked : ∀ objectPath,
      field (getDeviceIDFromPath env objectPath msg.sender s).2 = field s :=
    fun objectPath => keeps.emitted (getDeviceIDFromPath_emits env objectPath msg.sender s)
  have handles := onMCTPEvent_handles env msg s
  generalize (onMCTPEvent env msg s).2 = t at handles ⊢
  cases handles with
  | ignored => rfl
  | newService values =>
      have matched : Emits (fun _ => True)
          { s with matchedBuses := (s.matchService msg.sender).matchedBuses }
          (s.matchService msg.sender) := by
        unfold matchService
        split
        · exact .refl s
        · exact .emit _ trivial
      rw [keeps.emitted (onNewService_reports env msg.sender s).emits, keeps.emitted matched]
      exact keeps.changed s s.endpointMap _ s.spawned
  | looked objectPath => exact looked objectPath
  | newEID objectPath => exact (keeps.changed _ _ _ _).trans (looked objectPath)
  | eidRemoved objectPath interfaces device =>
      obtain ⟨more, _, same⟩ :=
        onEIDRemoved_eq device (getDeviceIDFromPath env objectPath msg.sender s).2
      rw [same]
      exact (keeps.changed _ _ _ _).trans (looked objectPath)
  | serviceRemoved => exact keeps.changed s s.endpointMap _ s.spawned
  | message messageType srcEid msgTag tagOwner payload =>
      exact keeps.emitted
        (onMessageReceived_emits env msg.sender messageType srcEid msgTag tagOwner payload s)
  | ownEID callback eid =>
      have said : Emits (fun _ => True) s (s.emit (.ownEID callback msg.sender eid)) :=
        .emit s trivial
      exact keeps.emitted said

theorem onMCTPEvent_installed (env : Env) (msg : Message) (s : MCTPImpl) :
    (onMCTPEvent env msg s).2.installed = s.installed := by
  refine onMCTPEvent_keeps ⟨?_, fun _ _ _ _ => rfl⟩ env msg s
  rintro _ _ _ ⟨_, _, _, _, rfl⟩
  rfl

/-- A signal neither opens nor closes the gate, and the match rule stays. -/
theorem onMCTPEvent_gate (env : Env) (msg : Message) (s : MCTPImpl) :
    (onMCTPEvent env msg s).2.isInitialisationsDone = s.isInitialisationsDone ∧
      (onMCTPEvent env msg s).2.mctpChangesWatch = s.mctpChangesWatch := by
  constructor
  · refine onMCTPEvent_keeps ⟨?_, fun _ _ _ _ => rfl⟩ env msg s
    rintro _ _ _ ⟨_, _, _, _, rfl⟩
    rfl
  · refine onMCTPEvent_keeps ⟨?_, fun _ _ _ _ => rfl⟩ env msg s
    rintro _ _ _ ⟨_, _, _, _, rfl⟩
    rfl

/-- A relation that each thing the handlers do is in, and all of them one after the other. -/
structure AlongEvent (R : MCTPImpl → MCTPImpl → Prop) : Prop where
  trans : ∀ {s t u}, R s t → R t u → R s u
  looked : ∀ {s t}, Emits Effect.Lookup s t → R s t
  received : ∀ {s t}, Emits Effect.Reception s t → R s t
  introduced : ∀ env s service, R s (onNewService env service s).2
  changed : ∀ s eids buses spawned, R s { s with
    endpointMap := eids
    matchedBuses := buses
    spawned := spawned }
  reported : ∀ s callback service eid, R s (s.emit (.ownEID callback service eid))

theorem AlongEvent.event {R : MCTPImpl → MCTPImpl → Prop} (along : AlongEvent R) (env : Env)
    (msg : Message) (s : MCTPImpl) : R s (onMCTPEvent env msg s).2 := by
  have looked : ∀ objectPath, R s (getDeviceIDFromPath env objectPath msg.sender s).2 :=
    fun objectPath => along.looked (getDeviceIDFromPath_emits env objectPath msg.sender s)
  have handles := onMCTPEvent_handles env msg s
  generalize (onMCTPEvent env msg s).2 = t at handles ⊢
  cases handles with
  | ignored => exact along.changed s s.endpointMap s.matchedBuses s.spawned
  | newService values => exact along.introduced env s msg.sender
  | looked objectPath => exact looked objectPath
  | newEID objectPath => exact along.trans (looked objectPath) (along.changed _ _ _ _)
  | eidRemoved objectPath interfaces device =>
      obtain ⟨_, _, same⟩ :=
        onEIDRemoved_eq device (getDeviceIDFromPath env objectPath msg.sender s).2
      rw [same]
      exact along.trans (looked objectPath) (along.changed _ _ _ _)
  | serviceRemoved => exact along.changed s s.endpointMap _ s.spawned
  | message messageType srcEid msgTag tagOwner payload =>
      exact along.received
        (onMessageReceived_emits env msg.sender messageType srcEid msgTag tagOwner payload s)
  | ownEID callback eid => exact along.reported s callback msg.sender eid

end MCTPImpl

end Mctpw
