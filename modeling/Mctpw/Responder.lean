import Mctpw.Lookups

set_option autoImplicit false

namespace Mctpw

/-- The storage of a vector of packed VersionFields, copied byte by byte. -/
def versionBytes (versions : List VersionFields) : ByteArray :=
  versions.flatMap VersionFields.bytes

def registerMethod (type : MessageType) : String :=
  if type = .vdpci then "RegisterVdpciResponder" else "RegisterResponder"

def eidProperty (serviceName : String) : Property :=
  ⟨serviceName, basePath, baseInterface, "Eid"⟩

/-- The vendor parameters a VDPCI registration reads are there. -/
def MCTPConfiguration.VendorSet (config : MCTPConfiguration) : Prop :=
  config.type = .vdpci → config.vendorId.isSome ∧ config.vendorMessageType.isSome

/-- The effects of registering with services. -/
def Effect.Registration (config : MCTPConfiguration) (effect : Effect) : Prop :=
  ∃ call, effect = .call call ∧ call.member = registerMethod config.type ∧
    call.path = basePath ∧ call.interface = baseInterface

/-- The effects of reporting own EIDs. -/
inductive Effect.OwnReport : Effect → Prop
  | get (serviceName : String) : OwnReport (.call (eidProperty serviceName).get)
  | ownEID (callback : Nat) (service : String) (eid : UInt8) :
      OwnReport (.ownEID callback service eid)

namespace MCTPImpl

/-- The message to one service. VDPCI reads both vendor optionals unchecked. -/
def registerCall (s : MCTPImpl) (serviceName : String) : Except Fault MethodCall :=
  let version := versionBytes s.responderVersions
  if s.config.type = .vdpci then
    match s.config.vendorMessageType, s.config.vendorId with
    | some vendor, some vendorId =>
        .ok ⟨serviceName, basePath, baseInterface, registerMethod s.config.type,
          [.u16 vendorId, .u16 vendor.cmdSetType, .bytes version]⟩
    | _, _ => .error .undefinedBehaviour
  else
    .ok ⟨serviceName, basePath, baseInterface, registerMethod s.config.type,
      [.u8 s.config.type.toByte, .bytes version]⟩

/-- registerResponder(serviceName). -/
def registerResponderService (env : Env) (serviceName : String) (s : MCTPImpl) :
    Except Fault ErrorCode × MCTPImpl :=
  if s.responderVersions.isEmpty then (.ok .ioError, s)
  else
    match s.registerCall serviceName with
    | .error fault => (.error fault, s)
    | .ok call =>
        let status :=
          match env.register call with
          | .reply true => ErrorCode.success
          | .reply false => .ioError
          | .methodError => .ioError
          | .raised => .ioError
        (.ok status, s.emit (.call call))

/-- The loop of registerResponder(versions). The status is the last service's. -/
def registerServices (env : Env) :
    List String → ErrorCode → MCTPImpl → Except Fault ErrorCode × MCTPImpl
  | [], status, s => (.ok status, s)
  | serviceName :: rest, _, s =>
      let registered := registerResponderService env serviceName s
      match registered.1 with
      | .error fault => (.error fault, registered.2)
      | .ok status => registerServices env rest status registered.2

/-- registerResponder(versions). -/
def registerResponder (env : Env) (specVersion : List VersionFields) (s : MCTPImpl) :
    Except Fault ErrorCode × MCTPImpl :=
  if specVersion.isEmpty then (.ok .ioError, s)
  else
    registerServices env (env.order s.matchedBuses) .success
      { s with responderVersions := specVersion }

def triggerGetOwnEID (env : Env) (serviceName : String) (s : MCTPImpl) : MCTPImpl :=
  match s.eidChangeCallback with
  | none => s
  | some callback =>
      let read := readPropertyValue env.readByte (eidProperty serviceName) s
      match read.1 with
      | some eid => read.2.emit (.ownEID callback serviceName eid)
      | none => read.2

def triggerAll (env : Env) (services : List String) (s : MCTPImpl) : MCTPImpl :=
  services.foldl (fun s serviceName => triggerGetOwnEID env serviceName s) s

def getOwnEIDs (env : Env) (callback : Option Nat) (s : MCTPImpl) : MCTPImpl :=
  match callback with
  | none => s
  | some callback =>
      triggerAll env (env.order s.matchedBuses) { s with eidChangeCallback := some callback }

theorem registerCall_of_vendorSet (s : MCTPImpl) (vendor : s.config.VendorSet)
    (serviceName : String) :
    ∃ call, s.registerCall serviceName = .ok call ∧ call.destination = serviceName ∧
      call.path = basePath ∧ call.interface = baseInterface ∧
      call.member = registerMethod s.config.type ∧
      call.args.getLast? = some (.bytes (versionBytes s.responderVersions)) := by
  unfold registerCall
  by_cases vdpci : s.config.type = .vdpci
  · obtain ⟨hasId, hasMessage⟩ := vendor vdpci
    obtain ⟨vendorId, someId⟩ := Option.isSome_iff_exists.mp hasId
    obtain ⟨message, someMessage⟩ := Option.isSome_iff_exists.mp hasMessage
    rw [someId, someMessage]
    simp only [vdpci, ↓reduceIte]
    exact ⟨_, rfl, rfl, rfl, rfl, rfl, rfl⟩
  · simp only [vdpci, ↓reduceIte]
    exact ⟨_, rfl, rfl, rfl, rfl, rfl, rfl⟩

/-- One service either gets the call the state prescribes or is not called. -/
theorem registerResponderService_cases (env : Env) (serviceName : String) (s : MCTPImpl) :
    (registerResponderService env serviceName s).2 = s ∨
      ∃ call, s.registerCall serviceName = .ok call ∧
        (registerResponderService env serviceName s).2 = s.emit (.call call) := by
  unfold registerResponderService
  split
  · exact .inl rfl
  · split
    · exact .inl rfl
    · rename_i call made
      exact .inr ⟨call, made, rfl⟩

theorem registerCall_registration {s : MCTPImpl} {serviceName : String} {call : MethodCall}
    (made : s.registerCall serviceName = .ok call) :
    Effect.Registration s.config (.call call) := by
  unfold registerCall at made
  split at made
  · split at made
    · cases made
      exact ⟨_, rfl, rfl, rfl, rfl⟩
    · cases made
  · cases made
    exact ⟨_, rfl, rfl, rfl, rfl⟩

theorem registerResponderService_reports (env : Env) (serviceName : String) (s : MCTPImpl) :
    Reports (Effect.Registration s.config) s (registerResponderService env serviceName s).2 := by
  rcases registerResponderService_cases env serviceName s with same | ⟨call, made, same⟩
  · rw [same]
    exact .refl s
  · rw [same]
    exact .emit s (registerCall_registration made)

theorem registerServices_reports (env : Env) (services : List String) (status : ErrorCode)
    (s : MCTPImpl) :
    Reports (Effect.Registration s.config) s (registerServices env services status s).2 := by
  induction services generalizing status s with
  | nil => exact .refl s
  | cons serviceName rest ih =>
      have first := registerResponderService_reports env serviceName s
      unfold registerServices
      dsimp only
      split
      · exact first
      · rename_i status' _
        have later := ih status' (registerResponderService env serviceName s).2
        rw [first.config_eq] at later
        exact first.trans later

theorem triggerGetOwnEID_reports (env : Env) (serviceName : String) (s : MCTPImpl) :
    Reports Effect.OwnReport s (triggerGetOwnEID env serviceName s) := by
  unfold triggerGetOwnEID
  split
  · exact .refl s
  · rename_i callback _
    have read := readPropertyValue_reports env.readByte (eidProperty serviceName) s
      (Effect.OwnReport.get serviceName)
    dsimp only
    split
    · exact read.trans (.emit _ (.ownEID _ _ _))
    · exact read

theorem triggerAll_reports (env : Env) (services : List String) (s : MCTPImpl) :
    Reports Effect.OwnReport s (triggerAll env services s) := by
  induction services generalizing s with
  | nil => exact .refl s
  | cons serviceName rest ih =>
      exact (triggerGetOwnEID_reports env serviceName s).trans (ih _)

theorem registerResponder_reports (env : Env) (specVersion : List VersionFields) (s : MCTPImpl) :
    ∃ versions, Reports (Effect.Registration s.config) { s with responderVersions := versions }
      (registerResponder env specVersion s).2 := by
  unfold registerResponder
  split
  · exact ⟨s.responderVersions, .refl s⟩
  · exact ⟨specVersion, registerServices_reports env _ _ { s with responderVersions := specVersion }⟩

theorem getOwnEIDs_reports (env : Env) (callback : Option Nat) (s : MCTPImpl) :
    ∃ kept, Reports Effect.OwnReport { s with eidChangeCallback := kept }
      (getOwnEIDs env callback s) := by
  unfold getOwnEIDs
  cases callback with
  | none => exact ⟨s.eidChangeCallback, .refl s⟩
  | some callback =>
      exact ⟨some callback, triggerAll_reports env _ { s with eidChangeCallback := some callback }⟩

end MCTPImpl

end Mctpw
