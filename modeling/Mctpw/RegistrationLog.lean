import Mctpw.Base.Ledger
import Mctpw.Base.Records
import Mctpw.Registration

set_option autoImplicit false

/- The registrations of a run as the services read them. -/
namespace Mctpw

open Runs

/-- The packed struct from its place in memory. -/
def VersionFields.ofBytes : ByteArray → Option VersionFields
  | [major, minor, update, alpha] => some ⟨major, minor, update, alpha⟩
  | _ => none

def VersionFields.layout : Records.Layout VersionFields where
  size := 4
  write := VersionFields.bytes
  read := VersionFields.ofBytes
  size_pos := by decide
  write_length _ := rfl
  read_write _ := rfl
  write_read bytes version read := by
    unfold ofBytes at read
    split at read
    · cases read
      rfl
    · cases read

theorem versionBytes_eq (versions : List VersionFields) :
    versionBytes versions = VersionFields.layout.encode versions := rfl

/-- Whose versions they are: those of a message type or of a vendor's command set. -/
inductive Responder
  | messageType (type : UInt8)
  | vdpci (vendorId cmdSetType : UInt16)
deriving DecidableEq

/-- What a configuration registers for, where it has what that takes. -/
def MCTPConfiguration.responder (config : MCTPConfiguration) : Option Responder :=
  if config.type = .vdpci then
    match config.vendorMessageType, config.vendorId with
    | some vendor, some vendorId => some (.vdpci vendorId vendor.cmdSetType)
    | _, _ => none
  else some (.messageType config.type.toByte)

/-- What the service reads of a call, where it is a registration. -/
def MethodCall.registration (call : MethodCall) : Option (Responder × List VersionFields) :=
  if call.member = "RegisterResponder" then
    match call.args with
    | [.u8 type, .bytes version] =>
        (VersionFields.layout.decode version).map (.messageType type, ·)
    | _ => none
  else if call.member = "RegisterVdpciResponder" then
    match call.args with
    | [.u16 vendorId, .u16 cmdSetType, .bytes version] =>
        (VersionFields.layout.decode version).map (.vdpci vendorId cmdSetType, ·)
    | _ => none
  else none

theorem registration_messageType {call : MethodCall} {type : UInt8} {versions : List VersionFields} :
    call.registration = some (.messageType type, versions) ↔
      call.member = "RegisterResponder" ∧
        call.args = [.u8 type, .bytes (versionBytes versions)] := by
  unfold MethodCall.registration
  constructor
  · intro read
    split at read
    · rename_i member
      refine ⟨member, ?_⟩
      split at read
      · rename_i args
        obtain ⟨_, decoded, same⟩ := Option.map_eq_some_iff.mp read
        cases same
        rw [args, versionBytes_eq, (VersionFields.layout.decode_eq_some_iff _ _).mp decoded]
      · cases read
    · split at read
      · split at read
        · obtain ⟨_, _, same⟩ := Option.map_eq_some_iff.mp read
          cases same
        · cases read
      · cases read
  · rintro ⟨member, args⟩
    rw [if_pos member, args, versionBytes_eq]
    exact Option.map_eq_some_iff.mpr ⟨_, (VersionFields.layout.decode_eq_some_iff _ _).mpr rfl, rfl⟩

theorem registration_vdpci {call : MethodCall} {vendorId cmdSetType : UInt16}
    {versions : List VersionFields} :
    call.registration = some (.vdpci vendorId cmdSetType, versions) ↔
      call.member = "RegisterVdpciResponder" ∧
        call.args = [.u16 vendorId, .u16 cmdSetType, .bytes (versionBytes versions)] := by
  unfold MethodCall.registration
  constructor
  · intro read
    split at read
    · split at read
      · obtain ⟨_, _, same⟩ := Option.map_eq_some_iff.mp read
        cases same
      · cases read
    · split at read
      · rename_i member
        refine ⟨member, ?_⟩
        split at read
        · rename_i args
          obtain ⟨_, decoded, same⟩ := Option.map_eq_some_iff.mp read
          cases same
          rw [args, versionBytes_eq, (VersionFields.layout.decode_eq_some_iff _ _).mp decoded]
        · cases read
      · cases read
  · rintro ⟨member, args⟩
    have other : call.member ≠ "RegisterResponder" := by
      rw [member]
      decide
    rw [if_neg other, if_pos member, args, versionBytes_eq]
    exact Option.map_eq_some_iff.mpr ⟨_, (VersionFields.layout.decode_eq_some_iff _ _).mpr rfl, rfl⟩

/-- The service a registration goes to, and what it reads there. -/
def Effect.registered : Effect → Option (String × Responder × List VersionFields)
  | .call asked => asked.registration.map (asked.destination, ·)
  | _ => none

theorem Effect.registered_aside {effect : Effect} (aside : ∀ type, effect.Aside type) :
    effect.registered = none := by
  cases effect with
  | call asked =>
      have plain : asked.member ≠ "RegisterResponder" := aside .pldm
      have vendor : asked.member ≠ "RegisterVdpciResponder" := aside .vdpci
      have unread : asked.registration = none := by
        unfold MethodCall.registration
        rw [if_neg plain, if_neg vendor]
      simp only [registered, unread, Option.map_none]
  | _ => rfl

/-- The registrations of the history, as they are read. -/
def registrations (s : MCTPImpl) : List (String × Responder × List VersionFields) :=
  s.trace.filterMap Effect.registered

namespace MCTPImpl

variable {allowed : Effect → Prop} {s t u : MCTPImpl}

/-- The message is the one that is read as the state has it. -/
theorem registerCall_read_iff (s : MCTPImpl) (serviceName : String) (call : MethodCall) :
    s.registerCall serviceName = .ok call ↔
      call.destination = serviceName ∧ call.path = basePath ∧ call.interface = baseInterface ∧
        ∃ responder, s.config.responder = some responder ∧
          call.registration = some (responder, s.responderVersions) := by
  obtain ⟨destination, path, interface, member, args⟩ := call
  unfold registerCall MCTPConfiguration.responder registerMethod
  dsimp only
  by_cases vdpci : s.config.type = .vdpci
  · simp only [vdpci, ↓reduceIte]
    cases s.config.vendorMessageType with
    | none => simp
    | some vendor =>
        cases s.config.vendorId with
        | none => simp
        | some vendorId =>
            simp only [Option.some.injEq, exists_eq_left', registration_vdpci, Except.ok.injEq,
              MethodCall.mk.injEq]
            tauto
  · simp only [vdpci, ↓reduceIte, Option.some.injEq, exists_eq_left', registration_messageType,
      Except.ok.injEq, MethodCall.mk.injEq]
    tauto

/-- What the state would register with a service, and that there is something to. -/
def Current (s : MCTPImpl) (word : String × Responder × List VersionFields) : Prop :=
  s.config.responder = some word.2.1 ∧ word.2.2 = s.responderVersions ∧ s.responderVersions ≠ []

/-- `t` has registered what `s` has to register, and still has that. -/
structure Announces (s t : MCTPImpl) : Prop where
  config : t.config = s.config
  versions : t.responderVersions = s.responderVersions
  told : ∃ words, registrations t = registrations s ++ words ∧ ∀ word ∈ words, s.Current word

theorem Announces.of_eq (config : t.config = s.config)
    (versions : t.responderVersions = s.responderVersions) (trace : t.trace = s.trace) :
    Announces s t :=
  ⟨config, versions, [], by simp [registrations, trace], by simp⟩

theorem Announces.refl (s : MCTPImpl) : Announces s s := .of_eq rfl rfl rfl

theorem Announces.trans (first : Announces s t) (second : Announces t u) : Announces s u := by
  obtain ⟨config, versions, words, grown, current⟩ := first
  obtain ⟨config', versions', words', grown', current'⟩ := second
  refine ⟨config'.trans config, versions'.trans versions, words ++ words', ?_, ?_⟩
  · rw [grown', grown, List.append_assoc]
  · intro word member
    rcases List.mem_append.mp member with member | member
    · exact current word member
    · have later := current' word member
      unfold Current at later
      rwa [config, versions] at later

theorem Announces.of_emits (emits : Emits allowed s t)
    (aside : ∀ type effect, allowed effect → effect.Aside type) : Announces s t := by
  obtain ⟨effects, _, _, fine, rfl⟩ := emits
  have none : effects.filterMap Effect.registered = [] := by
    rw [List.filterMap_eq_nil_iff]
    exact fun effect member => Effect.registered_aside fun type => aside type effect (fine effect member)
  exact ⟨rfl, rfl, [], by simp [registrations, none], by simp⟩

theorem Announces.emit (s : MCTPImpl) {effect : Effect} (unread : effect.registered = none) :
    Announces s (s.emit effect) :=
  ⟨rfl, rfl, [], by simp [registrations, MCTPImpl.emit, unread], by simp⟩

theorem matchService_announces (s : MCTPImpl) (serviceName : String) :
    Announces s (s.matchService serviceName) := by
  unfold matchService
  split
  · exact .refl s
  · exact ⟨rfl, rfl, [], by simp [registrations, Effect.registered], by simp⟩

/-- The call that is made is read as the state has it. -/
theorem registerResponderService_announces (env : Env) (serviceName : String) (s : MCTPImpl) :
    Announces s (registerResponderService env serviceName s).2 := by
  unfold registerResponderService
  split
  · exact .refl s
  · rename_i nonempty
    split
    · exact .refl s
    · rename_i call made
      obtain ⟨_, _, _, responder, configured, read⟩ := (registerCall_read_iff s serviceName call).mp made
      refine ⟨rfl, rfl, [(call.destination, responder, s.responderVersions)], ?_, ?_⟩
      · simp [registrations, MCTPImpl.emit, Effect.registered, read]
      · intro word member
        rw [List.mem_singleton.mp member]
        exact ⟨configured, rfl, by simpa using nonempty⟩

theorem registerServices_announces (env : Env) (services : List String) (status : ErrorCode)
    (s : MCTPImpl) : Announces s (registerServices env services status s).2 := by
  induction services generalizing status s with
  | nil => exact .refl s
  | cons serviceName rest ih =>
      have first := registerResponderService_announces env serviceName s
      unfold registerServices
      dsimp only
      split
      · exact first
      · exact first.trans (ih _ _)

theorem registerResponder_announces (env : Env) (specVersion : List VersionFields) (s : MCTPImpl) :
    Announces
      { s with responderVersions := if specVersion.isEmpty then s.responderVersions else specVersion }
      (registerResponder env specVersion s).2 := by
  unfold registerResponder
  split
  · exact .refl s
  · exact registerServices_announces env _ _ _

theorem getOwnEIDs_announces (env : Env) (callback : Option Nat) (s : MCTPImpl) :
    Announces s (getOwnEIDs env callback s) := by
  obtain ⟨kept, reports⟩ := getOwnEIDs_reports env callback s
  have set : Announces s { s with eidChangeCallback := kept } := .of_eq rfl rfl rfl
  exact set.trans (.of_emits reports.emits ownReport_aside)

theorem finishDetect_announces (env : Env) (s : MCTPImpl) :
    Announces s (finishDetect env s).2 := by
  have registered : Announces s (if s.responderVersions.isEmpty then (.ok .success, s)
      else registerResponder env s.responderVersions s).2 := by
    split
    · exact .refl s
    · rename_i nonempty
      have announced := registerResponder_announces env s.responderVersions s
      rwa [if_neg nonempty] at announced
  unfold finishDetect
  dsimp only
  generalize (if s.responderVersions.isEmpty then (.ok .success, s)
    else registerResponder env s.responderVersions s) = outcome at registered ⊢
  split
  · exact registered
  · exact registered.trans (getOwnEIDs_announces env _ _)

theorem onNewService_announces (env : Env) (serviceName : String) (s : MCTPImpl) :
    Announces s (onNewService env serviceName s).2 := by
  have registered := (matchService_announces s serviceName).trans
    (registerResponderService_announces env serviceName _)
  unfold onNewService
  dsimp only
  split
  · exact registered
  · exact registered.trans
      (.of_emits (triggerGetOwnEID_reports env serviceName _).emits ownReport_aside)

theorem lookup_aside (type : MessageType) (effect : Effect) (lookup : effect.Lookup) :
    effect.Aside type := by
  cases lookup with
  | read read => exact read_aside type effect read
  | identified => trivial

theorem announces_alongScan : AlongScan Announces where
  trans := .trans
  looked emits := .of_emits emits lookup_aside
  asked s _ := ⟨.emit s rfl, .emit s rfl⟩
  matched := matchService_announces
  opened _ := .of_eq rfl rfl rfl
  filed _ _ := .of_eq rfl rfl rfl
  finished := finishDetect_announces

theorem reception_aside (type : MessageType) (effect : Effect) (reception : effect.Reception) :
    effect.Aside type := by
  rcases reception with (read | _ | _ | _) | _
  · exact read_aside type _ read
  all_goals trivial

theorem announces_alongEvent : AlongEvent Announces where
  trans := .trans
  looked emits := .of_emits emits lookup_aside
  received emits := .of_emits emits reception_aside
  introduced env s service := onNewService_announces env service s
  changed _ _ _ _ := .of_eq rfl rfl rfl
  reported s _ _ _ := .emit s rfl

end MCTPImpl

/-- The versions the application has last registered a responder with. -/
def Label.versions (before : List VersionFields) : Label → List VersionFields
  | .registerResponder _ specVersion => if specVersion.isEmpty then before else specVersion
  | _ => before

def versionsAfter (labels : List Label) : List VersionFields := labels.foldl Label.versions []

theorem System.step_announces {s t : System} {label : Label} (stepped : s.step label = some t) :
    MCTPImpl.Announces { s.lib with responderVersions := label.versions s.lib.responderVersions }
      t.lib := by
  cases label with
  | detect =>
      cases stepped
      have watching : MCTPImpl.Announces s.lib { s.lib with mctpChangesWatch := true } :=
        .of_eq rfl rfl rfl
      exact watching.trans (.emit _ rfl)
  | resume index env reply =>
      obtain ⟨scan, progress, lib, _, resumed, rfl, _⟩ := step_resume stepped
      exact MCTPImpl.announces_alongScan.resume resumed
  | signal env msg =>
      obtain ⟨_, _, rfl⟩ := step_signal stepped
      exact MCTPImpl.announces_alongEvent.event env msg s.lib
  | body =>
      obtain ⟨body, rest, _, rfl⟩ := step_body stepped
      obtain ⟨eids, event, same⟩ := MCTPImpl.runSpawned_eq body rest s.lib
      rw [same]
      exact ⟨rfl, rfl, [], by simp [registrations, Effect.registered], by simp⟩
  | registerResponder env specVersion =>
      rw [step_registerResponder stepped]
      exact MCTPImpl.registerResponder_announces env specVersion s.lib
  | getOwnEIDs env callback =>
      cases stepped
      exact MCTPImpl.getOwnEIDs_announces env callback s.lib
  | setExtendedReceiveCallback callback =>
      cases stepped
      unfold MCTPImpl.setExtendedReceiveCallback
      split <;> exact .of_eq rfl rfl rfl
  | send request devID =>
      cases stepped
      exact .of_emits (MCTPImpl.send_reports request devID s.lib).emits sending_aside

variable {host : ByteOrder.Endian} {config : MCTPConfiguration} {networkChangeCb rxCb : Bool}
  {labels : List Label} {t : System}

theorem run_versions
    (run : Run System.step Any (.construct host config networkChangeCb rxCb) labels t) :
    t.lib.config = config ∧ t.lib.responderVersions = versionsAfter labels := by
  induction run with
  | nil => exact ⟨rfl, rfl⟩
  | snoc _ _ stepped ih =>
      have announces := System.step_announces stepped
      refine ⟨announces.config.trans ih.1, announces.versions.trans ?_⟩
      rw [versionsAfter, List.foldl_append, List.foldl_cons, List.foldl_nil, ← versionsAfter, ← ih.2]

/-- What a step has the services read: registrations for what is configured, with the
versions the application has last registered once the step is taken. -/
structure Registers (start : System) (config : MCTPConfiguration) (past : List Label) (label : Label)
    (words : List (String × Responder × List VersionFields)) : Prop where
  sent : ∃ s next : System, Run System.step Any start past s ∧ s.step label = some next ∧
    registrations next.lib = registrations s.lib ++ words
  current : ∀ word ∈ words, config.responder = some word.2.1 ∧
    word.2.2 = versionsAfter (past ++ [label]) ∧ word.2.2 ≠ []

/-- All that the services read of the calls of a run are registrations for what the
library is configured for, each with the versions the application had last registered by
the step that sent it: no service ever reads older versions after newer ones. -/
theorem registrations_dated
    (run : Run System.step Any (.construct host config networkChangeCb rxCb) labels t) :
    WrittenInTurn (Registers (.construct host config networkChangeCb rxCb) config) labels
      (registrations t.lib) := by
  refine run.written (fun s => registrations s.lib) _ rfl ?_
  intro labels state label next before stepped
  obtain ⟨settled, known⟩ := run_versions before
  obtain ⟨_, _, words, grown, current⟩ := System.step_announces stepped
  refine ⟨words, grown, ⟨state, next, before, stepped, grown⟩, fun word member => ?_⟩
  obtain ⟨configured, versions, nonempty⟩ := current word member
  have after : versionsAfter (labels ++ [label]) = label.versions state.lib.responderVersions := by
    rw [versionsAfter, List.foldl_append, List.foldl_cons, List.foldl_nil, ← versionsAfter, ← known]
  exact ⟨settled ▸ configured, versions.trans after.symm, by rwa [versions]⟩

namespace Slot

/-- The service found is told what was registered before, and then what is newer. -/
def updating : List Label :=
  .registerResponder env [version] :: discovery ++ [.registerResponder env [version, ⟨1, 2, 3, 4⟩]]

def updated : System := (exec System.step start updating).get (by decide)

theorem registrations_dated_updated :
    WrittenInTurn (Registers start Slot.config) updating (registrations updated.lib) := by
  have done : exec System.step start updating = some updated := by
    simp only [updated, Option.some_get]
  exact registrations_dated (.of_exec done)

example : registrations updated.lib =
    [(owner, .messageType 1, [version]), (owner, .messageType 1, [version, ⟨1, 2, 3, 4⟩])] := by
  decide

end Slot

end Mctpw
