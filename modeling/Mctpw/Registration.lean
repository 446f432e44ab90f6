import Mctpw.System

set_option autoImplicit false

/- Whether every matched service has been told the responder's versions. -/
namespace Mctpw

open Runs

/-- The registration a service has last been sent since it was last matched, as
far as one more effect tells. -/
def latestCall (type : MessageType) (name : String) (last : Option MethodCall) :
    Effect → Option MethodCall
  | .matched service => if service = name then none else last
  | .call call =>
      if call.destination = name ∧ call.member = registerMethod type then some call else last
  | _ => last

def lastRegistration (type : MessageType) (name : String) (trace : List Effect) :
    Option MethodCall :=
  trace.foldl (latestCall type name) none

/-- The last registration of a service is there, and carries these versions. -/
def InformedOf (config : MCTPConfiguration) (versions : List VersionFields) (trace : List Effect)
    (name : String) : Prop :=
  ∃ call, lastRegistration config.type name trace = some call ∧ call.path = basePath ∧
    call.interface = baseInterface ∧ call.args.getLast? = some (.bytes (versionBytes versions))

def Informed (s : MCTPImpl) (name : String) : Prop :=
  InformedOf s.config s.responderVersions s.trace name

/-- Neither a service matched nor a registration. -/
def Effect.Aside (type : MessageType) : Effect → Prop
  | .matched _ => False
  | .call asked => asked.member ≠ registerMethod type
  | _ => True

theorem latestCall_aside {type : MessageType} {effect : Effect} (aside : effect.Aside type)
    (name : String) (last : Option MethodCall) : latestCall type name last effect = last := by
  cases effect with
  | matched => exact aside.elim
  | call call => exact if_neg fun both => aside both.2
  | _ => rfl

theorem lastRegistration_aside {type : MessageType} {effects : List Effect}
    (aside : ∀ effect ∈ effects, effect.Aside type) (name : String) (trace : List Effect) :
    lastRegistration type name (trace ++ effects) = lastRegistration type name trace := by
  induction effects generalizing trace with
  | nil => rw [List.append_nil]
  | cons effect rest ih =>
      have split : trace ++ effect :: rest = (trace ++ [effect]) ++ rest := by simp
      rw [split, ih fun effect member => aside effect (List.mem_cons_of_mem _ member)]
      simp [lastRegistration, List.foldl_append, latestCall_aside (aside effect (by simp))]

theorem lastRegistration_snoc (type : MessageType) (name : String) (trace : List Effect)
    (effect : Effect) : lastRegistration type name (trace ++ [effect]) =
      latestCall type name (lastRegistration type name trace) effect := by
  simp [lastRegistration, List.foldl_append]

theorem get_aside (type : MessageType) (property : Property) :
    (Effect.call property.get).Aside type := by
  change "Get" ≠ registerMethod type
  unfold registerMethod
  split <;> decide

theorem read_aside (type : MessageType) (effect : Effect) (read : effect.Read) :
    effect.Aside type := by
  cases read
  exact get_aside type _

theorem ownReport_aside (type : MessageType) (effect : Effect) (report : effect.OwnReport) :
    effect.Aside type := by
  cases report
  · exact get_aside type _
  · trivial

theorem sending_aside (type : MessageType) (effect : Effect) (sending : effect.Sending) :
    effect.Aside type := by
  cases sending with
  | asked request destination devID =>
      unfold Effect.Aside registerMethod
      cases request <;>
        (simp only [sendMessage, sendCall, sendReceiveCall]; split <;> decide)
  | _ => trivial

namespace MCTPImpl

variable {s t : MCTPImpl} {name : String}

/-- History aside takes no information away. -/
theorem informed_emits {allowed : Effect → Prop} (emits : Emits allowed s t)
    (aside : ∀ effect, allowed effect → effect.Aside s.config.type) (informed : Informed s name) :
    Informed t name := by
  obtain ⟨effects, _, _, fine, rfl⟩ := emits
  obtain ⟨call, last, rest⟩ := informed
  refine ⟨call, ?_, rest⟩
  rw [← last]
  exact lastRegistration_aside (fun effect member => aside effect (fine effect member)) name _

/-- Every matched service is informed. -/
def AllInformed (s : MCTPImpl) : Prop := ∀ name ∈ s.matchedBuses, Informed s name

theorem allInformed_emits {allowed : Effect → Prop} (emits : Emits allowed s t)
    (aside : ∀ effect, allowed effect → effect.Aside s.config.type) (all : AllInformed s) :
    AllInformed t := by
  intro name matched
  rw [unscanned_matchedBuses.emitted emits] at matched
  exact informed_emits emits aside (all name matched)

/-- Registering with one service informs it and keeps the others informed. -/
theorem registerResponderService_informs (env : Env) (serviceName : String) (s : MCTPImpl)
    (vendor : s.config.VendorSet) (versions : s.responderVersions ≠ []) :
    (∃ ec, (registerResponderService env serviceName s).1 = .ok ec) ∧
      Informed (registerResponderService env serviceName s).2 serviceName ∧
      ∀ name, Informed s name → Informed (registerResponderService env serviceName s).2 name := by
  obtain ⟨call, made, destination, path, interface, member, args⟩ :=
    registerCall_of_vendorSet s vendor serviceName
  have nonempty : s.responderVersions.isEmpty = false := by
    simpa [List.isEmpty_eq_false_iff] using versions
  have sent : ∃ ec, registerResponderService env serviceName s = (.ok ec, s.emit (.call call)) := by
    simp only [registerResponderService, nonempty, Bool.false_eq_true, ↓reduceIte, made]
    exact ⟨_, rfl⟩
  obtain ⟨ec, sent⟩ := sent
  have last : ∀ name, lastRegistration s.config.type name (s.trace ++ [.call call]) =
      if serviceName = name then some call else lastRegistration s.config.type name s.trace := by
    intro name
    rw [lastRegistration_snoc, latestCall, destination]
    simp [member]
  rw [sent]
  refine ⟨⟨ec, rfl⟩, ⟨call, ?_, path, interface, args⟩, ?_⟩
  · exact (last serviceName).trans (if_pos rfl)
  · rintro name ⟨old, before, rest⟩
    by_cases same : serviceName = name
    · exact ⟨call, (last name).trans (if_pos same), path, interface, args⟩
    · exact ⟨old, ((last name).trans (if_neg same)).trans before, rest⟩

/-- The loop over the services informs every one of them. -/
theorem registerServices_informs (env : Env) (services : List String) (status : ErrorCode)
    (s : MCTPImpl) (vendor : s.config.VendorSet) (versions : s.responderVersions ≠ []) :
    (∀ service ∈ services, Informed (registerServices env services status s).2 service) ∧
      ∀ name, Informed s name → Informed (registerServices env services status s).2 name := by
  induction services generalizing s status with
  | nil => exact ⟨by simp, fun _ => id⟩
  | cons service rest ih =>
      obtain ⟨⟨ec, done⟩, first, kept⟩ :=
        registerResponderService_informs env service s vendor versions
      obtain ⟨_, _, same⟩ := registerResponderService_reports env service s
      have later := ih ec (registerResponderService env service s).2
        (by rw [same]; exact vendor) (by rw [same]; exact versions)
      unfold registerServices
      dsimp only
      rw [done]
      refine ⟨?_, fun name informed => later.2 name (kept name informed)⟩
      intro other member
      rcases List.mem_cons.mp member with rfl | member
      · exact later.2 _ first
      · exact later.1 other member

theorem registerResponder_informs (env : Env) {specVersion : List VersionFields}
    (vendor : s.config.VendorSet) (versions : specVersion ≠ []) :
    AllInformed (registerResponder env specVersion s).2 := by
  have nonempty : specVersion.isEmpty = false := by
    simpa [List.isEmpty_eq_false_iff] using versions
  unfold registerResponder
  rw [nonempty]
  have informs := registerServices_informs env (env.order s.matchedBuses) .success
    { s with responderVersions := specVersion } vendor versions
  obtain ⟨_, _, same⟩ := registerServices_reports env (env.order s.matchedBuses) .success
    { s with responderVersions := specVersion }
  intro name matched
  apply informs.1
  rw [env.order_mem]
  simp only [Bool.false_eq_true, ↓reduceIte] at matched
  rwa [same] at matched

/-- A scan that returns has informed every service matched by then. -/
theorem finishDetect_informs (env : Env) (s : MCTPImpl) (vendor : s.config.VendorSet)
    (versions : s.responderVersions ≠ []) : AllInformed (finishDetect env s).2 := by
  have nonempty : s.responderVersions.isEmpty = false := by
    simpa [List.isEmpty_eq_false_iff] using versions
  have registered := registerResponder_informs env vendor versions
  unfold finishDetect
  rw [nonempty]
  simp only [Bool.false_eq_true, ↓reduceIte]
  split
  · exact registered
  · obtain ⟨kept, reports⟩ := getOwnEIDs_reports env
      (registerResponder env s.responderVersions s).2.eidChangeCallback
      (registerResponder env s.responderVersions s).2
    have aside := ownReport_aside (registerResponder env s.responderVersions s).2.config.type
    exact allInformed_emits reports.emits aside registered

theorem config_of_settings (same : t.settings = s.settings) : t.config = s.config :=
  congrArg (fun settings => settings.2.1) same

theorem resume_informs {env : Env} {scan : Scan} {reply : Reply} {ec : ErrorCode}
    (vendor : s.config.VendorSet) (resumed : resume env scan reply s = some (.returned ec, t))
    (versions : t.responderVersions ≠ []) : AllInformed t := by
  obtain ⟨base, same, finished⟩ := resume_returned resumed
  obtain ⟨_, _, kept⟩ := finishDetect_reports env base
  rw [finished] at kept
  change t = _ at kept
  rw [kept] at versions
  have informs := finishDetect_informs env base (by rw [config_of_settings same]; exact vendor) versions
  rwa [finished] at informs

/-- A new service is told at once, and nobody else forgets. -/
theorem onNewService_informs (env : Env) (serviceName : String) (vendor : s.config.VendorSet)
    (versions : s.responderVersions ≠ []) (all : AllInformed s) :
    AllInformed (onNewService env serviceName s).2 := by
  have config := matchService_config s serviceName
  have kept := matchService_responderVersions s serviceName
  obtain ⟨⟨ec, done⟩, first, others⟩ := registerResponderService_informs env serviceName
    (s.matchService serviceName) (by rw [config]; exact vendor) (by rw [kept]; exact versions)
  obtain ⟨_, _, same⟩ :=
    registerResponderService_reports env serviceName (s.matchService serviceName)
  have before : ∀ name ∈ s.matchedBuses, name ≠ serviceName →
      Informed (s.matchService serviceName) name := by
    intro name matched different
    obtain ⟨call, last, rest⟩ := all name matched
    unfold matchService
    split
    · exact ⟨call, last, rest⟩
    · refine ⟨call, ?_, rest⟩
      rw [← last]
      exact (lastRegistration_snoc _ _ _ _).trans (if_neg (Ne.symm different))
  have registered : AllInformed (registerResponderService env serviceName
      (s.matchService serviceName)).2 := by
    intro name matched
    rw [same] at matched
    rw [matchService_matchedBuses, Finset.mem_insert] at matched
    by_cases again : name = serviceName
    · rw [again]
      exact first
    · exact others name (before name (matched.resolve_left again) again)
  unfold onNewService
  dsimp only
  rw [done]
  exact allInformed_emits (triggerGetOwnEID_reports env serviceName _).emits
    (ownReport_aside _) registered

end MCTPImpl

/-- Outside scans every matched service is informed. -/
def KeptInformed (s : System) : Prop :=
  s.scans = [] → s.lib.responderVersions ≠ [] → MCTPImpl.AllInformed s.lib

theorem keptInformed_signal {s t : System} {env : Env} {msg : Message}
    (vendor : s.lib.config.VendorSet) (kept : KeptInformed s)
    (stepped : s.step (.signal env msg) = some t) : KeptInformed t := by
  obtain ⟨_, _, rfl⟩ := System.step_signal stepped
  intro quiet versions
  have same : (MCTPImpl.onMCTPEvent env msg s.lib).2.responderVersions = s.lib.responderVersions := by
    refine MCTPImpl.onMCTPEvent_keeps ⟨?_, fun _ _ _ _ => rfl⟩ env msg s.lib
    rintro _ _ _ ⟨_, _, _, _, rfl⟩
    rfl
  rw [same] at versions
  have all := kept quiet versions
  have handles := MCTPImpl.onMCTPEvent_handles env msg s.lib
  generalize (MCTPImpl.onMCTPEvent env msg s.lib).2 = lib at handles ⊢
  have looked : ∀ objectPath, MCTPImpl.AllInformed
      (MCTPImpl.getDeviceIDFromPath env objectPath msg.sender s.lib).2 := by
    intro objectPath
    refine MCTPImpl.allInformed_emits
      (MCTPImpl.getDeviceIDFromPath_emits env objectPath msg.sender s.lib) ?_ all
    rintro effect (read | _)
    · exact read_aside _ _ read
    · trivial
  cases handles with
  | ignored => exact all
  | newService values => exact MCTPImpl.onNewService_informs env msg.sender vendor versions all
  | looked objectPath => exact looked objectPath
  | newEID objectPath values device => exact looked objectPath
  | eidRemoved objectPath interfaces device =>
      obtain ⟨more, _, removed⟩ := MCTPImpl.onEIDRemoved_eq device
        (MCTPImpl.getDeviceIDFromPath env objectPath msg.sender s.lib).2
      rw [removed]
      exact looked objectPath
  | serviceRemoved =>
      intro name matched
      exact all name (Finset.mem_of_mem_erase matched)
  | message messageType srcEid msgTag tagOwner payload =>
      refine MCTPImpl.allInformed_emits (MCTPImpl.onMessageReceived_emits env msg.sender messageType
        srcEid msgTag tagOwner payload s.lib) ?_ all
      rintro effect ((read | _ | _ | _) | _)
      · exact read_aside _ _ read
      all_goals trivial
  | ownEID callback eid =>
      exact MCTPImpl.allInformed_emits (.emit s.lib (Effect.OwnReport.ownEID callback msg.sender eid))
        (ownReport_aside _) all

theorem keptInformed_step {s t : System} {label : Label} (vendor : s.lib.config.VendorSet)
    (kept : KeptInformed s) (stepped : s.step label = some t) : KeptInformed t := by
  cases label with
  | detect =>
      cases stepped
      intro quiet
      exact absurd quiet (by simp)
  | resume index env reply =>
      intro quiet versions
      obtain ⟨scan, ec, _, resumed⟩ := System.step_resume_quiet stepped quiet
      exact MCTPImpl.resume_informs vendor resumed versions
  | signal env msg => exact keptInformed_signal vendor kept stepped
  | body =>
      obtain ⟨body, rest, _, rfl⟩ := System.step_body stepped
      obtain ⟨_, event, same⟩ := MCTPImpl.runSpawned_eq body rest s.lib
      rw [same]
      intro quiet versions
      have aside : (Effect.networkChange event).Aside s.lib.config.type := trivial
      have told := MCTPImpl.allInformed_emits (.emit s.lib aside) (fun _ => id) (kept quiet versions)
      exact told
  | registerResponder env specVersion =>
      rw [System.step_registerResponder stepped]
      intro quiet versions
      by_cases none : specVersion = []
      · have same : (MCTPImpl.registerResponder env specVersion s.lib).2 = s.lib := by
          simp [MCTPImpl.registerResponder, none]
        rw [same] at versions ⊢
        exact kept quiet versions
      · exact MCTPImpl.registerResponder_informs env vendor none
  | getOwnEIDs env callback =>
      cases stepped
      intro quiet versions
      obtain ⟨_, reports⟩ := MCTPImpl.getOwnEIDs_reports env callback s.lib
      obtain ⟨_, _, same⟩ := id reports
      rw [same] at versions
      exact MCTPImpl.allInformed_emits reports.emits (ownReport_aside _) (kept quiet versions)
  | setExtendedReceiveCallback callback =>
      cases stepped
      unfold MCTPImpl.setExtendedReceiveCallback
      split <;> exact kept
  | send request devID =>
      cases stepped
      intro quiet versions
      have reports := MCTPImpl.send_reports request devID s.lib
      obtain ⟨_, _, same⟩ := id reports
      rw [same] at versions
      exact MCTPImpl.allInformed_emits reports.emits (sending_aside _) (kept quiet versions)

/-- With its vendor parameters set, the library keeps every matched service
informed of the newest versions, whatever happens. -/
theorem matched_informed {host : ByteOrder.Endian} {config : MCTPConfiguration}
    {networkChangeCb rxCb : Bool} {labels : List Label} {t : System} (vendor : config.VendorSet)
    (run : Run System.step Any (System.construct host config networkChangeCb rxCb) labels t)
    (quiet : t.scans = []) (versions : t.lib.responderVersions ≠ []) :
    ∀ name ∈ t.lib.matchedBuses, Informed t.lib name := by
  have kept : t.lib.config.VendorSet ∧ KeptInformed t := by
    refine run.invariant (fun s => s.lib.config.VendorSet ∧ KeptInformed s) ⟨vendor, ?_⟩ ?_
    · intro _ _ name matched
      cases matched
    · rintro state label next ⟨vendor, kept⟩ _ stepped
      refine ⟨?_, keptInformed_step vendor kept stepped⟩
      rw [MCTPImpl.config_of_settings (System.step_settings stepped)]
      exact vendor
  exact kept.2 quiet versions

namespace Slot

def version : VersionFields := ⟨0xF1, 0xF0, 0xF0, 0⟩

def informed : System :=
  (exec System.step start (.registerResponder env [version] :: discovery)).get (by decide)

/-- A responder registered before discovery is known to the service found. -/
theorem matched_informed_discovered : Informed informed.lib owner := by
  have done : exec System.step start (.registerResponder env [version] :: discovery) =
      some informed := by
    simp only [informed, Option.some_get]
  have vendor : config.VendorSet := nofun
  exact matched_informed vendor (.of_exec done) rfl (by decide) owner (by decide)

example : informed.lib.matchedBuses = {owner} := by decide

end Slot

end Mctpw
