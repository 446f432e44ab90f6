import Mathlib.Data.Stream.Init
import Mctpw.VendorAccess

set_option autoImplicit false

/- One call of detectMctpEndpoints from its start to its end, and the status it
comes to. -/
namespace Mctpw

/-- No signal about endpoints or services, no body such a signal spawned, and no
other coroutine taken up. -/
def Label.Aside : Label → Prop
  | .resume _ _ _ => False
  | .body => False
  | .signal _ msg =>
      match msg.signal with
      | .interfacesAdded _ _ => False
      | .interfacesRemoved _ _ => False
      | _ => True
  | _ => True

/-- What else happens while the coroutine waits, and the outcome of the call it
waits for, whichever that is. -/
structure Wait where
  meanwhile : List Label
  aside : ∀ label ∈ meanwhile, label.Aside
  env : Env
  object : Except ErrorCode (List String)
  nameOwner : Except ErrorCode String
  managedObjects : Except ErrorCode (DictType Interfaces)

namespace Wait

def reply (wait : Wait) : Scan → Reply
  | .getObject => .object wait.object
  | .getNameOwner _ _ _ => .nameOwner wait.nameOwner
  | .getManagedObjects _ _ _ => .managedObjects wait.managedObjects

/-- A label that cannot be taken is passed over. -/
def pass (wait : Wait) (s : MCTPImpl) : MCTPImpl :=
  (wait.meanwhile.foldl (fun state label => (state.step label).getD state) (⟨s, []⟩ : System)).lib

end Wait

namespace MCTPImpl

/-- The call up to its first suspension. -/
def begin (s : MCTPImpl) : Progress × MCTPImpl :=
  (.suspended s.detectMctpEndpoints.1, s.detectMctpEndpoints.2)

/-- Where the coroutine is after so many suspensions. -/
def discover : Progress × MCTPImpl → List Wait → Option (Progress × MCTPImpl)
  | outcome, [] => some outcome
  | (.suspended scan, s), wait :: waits =>
      (resume wait.env scan (wait.reply scan) (wait.pass s)).bind fun outcome => discover outcome waits
  | _, _ :: _ => none

/-- The status handed to the callback, when there is one. -/
def detectMctpEndpointsAsync (registerCB : Bool) : Progress → Option ErrorCode
  | .returned ec => if registerCB then some ec else none
  | _ => none

/-- The two tables and the settings are as they were. -/
structure Untouched (s t : MCTPImpl) : Prop where
  endpointMap : t.endpointMap = s.endpointMap
  matchedBuses : t.matchedBuses = s.matchedBuses
  settings : t.settings = s.settings

end MCTPImpl

/-- The status is an error exactly when the lookup of the services was one. -/
def Tells (lookup : Except ErrorCode (List String)) (ec : ErrorCode) : Prop :=
  ec ≠ .success ↔ ∃ failed, lookup = .error failed

/-- What a call started in `s` that ends in `t` owes to its caller. -/
structure DiscoveryReported (s : MCTPImpl) (lookup : Except ErrorCode (List String))
    (ec : ErrorCode) (t : MCTPImpl) : Prop where
  returned : Tells lookup ec
  handed : ∀ registerCB status,
    MCTPImpl.detectMctpEndpointsAsync registerCB (.returned ec) = some status → Tells lookup status
  kept : (∃ failed, lookup = .error failed) →
    t.endpointMap = s.endpointMap ∧ t.matchedBuses = s.matchedBuses

namespace MCTPImpl

variable {s t u : MCTPImpl}

theorem Untouched.refl (s : MCTPImpl) : Untouched s s := ⟨rfl, rfl, rfl⟩

theorem Untouched.trans (first : Untouched s t) (second : Untouched t u) : Untouched s u :=
  ⟨second.endpointMap.trans first.endpointMap, second.matchedBuses.trans first.matchedBuses,
    second.settings.trans first.settings⟩

theorem Untouched.config_eq (untouched : Untouched s t) : t.config = s.config :=
  config_of_settings untouched.settings

theorem Emits.untouched {allowed : Effect → Prop} (emits : Emits allowed s t) : Untouched s t := by
  obtain ⟨_, _, _, _, rfl⟩ := emits
  exact ⟨rfl, rfl, rfl⟩

theorem onPropertiesChanged_untouched (sender intfName : String) (changed : Properties)
    (s : MCTPImpl) : Untouched s (onPropertiesChanged sender intfName changed s).2 := by
  unfold onPropertiesChanged
  split
  · split
    · split <;> exact ⟨rfl, rfl, rfl⟩
    · exact .refl s
  · exact .refl s

theorem onMCTPEvent_untouched {env : Env} {msg : Message} (aside : (Label.signal env msg).Aside)
    (s : MCTPImpl) : Untouched s (onMCTPEvent env msg s).2 := by
  obtain ⟨sender, signal⟩ := msg
  unfold onMCTPEvent
  split
  · exact .refl s
  · cases signal with
    | interfacesAdded => exact aside.elim
    | interfacesRemoved => exact aside.elim
    | messageReceived =>
        dsimp only
        split
        · exact .refl s
        · exact (onMessageReceived_emits env _ _ _ _ _ _ s).untouched
    | propertiesChanged =>
        dsimp only
        split
        · exact .refl s
        · exact onPropertiesChanged_untouched _ _ _ s
    | other => exact .refl s

end MCTPImpl

theorem System.step_untouched {s t : System} {label : Label} (aside : label.Aside)
    (stepped : s.step label = some t) : MCTPImpl.Untouched s.lib t.lib := by
  cases label with
  | detect =>
      cases stepped
      exact ⟨rfl, rfl, rfl⟩
  | resume => exact aside.elim
  | signal env msg =>
      obtain ⟨_, _, rfl⟩ := step_signal stepped
      exact MCTPImpl.onMCTPEvent_untouched aside s.lib
  | body => exact aside.elim
  | registerResponder env specVersion =>
      rw [step_registerResponder stepped]
      obtain ⟨_, _, _, same⟩ := MCTPImpl.registerResponder_reports env specVersion s.lib
      rw [same]
      exact ⟨rfl, rfl, rfl⟩
  | getOwnEIDs env callback =>
      cases stepped
      obtain ⟨_, _, _, same⟩ := MCTPImpl.getOwnEIDs_reports env callback s.lib
      rw [same]
      exact ⟨rfl, rfl, rfl⟩
  | setExtendedReceiveCallback callback =>
      cases stepped
      dsimp only [MCTPImpl.setExtendedReceiveCallback]
      split <;> exact ⟨rfl, rfl, rfl⟩
  | send request devID =>
      cases stepped
      exact (MCTPImpl.send_reports request devID s.lib).emits.untouched

/-- What happens while the coroutine waits leaves the tables alone. -/
theorem Wait.pass_untouched (wait : Wait) (s : MCTPImpl) : MCTPImpl.Untouched s (wait.pass s) := by
  have along : ∀ (labels : List Label) (state : System), (∀ label ∈ labels, label.Aside) →
      MCTPImpl.Untouched state.lib
        (labels.foldl (fun state label => (state.step label).getD state) state).lib := by
    intro labels
    induction labels with
    | nil => exact fun state _ => .refl state.lib
    | cons label labels ih =>
        intro state aside
        have rest := ih ((state.step label).getD state) fun label member => aside label (.tail _ member)
        refine MCTPImpl.Untouched.trans ?_ rest
        cases stepped : state.step label with
        | none => exact .refl state.lib
        | some next => exact System.step_untouched (aside label (.head _)) stepped
  exact along wait.meanwhile ⟨s, []⟩ wait.aside

namespace MCTPImpl

/-- Versions are registered with a service, and a vendor parameter of the call is
not there. -/
structure ReadsUnset (config : MCTPConfiguration) (s : MCTPImpl) : Prop where
  unset : ¬ config.VendorSet
  versions : s.responderVersions ≠ []
  matched : s.matchedBuses ≠ ∅

/-- The coroutine is done: it has read a vendor parameter that is not there, or
returned. -/
def Ended (config : MCTPConfiguration) (outcome : Progress × MCTPImpl) : Prop :=
  (outcome.1 = .raised .undefinedBehaviour ∧ ReadsUnset config outcome.2) ∨
    (outcome.1 = .returned .success ∧ ¬ ReadsUnset config outcome.2)

theorem registerServices_ok (env : Env) (services : List String) (status : ErrorCode)
    (s : MCTPImpl) (vendor : s.config.VendorSet) :
    ∃ ec, (registerServices env services status s).1 = .ok ec := by
  induction services generalizing status s with
  | nil => exact ⟨status, rfl⟩
  | cons serviceName rest ih =>
      obtain ⟨ec, done⟩ := (registerResponderService_ok_iff env serviceName s).mpr fun _ => vendor
      have config := (registerResponderService_reports env serviceName s).config_eq
      unfold registerServices
      dsimp only
      rw [done]
      exact ih ec _ (by rwa [config])

theorem registerResponder_returns (env : Env) (s : MCTPImpl) (held : ¬ ReadsUnset s.config s) :
    ∃ ec, (registerResponder env s.responderVersions s).1 = .ok ec := by
  by_cases versions : s.responderVersions = []
  · exact ⟨.ioError, by simp [registerResponder, versions]⟩
  · by_cases vendor : s.config.VendorSet
    · obtain ⟨ec, done⟩ := registerServices_ok env (env.order s.matchedBuses) .success s vendor
      exact ⟨ec, by simpa [registerResponder, versions] using done⟩
    · have matched : s.matchedBuses = ∅ := by
        by_contra some
        exact held ⟨vendor, versions, some⟩
      have order := (order_eq_nil_iff env s.matchedBuses).mpr matched
      exact ⟨.success, by simp [registerResponder, versions, order, registerServices]⟩

theorem finishDetect_returns (env : Env) (s : MCTPImpl) (held : ¬ ReadsUnset s.config s) :
    (finishDetect env s).1 = .returned .success := by
  obtain ⟨ec, registered⟩ := registerResponder_returns env s held
  unfold finishDetect
  dsimp only
  split
  · rename_i fault failed
    split at failed
    · cases failed
    · rw [registered] at failed
      cases failed
  · rfl

/-- Nothing the end of the coroutine does changes whether it reads a parameter
that is not there. -/
theorem finishDetect_ended (env : Env) (s : MCTPImpl) : Ended s.config (finishDetect env s) := by
  have same : ReadsUnset s.config (finishDetect env s).2 ↔ ReadsUnset s.config s := by
    obtain ⟨_, _, finished⟩ := finishDetect_reports env s
    rw [finished]
    exact ⟨fun reads => ⟨reads.unset, reads.versions, reads.matched⟩,
      fun reads => ⟨reads.unset, reads.versions, reads.matched⟩⟩
  rw [Ended, same]
  by_cases reads : ReadsUnset s.config s
  · obtain ⟨_, raised⟩ := finishDetect_undefined env reads.unset reads.versions reads.matched
    exact .inl ⟨by rw [raised], reads⟩
  · exact .inr ⟨finishDetect_returns env s reads, reads⟩

/-- The coroutine comes to its end after some of the waits. -/
def Finishes (config : MCTPConfiguration) (outcome : Progress × MCTPImpl) (waits : Stream' Wait) :
    Prop :=
  ∃ n last, discover outcome (waits.take n) = some last ∧ Ended config last

theorem Finishes.of_ended {config : MCTPConfiguration} {outcome : Progress × MCTPImpl}
    (waits : Stream' Wait) (ended : Ended config outcome) : Finishes config outcome waits :=
  ⟨0, outcome, rfl, ended⟩

/-- One more wait is passed before the rest. -/
theorem Finishes.of_resume {config : MCTPConfiguration} {s : MCTPImpl} {scan : Scan}
    {waits : Stream' Wait} {outcome : Progress × MCTPImpl}
    (resumed : resume waits.head.env scan (waits.head.reply scan) (waits.head.pass s) = some outcome)
    (rest : Finishes config outcome waits.tail) : Finishes config (.suspended scan, s) waits := by
  obtain ⟨n, last, done, ended⟩ := rest
  refine ⟨n + 1, last, ?_, ended⟩
  rw [Stream'.take_succ, discover, resumed]
  exact done

theorem buildMatchingEndpointMap_finishes {config : MCTPConfiguration} (buses : List Bus)
    (env : Env) (eids : EndpointMapExtended) (s : MCTPImpl) (waits : Stream' Wait)
    (same : s.config = config) :
    Finishes config (buildMatchingEndpointMap env eids buses s) waits := by
  induction buses generalizing env eids s waits with
  | nil =>
      rw [← same]
      exact .of_ended waits (finishDetect_ended env { s with endpointMap := eids })
  | cons bus rest ih =>
      -- One managed-objects call is answered, well or not, and the rest follows.
      let waiting := waits.head.pass (s.emit (.call (getManagedObjects bus.2)))
      have passed : waiting.config = config := (waits.head.pass_untouched _).config_eq.trans same
      cases answer : waits.head.managedObjects with
      | error failed =>
          have later := ih waits.head.env eids waiting waits.tail passed
          exact .of_resume (by rw [Wait.reply, answer]; rfl) later
      | ok values =>
          have scanned := scanService_emits waits.head.env bus values eids waiting
          have later := ih waits.head.env (scanService waits.head.env bus values eids waiting).1 _
            waits.tail (scanned.untouched.config_eq.trans passed)
          exact .of_resume (by rw [Wait.reply, answer]; rfl) later

theorem findBuses_finishes {config : MCTPConfiguration} (services : List String) (env : Env)
    (buses : List Bus) (s : MCTPImpl) (waits : Stream' Wait) (same : s.config = config) :
    Finishes config (findBuses env buses services s) waits := by
  induction services generalizing env buses s waits with
  | nil => exact buildMatchingEndpointMap_finishes buses env ∅ _ waits same
  | cons service rest ih =>
      have read := (getBusId_emits env service s).untouched.config_eq
      unfold findBuses
      dsimp only
      split
      · exact ih env buses _ waits (read.trans same)
      · -- The owner is asked for; without an answer the service name stands in.
        rename_i bus _
        let waiting :=
          waits.head.pass ((getBusId env service s).2.emit (.call (getNameOwner service)))
        have passed : waiting.config = config :=
          (waits.head.pass_untouched _).config_eq.trans (read.trans same)
        have later : ∀ name, Finishes config (findBuses waits.head.env
            (buses ++ [(UInt32.ofInt bus, service)]) rest (waiting.matchService name)) waits.tail :=
          fun name => ih waits.head.env _ _ waits.tail
            ((matchService_config waiting name).trans passed)
        cases answer : waits.head.nameOwner with
        | error failed => exact .of_resume (by rw [Wait.reply, answer]; rfl) (later service)
        | ok uniqueName => exact .of_resume (by rw [Wait.reply, answer]; rfl) (later uniqueName)

theorem finishDetect_untouched (env : Env) (s : MCTPImpl) : Untouched s (finishDetect env s).2 :=
  (finishDetect_reports env s).emits.untouched

theorem begin_untouched (s : MCTPImpl) : Untouched s s.begin.2 := ⟨rfl, rfl, rfl⟩

/-- A lookup that fails brings the coroutine to its end with the tables as they were. -/
theorem unlisted_untouched (wait : Wait) (s : MCTPImpl) :
    Untouched s (finishDetect wait.env
      { wait.pass s.begin.2 with isInitialisationsDone := true }).2 := by
  have passed := (begin_untouched s).trans (wait.pass_untouched s.begin.2)
  have opened : Untouched (wait.pass s.begin.2)
      { wait.pass s.begin.2 with isInitialisationsDone := true } := ⟨rfl, rfl, rfl⟩
  exact (passed.trans opened).trans (finishDetect_untouched wait.env _)

/-- Whatever the outcomes on the bus, the call comes to its end, and one whose
lookup failed leaves both tables as they were. -/
theorem begin_finishes (s : MCTPImpl) (waits : Stream' Wait) :
    ∃ n progress t, discover s.begin (waits.take n) = some (progress, t) ∧
      Ended s.config (progress, t) ∧
      ((∃ failed, waits.head.object = .error failed) → Untouched s t) := by
  have passed := ((begin_untouched s).trans (waits.head.pass_untouched s.begin.2)).config_eq
  cases answer : waits.head.object with
  | error failed =>
      have untouched := unlisted_untouched waits.head s
      have ended := finishDetect_ended waits.head.env
        { waits.head.pass s.begin.2 with isInitialisationsDone := true }
      refine ⟨1, _, _, ?_, passed ▸ ended, fun _ => untouched⟩
      rw [Stream'.take_succ, Stream'.take_zero]
      simp only [begin, discover, detectMctpEndpoints, Wait.reply, answer]
      rfl
  | ok services =>
      obtain ⟨n, ⟨progress, t⟩, done, ended⟩ :=
        findBuses_finishes services waits.head.env [] (waits.head.pass s.begin.2) waits.tail passed
      refine ⟨n + 1, progress, t, ?_, ended, fun failed => ?_⟩
      · rw [Stream'.take_succ]
        simp only [begin, discover, detectMctpEndpoints, Wait.reply, answer]
        exact done
      · obtain ⟨_, other⟩ := failed
        cases other

end MCTPImpl

/-- Success tells of a lookup exactly when the lookup was one. -/
theorem tells_success_iff (lookup : Except ErrorCode (List String)) :
    Tells lookup .success ↔ ∃ services, lookup = .ok services := by
  cases lookup <;> simp [Tells]

/-- The status is success whatever happens, so it is right exactly when the lookup
of the services succeeds; the tables survive a lookup that fails. The call returns
one unless it registers versions without the vendor parameters. -/
theorem discovery_reported_iff (s : MCTPImpl) (waits : Stream' Wait) :
    ∃ n progress t, MCTPImpl.discover s.begin (waits.take n) = some (progress, t) ∧
      ((MCTPImpl.ReadsUnset s.config t ∧ progress = .raised .undefinedBehaviour) ∨
        (¬ MCTPImpl.ReadsUnset s.config t ∧ ∃ ec, progress = .returned ec ∧
          (DiscoveryReported s waits.head.object ec t ↔
            ∃ services, waits.head.object = .ok services))) ∧
      ((∃ failed, waits.head.object = .error failed) → MCTPImpl.Untouched s t) := by
  obtain ⟨n, progress, t, done, ended, kept⟩ := MCTPImpl.begin_finishes s waits
  refine ⟨n, progress, t, done, ?_, kept⟩
  rcases ended with ⟨raised, reads⟩ | ⟨rfl, held⟩
  · exact .inl ⟨reads, raised⟩
  · refine .inr ⟨held, .success, rfl, ?_⟩
    rw [← tells_success_iff]
    constructor
    · exact DiscoveryReported.returned
    · intro tells
      refine ⟨tells, ?_, fun failed => ⟨(kept failed).endpointMap, (kept failed).matchedBuses⟩⟩
      intro registerCB status handed
      cases registerCB <;> cases handed
      exact tells

namespace Slot

/-- The object mapper does not answer. -/
def unlisted : Wait where
  meanwhile := []
  aside := by simp
  env := env
  object := .error (.other 5)
  nameOwner := .ok owner
  managedObjects := .ok []

theorem discovery_failure_hidden :
    ∃ t, MCTPImpl.discover start.lib.begin [unlisted] = some (.returned .success, t) ∧
      ¬ DiscoveryReported start.lib unlisted.object .success t := by
  refine ⟨_, rfl, fun reported => ?_⟩
  obtain ⟨services, listed⟩ := (tells_success_iff unlisted.object).mp reported.returned
  cases listed

end Slot

end Mctpw
