import Mctpw.Events

set_option autoImplicit false

/- Classes of effects that the library stays out of but for some of its functions, and
the part of the history that is in one. -/
namespace Mctpw

/-- Nothing that is looked up, registered, reported or matched is in the class. -/
structure Effect.Beside (test : Effect → Bool) : Prop where
  get : ∀ property : Property, test (.call property.get) = false
  identified : ∀ service eid device, test (.identified service eid device) = false
  register : ∀ (call : MethodCall) type, call.member = registerMethod type →
    test (.call call) = false
  ownEID : ∀ callback service eid, test (.ownEID callback service eid) = false
  matched : ∀ service, test (.matched service) = false

namespace Effect.Beside

variable {test : Effect → Bool} {effect : Effect} {config : MCTPConfiguration}

theorem read (beside : Beside test) (read : effect.Read) : test effect = false := by
  cases read
  exact beside.get _

theorem lookup (beside : Beside test) (lookup : effect.Lookup) : test effect = false := by
  cases lookup with
  | read read => exact beside.read read
  | identified => exact beside.identified _ _ _

theorem registration (beside : Beside test) (registration : effect.Registration config) :
    test effect = false := by
  obtain ⟨call, rfl, member, _⟩ := registration
  exact beside.register call config.type member

theorem ownReport (beside : Beside test) (report : effect.OwnReport) : test effect = false := by
  cases report with
  | get => exact beside.get _
  | ownEID => exact beside.ownEID _ _ _

theorem finishing (beside : Beside test) (finishing : effect.Finishing config) :
    test effect = false :=
  finishing.elim beside.registration beside.ownReport

end Effect.Beside

namespace MCTPImpl

variable {test : Effect → Bool} {allowed : Effect → Prop} {s t : MCTPImpl}

/-- The part of the history that is in a class. -/
def history (test : Effect → Bool) (s : MCTPImpl) : List Effect := s.trace.filter test

theorem Emits.history_eq (emits : Emits allowed s t)
    (never : ∀ effect, allowed effect → test effect = false) : history test t = history test s := by
  obtain ⟨effects, _, _, fine, rfl⟩ := emits
  have none : effects.filter test = [] := by
    rw [List.filter_eq_nil_iff]
    intro effect member
    simp [never effect (fine effect member)]
  simp [history, none]

theorem emit_history (s : MCTPImpl) {effect : Effect} (other : test effect = false) :
    history test (s.emit effect) = history test s := by
  simp [history, emit, other]

theorem matchService_history (beside : Effect.Beside test) (s : MCTPImpl) (serviceName : String) :
    history test (s.matchService serviceName) = history test s := by
  unfold matchService
  split
  · rfl
  · simp [history, beside.matched]

theorem onNewService_history (beside : Effect.Beside test) (env : Env) (s : MCTPImpl)
    (serviceName : String) : history test (onNewService env serviceName s).2 = history test s :=
  ((onNewService_reports env serviceName s).emits.history_eq fun _ => beside.finishing).trans
    (matchService_history beside s serviceName)

/-- Discovery adds nothing to a class that its questions are not in. -/
theorem history_alongScan (beside : Effect.Beside test)
    (owner : ∀ service, test (.call (getNameOwner service)) = false)
    (objects : ∀ service, test (.call (getManagedObjects service)) = false) :
    AlongScan fun s t => history test t = history test s where
  trans first second := second.trans first
  looked emits := emits.history_eq fun _ => beside.lookup
  asked s service := ⟨emit_history s (owner service), emit_history s (objects service)⟩
  matched := matchService_history beside
  opened _ := rfl
  filed _ _ := rfl
  finished env s := (finishDetect_reports env s).emits.history_eq fun _ => beside.finishing

/-- No signal adds anything to a class that messages are not received in. -/
theorem history_alongEvent (beside : Effect.Beside test)
    (reception : ∀ effect : Effect, effect.Reception → test effect = false) :
    AlongEvent fun s t => history test t = history test s where
  trans first second := second.trans first
  looked emits := emits.history_eq fun _ => beside.lookup
  received emits := emits.history_eq reception
  introduced env s service := onNewService_history beside env s service
  changed _ _ _ _ := rfl
  reported s _ _ _ := emit_history s (beside.ownEID _ _ _)

end MCTPImpl

end Mctpw
