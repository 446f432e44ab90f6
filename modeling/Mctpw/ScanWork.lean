import Mctpw.Base.Ledger
import Mctpw.Discovery
import Mctpw.Histories

set_option autoImplicit false

/- How much there is left to do: how often the coroutines can still be taken up,
which questions they have open, and that all of it comes to an end. -/
namespace Mctpw

open Runs

/-- How often a coroutine can still be taken up. A service still to come costs one
question for its owner and one for its objects. -/
def Scan.work : Scan → Nat
  | .getObject => 1
  | .getNameOwner buses _ rest => 1 + buses.length + 2 * rest.length
  | .getManagedObjects _ _ rest => 1 + rest.length

def Progress.work : Progress → Nat
  | .suspended scan => scan.work
  | _ => 0

/-- The services that come with a reply. -/
def Reply.services : Reply → List String
  | .object (.ok services) => services
  | _ => []

def Label.services : Label → List String
  | .resume _ _ reply => reply.services
  | _ => []

def Label.isDetect : Label → Bool
  | .detect => true
  | _ => false

def Label.isResume : Label → Bool
  | .resume _ _ _ => true
  | _ => false

/-- One of the questions a coroutine waits at. -/
def Effect.isQuestion : Effect → Bool
  | .call asked => asked.member = "GetObject" || asked.member = "GetNameOwner" ||
      asked.member = "GetManagedObjects"
  | _ => false

namespace MCTPImpl

theorem buildMatchingEndpointMap_work (env : Env) (eids : EndpointMapExtended) (buses : List Bus)
    (s : MCTPImpl) : (buildMatchingEndpointMap env eids buses s).1.work ≤ buses.length := by
  unfold buildMatchingEndpointMap
  split
  · have ended := finishDetect_not_suspended env { s with endpointMap := eids }
    unfold Progress.work
    split
    · rename_i scan suspended
      exact absurd suspended (ended scan)
    · exact Nat.zero_le _
  · simp only [Progress.work, Scan.work, List.length_cons]
    omega

theorem findBuses_work (env : Env) (buses : List Bus) (services : List String) (s : MCTPImpl) :
    (findBuses env buses services s).1.work ≤ buses.length + 2 * services.length := by
  induction services generalizing s with
  | nil => exact buildMatchingEndpointMap_work env ∅ buses _
  | cons service rest ih =>
      unfold findBuses
      dsimp only
      split
      · have later := ih (getBusId env service s).2
        rw [List.length_cons]
        omega
      · simp only [Progress.work, Scan.work, List.length_append, List.length_cons,
          List.length_nil]
        omega

/-- Being taken up uses up one turn, and a list of services brings two for each. -/
theorem resume_work {env : Env} {scan : Scan} {reply : Reply} {s t : MCTPImpl}
    {progress : Progress} (resumed : resume env scan reply s = some (progress, t)) :
    progress.work + 1 ≤ scan.work + 2 * reply.services.length := by
  have resumes := resume_resumes resumed
  generalize same : (progress, t) = outcome at resumes
  have moved : progress = outcome.1 := by rw [← same]
  rw [moved]
  cases resumes with
  | unlisted failed =>
      have none := buildMatchingEndpointMap_work env s.endpointMap []
        { s with isInitialisationsDone := true }
      have ended : (finishDetect env { s with isInitialisationsDone := true }).1.work ≤ 0 := none
      rw [Scan.work]
      omega
  | listed services =>
      have found := findBuses_work env [] services s
      rw [Scan.work, Reply.services]
      rw [List.length_nil] at found
      omega
  | owned buses service rest reply name matched =>
      have found := findBuses_work env buses rest (s.matchService name)
      rw [Scan.work]
      omega
  | skipped eids bus rest failed =>
      have built := buildMatchingEndpointMap_work env eids rest s
      rw [Scan.work]
      omega
  | scanned eids bus rest values =>
      have built := buildMatchingEndpointMap_work env (scanService env bus values eids s).1 rest
        (scanService env bus values eids s).2
      rw [Scan.work]
      omega

end MCTPImpl

namespace System

def work (s : System) : Nat := (s.scans.map Scan.work).sum

/-- How many labels take up a coroutine, and how many start one. -/
def resumes (labels : List Label) : Nat := labels.countP Label.isResume

def detects (labels : List Label) : Nat := labels.countP Label.isDetect

/-- All services listed to any coroutine. -/
def listed (labels : List Label) : List String := labels.flatMap Label.services

/-- The coroutine taken up, beside the others, and what comes of it. -/
theorem step_resume_perm {s t : System} {index : Nat} {env : Env} {reply : Reply}
    (stepped : s.step (.resume index env reply) = some t) :
    ∃ scan others progress, s.scans.Perm (scan :: others) ∧
      MCTPImpl.resume env scan reply s.lib = some (progress, t.lib) ∧
      ((∃ next, progress = .suspended next ∧ t.scans.Perm (next :: others)) ∨
        ∃ ec, progress = .returned ec ∧ t.scans = others) := by
  obtain ⟨scan, progress, lib, waiting, resumed, rfl, left⟩ := step_resume stepped
  obtain ⟨within, same⟩ := List.getElem?_eq_some_iff.mp waiting
  refine ⟨scan, s.scans.eraseIdx index, progress, ?_, resumed, ?_⟩
  · rw [← same]
    exact (List.getElem_cons_eraseIdx_perm within).symm
  · rcases left with ⟨next, suspended, scans⟩ | ⟨ec, returned, scans⟩
    · refine .inl ⟨next, suspended, ?_⟩
      rw [scans]
      exact List.set_perm_cons_eraseIdx within next
    · exact .inr ⟨ec, returned, scans⟩

/-- A label other than these two leaves the coroutines alone. -/
theorem step_scans {s t : System} {label : Label} (stepped : s.step label = some t)
    (started : label.isDetect = false) (taken : label.isResume = false) : t.scans = s.scans := by
  cases label with
  | detect => cases started
  | resume => cases taken
  | signal env msg =>
      obtain ⟨_, _, rfl⟩ := step_signal stepped
      rfl
  | body =>
      obtain ⟨_, _, _, rfl⟩ := step_body stepped
      rfl
  | registerResponder env specVersion => rw [step_registerResponder stepped]
  | getOwnEIDs | setExtendedReceiveCallback | send =>
      cases stepped
      rfl

theorem step_work {s t : System} {label : Label} (stepped : s.step label = some t) :
    t.work + (if label.isResume then 1 else 0) ≤
      s.work + ((if label.isDetect then 1 else 0) + 2 * label.services.length) := by
  by_cases taken : label.isResume
  · cases label with
    | resume index env reply =>
        obtain ⟨scan, others, progress, waiting, resumed, left⟩ := step_resume_perm stepped
        have used := MCTPImpl.resume_work resumed
        have before := (waiting.map Scan.work).sum_eq
        have after : t.work = progress.work + (others.map Scan.work).sum := by
          rcases left with ⟨next, rfl, scans⟩ | ⟨ec, rfl, scans⟩
          · simpa [work, Progress.work] using (scans.map Scan.work).sum_eq
          · simp [work, Progress.work, scans]
        simp only [List.map_cons, List.sum_cons] at before
        rw [after, work, before]
        simp only [Label.isResume, Label.isDetect, Label.services, ↓reduceIte,
          Bool.false_eq_true]
        omega
    | _ => cases taken
  · by_cases started : label.isDetect
    · cases label with
      | detect =>
          cases stepped
          simp [work, MCTPImpl.detectMctpEndpoints, Scan.work, Label.isResume, Label.isDetect]
      | _ => cases started
    · have same := step_scans stepped (by simpa using started) (by simpa using taken)
      rw [work, same, ← work, if_neg taken]
      omega

theorem sum_indicator (counted : Label → Bool) (labels : List Label) :
    (labels.map fun label => if counted label then 1 else 0).sum = labels.countP counted := by
  induction labels with
  | nil => rfl
  | cons label labels ih =>
      rw [List.map_cons, List.sum_cons, ih, List.countP_cons, Nat.add_comm]

theorem sum_services (labels : List Label) :
    (labels.map fun label => (if label.isDetect then 1 else 0) + 2 * label.services.length).sum =
      detects labels + 2 * (listed labels).length := by
  induction labels with
  | nil => rfl
  | cons label labels ih =>
      rw [List.map_cons, List.sum_cons, ih, detects, detects, listed, listed, List.countP_cons,
        List.flatMap_cons, List.length_append]
      omega

end System

/-- However coroutines, signals and calls take turns, the coroutines are taken up at
most once for each that was started and twice for each service listed to one of them. -/
theorem scans_bounded {s t : System} {labels : List Label} (run : Run System.step Any s labels t) :
    t.work + System.resumes labels ≤
      s.work + (System.detects labels + 2 * (System.listed labels).length) := by
  have spent := run.amortized System.work _ _ fun _ _ _ _ stepped => System.step_work stepped
  rwa [System.sum_indicator, System.sum_services] at spent

namespace Slot

theorem ready_run : Run System.step Any start discovery ready := by
  have done : exec System.step start discovery = some ready := by simp only [ready, Option.some_get]
  exact .of_exec done

/-- One service is listed to one coroutine, and the three turns are all taken. -/
theorem discovery_bounded : ready.work + System.resumes discovery ≤
    start.work + (System.detects discovery + 2 * (System.listed discovery).length) :=
  scans_bounded ready_run

example : System.resumes discovery = 3 ∧
    System.detects discovery + 2 * (System.listed discovery).length = 3 := by decide

end Slot

namespace Effect

theorem question_beside : Beside isQuestion where
  get _ := rfl
  identified _ _ _ := rfl
  register call type member := by
    simp only [isQuestion, member, registerMethod]
    split <;> decide
  ownEID _ _ _ := rfl
  matched _ := rfl

theorem Reception.not_question {effect : Effect} (reception : effect.Reception) :
    effect.isQuestion = false := by
  cases reception with
  | inspected => rfl
  | delivery delivery =>
      cases delivery with
      | read read => exact question_beside.read read
      | _ => rfl

theorem Sending.not_question {effect : Effect} (sending : effect.Sending) :
    effect.isQuestion = false := by
  cases sending with
  | asked request destination devID => cases request <;> rfl
  | _ => rfl

end Effect

namespace MCTPImpl

/-- The questions asked so far. -/
def asked (s : MCTPImpl) : Nat := s.trace.countP Effect.isQuestion

theorem asked_of_history {s t : MCTPImpl}
    (same : history Effect.isQuestion t = history Effect.isQuestion s) : t.asked = s.asked := by
  rw [asked, asked, List.countP_eq_length_filter, List.countP_eq_length_filter]
  exact congrArg List.length same

theorem Emits.asked_eq {allowed : Effect → Prop} {s t : MCTPImpl} (emits : Emits allowed s t)
    (never : ∀ effect, allowed effect → effect.isQuestion = false) : t.asked = s.asked :=
  asked_of_history (emits.history_eq never)

theorem emit_question (s : MCTPImpl) (call : MethodCall)
    (question : (Effect.call call).isQuestion = true) : (s.emit (.call call)).asked = s.asked + 1 := by
  simp [asked, emit, question]

/-- A coroutine that waits has asked. -/
def Asks (s : MCTPImpl) (outcome : Progress × MCTPImpl) : Prop :=
  match outcome.1 with
  | .suspended _ => outcome.2.asked = s.asked + 1
  | _ => outcome.2.asked = s.asked

theorem finishDetect_asked (env : Env) (s : MCTPImpl) : (finishDetect env s).2.asked = s.asked :=
  (finishDetect_reports env s).emits.asked_eq fun _ => Effect.question_beside.finishing

theorem finishDetect_asks (env : Env) (s : MCTPImpl) : Asks s (finishDetect env s) := by
  unfold Asks
  split
  · rename_i scan suspended
    exact absurd suspended (finishDetect_not_suspended env s scan)
  · exact finishDetect_asked env s

theorem buildMatchingEndpointMap_asks (env : Env) (eids : EndpointMapExtended) (buses : List Bus)
    (s : MCTPImpl) : Asks s (buildMatchingEndpointMap env eids buses s) := by
  unfold buildMatchingEndpointMap
  split
  · exact finishDetect_asks env { s with endpointMap := eids }
  · exact emit_question s _ rfl

theorem Asks.of_eq {s t : MCTPImpl} {outcome : Progress × MCTPImpl} (asks : Asks t outcome)
    (same : t.asked = s.asked) : Asks s outcome := by
  unfold Asks at asks ⊢
  rwa [← same]

theorem findBuses_asks (env : Env) (buses : List Bus) (services : List String) (s : MCTPImpl) :
    Asks s (findBuses env buses services s) := by
  obtain ⟨_, read, reads, outcome⟩ := findBuses_cases env buses services s
  have same : read.asked = s.asked :=
    reads.emits_of_busId.asked_eq fun _ => Effect.question_beside.read
  rcases outcome with built | ⟨_, service, _, asked⟩
  · rw [built]
    exact (buildMatchingEndpointMap_asks env ∅ buses _).of_eq same
  · rw [asked]
    exact (emit_question read (getNameOwner service) rfl).trans (by rw [same])

theorem resume_asks {env : Env} {scan : Scan} {reply : Reply} {s : MCTPImpl}
    {outcome : Progress × MCTPImpl} (resumed : resume env scan reply s = some outcome) :
    Asks s outcome := by
  cases resume_resumes resumed with
  | unlisted failed => exact finishDetect_asks env { s with isInitialisationsDone := true }
  | listed services => exact findBuses_asks env [] services s
  | owned buses service rest reply name matched =>
      have unasked := matchService_history Effect.question_beside s name
      exact (findBuses_asks env buses rest _).of_eq (asked_of_history unasked)
  | skipped eids bus rest failed => exact buildMatchingEndpointMap_asks env eids rest s
  | scanned eids bus rest values =>
      refine (buildMatchingEndpointMap_asks env _ rest _).of_eq ?_
      exact (scanService_emits env bus values eids s).asked_eq fun _ => Effect.question_beside.lookup

/-- No signal asks anything. -/
theorem onMCTPEvent_asked (env : Env) (msg : Message) (s : MCTPImpl) :
    (onMCTPEvent env msg s).2.asked = s.asked :=
  asked_of_history ((history_alongEvent Effect.question_beside
    fun _ => Effect.Reception.not_question).event env msg s)

end MCTPImpl

namespace System

/-- A coroutine is taken up by the answer to its question, and asks again or is gone. -/
theorem step_asked {s t : System} {label : Label} (stepped : s.step label = some t) :
    t.lib.asked + s.scans.length =
      s.lib.asked + (if label.isResume then 1 else 0) + t.scans.length := by
  have aside : ∀ {lib : MCTPImpl}, lib.asked = s.lib.asked →
      lib.asked + s.scans.length = s.lib.asked + 0 + s.scans.length := fun quiet => by
    rw [quiet, Nat.add_zero]
  cases label with
  | detect =>
      cases stepped
      have question := MCTPImpl.emit_question { s.lib with mctpChangesWatch := true }
        (getObject (bindingToInterface s.lib.config.bindingType)) rfl
      have same : MCTPImpl.asked { s.lib with mctpChangesWatch := true } = s.lib.asked := rfl
      rw [same] at question
      simp only [MCTPImpl.detectMctpEndpoints, question, Label.isResume, Bool.false_eq_true,
        ↓reduceIte, List.length_append, List.length_cons, List.length_nil]
      omega
  | resume index env reply =>
      obtain ⟨scan, others, progress, waiting, resumed, left⟩ := step_resume_perm stepped
      have asks := MCTPImpl.resume_asks resumed
      have before := waiting.length_eq
      rw [List.length_cons] at before
      simp only [Label.isResume, ↓reduceIte]
      rcases left with ⟨next, rfl, scans⟩ | ⟨ec, rfl, scans⟩
      · have after := scans.length_eq
        rw [List.length_cons] at after
        have question : t.lib.asked = s.lib.asked + 1 := asks
        omega
      · have quiet : t.lib.asked = s.lib.asked := asks
        rw [scans]
        omega
  | signal env msg =>
      obtain ⟨_, _, rfl⟩ := step_signal stepped
      exact aside (MCTPImpl.onMCTPEvent_asked env msg s.lib)
  | body =>
      obtain ⟨body, rest, _, rfl⟩ := step_body stepped
      obtain ⟨_, _, same⟩ := MCTPImpl.runSpawned_eq body rest s.lib
      exact aside (by rw [same]; simp [MCTPImpl.asked, Effect.isQuestion])
  | registerResponder env specVersion =>
      rw [step_registerResponder stepped]
      obtain ⟨_, registered⟩ := MCTPImpl.registerResponder_reports env specVersion s.lib
      exact aside (registered.emits.asked_eq fun _ => Effect.question_beside.registration)
  | getOwnEIDs env callback =>
      cases stepped
      obtain ⟨_, reported⟩ := MCTPImpl.getOwnEIDs_reports env callback s.lib
      exact aside (reported.emits.asked_eq fun _ => Effect.question_beside.ownReport)
  | setExtendedReceiveCallback callback =>
      cases stepped
      refine aside ?_
      dsimp only [MCTPImpl.setExtendedReceiveCallback]
      split <;> rfl
  | send request devID =>
      cases stepped
      exact aside ((MCTPImpl.send_reports request devID s.lib).emits.asked_eq
        fun _ => Effect.Sending.not_question)

end System

/-- At any time of any run the questions asked are those answered and one for each
coroutine that waits: none is asked in vain, and none is taken up unasked. -/
theorem questions_answered {s t : System} {labels : List Label}
    (run : Run System.step Any s labels t) :
    t.lib.asked + s.scans.length = s.lib.asked + System.resumes labels + t.scans.length := by
  have booked := run.balanced (fun state => state.lib.asked) (fun state => state.scans.length) _
    fun _ _ _ _ stepped => System.step_asked stepped
  rwa [System.sum_indicator] at booked

namespace Slot

theorem discovery_questions : ready.lib.asked + start.scans.length =
    start.lib.asked + System.resumes discovery + ready.scans.length :=
  questions_answered ready_run

end Slot

/-- A reply to the question the coroutine waits at. -/
def Scan.answeredBy : Scan → Reply → Bool
  | .getObject, .object _ => true
  | .getNameOwner _ _ _, .nameOwner _ => true
  | .getManagedObjects _ _ _, .managedObjects _ => true
  | _, _ => false

def Scan.isUnlisted : Scan → Bool
  | .getObject => true
  | _ => false

namespace MCTPImpl

theorem resume_isSome (env : Env) (scan : Scan) (reply : Reply) (s : MCTPImpl) :
    (resume env scan reply s).isSome = scan.answeredBy reply := by
  unfold resume Scan.answeredBy
  cases scan <;> cases reply <;> try rfl
  all_goals rename_i answer; cases answer <;> rfl

theorem buildMatchingEndpointMap_ended (env : Env) (eids : EndpointMapExtended)
    (buses : List Bus) (s : MCTPImpl) :
    (∃ scan, (buildMatchingEndpointMap env eids buses s).1 = .suspended scan ∧
        scan.isUnlisted = false) ∨
      Ended s.config (buildMatchingEndpointMap env eids buses s) := by
  unfold buildMatchingEndpointMap
  split
  · exact .inr (finishDetect_ended env { s with endpointMap := eids })
  · exact .inl ⟨_, rfl, rfl⟩

theorem findBuses_ended (env : Env) (buses : List Bus) (services : List String) (s : MCTPImpl) :
    (∃ scan, (findBuses env buses services s).1 = .suspended scan ∧ scan.isUnlisted = false) ∨
      Ended s.config (findBuses env buses services s) := by
  obtain ⟨_, read, reads, outcome⟩ := findBuses_cases env buses services s
  rcases outcome with built | ⟨_, _, _, asked⟩
  · rw [built, ← reads.config_eq]
    exact buildMatchingEndpointMap_ended env ∅ buses { read with isInitialisationsDone := true }
  · rw [asked]
    exact .inl ⟨_, rfl, rfl⟩

/-- A coroutine taken up waits past the lookup of the services, or is done. -/
theorem resume_ended {env : Env} {scan : Scan} {reply : Reply} {s : MCTPImpl}
    {outcome : Progress × MCTPImpl} (resumed : resume env scan reply s = some outcome) :
    (∃ next, outcome.1 = .suspended next ∧ next.isUnlisted = false) ∨ Ended s.config outcome := by
  cases resume_resumes resumed with
  | unlisted failed => exact .inr (finishDetect_ended env { s with isInitialisationsDone := true })
  | listed services => exact findBuses_ended env [] services s
  | owned buses service rest reply name matched =>
      rw [← matchService_config s name]
      exact findBuses_ended env buses rest _
  | skipped eids bus rest failed => exact buildMatchingEndpointMap_ended env eids rest s
  | scanned eids bus rest values =>
      obtain ⟨_, _, _, _, same⟩ := scanService_emits env bus values eids s
      have built := buildMatchingEndpointMap_ended env (scanService env bus values eids s).1 rest
        (scanService env bus values eids s).2
      have config : (scanService env bus values eids s).2.config = s.config := by rw [same]
      rwa [config] at built

end MCTPImpl

namespace System

/-- No coroutine waits and no body is outstanding. -/
def AtRest (s : System) : Prop := s.scans = [] ∧ s.lib.spawned = []

/-- The label takes up a coroutine with an answer to its question, or runs a body. -/
def Serves (s : System) : Label → Prop
  | .resume index _ reply => ∃ scan, s.scans[index]? = some scan ∧ scan.answeredBy reply = true
  | .body => s.lib.spawned ≠ []
  | _ => False

/-- The coroutines whose services are not listed come first: each can bring any
number of them. -/
def remaining (s : System) : Nat × Nat :=
  (s.scans.countP Scan.isUnlisted, s.work + s.lib.spawned.length)

def Less : Nat × Nat → Nat × Nat → Prop := Prod.Lex (· < ·) (· < ·)

theorem less_founded : WellFounded Less := WellFounded.prod_lex Nat.lt_wfRel.wf Nat.lt_wfRel.wf

/-- A coroutine that is answered is taken up. -/
theorem answered_steps {s : System} (vendor : s.lib.config.VendorSet) {index : Nat} {env : Env}
    {reply : Reply} (serves : s.Serves (.resume index env reply)) :
    ∃ t, s.step (.resume index env reply) = some t := by
  obtain ⟨scan, waiting, answered⟩ := serves
  rw [← MCTPImpl.resume_isSome env scan reply s.lib] at answered
  obtain ⟨⟨progress, lib⟩, resumed⟩ := Option.isSome_iff_exists.mp answered
  simp only [step, waiting, resumed, Option.bind_some]
  cases progress with
  | suspended next => exact ⟨_, rfl⟩
  | returned ec => exact ⟨_, rfl⟩
  | raised fault =>
      rcases MCTPImpl.resume_ended resumed with ⟨_, suspended, _⟩ | ⟨_, reads⟩ | ⟨returned, _⟩
      · cases suspended
      · exact absurd vendor reads.unset
      · cases returned

/-- No services are listed but in answer to the question for them. -/
theorem services_of_listed {env : Env} {scan : Scan} {reply : Reply} {s : MCTPImpl}
    {outcome : Progress × MCTPImpl} (resumed : MCTPImpl.resume env scan reply s = some outcome)
    (listed : scan.isUnlisted = false) : reply.services = [] := by
  cases scan with
  | getObject => cases listed
  | getNameOwner | getManagedObjects => cases reply <;> first | rfl | cases resumed

/-- A coroutine that is taken up has its services listed from then on. -/
theorem unlisted_after {env : Env} {scan : Scan} {reply : Reply} {s : MCTPImpl}
    {outcome : Progress × MCTPImpl} (resumed : MCTPImpl.resume env scan reply s = some outcome)
    {next : Scan} (suspended : outcome.1 = .suspended next) : next.isUnlisted = false := by
  rcases MCTPImpl.resume_ended resumed with ⟨_, same, past⟩ | ⟨raised, _⟩ | ⟨returned, _⟩
  · cases suspended.symm.trans same
    exact past
  · cases suspended.symm.trans raised
  · cases suspended.symm.trans returned

theorem resume_less {s t : System} {index : Nat} {env : Env} {reply : Reply}
    (stepped : s.step (.resume index env reply) = some t) : Less t.remaining s.remaining := by
  obtain ⟨scan, others, progress, before, resumed, left⟩ := step_resume_perm stepped
  have counted := before.countP_eq Scan.isUnlisted
  have worked := (before.map Scan.work).sum_eq
  rw [List.countP_cons] at counted
  simp only [List.map_cons, List.sum_cons] at worked
  have listed : t.scans.countP Scan.isUnlisted = others.countP Scan.isUnlisted := by
    rcases left with ⟨next, rfl, scans⟩ | ⟨ec, _, scans⟩
    · rw [scans.countP_eq, List.countP_cons, unlisted_after resumed rfl]
      rfl
    · rw [scans]
  have after : t.work = progress.work + (others.map Scan.work).sum := by
    rcases left with ⟨next, rfl, scans⟩ | ⟨ec, rfl, scans⟩
    · simpa [work, Progress.work] using (scans.map Scan.work).sum_eq
    · simp [work, Progress.work, scans]
  cases unlisted : scan.isUnlisted with
  | true =>
      refine Prod.Lex.left _ _ ?_
      rw [listed, counted, unlisted]
      simp
  | false =>
      have same : t.scans.countP Scan.isUnlisted = s.scans.countP Scan.isUnlisted := by
        rw [listed, counted, unlisted]
        simp
      have used := MCTPImpl.resume_work resumed
      rw [services_of_listed resumed unlisted, List.length_nil] at used
      rw [remaining, remaining, same]
      refine Prod.Lex.right _ ?_
      rw [after, MCTPImpl.resume_spawned resumed, work, worked]
      omega

theorem serves_resume {s : System} (vendor : s.lib.config.VendorSet) {index : Nat} {env : Env}
    {reply : Reply} (serves : s.Serves (.resume index env reply)) :
    ∃ t, s.step (.resume index env reply) = some t ∧ Less t.remaining s.remaining := by
  obtain ⟨t, stepped⟩ := answered_steps vendor serves
  exact ⟨t, stepped, resume_less stepped⟩

theorem serves_body {s : System} (serves : s.Serves .body) :
    ∃ t, s.step .body = some t ∧ Less t.remaining s.remaining := by
  obtain ⟨body, rest, queued⟩ := List.exists_cons_of_ne_nil serves
  refine ⟨{ s with lib := MCTPImpl.runSpawned body { s.lib with spawned := rest } },
    by simp only [step, queued], ?_⟩
  refine Prod.Lex.right _ ?_
  rw [MCTPImpl.runSpawned_spawned, queued, List.length_cons, work, work]
  exact Nat.lt_succ_self _

end System

/-- Whatever order the coroutines and bodies are taken up in, and whatever the bus
answers, the library comes to rest: none of them waits for what never comes. -/
theorem comes_to_rest (pick : System → Label) (s : System) (vendor : s.lib.config.VendorSet)
    (serves : ∀ state : System, ¬ state.AtRest → state.Serves (pick state)) :
    ∃ labels t, Run System.step (fun state label => label = pick state ∧ state.Serves label)
      s labels t ∧ t.AtRest := by
  refine Run.reaches System.less_founded System.remaining
    (fun state => state.lib.config.VendorSet) System.AtRest ?_ vendor
  intro state vendor busy
  have served := serves state busy
  obtain ⟨t, stepped, less⟩ :
      ∃ t, state.step (pick state) = some t ∧ System.Less t.remaining state.remaining := by
    cases picked : pick state with
    | resume index env reply => exact System.serves_resume vendor (picked ▸ served)
    | body => exact System.serves_body (picked ▸ served)
    | _ =>
        rw [picked] at served
        exact served.elim
  have config : t.lib.config = state.lib.config :=
    MCTPImpl.config_of_settings (System.step_settings stepped)
  exact ⟨pick state, t, ⟨rfl, served⟩, stepped, by rwa [config], less⟩

namespace Slot

/-- The first coroutine, else the first body, with a bus that lists nothing. -/
def inTurn (s : System) : Label :=
  match s.scans with
  | [] => .body
  | .getObject :: _ => .resume 0 env (.object (.ok []))
  | .getNameOwner _ _ _ :: _ => .resume 0 env (.nameOwner (.ok owner))
  | .getManagedObjects _ _ _ :: _ => .resume 0 env (.managedObjects (.ok []))

theorem inTurn_serves (s : System) (busy : ¬ s.AtRest) : s.Serves (inTurn s) := by
  unfold inTurn
  split
  · rename_i none
    exact fun quiet => busy ⟨none, quiet⟩
  all_goals
    rename_i waiting
    exact ⟨_, by rw [waiting]; rfl, rfl⟩

/-- A library for VDPCI that registers a responder, with an endpoint announced whose body
has not run, while a second discovery asks for the owner of the service. -/
def unsettling : List Label :=
  discovery ++ [.registerResponder env [⟨0xF1, 0xF0, 0xF1, 0⟩],
    .signal env ⟨owner, .interfacesAdded path
      [(endpointInterface, []), (supportedMessageTypes, [("VDPCI", .bool true)])]⟩,
    .detect, .resume 0 env (.object (.ok [service]))]

def unsettled : System :=
  (exec System.step (.construct .little vendorConfig true false) unsettling).get (by decide)

theorem unsettled_rests : ∃ labels t,
    Run System.step (fun state label => label = inTurn state ∧ state.Serves label) unsettled labels t ∧
      t.AtRest :=
  comes_to_rest inTurn unsettled (fun _ => ⟨rfl, rfl⟩) inTurn_serves

example : unsettled.scans.length = 1 ∧ unsettled.lib.spawned.length = 1 := by decide

end Slot

end Mctpw
