import Mctpw.Registration

set_option autoImplicit false

/- What the status of registerResponder says about the services it went through. -/
namespace Mctpw

open Runs

namespace MCTPImpl

/-- The service's registration call is made and answered with true. -/
def Registers (env : Env) (s : MCTPImpl) (serviceName : String) : Prop :=
  ∃ call, s.registerCall serviceName = .ok call ∧ env.register call = .reply true

variable (env : Env) {s : MCTPImpl}

theorem registerResponderService_success_iff (versions : s.responderVersions.isEmpty = false)
    (serviceName : String) :
    (registerResponderService env serviceName s).1 = .ok .success ↔ Registers env s serviceName := by
  unfold registerResponderService Registers
  rw [versions]
  cases s.registerCall serviceName with
  | error fault => simp
  | ok call => cases answer : env.register call with
    | reply rc => cases rc <;> simp [answer]
    | methodError => simp [answer]
    | raised => simp [answer]

/-- A call is made to every service or to none. -/
theorem registerCall_error {serviceName : String} {fault : Fault}
    (failed : s.registerCall serviceName = .error fault) (other : String) :
    s.registerCall other = .error fault := by
  unfold registerCall at failed ⊢
  split
  · rename_i vdpci
    rw [if_pos vdpci] at failed
    split at failed
    · cases failed
    · exact failed
  · rename_i vdpci
    rw [if_neg vdpci] at failed
    cases failed

/-- The services left to go do not change what a service answers. -/
theorem registers_congr {t : MCTPImpl} {allowed : Effect → Prop} (reports : Reports allowed s t)
    (serviceName : String) : Registers env t serviceName ↔ Registers env s serviceName := by
  obtain ⟨_, _, rfl⟩ := reports
  rfl

/-- The loop ends in success exactly when its last service registers. -/
theorem registerServices_success_iff (versions : s.responderVersions.isEmpty = false)
    (services : List String) (status : ErrorCode) :
    (registerServices env services status s).1 = .ok .success ↔
      match services.getLast? with
      | none => status = .success
      | some last => Registers env s last := by
  induction services generalizing s status with
  | nil => simp [registerServices]
  | cons serviceName rest ih =>
      have reports := registerResponderService_reports env serviceName s
      have kept : (registerResponderService env serviceName s).2.responderVersions.isEmpty = false := by
        obtain ⟨_, _, same⟩ := reports
        rw [same]
        exact versions
      have first := registerResponderService_success_iff env versions serviceName
      unfold registerServices
      dsimp only
      split
      · rename_i fault failed
        -- No call can be built at all, so the last service gets none either.
        have refused : ∀ name, ¬ Registers env s name := by
          rintro name ⟨call, made, _⟩
          unfold registerResponderService at failed
          rw [versions] at failed
          simp only [Bool.false_eq_true, ↓reduceIte] at failed
          split at failed
          · rename_i fault' error
            rw [registerCall_error error name] at made
            cases made
          · cases failed
        rw [List.getLast?_cons]
        simp [refused]
      · rename_i status' answered
        rw [ih kept status', List.getLast?_cons]
        cases rest.getLast? with
        | none =>
            rw [answered] at first
            simpa using first
        | some last => exact registers_congr env reports last

theorem registerResponder_success_iff {specVersion : List VersionFields}
    (versions : specVersion ≠ []) :
    (registerResponder env specVersion s).1 = .ok .success ↔
      ∀ last ∈ (env.order s.matchedBuses).getLast?,
        Registers env { s with responderVersions := specVersion } last := by
  have nonempty : specVersion.isEmpty = false := by
    simpa [List.isEmpty_eq_false_iff] using versions
  unfold registerResponder
  rw [nonempty]
  simp only [Bool.false_eq_true, ↓reduceIte]
  rw [registerServices_success_iff env nonempty]
  cases (env.order s.matchedBuses).getLast? <;> simp

/-- The status tells whether every matched service registered exactly when a
failure anywhere implies one at the service visited last. -/
theorem registerResponder_status_iff (s : MCTPImpl) {specVersion : List VersionFields}
    (versions : specVersion ≠ []) :
    ((registerResponder env specVersion s).1 = .ok .success ↔
        ∀ service ∈ s.matchedBuses,
          Registers env { s with responderVersions := specVersion } service) ↔
      ((∃ service ∈ s.matchedBuses,
          ¬ Registers env { s with responderVersions := specVersion } service) →
        ∃ last ∈ (env.order s.matchedBuses).getLast?,
          ¬ Registers env { s with responderVersions := specVersion } last) := by
  rw [registerResponder_success_iff env versions]
  constructor
  · rintro exactly ⟨service, matched, failed⟩
    by_contra every
    push Not at every
    exact failed (exactly.mp every service matched)
  · intro last
    constructor
    · intro every service matched
      by_contra failed
      obtain ⟨name, visited, failed'⟩ := last ⟨service, matched, failed⟩
      exact failed' (every name visited)
    · intro all name visited
      exact all name ((env.order_mem _ _).mp (List.mem_of_getLast? visited))

end MCTPImpl

namespace Slot

def neighbour : String := ":1.8"

/-- The library once it has discovered two services. -/
def both : System :=
  (exec System.step start
    [.detect, .resume 0 env (.object (.ok [service, "xyz.openbmc_project.mctp_other"])),
      .resume 0 env (.nameOwner (.ok owner)), .resume 0 env (.nameOwner (.ok neighbour)),
      .resume 0 env (.managedObjects (.ok [])),
      .resume 0 env (.managedObjects (.ok []))]).get (by decide)

/-- The first service visited answers with a D-Bus error. -/
def refusing : Env :=
  { env with
    register := fun call => if call.destination = owner then .methodError else .reply true }

/-- One refusal goes unreported behind a success. -/
theorem registerResponder_refusal_lost :
    both.Reachable ∧
      ¬ ((MCTPImpl.registerResponder refusing [version] both.lib).1 = .ok .success ↔
        ∀ service ∈ both.lib.matchedBuses,
          MCTPImpl.Registers refusing { both.lib with responderVersions := [version] } service) := by
  have done : exec System.step start
      [.detect, .resume 0 env (.object (.ok [service, "xyz.openbmc_project.mctp_other"])),
        .resume 0 env (.nameOwner (.ok owner)), .resume 0 env (.nameOwner (.ok neighbour)),
        .resume 0 env (.managedObjects (.ok [])), .resume 0 env (.managedObjects (.ok []))] =
      some both := by
    simp only [both, Option.some_get]
  refine ⟨.of_exec done, ?_⟩
  intro exactly
  obtain ⟨call, made, answer⟩ := exactly.mp (by decide) owner (by decide)
  cases made
  revert answer
  decide

/-- When every service registers, success is what is reported. -/
theorem registerResponder_status_all :
    (MCTPImpl.registerResponder env [version] both.lib).1 = .ok .success ↔
      ∀ service ∈ both.lib.matchedBuses,
        MCTPImpl.Registers env { both.lib with responderVersions := [version] } service := by
  refine (MCTPImpl.registerResponder_status_iff env both.lib (by decide)).mpr ?_
  rintro ⟨service, _, failed⟩
  exact absurd ⟨_, rfl, rfl⟩ failed

end Slot

end Mctpw
