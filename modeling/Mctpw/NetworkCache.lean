import Mctpw.Calls
import Mctpw.Identity

set_option autoImplicit false

/- The network id of a service is read once. -/
namespace Mctpw

open Runs

/-- Neither another read of the service's network id, nor a DeviceID of the
service on another network. -/
def OnNetwork (service : String) (networkID : UInt8) (effect : Effect) : Prop :=
  effect ≠ .call (networkIDProperty service).get ∧
    ∀ eid device, effect = .identified service eid device → device = DeviceID.make eid networkID

theorem onNetwork_call {service : String} {networkID : UInt8} {call : MethodCall}
    (other : call ≠ (networkIDProperty service).get) : OnNetwork service networkID (.call call) :=
  ⟨fun same => other (Effect.call.inj same), nofun⟩

theorem get_inj {property other : Property} (same : property.get = other.get) :
    property.service = other.service ∧ property.path = other.path ∧
      property.interface = other.interface ∧ property.name = other.name := by
  obtain ⟨service, path, _, _, args⟩ := MethodCall.mk.inj same
  simp only [List.cons.injEq, Argument.string.injEq, and_true] at args
  exact ⟨service, path, args.1, args.2⟩

theorem onNetwork_member {service : String} {networkID : UInt8} {call : MethodCall}
    (other : call.member ≠ "Get") : OnNetwork service networkID (.call call) :=
  onNetwork_call fun same => other (by rw [same]; rfl)

/-- Nothing else the library says asks for a network id. -/
theorem onNetwork_speech (service : String) (networkID : UInt8) :
    Speech (OnNetwork service networkID) (fun _ => True) (fun _ => True) where
  quiet effect silent unformed :=
    ⟨silent _, fun eid device formed => absurd formed (unformed service eid device)⟩
  mapper interface := onNetwork_member (by simp [getObject])
  owner name _ := onNetwork_member (by simp [getNameOwner])
  objects name _ := onNetwork_member (by simp [getManagedObjects])
  read name interface property _ other :=
    onNetwork_call fun same => other (get_inj same).2.2.2
  vendorId name objectPath _ _ := by
    refine onNetwork_call fun same => ?_
    have names : "VendorID" = "NetworkID" := (get_inj same).2.2.2
    exact absurd names (by decide)
  messageType name objectPath _ _ := by
    refine onNetwork_call fun same => ?_
    have names : "MessageTypeProperty" = "NetworkID" := (get_inj same).2.2.2
    exact absurd names (by decide)
  register call _ _ _ member := by
    obtain ⟨type, same⟩ := member
    refine onNetwork_member ?_
    rw [same, registerMethod]
    split <;> decide
  sent request name devID _ := by
    refine onNetwork_member ?_
    cases request <;> exact of_decide_eq_true rfl

theorem onNetwork_networked {service : String} {networkID : UInt8} {s : MCTPImpl}
    (learned : s.networkIDCache.find service = some networkID) :
    s.Networked (OnNetwork service networkID) (fun _ => True) where
  asked other _ missed := by
    refine onNetwork_call fun same => ?_
    have names : other = service := (get_inj same).1
    rw [names, learned] at missed
    cases missed
  formed env other eid _ := by
    refine ⟨nofun, ?_⟩
    rintro _ _ ⟨⟩
    have known : (MCTPImpl.getNetworkID env service s).1 = networkID := by
      simp only [MCTPImpl.getNetworkID, learned]
    rw [known]

/-- A network id that is known is known for good. Whatever happens from then on, it
is not read again, and every DeviceID formed for the service is on its network. -/
theorem network_learned_once {s t : System} {labels : List Label} {service : String}
    {networkID : UInt8} (run : Run System.step Any s labels t)
    (learned : s.lib.networkIDCache.find service = some networkID) :
    t.lib.networkIDCache.find service = some networkID ∧
      ∃ later, t.lib.trace = s.lib.trace ++ later ∧
        ∀ effect ∈ later, OnNetwork service networkID effect := by
  have grown : MCTPImpl.Grows (OnNetwork service networkID) s.lib t.lib := by
    refine run.invariant (fun state => MCTPImpl.Grows _ s.lib state.lib) (.refl s.lib) ?_
    intro state label next grows _ stepped
    have still := grows.remembers service networkID learned
    exact grows.trans (System.step_speaks (onNetwork_speech service networkID)
      (onNetwork_networked still) (System.anything_acquainted state) (fun _ _ => trivial)
      (fun _ _ => trivial) stepped).1
  obtain ⟨later, fine, trace⟩ := grown.trace
  exact ⟨grown.remembers service networkID learned, later, trace, fine⟩

namespace Slot

/-- Discovered once more, on a service that the first discovery found out to be on network 7. -/
def rediscovered : System := (exec System.step networkReady networkDiscovery).get (by decide)

theorem network_learned_once_rediscovered :
    rediscovered.lib.networkIDCache.find service = some 7 ∧
      ∃ later, rediscovered.lib.trace = networkReady.lib.trace ++ later ∧
        ∀ effect ∈ later, OnNetwork service 7 effect := by
  have done : exec System.step networkReady networkDiscovery = some rediscovered := by
    simp only [rediscovered, Option.some_get]
  exact network_learned_once (.of_exec done) (by decide)

example : .identified service 8 (DeviceID.make 8 7) ∈
    rediscovered.lib.trace.drop networkReady.lib.trace.length := by decide

end Slot

end Mctpw
