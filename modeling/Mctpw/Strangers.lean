import Mctpw.System

set_option autoImplicit false

/- What a sender outside matchedBuses can do: nothing. -/
namespace Mctpw

open Runs

/-- A signal sent by `sender`. -/
def Label.sentBy (sender : String) : Label → Bool
  | .signal _ msg => msg.sender = sender
  | _ => false

/-- The name is in matchedBuses neither before nor after the step. -/
def Outside (sender : String) (s : System) (label : Label) : Prop :=
  sender ∉ s.lib.matchedBuses ∧
    ∀ t, s.step label = some t → sender ∉ t.lib.matchedBuses

namespace MCTPImpl

variable {env : Env} {sender : String} {s : MCTPImpl}

/-- The base object branch is ahead of the sender check, but it matches the
sender it takes. -/
theorem onNewInterface_unmatched {objectPath : String} {values : Interfaces}
    (before : sender ∉ s.matchedBuses)
    (after : sender ∉ (onNewInterface env sender objectPath values s).2.matchedBuses) :
    onNewInterface env sender objectPath values s = (.ok (), s) := by
  unfold onNewInterface at after ⊢
  split at after
  · split at after
    · obtain ⟨_, _, same⟩ := onNewService_reports env sender s
      rw [same] at after
      change sender ∉ (s.matchService sender).matchedBuses at after
      rw [matchService_matchedBuses] at after
      exact absurd (Finset.mem_insert_self sender s.matchedBuses) after
    · simp_all
  · rename_i elsewhere
    rw [if_neg elsewhere, if_pos before]

/-- Handling a signal of a sender that is not matched, and is not matched by it,
is doing nothing. -/
theorem onMCTPEvent_unmatched {signal : Signal} (before : sender ∉ s.matchedBuses)
    (after : sender ∉ (onMCTPEvent env ⟨sender, signal⟩ s).2.matchedBuses) :
    onMCTPEvent env ⟨sender, signal⟩ s = (.ok (), s) := by
  unfold onMCTPEvent at after ⊢
  split
  · rfl
  · rename_i opened
    rw [if_neg opened] at after
    cases signal with
    | interfacesAdded objectPath values => exact onNewInterface_unmatched before after
    | interfacesRemoved objectPath interfaces => rfl
    | messageReceived messageType srcEid msgTag tagOwner payload => rfl
    | propertiesChanged intfName propertiesChanged => rfl
    | other member => rfl

end MCTPImpl

/-- A signal of an outsider leaves the library as it was. -/
theorem outsider_idle {sender : String} {s t : System} {label : Label}
    (outside : Outside sender s label) (sent : label.sentBy sender = true)
    (stepped : s.step label = some t) : t = s := by
  have after := outside.2 t stepped
  cases label with
  | signal env msg =>
      obtain ⟨_, _, rfl⟩ := System.step_signal stepped
      obtain ⟨author, signal⟩ := msg
      have same : author = sender := by simpa [Label.sentBy] using sent
      subst same
      rw [MCTPImpl.onMCTPEvent_unmatched outside.1 after]
  | _ => cases sent

/-- A run without the signals of a sender that never is in matchedBuses passes
through the same states, its history of callbacks and calls included. -/
theorem strangers_inert {host : ByteOrder.Endian} {config : MCTPConfiguration}
    {networkChangeCb rxCb : Bool} {stranger : String} {labels : List Label} {s : System}
    (run : Run System.step (Outside stranger) (.construct host config networkChangeCb rxCb) labels s)
    (before after : List Label) (split : labels = before ++ after) :
    ∃ t, Run System.step Any (.construct host config networkChangeCb rxCb) before t ∧
      Run System.step Any (.construct host config networkChangeCb rxCb)
        (before.filter fun label => !label.sentBy stranger) t := by
  subst split
  obtain ⟨middle, front, _⟩ := run.append_inv
  obtain ⟨t, others, rfl⟩ := front.simulates Eq (fun label => !label.sentBy stranger) rfl
    (by
      rintro state _ label next rfl _ _ stepped
      exact ⟨next, stepped, rfl⟩)
    (by
      rintro state _ label next rfl outside hidden stepped
      exact outsider_idle outside (by simpa using hidden) stepped)
  exact ⟨middle, front.mono fun _ _ _ => trivial, others⟩

namespace Slot

def stranger : String := ":1.66"

/-- Signals of every kind from a connection that is not matched. -/
def intrusions : List Label :=
  [.signal env ⟨stranger, .interfacesAdded path object⟩,
    .signal env ⟨stranger, .interfacesRemoved path [supportedMessageTypes]⟩,
    .signal env ⟨stranger, .interfacesRemoved basePath [baseInterface]⟩,
    .signal env ⟨stranger, .messageReceived 0x01 8 0 true [0x01]⟩,
    .signal env ⟨stranger, .propertiesChanged baseInterface [("Eid", .uint8 9)]⟩]

/-- The intrusions leave a discovery as it would have been. -/
theorem strangers_inert_discovery :
    ∃ t, Run System.step Any start (discovery ++ intrusions) t ∧
      Run System.step Any start
        ((discovery ++ intrusions).filter fun label => !label.sentBy stranger) t := by
  have run : Run System.step (Outside stranger) start (discovery ++ intrusions) ready := by
    have outside : ∀ {s t : System} {label : Label}, s.step label = some t →
        stranger ∉ s.lib.matchedBuses → stranger ∉ t.lib.matchedBuses →
        Outside stranger s label := by
      intro s t label stepped before after
      refine ⟨before, ?_⟩
      intro other same
      cases stepped.symm.trans same
      exact after
    iterate 9 refine .cons (outside rfl (by decide) (by decide)) rfl ?_
    exact .nil
  exact strangers_inert run (discovery ++ intrusions) [] (List.append_nil _).symm

example : (discovery ++ intrusions).filter (fun label => !label.sentBy stranger) = discovery := rfl

end Slot

end Mctpw
