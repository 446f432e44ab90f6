import Mctpw.HotPlug
import Mctpw.Identity
import Mctpw.Network

set_option autoImplicit false

/- The bus and the notes on their way agree on every endpoint, and a note does
to the library what it asks for, or nothing. -/
namespace Mctpw

open Runs Strings Feed DeferredSet

/-- The notes on their way turn what the library has been told of each endpoint
into what is there. -/
structure Consistent (network : Network) (w : World) (told : UInt8 → Bool) : Prop where
  endpoints : ∀ eid values, w.objects eid = some values →
    (values.lookup endpointInterface).isSome ∧ network.home eid ∈ w.present
  fits : ∀ eid, Proper (network.tells eid) (network.Fits eid) (told eid)
    (w.queue (network.home eid))
  current : ∀ eid, (w.queue (network.home eid)).foldl (network.tells eid) (told eid) =
    network.holds w eid
  homes : ∀ unique note, note ∈ w.queue unique → ∀ eid, note.eid = some eid →
    network.home eid = unique
  announcing : ∀ unique values, .announced values ∈ w.queue unique →
    (values.lookup (bindingToInterface network.config.bindingType)).isSome = network.bound unique ∧
      (∃ rest, w.queue unique = .announced values :: rest ∧ ∀ values', .announced values' ∉ rest) ∧
      ∀ eid, network.home eid = unique → told eid = false
  absent : ∀ unique, unique ∉ w.present → w.queue unique = [] ∧
    ∀ eid, network.home eid = unique → told eid = false

variable {network : Network} {w : World} {told : UInt8 → Bool} {unique : String} {note : Note}

theorem Consistent.of_quiet
    (endpoints : ∀ eid values, w.objects eid = some values →
      (values.lookup endpointInterface).isSome ∧ network.home eid ∈ w.present)
    (quiet : ∀ unique, w.queue unique = []) : Consistent network w (network.holds w) where
  endpoints := endpoints
  fits := fun eid => by simp [quiet, Proper]
  current := fun eid => by simp [quiet]
  homes := fun unique note member => by simp [quiet] at member
  announcing := fun unique values member => by simp [quiet] at member
  absent := by
    intro unique gone
    refine ⟨quiet unique, ?_⟩
    rintro eid rfl
    cases there : w.objects eid with
    | none => simp [Network.holds, there]
    | some values => exact absurd (endpoints eid values there).2 gone

theorem Consistent.congr {v : World} (consistent : Consistent network w told)
    (queue : v.queue = w.queue) (present : v.present = w.present) (objects : v.objects = w.objects) :
    Consistent network v told where
  endpoints := by rw [objects, present]; exact consistent.endpoints
  fits := by rw [queue]; exact consistent.fits
  current := by
    intro eid
    simp only [Network.holds, queue, objects]
    exact consistent.current eid
  homes := by rw [queue]; exact consistent.homes
  announcing := by rw [queue]; exact consistent.announcing
  absent := by rw [queue, present]; exact consistent.absent

/-- A note sent along with the change it tells of. -/
theorem Consistent.push {v : World} (consistent : Consistent network w told)
    (queue : v.queue = Function.update w.queue unique (w.queue unique ++ [note]))
    (present : w.present ⊆ v.present) (here : unique ∈ v.present)
    (endpoints : ∀ eid values, v.objects eid = some values →
      (values.lookup endpointInterface).isSome ∧ network.home eid ∈ v.present)
    (home : ∀ eid, note.eid = some eid → network.home eid = unique)
    (fits : ∀ eid, network.Fits eid (network.holds w eid) note)
    (change : ∀ eid, network.holds v eid = network.tells eid (network.holds w eid) note)
    (first : ∀ values, note = .announced values →
      (values.lookup (bindingToInterface network.config.bindingType)).isSome =
        network.bound unique ∧ unique ∉ w.present) :
    Consistent network v told where
  endpoints := endpoints
  fits := by
    intro eid
    rw [queue]
    by_cases same : network.home eid = unique
    · subst same
      rw [Function.update_self]
      exact (consistent.fits eid).push (by rw [consistent.current]; exact fits eid)
    · rw [Function.update_of_ne same]
      exact consistent.fits eid
  current := by
    intro eid
    rw [queue, change]
    by_cases same : network.home eid = unique
    · subst same
      rw [Function.update_self, List.foldl_append, consistent.current]
      rfl
    · rw [Function.update_of_ne same, consistent.current]
      exact (Network.tells_other (fun about => same (home eid about)) _).symm
  homes := by
    intro other note' member eid about
    rw [queue] at member
    by_cases same : other = unique
    · subst same
      rw [Function.update_self] at member
      rcases List.mem_append.mp member with before | last
      · exact consistent.homes other note' before eid about
      · cases List.mem_singleton.mp last
        exact home eid about
    · rw [Function.update_of_ne same] at member
      exact consistent.homes other note' member eid about
  announcing := by
    intro other values member
    rw [queue] at member ⊢
    by_cases same : other = unique
    · subst same
      rw [Function.update_self] at member ⊢
      rcases List.mem_append.mp member with before | last
      · obtain ⟨binding, ⟨rest, head, once⟩, untold⟩ := consistent.announcing other values before
        refine ⟨binding, ⟨rest ++ [note], by rw [head, List.cons_append], ?_⟩, untold⟩
        intro values' again
        rcases List.mem_append.mp again with inside | last
        · exact once values' inside
        · -- A second announcement would come from a service that was absent.
          obtain ⟨_, gone⟩ := first values' (List.mem_singleton.mp last).symm
          rw [(consistent.absent other gone).1] at head
          cases head
      · obtain ⟨binding, gone⟩ := first values (List.mem_singleton.mp last).symm
        obtain ⟨empty, untold⟩ := consistent.absent other gone
        exact ⟨binding, ⟨[], by rw [empty, ← List.mem_singleton.mp last, List.nil_append],
          by simp⟩, untold⟩
    · rw [Function.update_of_ne same] at member ⊢
      exact consistent.announcing other values member
  absent := by
    intro other gone
    have different : other ≠ unique := fun same => gone (by rw [same]; exact here)
    rw [queue, Function.update_of_ne different]
    exact consistent.absent other fun there => gone (present there)

/-- The note told next says nothing of the endpoints of other services. -/
theorem Consistent.tells_apart {rest : List Note} {eid : UInt8} {held : Bool}
    (consistent : Consistent network w told) (head : w.queue unique = note :: rest)
    (apart : network.home eid ≠ unique) : network.tells eid held note = held :=
  Network.tells_other
    (fun about => apart (consistent.homes unique note (by simp [head]) eid about)) held

/-- A note is told. -/
theorem Consistent.pop {v : World} {rest : List Note} (consistent : Consistent network w told)
    (head : w.queue unique = note :: rest) (queue : v.queue = Function.update w.queue unique rest)
    (present : v.present = w.present) (objects : v.objects = w.objects) :
    Consistent network v fun eid => network.tells eid (told eid) note where
  endpoints := by rw [objects, present]; exact consistent.endpoints
  fits := by
    intro eid
    have before := consistent.fits eid
    rw [queue]
    by_cases same : network.home eid = unique
    · subst same
      rw [head] at before
      rw [Function.update_self]
      exact before.2
    · rw [Function.update_of_ne same, consistent.tells_apart head same]
      exact before
  current := by
    intro eid
    have held : network.holds v eid = network.holds w eid := by simp only [Network.holds, objects]
    have before := consistent.current eid
    rw [queue, held]
    by_cases same : network.home eid = unique
    · subst same
      rw [head] at before
      rw [Function.update_self]
      exact before
    · rw [Function.update_of_ne same, consistent.tells_apart head same]
      exact before
  homes := by
    intro other note' member
    rw [queue] at member
    by_cases same : other = unique
    · subst same
      rw [Function.update_self] at member
      exact consistent.homes other note' (by rw [head]; exact List.mem_cons_of_mem _ member)
    · rw [Function.update_of_ne same] at member
      exact consistent.homes other note' member
  announcing := by
    intro other values member
    rw [queue] at member ⊢
    by_cases same : other = unique
    · -- Only the first note can announce a service, and it has been told.
      subst same
      rw [Function.update_self] at member
      obtain ⟨_, ⟨rest', head', once⟩, _⟩ := consistent.announcing other values
        (by rw [head]; exact List.mem_cons_of_mem _ member)
      rw [head] at head'
      cases head'
      exact absurd member (once values)
    · rw [Function.update_of_ne same] at member ⊢
      obtain ⟨binding, front, untold⟩ := consistent.announcing other values member
      refine ⟨binding, front, ?_⟩
      intro eid home
      rw [← untold eid home]
      exact consistent.tells_apart head (home ▸ same)
  absent := by
    intro other gone
    rw [present] at gone
    obtain ⟨empty, untold⟩ := consistent.absent other gone
    have different : other ≠ unique := by
      rintro rfl
      rw [head] at empty
      cases empty
    rw [queue, Function.update_of_ne different]
    refine ⟨empty, ?_⟩
    intro eid home
    rw [← untold eid home]
    exact consistent.tells_apart head (home ▸ different)

/-- What a note asks of the devices. -/
def Network.request (network : Network) : Note → Option (Request DeviceID)
  | .announced _ => none
  | .added eid values =>
      if network.supports values then some (.insert (DeviceID.make eid 0)) else none
  | .removed eid values =>
      if supportedMessageTypes ∈ values.map Prod.fst then some (.erase (DeviceID.make eid 0))
      else none

/-- What a note does to the library once it is let in. -/
inductive Handled (network : Network) (unique : String) (s t : MCTPImpl) : Note → Prop
  | service (values : Interfaces) : network.bound unique = true →
      t.matchedBuses = insert unique s.matchedBuses → deviceSet 0 t = deviceSet 0 s →
      Handled network unique s t (.announced values)
  | asked (note : Note) (request : Request DeviceID) : unique ∈ s.matchedBuses →
      network.request note = some request → t.matchedBuses = s.matchedBuses →
      deviceSet 0 t = DeferredSet.step (deviceSet 0 s) request → Handled network unique s t note
  | ignored (note : Note) : (network.request note = none ∨ unique ∉ s.matchedBuses) →
      (∀ values, note = .announced values → network.bound unique = false) → t = s →
      Handled network unique s t note

theorem deviceEvents_silent {effects : List Effect} (silent : ∀ effect ∈ effects, effect.Silent) :
    deviceEvents effects = [] := by
  apply List.filterMap_eq_nil_iff.mpr
  intro effect member
  have quiet := silent effect member
  cases effect <;> first | exact quiet.elim | rfl

theorem deviceSet_onNewService (env : Env) (unique : String) (s : MCTPImpl) :
    deviceSet 0 (MCTPImpl.onNewService env unique s).2 = deviceSet 0 s ∧
      (MCTPImpl.onNewService env unique s).2.matchedBuses = insert unique s.matchedBuses := by
  obtain ⟨_, effects, trace, silent⟩ := MCTPImpl.onNewService_quiet env unique s
  obtain ⟨_, _, same⟩ := MCTPImpl.onNewService_reports env unique s
  constructor
  · simp only [deviceSet, List.drop_zero, trace, deviceEvents_append, deviceEvents_silent silent,
      List.append_nil, MCTPImpl.onNewService_endpointMap, MCTPImpl.onNewService_spawned]
  · rw [same]
    exact MCTPImpl.matchService_matchedBuses s unique

/-- The device a path is given on a bus with one network. -/
def Network.idOf (_ objectPath : String) : DeviceID :=
  DeviceID.make ((MCTPImpl.pathEID objectPath).getD 0) 0

theorem getNetworkID_zero (env : Env) (serviceName : String) {s : MCTPImpl}
    (right : CacheRight (fun _ => 0) s) : (MCTPImpl.getNetworkID env serviceName s).1 = 0 := by
  rw [MCTPImpl.getNetworkID_fst]
  cases cached : s.networkIDCache.find serviceName with
  | none => rfl
  | some value => exact right serviceName value cached

theorem getDeviceIDFromPath_network (env : Env) (network : Network) (unique : String)
    (eid : UInt8) {s : MCTPImpl} (right : CacheRight (fun _ => 0) s) :
    (MCTPImpl.getDeviceIDFromPath env (network.path eid) unique s).1 =
      .ok (Network.idOf unique (network.path eid)) := by
  rw [MCTPImpl.getDeviceIDFromPath_fst, network.path_eid, getNetworkID_zero env unique right,
    Network.idOf, network.path_eid]
  rfl

section Handlers

variable {env : Env} {s t : System} {eid : UInt8} {values : Interfaces}
  (listening : Listening s.lib) (config : s.lib.config = network.config)

include listening

include config in
/-- An announcement matches the service when it has the configured binding. -/
theorem announced_handled
    (binding : (values.lookup (bindingToInterface network.config.bindingType)).isSome =
      network.bound unique)
    (stepped : s.step (.signal env (network.message unique (.announced values))) = some t) :
    Handled network unique s.lib t.lib (.announced values) := by
  obtain ⟨_, _, same⟩ := System.step_signal stepped
  rw [same]
  cases bound : network.bound unique with
  | false =>
      refine .ignored _ (.inl rfl) (fun _ _ => bound) ?_
      rw [bound, Option.isSome_eq_false_iff, Option.isNone_iff_eq_none] at binding
      simp only [Network.message, MCTPImpl.onMCTPEvent_interfacesAdded listening.done,
        MCTPImpl.onNewInterface, ↓reduceIte, config, binding]
  | true =>
      rw [bound] at binding
      obtain ⟨properties, held⟩ := Option.isSome_iff_exists.mp binding
      obtain ⟨devices, matched⟩ := deviceSet_onNewService env unique s.lib
      have handled : (MCTPImpl.onMCTPEvent env (network.message unique (.announced values))
          s.lib).2 = (MCTPImpl.onNewService env unique s.lib).2 := by
        simp only [Network.message, MCTPImpl.onMCTPEvent_interfacesAdded listening.done,
          MCTPImpl.onNewInterface, ↓reduceIte, config, held]
      refine .service values bound ?_ ?_
      · rw [← matched, ← handled]
      · rw [← devices, ← handled]

include config in
/-- An endpoint without the configured type adds nothing. -/
theorem added_unsupported (matched : unique ∈ s.lib.matchedBuses)
    (unsupported : network.supports values = false) :
    (MCTPImpl.onMCTPEvent env (network.message unique (.added eid values)) s.lib).2 = s.lib := by
  have apart : network.path eid ≠ basePath := endpointPath_ne_base (network.path_under eid)
  unfold Network.supports at unsupported
  simp only [Network.message, MCTPImpl.onMCTPEvent_interfacesAdded listening.done,
    MCTPImpl.onNewInterface, apart, ↓reduceIte, matched, not_true_eq_false, network.path_under]
  rw [config]
  cases held : values.lookup supportedMessageTypes with
  | none => rfl
  | some properties =>
      simp only [held] at unsupported ⊢
      cases type : supportsType network.config.type properties with
      | error fault => rfl
      | ok flag =>
          simp only [type] at unsupported
          rw [unsupported]

variable (right : CacheRight (fun _ => 0) s.lib)

include config right in
theorem added_handled
    (stepped : s.step (.signal env (network.message unique (.added eid values))) = some t) :
    Handled network unique s.lib t.lib (.added eid values) := by
  obtain ⟨_, _, same⟩ := System.step_signal stepped
  have apart : network.path eid ≠ basePath := endpointPath_ne_base (network.path_under eid)
  by_cases matched : unique ∈ s.lib.matchedBuses
  · cases supported : network.supports values with
    | false =>
        refine .ignored _ (.inl (by simp [Network.request, supported])) (by simp) ?_
        rw [same]
        exact added_unsupported listening config matched supported
    | true =>
        obtain ⟨properties, held, type⟩ := Network.supports_iff.mp supported
        have type' : supportsType s.lib.config.type properties = .ok true := by rw [config]; exact type
        have formed := getDeviceIDFromPath_network env network unique eid right
        have admitted : EndpointStep Network.idOf s
            (.signal env (network.message unique (.added eid values))) :=
          ⟨matched, network.path_under eid, ⟨properties, held, type'⟩, formed⟩
        obtain ⟨devices, _⟩ := endpointStep_simulates listening (Nat.zero_le _) admitted stepped
        refine .asked _ (.insert (DeviceID.make eid 0)) matched
          (by simp [Network.request, supported]) ?_ ?_
        · obtain ⟨_, _, _, _, looked⟩ :=
            MCTPImpl.getDeviceIDFromPath_emits env (network.path eid) unique s.lib
          have handled := MCTPImpl.onMCTPEvent_added listening matched (network.path_under eid)
            held type' formed
          rw [same]
          simp only [Network.message]
          rw [handled, looked]
        · rw [devices]
          simp [deviceRequest, Network.message, Network.idOf, network.path_eid]
  · refine .ignored _ (.inr matched) (by simp) ?_
    rw [same]
    simp only [Network.message, MCTPImpl.onMCTPEvent_interfacesAdded listening.done,
      MCTPImpl.onNewInterface, apart, ↓reduceIte, matched, not_false_eq_true]

include right in
theorem removed_handled
    (stepped : s.step (.signal env (network.message unique (.removed eid values))) = some t) :
    Handled network unique s.lib t.lib (.removed eid values) := by
  obtain ⟨_, _, same⟩ := System.step_signal stepped
  by_cases matched : unique ∈ s.lib.matchedBuses
  · by_cases held : supportedMessageTypes ∈ values.map Prod.fst
    · have formed := getDeviceIDFromPath_network env network unique eid right
      have admitted : EndpointStep Network.idOf s
          (.signal env (network.message unique (.removed eid values))) :=
        ⟨matched, network.path_under eid, held, formed⟩
      obtain ⟨devices, _⟩ := endpointStep_simulates listening (Nat.zero_le _) admitted stepped
      refine .asked _ (.erase (DeviceID.make eid 0)) matched
        (by rw [Network.request, if_pos held]) ?_ ?_
      · obtain ⟨_, _, _, _, looked⟩ :=
          MCTPImpl.getDeviceIDFromPath_emits env (network.path eid) unique s.lib
        obtain ⟨_, _, erased⟩ := MCTPImpl.onEIDRemoved_eq
          (Network.idOf unique (network.path eid))
          (MCTPImpl.getDeviceIDFromPath env (network.path eid) unique s.lib).2
        have handled := MCTPImpl.onMCTPEvent_removed listening.done matched
          (network.path_under eid) held formed
        rw [same]
        simp only [Network.message]
        rw [handled, erased, looked]
      · rw [devices]
        simp [deviceRequest, Network.message, Network.idOf, network.path_eid]
    · refine .ignored _ (.inl (by rw [Network.request, if_neg held])) (by simp) ?_
      rw [same]
      simp only [Network.message, MCTPImpl.onMCTPEvent_interfacesRemoved listening.done, matched,
        not_true_eq_false, ↓reduceIte, MCTPImpl.onInterfaceRemoved, network.path_under, held]
  · refine .ignored _ (.inr matched) (by simp) ?_
    rw [same]
    simp only [Network.message, MCTPImpl.onMCTPEvent_interfacesRemoved listening.done, matched,
      not_false_eq_true, ↓reduceIte]

include config right in
theorem onMCTPEvent_handled
    (announced : ∀ values, note = .announced values →
      (values.lookup (bindingToInterface network.config.bindingType)).isSome = network.bound unique)
    (stepped : s.step (.signal env (network.message unique note)) = some t) :
    Handled network unique s.lib t.lib note := by
  cases note with
  | announced values => exact announced_handled listening config (announced values rfl) stepped
  | added eid values => exact added_handled listening config right stepped
  | removed eid values => exact removed_handled listening right stepped

end Handlers

namespace Handled

variable {s t : MCTPImpl}

/-- A device waits to be inserted afterwards if it did before, or if the note
adds it to a matched service. -/
theorem owed_iff (handled : Handled network unique s t note) (device : DeviceID) :
    Owed (deviceSet 0 t) device ↔ Owed (deviceSet 0 s) device ∨
      (unique ∈ s.matchedBuses ∧ network.request note = some (.insert device)) := by
  cases handled with
  | service values _ _ devices =>
      rw [devices]
      simp [Network.request]
  | asked note request matched asks _ devices =>
      rw [devices, asks]
      cases request with
      | insert inserted => simp [matched, eq_comm]
      | erase erased => simp
      | run => cases note <;> simp [Network.request] at asks
  | ignored note apart _ same =>
      rw [same]
      rcases apart with nothing | unmatched
      · simp [nothing]
      · simp [unmatched]

/-- A device is filed afterwards if it was before, and the note does not remove it
from a matched service. -/
theorem present_iff (handled : Handled network unique s t note) (device : DeviceID) :
    device ∈ (deviceSet 0 t).present ↔ device ∈ (deviceSet 0 s).present ∧
      ¬ (unique ∈ s.matchedBuses ∧ network.request note = some (.erase device)) := by
  cases handled with
  | service values _ _ devices =>
      rw [devices]
      simp [Network.request]
  | asked note request matched asks _ devices =>
      rw [devices, asks]
      cases request with
      | insert inserted => simp
      | erase erased => simp [matched, eq_comm]
      | run => cases note <;> simp [Network.request] at asks
  | ignored note apart _ same =>
      rw [same]
      rcases apart with nothing | unmatched
      · simp [nothing]
      · simp [unmatched]

/-- A service is matched afterwards if it was before, or if the note announces it
with the configured binding. -/
theorem matched_iff (handled : Handled network unique s t note) (other : String) :
    other ∈ t.matchedBuses ↔ other ∈ s.matchedBuses ∨
      (other = unique ∧ network.bound unique = true ∧ ∃ values, note = .announced values) := by
  cases handled with
  | service values bound matched _ =>
      rw [matched, Finset.mem_insert]
      simp [bound, or_comm]
  | asked note request _ asks matched _ =>
      rw [matched]
      cases note <;> simp [Network.request] at asks ⊢
  | ignored note _ unbound same =>
      rw [same]
      constructor
      · exact .inl
      · rintro (before | ⟨_, bound, values, rfl⟩)
        · exact before
        · rw [unbound values rfl] at bound
          cases bound

end Handled

/-- What a note asks for is about the endpoint it names. -/
theorem Network.request_other (network : Network) {eid : UInt8} (other : note.eid ≠ some eid) :
    network.request note ≠ some (.insert (DeviceID.make eid 0)) ∧
      network.request note ≠ some (.erase (DeviceID.make eid 0)) := by
  cases note with
  | announced values => simp [request]
  | added eid' values =>
      have different : eid' ≠ eid := fun same => other (congrArg some same)
      simp [request, DeviceID.make_inj, different]
  | removed eid' values =>
      have different : eid' ≠ eid := fun same => other (congrArg some same)
      simp [request, DeviceID.make_inj, different]

end Mctpw
