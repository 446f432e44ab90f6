import Mctpw.ScanPhases

set_option autoImplicit false

/- Signals that arrive while a scan waits, and after it. -/
namespace Mctpw

open Runs Strings Feed DeferredSet

variable {network : Network} {w v : World} {told : UInt8 → Bool}
  {unique : String} {note : Note} {rest : List Note} {system : System} {env : Env}

/-- A note about a device does not arrive while its insertion waits. -/
theorem owed_apart {eid : UInt8} (sound : Sound network w told)
    (undisturbed : network.Undisturbed w (.deliver env unique))
    (head : w.queue unique = note :: rest)
    (owed : Owed (deviceSet 0 w.system.lib) (DeviceID.make eid 0)) : note.eid ≠ some eid := by
  intro about
  obtain ⟨there, matched⟩ := sound.told_of_owed owed
  have home := sound.consistent.homes unique note (by simp [head]) eid about
  have fits := sound.consistent.fits eid
  rw [home, head] at fits
  obtain ⟨fits, _⟩ := fits
  cases note with
  | announced values => cases about
  | added other values =>
      rw [fits (Option.some.inj about)] at there
      cases there
  | removed other values =>
      cases about
      have supported := (fits rfl).symm.trans there
      rw [home] at matched
      obtain ⟨free, _⟩ := undisturbed _ values rest head supported matched
      exact (owed_iff_outstanding 0 w.system.lib _).mp owed free

theorem queue_delivered (other : String) :
    (w.delivered unique note rest system).queue other =
      if other = unique then rest else w.queue other := by
  by_cases same : other = unique
  · rw [if_pos same, same]
    exact Function.update_self _ _ _
  · rw [if_neg same]
    exact Function.update_of_ne same _ _

theorem snapshot_delivered (other : String) :
    (w.delivered unique note rest system).snapshot other =
      if other = unique then
        (w.snapshot other).map fun taken => { taken with older := taken.older - 1 }
      else w.snapshot other := by
  by_cases same : other = unique
  · rw [if_pos same, same]
    exact Function.update_self _ _ _
  · rw [if_neg same]
    exact Function.update_of_ne same _ _

/-- What a snapshot holds does not change while older signals come in. -/
theorem held_delivered (other : String) (shows' : (UInt8 → Bool) → Prop) :
    (∃ taken, (w.delivered unique note rest system).snapshot other = some taken ∧
      shows' taken.held) ↔ ∃ taken, w.snapshot other = some taken ∧ shows' taken.held := by
  rw [snapshot_delivered]
  split
  · cases w.snapshot other <;> simp
  · rfl

theorem seen_delivered (other : String) :
    (w.delivered unique note rest system).seen other =
      if other = unique then (w.seen other).map fun taken => { taken with older := taken.older - 1 }
      else w.seen other := by
  unfold World.seen
  rw [snapshot_delivered]
  change (if other ∈ w.listed then _ else _) = _
  split <;> split <;> rfl

/-- Events let in, an announcement brings its service to notice. -/
theorem noticed_delivered (opened : w.system.lib.isInitialisationsDone = true) (other : String) :
    network.Noticed (w.delivered unique note rest system) other ↔ network.Noticed w other ∨
      (other = unique ∧ network.bound unique = true ∧ ∃ values, note = .announced values) := by
  unfold Network.Noticed World.delivered
  cases note with
  | announced values =>
      simp only [opened, ↓reduceIte, Finset.mem_insert, Note.announced.injEq, exists_eq', and_true]
      constructor
      · rintro ⟨bound, listed | rfl | announced⟩
        · exact .inl ⟨bound, .inl listed⟩
        · exact .inr ⟨rfl, bound⟩
        · exact .inl ⟨bound, .inr announced⟩
      · rintro (⟨bound, listed | announced⟩ | ⟨rfl, bound⟩)
        · exact ⟨bound, .inl listed⟩
        · exact ⟨bound, .inr (.inr announced)⟩
        · exact ⟨bound, .inr (.inl rfl)⟩
  | _ => simp

/-- While events are dropped a note changes nothing but the queue. -/
theorem phase_dropped (unopened : Unopened w) (phase : Phase network w told)
    (same : system = w.system) (told' : UInt8 → Bool) :
    Phase network (w.delivered unique note rest system) told' := by
  subst same
  have unopened' : Unopened (w.delivered unique note rest w.system) := by
    refine ⟨unopened.closed, unopened.idle, ?_, ?_⟩
    · simp only [World.delivered, unopened.closed]
      cases note <;> exact unopened.announced
    · intro other
      simp only [World.delivered, unopened.snapshot, Option.map_none]
      by_cases here : other = unique
      · rw [here, Function.update_self]
      · rw [Function.update_of_ne here, unopened.snapshot]
  cases phase with
  | asked asked => exact .asked ⟨asked.scans, unopened', asked.matched, asked.served⟩
  | naming buses service rest naming =>
      exact .naming buses service rest ⟨naming.scans, unopened', naming.found, naming.served⟩
  | collecting eids bus rest collecting =>
      exact absurd unopened.closed (by simp [collecting.opened])
  | returned returned => exact absurd unopened.closed (by simp [returned.opened])

/-- The first note of a service newly noticed is its announcement, so nothing has
been told of its endpoints. -/
theorem untold_of_new {eid : UInt8} (sound : Sound network w told)
    (opened : w.system.lib.isInitialisationsDone = true) (head : w.queue unique = note :: rest)
    (before : ¬ network.Noticed w (network.home eid))
    (noticed : network.Noticed (w.delivered unique note rest system) (network.home eid)) :
    network.home eid = unique ∧ network.bound unique = true ∧ told eid = false ∧
      note.eid ≠ some eid := by
  obtain ⟨home, bound, values, rfl⟩ := ((noticed_delivered opened _).mp noticed).resolve_left before
  obtain ⟨_, _, untold⟩ := sound.consistent.announcing unique values (by simp [head])
  exact ⟨home, bound, untold eid home, by simp [Note.eid]⟩

/-- A note about an endpoint, newer than the snapshot of its service. -/
theorem newer_delivered {eid : UInt8} {taken : Snapshot} (sound : Sound network w told)
    (undisturbed : network.Undisturbed w (.deliver env unique)) (building : w.Building)
    (head : w.queue unique = note :: rest) (home : network.home eid = unique)
    (matched : unique ∈ w.system.lib.matchedBuses)
    (handled : Handled network unique w.system.lib system.lib note)
    (seen : w.seen (network.home eid) = some taken) (newest : taken.older = 0)
    (same : told eid = taken.held eid) :
    network.tells eid (told eid) note = taken.held eid ∨
      (taken.held eid = false ∧ Owed (deviceSet 0 system.lib) (DeviceID.make eid 0)) := by
  have fits := sound.consistent.fits eid
  rw [home, head] at fits
  obtain ⟨fits, _⟩ := fits
  by_cases about : note.eid = some eid
  · cases note with
    | announced values => cases about
    | added other values =>
        cases about
        have absent : told eid = false := fits rfl
        cases supported : network.supports values with
        | false =>
            left
            rw [← same, absent]
            simp [Network.tells, supported]
        | true =>
            refine .inr ⟨same.symm.trans absent, (handled.owed_iff _).mpr (.inr ⟨matched, ?_⟩)⟩
            simp [Network.request, supported]
    | removed other values =>
        cases about
        left
        have gone : taken.held eid = false := by
          cases supported : network.supports values with
          | false => exact same.symm.trans ((fits rfl).trans supported)
          | true =>
              obtain ⟨_, survives⟩ := undisturbed eid values rest head supported matched
              obtain ⟨listed, shown⟩ := survives building
              unfold World.seen at seen
              rw [if_pos listed] at seen
              exact (shown taken seen).resolve_left (by omega)
        simp [Network.tells, gone]
  · left
    rw [Network.tells_other about, same]

/-- A note let in keeps the snapshots faithful. -/
theorem faithful_delivered {eid : UInt8} {taken : Snapshot} (sound : Sound network w told)
    (undisturbed : network.Undisturbed w (.deliver env unique)) (building : w.Building)
    (opened : w.system.lib.isInitialisationsDone = true)
    (matched : ∀ other, other ∈ w.system.lib.matchedBuses ↔ network.Noticed w other)
    (head : w.queue unique = note :: rest)
    (handled : Handled network unique w.system.lib system.lib note)
    (tracked : network.Noticed w (network.home eid) →
      ∀ taken, w.seen (network.home eid) = some taken → Faithful network w told eid taken)
    (noticed : network.Noticed (w.delivered unique note rest system) (network.home eid))
    (seen : (w.delivered unique note rest system).seen (network.home eid) = some taken) :
    Faithful network (w.delivered unique note rest system)
      (fun eid => network.tells eid (told eid) note) eid taken := by
  rw [seen_delivered] at seen
  unfold Faithful
  by_cases before : network.Noticed w (network.home eid)
  · by_cases home : network.home eid = unique
    · rw [if_pos home] at seen
      obtain ⟨old, seen', rfl⟩ := Option.map_eq_some_iff.mp seen
      rw [queue_delivered, if_pos home]
      rcases tracked before old seen' with ⟨within, same⟩ | ⟨newest, absent, owed⟩
      · rw [home, head] at within same
        cases older : old.older with
        | zero =>
            rw [older] at same
            rcases newer_delivered sound undisturbed building head home
              (by rw [← home]; exact (matched _).mpr before) handled seen' older same with
              kept | ⟨absent, owed⟩
            · exact .inl ⟨Nat.zero_le _, kept⟩
            · exact .inr ⟨rfl, absent, owed⟩
        | succ count =>
            rw [older] at within same
            exact .inl ⟨Nat.le_of_succ_le_succ within, same⟩
      · exact .inr ⟨by simp [newest], absent, (handled.owed_iff _).mpr (.inl owed)⟩
    · rw [if_neg home] at seen
      have other : note.eid ≠ some eid := fun about =>
        home (sound.consistent.homes unique note (by simp [head]) eid about)
      rw [queue_delivered, if_neg home]
      dsimp only
      rw [Network.tells_other other]
      rcases tracked before taken seen with older | ⟨newest, absent, owed⟩
      · exact .inl older
      · exact .inr ⟨newest, absent, (handled.owed_iff _).mpr (.inl owed)⟩
  · obtain ⟨home, bound, untold, other⟩ := untold_of_new sound opened head before noticed
    have unlisted : unique ∉ w.listed := fun listed => before ⟨home ▸ bound, .inl (home ▸ listed)⟩
    rw [if_pos home, World.seen, home, if_neg unlisted] at seen
    cases seen
    refine .inl ⟨Nat.zero_le _, ?_⟩
    dsimp only
    rw [after_zero, Network.tells_other other, untold]

/-- After the scan: the map, with the insertions waiting, has the endpoint as it was
or will be at some point of the signals still to be handled. -/
def OnItsWay (network : Network) (told : UInt8 → Bool) (eid : UInt8) (queue : List Note)
    (s : MCTPImpl) : Prop :=
  ∃ held, Reached (network.tells eid) (told eid) queue held ∧
    ((DeviceID.make eid 0 ∈ (deviceSet 0 s).present ∨
      Owed (deviceSet 0 s) (DeviceID.make eid 0)) ↔ held = true)

/-- A note that asks for nothing and says nothing new only leaves the queue. -/
theorem onItsWay_unchanged {eid : UInt8} (head : w.queue unique = note :: rest)
    (handled : Handled network unique w.system.lib system.lib note)
    (before : OnItsWay network told eid (w.queue (network.home eid)) w.system.lib)
    (same : network.tells eid (told eid) note = told eid)
    (notInserted : network.request note ≠ some (.insert (DeviceID.make eid 0)))
    (notErased : network.request note ≠ some (.erase (DeviceID.make eid 0))) :
    OnItsWay network (fun eid => network.tells eid (told eid) note) eid
      ((w.delivered unique note rest system).queue (network.home eid)) system.lib := by
  obtain ⟨held, reached, exact'⟩ := before
  refine ⟨held, ?_, ?_⟩
  · dsimp only
    by_cases home : network.home eid = unique
    · rw [home, head] at reached
      rw [queue_delivered, if_pos home]
      rcases reached.pop with told' | ahead
      · rw [told', same]
        exact .now
      · exact ahead
    · rw [queue_delivered, if_neg home, same]
      exact reached
  · rw [← exact', handled.present_iff, handled.owed_iff]
    simp [notInserted, notErased]

/-- A note about an endpoint noticed before brings it to what the note says, unless
it says nothing new. -/
theorem tracked_about {eid : UInt8} (sound : Sound network w told)
    (undisturbed : network.Undisturbed w (.deliver env unique)) (returned : Returned network w told)
    (head : w.queue unique = note :: rest)
    (handled : Handled network unique w.system.lib system.lib note)
    (before : network.Noticed w (network.home eid)) (about : note.eid = some eid) :
    OnItsWay network (fun eid => network.tells eid (told eid) note) eid
      ((w.delivered unique note rest system).queue (network.home eid)) system.lib := by
  have present := handled.present_iff (DeviceID.make eid 0)
  have owed := handled.owed_iff (DeviceID.make eid 0)
  have kept := onItsWay_unchanged head handled (returned.tracked eid before)
  have home := sound.consistent.homes unique note (by simp [head]) eid about
  have matched : unique ∈ w.system.lib.matchedBuses := by
    rw [← home]
    exact (returned.noticed _).mpr before
  have fits := sound.consistent.fits eid
  rw [home, head] at fits
  obtain ⟨fits, _⟩ := fits
  cases note with
  | announced values => cases about
  | added other values =>
      cases about
      cases supported : network.supports values with
      | false =>
          refine kept ?_ (by simp [Network.request, supported])
            (by simp [Network.request, supported])
          simp [Network.tells, supported, fits rfl]
      | true =>
          refine ⟨true, ?_, ?_⟩
          · simp only [Network.tells, ↓reduceIte, supported]
            exact .now
          · simp [owed, matched, Network.request, supported]
  | removed other values =>
      have waiting : ¬ Owed (deviceSet 0 w.system.lib) (DeviceID.make eid 0) :=
        fun waiting => owed_apart sound undisturbed head waiting about
      cases about
      by_cases shown : supportedMessageTypes ∈ values.map Prod.fst
      · refine ⟨false, ?_, ?_⟩
        · simp only [Network.tells, ↓reduceIte]
          exact .now
        · simp only [present, owed, Network.request, if_pos shown, matched, waiting]
          simp
      · have unsupported : network.supports values = false := by
          rw [← Bool.not_eq_true]
          exact fun supported => shown (Network.mem_of_supports supported)
        refine kept ?_ (by simp [Network.request, shown]) (by simp [Network.request, shown])
        simp [Network.tells, fits rfl, unsupported]

/-- Nothing has been told of the endpoints of a service newly noticed, and none is
in the map or waits. -/
theorem tracked_new {eid : UInt8} (sound : Sound network w told) (returned : Returned network w told)
    (head : w.queue unique = note :: rest)
    (handled : Handled network unique w.system.lib system.lib note)
    (before : ¬ network.Noticed w (network.home eid))
    (noticed : network.Noticed (w.delivered unique note rest system) (network.home eid)) :
    OnItsWay network (fun eid => network.tells eid (told eid) note) eid
      ((w.delivered unique note rest system).queue (network.home eid)) system.lib := by
  obtain ⟨home, _, untold, other⟩ := untold_of_new sound returned.opened head before noticed
  obtain ⟨notInserted, _⟩ := network.request_other other
  refine ⟨false, ?_, ?_⟩
  · dsimp only
    rw [Network.tells_other other, untold]
    exact .now
  · simp only [handled.present_iff, handled.owed_iff, notInserted, and_false, or_false,
      Bool.false_eq_true, iff_false, not_or, not_and]
    constructor
    · intro there
      obtain ⟨eid', made, noticed'⟩ := returned.filed _ there
      obtain ⟨rfl, _⟩ := DeviceID.make_inj.mp made
      exact absurd noticed' before
    · intro waiting
      exact before ((returned.noticed _).mp (sound.told_of_owed waiting).2)

/-- A note let in after the scan keeps each endpoint on its way. -/
theorem tracked_delivered {eid : UInt8} (sound : Sound network w told)
    (undisturbed : network.Undisturbed w (.deliver env unique)) (returned : Returned network w told)
    (head : w.queue unique = note :: rest)
    (handled : Handled network unique w.system.lib system.lib note)
    (noticed : network.Noticed (w.delivered unique note rest system) (network.home eid)) :
    OnItsWay network (fun eid => network.tells eid (told eid) note) eid
      ((w.delivered unique note rest system).queue (network.home eid)) system.lib := by
  by_cases before : network.Noticed w (network.home eid)
  · by_cases about : note.eid = some eid
    · exact tracked_about sound undisturbed returned head handled before about
    · obtain ⟨notInserted, notErased⟩ := network.request_other about
      exact onItsWay_unchanged head handled (returned.tracked eid before)
        (Network.tells_other about _) notInserted notErased
  · exact tracked_new sound returned head handled before noticed

theorem collecting_delivered {eids : EndpointMapExtended} {bus : Bus} {left : List Bus}
    (sound : Sound network w told) (undisturbed : network.Undisturbed w (.deliver env unique))
    (collecting : Collecting network w told eids bus left) (head : w.queue unique = note :: rest)
    (handled : Handled network unique w.system.lib system.lib note)
    (scans : system.scans = w.system.scans)
    (opened : system.lib.isInitialisationsDone = w.system.lib.isInitialisationsDone) :
    Collecting network (w.delivered unique note rest system)
      (fun eid => network.tells eid (told eid) note) eids bus left where
  scans := scans.trans collecting.scans
  opened := opened.trans collecting.opened
  noticed := by
    intro other
    rw [noticed_delivered collecting.opened, ← collecting.noticed]
    exact handled.matched_iff other
  distinct := collecting.distinct
  asked := collecting.asked
  scanned := by
    intro other listed apart
    obtain ⟨taken, seen⟩ := Option.isSome_iff_exists.mp (collecting.scanned other listed apart)
    obtain ⟨taken', seen', _⟩ := (held_delivered other fun _ => True).mpr ⟨taken, seen, trivial⟩
    exact Option.isSome_iff_exists.mpr ⟨taken', seen'⟩
  served := by
    intro reply served
    obtain ⟨values, taken, answered, seen, shows'⟩ := collecting.served reply served
    obtain ⟨taken', seen', shows''⟩ := (held_delivered _ _).mpr ⟨taken, seen, shows'⟩
    exact ⟨values, taken', answered, seen', shows''⟩
  collects := by
    intro device
    rw [collecting.collects device]
    constructor
    · rintro ⟨eid, taken, made, listed, apart, seen, held⟩
      obtain ⟨taken', seen', held'⟩ :=
        (held_delivered _ fun held => held eid = true).mpr ⟨taken, seen, held⟩
      exact ⟨eid, taken', made, listed, apart, seen', held'⟩
    · rintro ⟨eid, taken, made, listed, apart, seen, held⟩
      obtain ⟨taken', seen', held'⟩ :=
        (held_delivered _ fun held => held eid = true).mp ⟨taken, seen, held⟩
      exact ⟨eid, taken', made, listed, apart, seen', held'⟩
  tracked := by
    intro eid noticed taken seen
    exact faithful_delivered sound undisturbed ⟨eids, bus, left, collecting.scans⟩
      collecting.opened collecting.noticed head handled (collecting.tracked eid) noticed seen

theorem returned_delivered (sound : Sound network w told)
    (undisturbed : network.Undisturbed w (.deliver env unique)) (returned : Returned network w told)
    (head : w.queue unique = note :: rest)
    (handled : Handled network unique w.system.lib system.lib note)
    (scans : system.scans = w.system.scans)
    (opened : system.lib.isInitialisationsDone = w.system.lib.isInitialisationsDone) :
    Returned network (w.delivered unique note rest system)
      fun eid => network.tells eid (told eid) note where
  scans := scans.trans returned.scans
  opened := opened.trans returned.opened
  noticed := by
    intro other
    rw [noticed_delivered returned.opened, ← returned.noticed]
    exact handled.matched_iff other
  tracked := fun _ noticed => tracked_delivered sound undisturbed returned head handled noticed
  filed := by
    intro device there
    obtain ⟨eid, made, noticed⟩ := returned.filed device ((handled.present_iff device).mp there).1
    exact ⟨eid, made, (noticed_delivered returned.opened _).mpr (.inl noticed)⟩

/-- What waits to be inserted has been told of, also after one more note. -/
theorem owed_delivered {device : DeviceID} (sound : Sound network w told)
    (undisturbed : network.Undisturbed w (.deliver env unique))
    (head : w.queue unique = note :: rest)
    (handled : Handled network unique w.system.lib system.lib note)
    (owed : Owed (deviceSet 0 system.lib) device) :
    ∃ eid, device = DeviceID.make eid 0 ∧ network.tells eid (told eid) note = true ∧
      network.home eid ∈ system.lib.matchedBuses := by
  rcases (handled.owed_iff device).mp owed with before | ⟨matched, inserted⟩
  · obtain ⟨eid, rfl, there, home⟩ := sound.owed device before
    refine ⟨eid, rfl, ?_, (handled.matched_iff _).mpr (.inl home)⟩
    rw [Network.tells_other (owed_apart sound undisturbed head before), there]
  · cases note with
    | announced values => simp [Network.request] at inserted
    | added eid values =>
        have home := sound.consistent.homes unique (.added eid values) (by simp [head]) eid rfl
        cases supported : network.supports values with
        | false => simp [Network.request, supported] at inserted
        | true =>
            simp only [Network.request, supported, ↓reduceIte, Option.some.injEq,
              Request.insert.injEq] at inserted
            refine ⟨eid, inserted.symm, by simp [Network.tells, supported], ?_⟩
            rw [home]
            exact (handled.matched_iff _).mpr (.inl matched)
    | removed eid values =>
        simp only [Network.request] at inserted
        split at inserted <;> cases inserted

/-- Apart from the insertions waiting and the phase, a note leaves everything sound. -/
theorem Sound.delivered (sound : Sound network w told) (honest : network.Honest w (.deliver env unique))
    (head : w.queue unique = note :: rest)
    (ran : w.system.step (.signal env (network.message unique note)) = some system)
    (owed : ∀ device, Owed (deviceSet 0 system.lib) device → ∃ eid,
      device = DeviceID.make eid 0 ∧ network.tells eid (told eid) note = true ∧
        network.home eid ∈ system.lib.matchedBuses)
    (phase : Phase network (w.delivered unique note rest system)
      fun eid => network.tells eid (told eid) note) :
    Sound network (w.delivered unique note rest system)
      fun eid => network.tells eid (told eid) note := by
  obtain ⟨_, _, same⟩ := System.step_signal ran
  have settings : system.lib.settings = w.system.lib.settings := System.step_settings ran
  refine ⟨sound.consistent.pop head rfl rfl rfl, ?_, ?_, ?_, ?_, sound.bound, owed, phase⟩
  · exact (congrArg (fun kept => kept.2.1) settings).trans sound.config
  · exact (congrArg (fun kept => kept.2.2) settings).trans sound.callback
  · rw [same]
    exact sound.cache.identifies
      (MCTPImpl.onMCTPEvent_identifies honest (network.message unique note) w.system)
  · rw [same]
    obtain ⟨_, watch⟩ := MCTPImpl.onMCTPEvent_gate env (network.message unique note) w.system.lib
    exact watch.trans sound.watching

theorem sound_deliver (sound : Sound network w told)
    (honest : network.Honest w (.deliver env unique))
    (undisturbed : network.Undisturbed w (.deliver env unique))
    (stepped : w.step network (.deliver env unique) = some v) :
    ∃ told', Sound network v told' := by
  simp only [World.step] at stepped
  split at stepped
  · cases stepped
  · rename_i note rest head
    obtain ⟨system, ran, rfl⟩ := Option.map_eq_some_iff.mp stepped
    obtain ⟨_, _, same⟩ := System.step_signal ran
    have scans : system.scans = w.system.scans := by rw [same]
    have gate : system.lib.isInitialisationsDone = w.system.lib.isInitialisationsDone := by
      rw [same]
      exact (MCTPImpl.onMCTPEvent_gate env (network.message unique note) w.system.lib).1
    have announced : ∀ values, note = .announced values →
        (values.lookup (bindingToInterface network.config.bindingType)).isSome =
          network.bound unique := by
      rintro values rfl
      exact (sound.consistent.announcing unique values (by simp [head])).1
    have letIn := fun opened => onMCTPEvent_handled ⟨opened, sound.callback⟩ sound.config
      sound.cache announced ran
    have dropped : Unopened w → Sound network (w.delivered unique note rest system)
        fun eid => network.tells eid (told eid) note := by
      intro unopened
      have unchanged : system = w.system := by
        rw [same, MCTPImpl.onMCTPEvent, if_pos unopened.closed]
      refine sound.delivered honest head ran ?_ (phase_dropped unopened sound.phase unchanged _)
      intro device owed
      rw [unchanged] at owed
      exact absurd owed (not_owed_of_idle (idle_of_drained 0 unopened.idle) device)
    cases sound.phase with
    | asked asked => exact ⟨_, dropped asked.unopened⟩
    | naming buses service left naming => exact ⟨_, dropped naming.unopened⟩
    | collecting eids bus left collecting =>
        have handled := letIn collecting.opened
        exact ⟨_, sound.delivered honest head ran (fun _ => owed_delivered sound undisturbed head handled)
          (.collecting eids bus left
            (collecting_delivered sound undisturbed collecting head handled scans gate))⟩
    | returned returned =>
        have handled := letIn returned.opened
        exact ⟨_, sound.delivered honest head ran (fun _ => owed_delivered sound undisturbed head handled)
          (.returned (returned_delivered sound undisturbed returned head handled scans gate))⟩

end Mctpw
