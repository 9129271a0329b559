import Panes.Proofs.Synchronisation

/-!
# Late reports

When a host is gone, reports on its surfaces and tasks may still arrive, mixed with the events of
the next host. They lead to no action. The numbers of surfaces and hosts go on, so such a report
never means anything of the next host, and a run without the late reports goes the same way. There
is one thing that a late close has a part in, as every close has: it uses up a structural command.
-/

namespace Panes

open Surface

/-- The surface that a command starts. -/
def Surface.Command.started? : Command → Option Surface.Id
  | start surface _ => some surface
  | _ => none

/-- The surfaces that were started in the course of these moments. -/
def issued (moments : List Moment) : List Surface.Id :=
  moments.flatMap fun moment => moment.outcome.surfaceCommands.filterMap Command.started?

/-- The report concerns one of these surfaces, or a task of a host up to this one. -/
def Event.isLate (surfaces : List Surface.Id) (epoch : Nat) : Event → Bool
  | actionSurfaceClosed surface => surfaces.contains surface
  | scheduledTaskFired task => task.epoch ≤ epoch
  | _ => false

theorem mem_issued_iff {moments : List Moment} {surface : Surface.Id} :
    surface ∈ issued moments ↔
      ∃ moment ∈ moments, ∃ descriptor, moment.Emits (.start surface descriptor) := by
  have started_iff {moment : Moment} :
      surface ∈ moment.outcome.surfaceCommands.filterMap Command.started? ↔
        ∃ descriptor, moment.Emits (.start surface descriptor) := by
    rw [moment.surfaceCommands_eq]
    simp only [List.mem_filterMap, Option.mem_toList, Moment.emits_iff]
    constructor
    · rintro ⟨command, emitted, started⟩
      cases command <;> cases started
      exact ⟨_, emitted⟩
    · rintro ⟨descriptor, emitted⟩
      exact ⟨_, emitted, rfl⟩
  simp only [issued, List.mem_flatMap, started_iff]

/-! ## What the flag has a part in -/

namespace Coordinator

/-- The state with the flag for structural commands set or not. -/
def requesting (state : Coordinator) (flag : Bool) : Coordinator :=
  { state with structuralMoveRequested := flag }

end Coordinator

/-- The outcomes differ at most in the flag for structural commands. -/
structure Outcome.Agrees (left right : Outcome) : Prop where
  /-- The actions are the same. -/
  actions_eq : left.actions = right.actions
  /-- The next states are the same but for the flag. -/
  state_eq : left.state.requesting false = right.state.requesting false

/-- A decision that both sides take alike. -/
theorem Outcome.Agrees.ite {left right : Prop} [Decidable left] [Decidable right]
    (same : left ↔ right) {yesLeft noLeft yesRight noRight : Outcome}
    (yes : yesLeft.Agrees yesRight) (no : noLeft.Agrees noRight) :
    (if left then yesLeft else noLeft).Agrees (if right then yesRight else noRight) := by
  by_cases holds : right
  · rw [if_pos holds, if_pos (same.mpr holds)]
    exact yes
  · rw [if_neg holds, if_neg (mt same.mp holds)]
    exact no

namespace Coordinator

section

variable (view : HostView) (state : Coordinator) (flag : Bool)

theorem openNote_agrees (noteId : NoteId) :
    ((state.requesting flag).openNote view noteId).Agrees (state.openNote view noteId) := by
  unfold openNote
  cases view.note noteId <;> exact ⟨rfl, rfl⟩

theorem toggle_agrees (id : ItemId) (descriptor : Option Surface.Descriptor) :
    ((state.requesting flag).toggle id descriptor).Agrees (state.toggle id descriptor) := by
  obtain ⟨_, _, _, _, list, _, _, _, _⟩ := state
  cases list <;> exact ⟨rfl, rfl⟩

theorem drawerSlide_agrees (offset : Drawer.Offset) :
    ((state.requesting flag).drawerSlide offset).Agrees (state.drawerSlide offset) := by
  simp only [drawerSlide, requesting]
  rcases state.drawer.slide offset with ⟨drawer, _ | _ | _⟩ <;> exact ⟨rfl, rfl⟩

theorem drawerItemClicked_agrees (item : Drawer.Item) :
    ((state.requesting flag).drawerItemClicked item).Agrees (state.drawerItemClicked item) := by
  refine .ite Iff.rfl ⟨rfl, rfl⟩ ?_
  obtain ⟨_, _, _, _, list, _, _, _, _⟩ := state
  cases list <;> exact ⟨rfl, rfl⟩

theorem backPressed_agrees :
    ((state.requesting flag).backPressed view).Agrees (state.backPressed view) := by
  simp only [backPressed, requesting]
  cases BackPress.decide state.drawer.isOpen view.needsConfirmation <;> exact ⟨rfl, rfl⟩

theorem paneAnnounced_agrees (pane : Pane) (title subtitle : Option String) :
    ((state.requesting flag).paneAnnounced pane title subtitle).Agrees
      (state.paneAnnounced pane title subtitle) := by
  have news_eq : (state.requesting flag).router.isNews pane = state.router.isNews pane := rfl
  simp only [paneAnnounced, news_eq]
  cases state.router.isNews pane <;> exact ⟨rfl, rfl⟩

theorem selectionCleared_agrees :
    (state.requesting flag).selectionCleared.Agrees state.selectionCleared := by
  obtain ⟨_, _, _, _, list, _, _, _, _⟩ := state
  cases list <;> exact ⟨rfl, rfl⟩

theorem shelfResponse_agrees (response : Shelf.Response) :
    ((state.requesting flag).shelfResponse response).Agrees (state.shelfResponse response) := by
  cases response with
  | bookDeleted bookId => exact .ite Iff.rfl ⟨rfl, rfl⟩ ⟨rfl, rfl⟩
  | _ => exact ⟨rfl, rfl⟩

/-- The flag has no part in what an event leads to, unless a surface closes. -/
theorem handle_agrees {event : Event} (other : ¬ event.reportsClose = true) :
    ((state.requesting flag).handle view event).Agrees (state.handle view event) := by
  cases event with
  | actionSurfaceClosed surface => exact absurd rfl other
  | broadcastPayload payload =>
    simp only [handle]
    cases Intent.ofText? payload <;> exact ⟨rfl, rfl⟩
  | drawerSlide offset => exact state.drawerSlide_agrees flag offset
  | drawerItemClicked item => exact state.drawerItemClicked_agrees flag item
  | backPressed => exact state.backPressed_agrees view flag
  | paneAnnounced pane title subtitle => exact state.paneAnnounced_agrees flag pane title subtitle
  | noteClicked noteId =>
    exact .ite Iff.rfl (state.toggle_agrees flag _ _) (state.openNote_agrees view flag noteId)
  | noteLongClicked noteId =>
    exact .ite Iff.rfl (state.openNote_agrees view flag noteId) (state.toggle_agrees flag _ _)
  | itemToggled itemId descriptor => exact state.toggle_agrees flag itemId descriptor
  | selectionCleared => exact state.selectionCleared_agrees flag
  | noteScrollRequested noteId =>
    simp only [handle, noteScrollRequested]
    cases view.note noteId <;> exact ⟨rfl, rfl⟩
  | shelfResponse response => exact state.shelfResponse_agrees flag response
  | importConfirmed name uri => exact .ite Iff.rfl ⟨rfl, rfl⟩ ⟨rfl, rfl⟩
  | scheduledTaskFired task => exact .ite Iff.rfl ⟨rfl, rfl⟩ ⟨rfl, rfl⟩
  | coldStart _ | resumed _ | hostDestroyed | broadcast _ | navigate _ | searchOpened
  | searchSubmitted _ | panesCleared | bookClicked _ | shelfRequest _ | fileChosen _ =>
    exact ⟨rfl, rfl⟩

/-- Whatever the flag, a close leaves the same state, as it takes the flag down. -/
theorem surfaceClosed_state (surface : Surface.Id) :
    ((state.requesting flag).surfaceClosed view surface).state =
      (state.surfaceClosed view surface).state := by
  have surfaces_eq : (state.requesting flag).surfaces = state.surfaces := rfl
  unfold surfaceClosed
  rw [surfaces_eq]
  rcases state.surfaces.closed surface with ⟨surfaces, _ | closed⟩ <;> rfl

/-- Without the flag a close leads to the same actions but for the synchronisation. -/
theorem surfaceClosed_actions (surface : Surface.Id) :
    ((state.requesting false).surfaceClosed view surface).actions =
      (state.surfaceClosed view surface).actions.filter (!·.isResync) := by
  have surfaces_eq : (state.requesting false).surfaces = state.surfaces := rfl
  unfold surfaceClosed
  rw [surfaces_eq]
  rcases state.surfaces.closed surface with ⟨surfaces, _ | closed⟩
  · rfl
  · have filtered : (if closed.tag = some .move ∧ state.structuralMoveRequested = true then
        [post view .syncOnNoteUpdate] else []).filter (!·.isResync) = [] := by
      split <;> rfl
    have undue : ¬ (closed.tag = some .move ∧
        (state.requesting false).structuralMoveRequested = true) := by
      simp [requesting]
    dsimp only
    rw [List.filter_append, filter_not_isResync (posted_dismiss _ _), filtered, if_neg undue]
    rfl

end

theorem eq_requesting {full cut : Coordinator}
    (rest_eq : full.requesting false = cut.requesting false) :
    full = cut.requesting full.structuralMoveRequested :=
  congrArg (·.requesting full.structuralMoveRequested) rest_eq

end Coordinator

/-! ## Reports on a host that is gone -/

/-- The state belongs to a host after the one of this epoch, which had given the numbers below. -/
structure Coordinator.Succeeds (state : Coordinator) (epoch bound : Nat) : Prop where
  /-- What is kept of surfaces fits together. -/
  orderly : state.surfaces.Orderly
  /-- Only surfaces of later hosts are tracked. -/
  fresh : ∀ entry ∈ state.surfaces.tracked, bound ≤ entry.1.number
  /-- The next number is none of the old ones. -/
  bound_le : bound ≤ state.surfaces.nextNumber
  /-- Hosts are counted up. -/
  epoch_lt : epoch < state.epoch

namespace Moment

theorem epoch_le_after (moment : Moment) : moment.before.epoch ≤ moment.after.epoch := by
  have epoch_eq : moment.after.epoch =
      (moment.before.standing.next moment.view moment.event).epoch :=
    congrArg Standing.epoch (moment.before.standing_handle moment.view moment.event)
  rw [epoch_eq]
  cases moment.event with
  | hostDestroyed => exact Nat.le_succ _
  | _ => exact Nat.le_refl _

theorem succeeds_after {moment : Moment} {epoch bound : Nat}
    (succeeds : moment.before.Succeeds epoch bound) : moment.after.Succeeds epoch bound where
  orderly := moment.surfaceStep.orderly succeeds.orderly
  fresh := by
    rintro ⟨surface, tag⟩ member
    rcases (moment.surfaceStep.mem_tracked_iff succeeds.orderly surface tag).mp member with
      ⟨descriptor, started, -⟩ | ⟨-, older⟩
    · exact Nat.le_trans succeeds.bound_le (moment.surfaceStep.number_of_start started).1
    · exact succeeds.fresh _ older
  bound_le := Nat.le_trans succeeds.bound_le moment.surfaceStep.nextNumber_le
  epoch_lt := Nat.lt_of_lt_of_le succeeds.epoch_lt moment.epoch_le_after

end Moment

namespace Coordinator

theorem succeeds_hostDestroyed (view : HostView) (state : Coordinator) :
    (state.handle view .hostDestroyed).state.Succeeds state.epoch state.surfaces.nextNumber where
  orderly := Controller.orderly_reset _
  fresh := by
    intro entry member
    cases member
  bound_le := Nat.le_refl _
  epoch_lt := Nat.lt_succ_self _

theorem succeeds_run {state : Coordinator} {epoch bound : Nat}
    (succeeds : state.Succeeds epoch bound) (stimuli : List Stimulus) :
    (state.run stimuli).Succeeds epoch bound := by
  apply run_invariant (·.Succeeds epoch bound) succeeds
  intro moment before
  exact moment.succeeds_after before

/-- A close that names a surface of an old host is answered like that of an unknown surface. -/
theorem surfaceClosed_of_late {state : Coordinator} {epoch bound : Nat}
    (succeeds : state.Succeeds epoch bound) (view : HostView) {surface : Surface.Id}
    (late : surface.number < bound) :
    state.surfaceClosed view surface = (state.requesting false).ignore := by
  have unknown : state.surfaces.closed surface = (state.surfaces, none) := by
    apply Controller.closed_of_untracked
    rintro entry member rfl
    exact Nat.lt_irrefl _ (Nat.lt_of_lt_of_le late (succeeds.fresh entry member))
  unfold surfaceClosed
  rw [unknown]
  rfl

theorem taskFired_of_late {state : Coordinator} {epoch bound : Nat}
    (succeeds : state.Succeeds epoch bound) {task : ScheduledTask} (late : task.epoch ≤ epoch) :
    state.taskFired task = state.ignore := by
  have other : task.epoch ≠ state.epoch :=
    Nat.ne_of_lt (Nat.lt_of_le_of_lt late succeeds.epoch_lt)
  rw [taskFired, if_neg other]

end Coordinator

/-! ## Two runs, with and without the late reports -/

section

variable (late : Event → Bool)

/-- A late close uses up an outstanding structural command. -/
def Moment.Spends (moment : Moment) : Prop :=
  late moment.event = true ∧ moment.event.reportsClose = true ∧
    moment.before.structuralMoveRequested = true

instance (moment : Moment) : Decidable (moment.Spends late) :=
  inferInstanceAs (Decidable (_ ∧ _ ∧ _))

/-- A structural command, a timely close or the end of the host: afterwards it makes no difference
whether a command was used up. -/
def Event.evens (event : Event) : Prop :=
  event.asksStructural = true ∨ late event = false ∧ event.reportsClose = true ∨
    event = .hostDestroyed

/-- A late close used up a structural command, and it still makes a difference. -/
def Spent (moments : List Moment) : Prop :=
  Since (Moment.Spends late) (fun moment => moment.event.evens late) moments

end

/-- The states are the same, but if a structural command was spent in the full run, it is still
outstanding in the run without the late reports. -/
structure Coordinator.Trails (full cut : Coordinator) (spent : Prop) : Prop where
  /-- Apart from the flag for structural commands the states are the same. -/
  rest_eq : full.requesting false = cut.requesting false
  /-- The flag differs where a command was spent. -/
  flag_iff : cut.structuralMoveRequested = true ↔ full.structuralMoveRequested = true ∨ spent
  /-- What was spent is not outstanding. -/
  down : spent → full.structuralMoveRequested = false

/-- The actions are the same, but a close that finds the structural command spent asks for no
synchronisation. -/
structure Moment.Repeats (full cut : Moment) (spent : Prop) : Prop where
  /-- The actions of other events, and of a close if nothing was spent. -/
  same : ¬ (spent ∧ cut.event.reportsClose = true) → full.outcome.actions = cut.outcome.actions
  /-- The actions of a close. -/
  lacking : spent → cut.event.reportsClose = true →
    full.outcome.actions = cut.outcome.actions.filter (!·.isResync)

namespace Coordinator.Trails

variable {full cut : Coordinator} {spent : Prop}

theorem eq_of_not_spent (trails : full.Trails cut spent) (unspent : ¬ spent) : full = cut := by
  have flag_eq : full.structuralMoveRequested = cut.structuralMoveRequested := by
    rw [Bool.eq_iff_iff, trails.flag_iff, or_iff_left unspent]
  rw [eq_requesting trails.rest_eq, flag_eq]
  rfl

theorem eq_of_spent (trails : full.Trails cut spent) (was_spent : spent) :
    full = cut.requesting false := by
  rw [eq_requesting trails.rest_eq, trails.down was_spent]

theorem imp_iff (trails : full.Trails cut spent) {other : Prop} (same : spent ↔ other) :
    full.Trails cut other := by
  rw [← propext same]
  exact trails

/-- An event that both runs meet. -/
theorem meet (trails : full.Trails cut spent) {late : Event → Bool} {stimulus : Stimulus}
    (timely : late stimulus.event = false) :
    (full.meet stimulus).Repeats (cut.meet stimulus) spent ∧
      (full.meet stimulus).after.Trails (cut.meet stimulus).after
        (¬ stimulus.event.evens late ∧ spent) := by
  by_cases closes : stimulus.event.reportsClose = true
  · have evens : stimulus.event.evens late := .inr (.inl ⟨timely, closes⟩)
    obtain ⟨view, event⟩ := stimulus
    obtain ⟨surface, rfl⟩ := Event.reportsClose_iff.mp closes
    have state_eq : (full.surfaceClosed view surface).state =
        (cut.surfaceClosed view surface).state := by
      rw [eq_requesting trails.rest_eq]
      exact cut.surfaceClosed_state view _ surface
    refine ⟨⟨?_, ?_⟩, ⟨congrArg (·.requesting false) state_eq, ?_, ?_⟩⟩
    · intro undisturbed
      have unspent : ¬ spent := fun was_spent => undisturbed ⟨was_spent, rfl⟩
      rw [trails.eq_of_not_spent unspent]
    · rintro was_spent -
      rw [trails.eq_of_spent was_spent]
      exact cut.surfaceClosed_actions view surface
    · have even : ¬ (¬ Event.evens late (.actionSurfaceClosed surface) ∧ spent) :=
        fun uneven => uneven.1 evens
      rw [or_iff_left even]
      change (cut.surfaceClosed view surface).state.structuralMoveRequested = true ↔
        (full.surfaceClosed view surface).state.structuralMoveRequested = true
      rw [state_eq]
    · rintro ⟨uneven, -⟩
      exact absurd evens uneven
  · have agrees : (full.meet stimulus).outcome.Agrees (cut.meet stimulus).outcome := by
      change (full.handle stimulus.view stimulus.event).Agrees
        (cut.handle stimulus.view stimulus.event)
      rw [eq_requesting trails.rest_eq]
      exact cut.handle_agrees stimulus.view _ closes
    have flag_after (state : Coordinator) :
        (state.meet stimulus).after.structuralMoveRequested = true ↔
          stimulus.event.asksStructural = true ∨
            stimulus.event ≠ .hostDestroyed ∧ state.structuralMoveRequested = true := by
      rw [Moment.structuralMoveRequested_after]
      simp [Coordinator.meet, closes]
    have evens_iff : stimulus.event.evens late ↔
        stimulus.event.asksStructural = true ∨ stimulus.event = .hostDestroyed := by
      simp [Event.evens, closes]
    refine ⟨⟨fun _ => agrees.actions_eq, fun _ closed => absurd closed closes⟩,
      ⟨agrees.state_eq, ?_, ?_⟩⟩
    · rw [flag_after full, flag_after cut, trails.flag_iff, evens_iff]
      by_cases asked : stimulus.event.asksStructural = true
      · simp [asked]
      · simp [asked, and_or_left]
    · rintro ⟨uneven, was_spent⟩
      rw [evens_iff, not_or] at uneven
      rw [← Bool.not_eq_true, flag_after full, trails.down was_spent]
      simp [uneven.1]

/-- A late event that the full run meets and the other does not. -/
theorem meet_late (trails : full.Trails cut spent) {surfaces : List Surface.Id} {epoch bound : Nat}
    (succeeds : full.Succeeds epoch bound) (below : ∀ surface ∈ surfaces, surface.number < bound)
    {stimulus : Stimulus} (late : stimulus.event.isLate surfaces epoch = true) :
    (full.meet stimulus).outcome.actions = [] ∧
      (full.meet stimulus).after.Trails cut
        ((full.meet stimulus).Spends (Event.isLate surfaces epoch) ∨
          ¬ stimulus.event.evens (Event.isLate surfaces epoch) ∧ spent) := by
  obtain ⟨view, event⟩ := stimulus
  cases event with
  | actionSurfaceClosed surface =>
    have number_lt : surface.number < bound := below surface (List.contains_iff_mem.mp late)
    have outcome_eq : (full.meet ⟨view, .actionSurfaceClosed surface⟩).outcome =
        (full.requesting false).ignore := surfaceClosed_of_late succeeds view number_lt
    have spends_iff : (full.meet ⟨view, .actionSurfaceClosed surface⟩).Spends
        (Event.isLate surfaces epoch) ↔ full.structuralMoveRequested = true := by
      simp [Moment.Spends, Coordinator.meet, late, Event.reportsClose]
    have uneven : ¬ Event.evens (Event.isLate surfaces epoch) (.actionSurfaceClosed surface) := by
      simp [Event.evens, late, Event.asksStructural]
    refine ⟨congrArg Outcome.actions outcome_eq, ?_⟩
    rw [Moment.after, outcome_eq, spends_iff]
    refine ⟨trails.rest_eq, ?_, fun _ => rfl⟩
    rw [trails.flag_iff]
    simp [uneven, ignore, requesting]
  | scheduledTaskFired task =>
    have epoch_le : task.epoch ≤ epoch := of_decide_eq_true late
    have outcome_eq : (full.meet ⟨view, .scheduledTaskFired task⟩).outcome = full.ignore :=
      taskFired_of_late succeeds epoch_le
    refine ⟨congrArg Outcome.actions outcome_eq, ?_⟩
    rw [Moment.after, outcome_eq]
    apply trails.imp_iff
    simp [Moment.Spends, Coordinator.meet, Event.evens, Event.reportsClose, Event.asksStructural]
  | _ => cases late

end Coordinator.Trails

/-- The stimuli without the late reports. -/
def timely (late : Event → Bool) (stimuli : List Stimulus) : List Stimulus :=
  stimuli.filter fun stimulus => !late stimulus.event

theorem timely_snoc_of_late {late : Event → Bool} {stimulus : Stimulus}
    (is_late : late stimulus.event = true) (stimuli : List Stimulus) :
    timely late (stimuli ++ [stimulus]) = timely late stimuli := by
  simp [timely, is_late]

theorem timely_snoc {late : Event → Bool} {stimulus : Stimulus}
    (in_time : late stimulus.event = false) (stimuli : List Stimulus) :
    timely late (stimuli ++ [stimulus]) = timely late stimuli ++ [stimulus] := by
  simp [timely, in_time]

namespace Coordinator

section

variable {host : Coordinator} {surfaces : List Surface.Id} {epoch bound : Nat}

/-- The run without the late reports keeps up with the full run. -/
theorem trails_run (succeeds : host.Succeeds epoch bound)
    (below : ∀ surface ∈ surfaces, surface.number < bound) (stimuli : List Stimulus) :
    (host.run stimuli).Trails (host.run (timely (Event.isLate surfaces epoch) stimuli))
      (Spent (Event.isLate surfaces epoch) (host.history stimuli)) := by
  induction stimuli using List.reverseRecOn with
  | nil =>
    have unspent : ¬ Spent (Event.isLate surfaces epoch) [] := not_since_nil _ _
    exact ⟨rfl, (or_iff_left unspent).symm, fun spent => absurd spent unspent⟩
  | append_singleton stimuli stimulus ih =>
    have spent_iff : Spent (Event.isLate surfaces epoch) (host.history (stimuli ++ [stimulus])) ↔
        ((host.run stimuli).meet stimulus).Spends (Event.isLate surfaces epoch) ∨
          ¬ stimulus.event.evens (Event.isLate surfaces epoch) ∧
            Spent (Event.isLate surfaces epoch) (host.history stimuli) := by
      rw [Spent, history_snoc, since_snoc]
      rfl
    rw [run_snoc]
    cases late : stimulus.event.isLate surfaces epoch with
    | true =>
      rw [timely_snoc_of_late late]
      exact (ih.meet_late (succeeds_run succeeds stimuli) below late).2.imp_iff spent_iff.symm
    | false =>
      rw [timely_snoc late, run_snoc]
      apply (ih.meet late).2.imp_iff
      rw [spent_iff]
      simp [Moment.Spends, Coordinator.meet, late]

theorem run_timely (succeeds : host.Succeeds epoch bound)
    (below : ∀ surface ∈ surfaces, surface.number < bound) {stimuli : List Stimulus}
    (unspent : ∀ moment ∈ host.history stimuli, ¬ moment.Spends (Event.isLate surfaces epoch)) :
    host.run stimuli = host.run (timely (Event.isLate surfaces epoch) stimuli) := by
  apply (trails_run succeeds below stimuli).eq_of_not_spent
  intro spent
  obtain ⟨moment, member, spends⟩ := spent.exists_mem
  exact unspent moment member spends

/-- While no late close finds a structural command outstanding, the timely events lead to the same
actions in both runs. -/
theorem actions_timely (succeeds : host.Succeeds epoch bound)
    (below : ∀ surface ∈ surfaces, surface.number < bound) {stimuli : List Stimulus}
    (unspent : ∀ moment ∈ host.history stimuli, ¬ moment.Spends (Event.isLate surfaces epoch)) :
    ((host.history stimuli).filter fun moment => !moment.event.isLate surfaces epoch).map
        (·.outcome.actions) =
      (host.history (timely (Event.isLate surfaces epoch) stimuli)).map (·.outcome.actions) := by
  induction stimuli using List.reverseRecOn with
  | nil => rfl
  | append_singleton stimuli stimulus ih =>
    have unspent_before : ∀ moment ∈ host.history stimuli,
        ¬ moment.Spends (Event.isLate surfaces epoch) := by
      intro moment member
      apply unspent moment
      rw [history_snoc]
      exact List.mem_append_left _ member
    rw [history_snoc, List.filter_append, List.map_append, ih unspent_before]
    cases late : stimulus.event.isLate surfaces epoch with
    | true =>
      rw [timely_snoc_of_late late]
      simp [Coordinator.meet, late]
    | false =>
      rw [timely_snoc late, history_snoc, ← run_timely succeeds below unspent_before]
      simp [Coordinator.meet, late]

end

/-- When a host is gone, events arrive that may be late: reports on surfaces that it had started,
and tasks of its epoch or an earlier one. They lead to no action. The run without them ends in the
same state, and its events lead to the same actions, but for structural commands that a late close
used up: until the next structural command, timely close or end of the host such a command is still
outstanding in the run without the late reports, and there the close may ask for a synchronisation
that it does not ask for in the full run. If no late close finds a structural command outstanding,
both runs are the same. -/
theorem late_reports_only_spend (settings : Settings) (earlier later : List Stimulus)
    (view : HostView) :
    let old := (initial settings).run earlier
    let late := Event.isLate (issued ((initial settings).history earlier)) old.epoch
    let host := (old.handle view .hostDestroyed).state
    (host.run later).Trails (host.run (timely late later)) (Spent late (host.history later)) ∧
    (∀ front next back, later = front ++ next :: back →
      (late next.event = true → ((host.run front).meet next).outcome.actions = []) ∧
      (late next.event = false →
        ((host.run front).meet next).Repeats ((host.run (timely late front)).meet next)
          (Spent late (host.history front)))) ∧
    ((∀ moment ∈ host.history later, ¬ moment.Spends late) →
      host.run later = host.run (timely late later) ∧
        ((host.history later).filter fun moment => !late moment.event).map (·.outcome.actions) =
          (host.history (timely late later)).map (·.outcome.actions)) := by
  intro old late host
  have succeeds : host.Succeeds old.epoch old.surfaces.nextNumber :=
    old.succeeds_hostDestroyed view
  have below : ∀ surface ∈ issued ((initial settings).history earlier),
      surface.number < old.surfaces.nextNumber := by
    intro surface member
    obtain ⟨moment, member, descriptor, started⟩ := mem_issued_iff.mp member
    exact number_lt_of_started settings earlier member started
  refine ⟨trails_run succeeds below later, ?_, ?_⟩
  · rintro front next back rfl
    have trails := trails_run succeeds below front
    exact ⟨fun is_late => (trails.meet_late (succeeds_run succeeds front) below is_late).1,
      fun in_time => (trails.meet in_time).1⟩
  · intro unspent
    exact ⟨run_timely succeeds below unspent, actions_timely succeeds below unspent⟩

/-- The old host had shown a surface. Its late close uses up the promotion that was given under the
surface of the new host, and the close of that surface asks for no synchronisation. A late close
that finds no structural command outstanding has no part in anything, nor has a late task. -/
theorem late_close_spends_promotion :
    let view : HostView := Host.initial.view .still
    let announced : Stimulus := ⟨view, .paneAnnounced (.book ⟨7⟩ none) none none⟩
    let earlier : List Stimulus := [announced, ⟨view, .itemToggled ⟨42⟩ none⟩]
    let restructured : List Stimulus :=
      [announced, ⟨view, .itemToggled ⟨43⟩ (some .structuralMove)⟩,
        ⟨view, .shelfRequest ⟨.promoteNotes ⟨7⟩ [⟨43⟩], none⟩⟩]
    let lateClose : Stimulus := ⟨view, .actionSurfaceClosed ⟨1⟩⟩
    let close : Stimulus := ⟨view, .actionSurfaceClosed ⟨2⟩⟩
    let lateTask : Stimulus := ⟨view, .scheduledTaskFired ⟨0, .openSettings⟩⟩
    let old := (initial .standard).run earlier
    let late := Event.isLate (issued ((initial .standard).history earlier)) old.epoch
    let host := (old.handle view .hostDestroyed).state
    ((host.run (restructured ++ [lateClose])).meet close).outcome.actions =
        ((host.run (timely late (restructured ++ [lateClose]))).meet
          close).outcome.actions.filter (!·.isResync) ∧
      ((host.run (restructured ++ [lateClose])).meet lateTask).outcome.actions = [] ∧
      host.run [announced, lateClose, lateTask] =
        host.run (timely late [announced, lateClose, lateTask]) := by
  intro view announced earlier restructured lateClose close lateTask old late host
  have spent : Spent late (host.history (restructured ++ [lateClose])) := by
    rw [Spent, history_snoc, since_snoc]
    exact .inl ⟨by decide, rfl, by decide⟩
  refine ⟨?_, ?_, ?_⟩
  · have steps := (late_reports_only_spend .standard earlier
      (restructured ++ [lateClose] ++ [close]) view).2.1
    exact ((steps _ close [] rfl).2 (by decide)).lacking spent rfl
  · have steps := (late_reports_only_spend .standard earlier
      (restructured ++ [lateClose] ++ [lateTask]) view).2.1
    exact (steps _ lateTask [] rfl).1 (by decide)
  · have same := (late_reports_only_spend .standard earlier
      [announced, lateClose, lateTask] view).2.2
    exact (same (by decide)).1

/-- Late reports do have a part in a run. -/
theorem late_reports_have_effect :
    ¬ ∀ (settings : Settings) (earlier later : List Stimulus) (view : HostView),
      let old := (initial settings).run earlier
      let late := Event.isLate (issued ((initial settings).history earlier)) old.epoch
      let host := (old.handle view .hostDestroyed).state
      ((host.history later).filter fun moment => !late moment.event).map (·.outcome.actions) =
          (host.history (timely late later)).map (·.outcome.actions) ∧
        (∀ moment ∈ host.history later, late moment.event = true → moment.outcome.actions = []) ∧
          host.run later = host.run (timely late later) := by
  intro without_effect
  let view : HostView := Host.initial.view .still
  let announced : Stimulus := ⟨view, .paneAnnounced (.book ⟨7⟩ none) none none⟩
  let earlier : List Stimulus := [announced, ⟨view, .itemToggled ⟨42⟩ none⟩]
  let later : List Stimulus :=
    [announced, ⟨view, .itemToggled ⟨43⟩ (some .structuralMove)⟩,
      ⟨view, .shelfRequest ⟨.promoteNotes ⟨7⟩ [⟨43⟩], none⟩⟩, ⟨view, .actionSurfaceClosed ⟨1⟩⟩,
      ⟨view, .actionSurfaceClosed ⟨2⟩⟩]
  have same := (without_effect .standard earlier later view).1
  revert same
  decide

end Coordinator

end Panes
