import Panes.Coordinator.Step
import Panes.Proofs.Turn

/-!
# Runs of the coordinator

A run handles one event after another. What can be seen while an event is handled may change from
event to event, so it is part of the `Stimulus`. The history of a run keeps each stimulus with the
state that it met, and `Since` states what happened in it and was not undone afterwards.
-/

namespace Panes

/-- An event, with what can be seen while it is handled. -/
structure Stimulus where
  /-- The surroundings. -/
  view : HostView
  /-- The event. -/
  event : Event

/-- A stimulus in the course of a run, with the state that it met. -/
abbrev Moment := Turn Coordinator Stimulus

namespace Moment

/-- The surroundings. -/
abbrev view (moment : Moment) : HostView := moment.operation.view

/-- The event. -/
abbrev event (moment : Moment) : Event := moment.operation.event

/-- What handling the event came to. -/
def outcome (moment : Moment) : Outcome := moment.before.handle moment.view moment.event

/-- The state that the event left. -/
def after (moment : Moment) : Coordinator := moment.outcome.state

end Moment

namespace Coordinator

/-- Handle the next stimulus. -/
def meet (state : Coordinator) (stimulus : Stimulus) : Moment := ⟨state, stimulus⟩

/-- The state after a stimulus. -/
def next (state : Coordinator) (stimulus : Stimulus) : Coordinator := (state.meet stimulus).after

/-- The state after some stimuli, one after another. -/
def run (state : Coordinator) (stimuli : List Stimulus) : Coordinator := stimuli.foldl next state

/-- The moments of a run, in order. -/
def history (state : Coordinator) (stimuli : List Stimulus) : List Moment :=
  course next state stimuli

@[simp]
theorem run_nil (state : Coordinator) : state.run [] = state := rfl

@[simp]
theorem history_nil (state : Coordinator) : state.history [] = [] := rfl

theorem run_append (state : Coordinator) (earlier later : List Stimulus) :
    state.run (earlier ++ later) = (state.run earlier).run later :=
  List.foldl_append

theorem history_append (state : Coordinator) (earlier later : List Stimulus) :
    state.history (earlier ++ later) =
      state.history earlier ++ (state.run earlier).history later :=
  course_append state earlier later

theorem history_cons (state : Coordinator) (stimulus : Stimulus) (stimuli : List Stimulus) :
    state.history (stimulus :: stimuli) =
      state.meet stimulus :: (state.meet stimulus).after.history stimuli :=
  rfl

@[simp]
theorem run_snoc (state : Coordinator) (stimuli : List Stimulus) (stimulus : Stimulus) :
    state.run (stimuli ++ [stimulus]) = ((state.run stimuli).meet stimulus).after :=
  List.foldl_concat ..

@[simp]
theorem history_snoc (state : Coordinator) (stimuli : List Stimulus) (stimulus : Stimulus) :
    state.history (stimuli ++ [stimulus]) =
      state.history stimuli ++ [(state.run stimuli).meet stimulus] :=
  course_snoc state stimuli stimulus

section

variable (invariant : Coordinator → Prop) {state : Coordinator} (start : invariant state)
  (kept : ∀ moment : Moment, invariant moment.before → invariant moment.after)
  (stimuli : List Stimulus)
include start kept

/-- What holds at the start and is kept by every event holds throughout a run. -/
theorem run_invariant : invariant (state.run stimuli) :=
  foldl_invariant invariant start kept stimuli

/-- Every event of a run meets what holds throughout the run. -/
theorem history_invariant : ∀ moment ∈ state.history stimuli, invariant moment.before :=
  course_invariant invariant start kept stimuli

end

/-- Each moment of a history divides the run at its stimulus. -/
theorem history_split {state : Coordinator} {stimuli : List Stimulus} {front back : List Moment}
    {moment : Moment} (split : state.history stimuli = front ++ moment :: back) :
    ∃ earlier stimulus later, stimuli = earlier ++ stimulus :: later ∧
      front = state.history earlier ∧ moment = (state.run earlier).meet stimulus :=
  course_split split

/-- A value that each event either replaces by the one it reports or keeps is the one reported
last. -/
theorem run_eq_getLast {α : Type} (value : Coordinator → α) (report : Moment → Option α)
    (step : ∀ moment : Moment, value moment.after = (report moment).getD (value moment.before))
    (state : Coordinator) (stimuli : List Stimulus) :
    value (state.run stimuli) =
      ((state.history stimuli).filterMap report).getLast?.getD (value state) :=
  foldl_eq_getLast value report (fun moment => step moment) state stimuli

end Coordinator

/-- The actions that came of these moments, in order. -/
def emitted (moments : List Moment) : List Action :=
  moments.flatMap (·.outcome.actions)

theorem emitted_cons (moment : Moment) (moments : List Moment) :
    emitted (moment :: moments) = moment.outcome.actions ++ emitted moments :=
  List.flatMap_cons

/-- What is read off the actions, if each moment leads to at most one that shows something. -/
theorem filterMap_emitted {α : Type} {read : Action → Option α} {report : Moment → Option α}
    (each : ∀ moment, moment.outcome.actions.filterMap read = (report moment).toList)
    (moments : List Moment) : (emitted moments).filterMap read = moments.filterMap report := by
  induction moments with
  | nil => rfl
  | cons moment moments ih =>
    rw [emitted_cons, List.filterMap_append, each, List.filterMap_cons, ih]
    cases report moment <;> rfl

/-- Something of the first kind is in the list, and nothing of the second kind comes after it. -/
def Since {α : Type} (occurs ends : α → Prop) (moments : List α) : Prop :=
  ∃ earlier moment later, moments = earlier ++ moment :: later ∧ occurs moment ∧
    ∀ other ∈ later, ¬ ends other

@[simp]
theorem not_since_nil {α : Type} (occurs ends : α → Prop) : ¬ Since occurs ends [] := by
  rintro ⟨earlier, moment, later, split, -⟩
  simp at split

theorem Since.exists_mem {α : Type} {occurs ends : α → Prop} {moments : List α}
    (since : Since occurs ends moments) : ∃ moment ∈ moments, occurs moment := by
  obtain ⟨earlier, moment, later, rfl, occurred, -⟩ := since
  exact ⟨moment, by simp, occurred⟩

theorem Since.imp_ends {α : Type} {occurs ends weaker : α → Prop} {moments : List α}
    (since : Since occurs ends moments) (imp : ∀ moment ∈ moments, weaker moment → ends moment) :
    Since occurs weaker moments := by
  obtain ⟨earlier, moment, later, rfl, occurred, standing⟩ := since
  refine ⟨earlier, moment, later, rfl, occurred, ?_⟩
  intro other member ended
  exact standing other member (imp other (by simp [member]) ended)

/-- Something of the first kind is in the list, just the second list comes after it, and nothing of
the second kind is there. -/
def SinceWith {α : Type} (occurs ends : α → Prop) (moments later : List α) : Prop :=
  ∃ earlier moment, moments = earlier ++ moment :: later ∧ occurs moment ∧
    ∀ other ∈ later, ¬ ends other

theorem since_iff_exists {α : Type} {occurs ends : α → Prop} {moments : List α} :
    Since occurs ends moments ↔ ∃ later, SinceWith occurs ends moments later := by
  constructor
  · rintro ⟨earlier, moment, later, split⟩
    exact ⟨later, earlier, moment, split⟩
  · rintro ⟨later, earlier, moment, split⟩
    exact ⟨earlier, moment, later, split⟩

theorem sinceWith_snoc {α : Type} {occurs ends : α → Prop} {moments later : List α} {newest : α} :
    SinceWith occurs ends (moments ++ [newest]) later ↔
      (occurs newest ∧ later = []) ∨
        ¬ ends newest ∧
          ∃ before, later = before ++ [newest] ∧ SinceWith occurs ends moments before := by
  constructor
  · rintro ⟨earlier, moment, split, occurred, standing⟩
    -- Either the moment is the newest element, or the newest one closes what came later.
    rcases List.eq_nil_or_concat later with rfl | ⟨between, last, rfl⟩
    · obtain ⟨-, rfl⟩ := List.append_singleton_inj.mp split
      exact .inl ⟨occurred, rfl⟩
    · rw [List.concat_eq_append] at split standing ⊢
      rw [← List.cons_append, ← List.append_assoc] at split
      obtain ⟨rfl, rfl⟩ := List.append_singleton_inj.mp split
      refine .inr ⟨standing newest (by simp), between, rfl, earlier, moment, rfl, occurred, ?_⟩
      intro other member
      exact standing other (List.mem_append_left _ member)
  · rintro (⟨occurred, rfl⟩ | ⟨standing, before, rfl, earlier, moment, rfl, occurred, rest⟩)
    · exact ⟨moments, newest, rfl, occurred, by simp⟩
    · refine ⟨earlier, moment, by simp, occurred, ?_⟩
      intro other member
      rcases List.mem_append.mp member with older | last
      · exact rest other older
      · rw [List.mem_singleton.mp last]
        exact standing

/-- The newest element decides, or else it lets the older ones decide. -/
@[simp]
theorem since_snoc {α : Type} {occurs ends : α → Prop} {moments : List α} {newest : α} :
    Since occurs ends (moments ++ [newest]) ↔
      occurs newest ∨ ¬ ends newest ∧ Since occurs ends moments := by
  simp only [since_iff_exists, sinceWith_snoc]
  constructor
  · rintro ⟨later, ⟨occurred, -⟩ | ⟨standing, before, -, since⟩⟩
    · exact .inl occurred
    · exact .inr ⟨standing, before, since⟩
  · rintro (occurred | ⟨standing, before, since⟩)
    · exact ⟨[], .inl ⟨occurred, rfl⟩⟩
    · exact ⟨before ++ [newest], .inr ⟨standing, before, rfl, since⟩⟩

/-- The oldest element counts only if nothing came after it that ends it. -/
theorem since_cons {α : Type} {occurs ends : α → Prop} {oldest : α} {moments : List α} :
    Since occurs ends (oldest :: moments) ↔
      Since occurs ends moments ∨ occurs oldest ∧ ∀ other ∈ moments, ¬ ends other := by
  constructor
  · rintro ⟨earlier, moment, later, split, occurred, standing⟩
    cases earlier with
    | nil =>
      obtain ⟨rfl, rfl⟩ := List.cons.inj split
      exact .inr ⟨occurred, standing⟩
    | cons first earlier =>
      obtain ⟨rfl, rfl⟩ := List.cons.inj split
      exact .inl ⟨earlier, moment, later, rfl, occurred, standing⟩
  · rintro (⟨earlier, moment, later, rfl, occurred, standing⟩ | ⟨occurred, standing⟩)
    · exact ⟨oldest :: earlier, moment, later, rfl, occurred, standing⟩
    · exact ⟨[], oldest, moments, rfl, occurred, standing⟩

/-- What came before something of the first kind does not matter. -/
theorem since_append_iff_of_occurs {α : Type} {occurs ends : α → Prop} {first : α}
    (occurred : occurs first) (older newer : List α) :
    Since occurs ends (older ++ first :: newer) ↔ Since occurs ends (first :: newer) := by
  induction older with
  | nil => rfl
  | cons oldest older ih =>
    rw [List.cons_append, since_cons, ih, or_iff_left_iff_imp]
    rintro ⟨-, standing⟩
    refine since_cons.mpr (.inr ⟨occurred, ?_⟩)
    intro other member
    exact standing other (by simp [member])

end Panes
