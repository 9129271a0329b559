import Mathlib.Data.List.DropRight
import Panes.Proofs.Background
import Panes.Proofs.Emission

/-!
# Imports

A document arrives when a file is chosen, or with a launch that asks to view it. The document that
arrived last waits until the host comes to the foreground, and is offered then and at no other time.
So what waits can be read off the history since the host last came to the foreground.
-/

namespace Panes

/-- The address of the document that arrives with an event, if one does. -/
def Event.arrival? : Event → Option String
  | fileChosen uri => some uri
  | coldStart intent => if intent.action = "view" then intent.data else none
  | _ => none

/-- The host comes to the foreground. -/
def Event.resumes : Event → Bool
  | resumed _ => true
  | _ => false

/-- The document that the user is asked about. -/
def Action.prompted? : Action → Option PendingImport
  | promptImport pending => some pending
  | _ => none

namespace Moment

/-- The document that arrives, if one does. -/
def arriving? (moment : Moment) : Option PendingImport :=
  moment.event.arrival?.map (PendingImport.arriving · moment.view.now)

/-- The documents that the user is asked about. -/
def prompts (moment : Moment) : List PendingImport :=
  moment.outcome.actions.filterMap Action.prompted?

/-- What an event makes of the document that waits. -/
theorem pendingImport_after (moment : Moment) :
    moment.after.pendingImport =
      if moment.event.resumes then none else moment.arriving?.or moment.before.pendingImport := by
  have next_eq : moment.after.pendingImport =
      (moment.before.standing.next moment.view moment.event).pendingImport :=
    congrArg Standing.pendingImport (moment.before.standing_handle moment.view moment.event)
  rw [next_eq, arriving?]
  cases moment.event <;> rfl

/-- The host that comes to the foreground is asked about what waits, before anything else. -/
theorem actions_resumed {moment : Moment} (resumes : moment.event.resumes = true) :
    ∃ later, moment.outcome.actions =
        (moment.before.pendingImport.map Action.promptImport).toList ++ later ∧
      later.filterMap Action.prompted? = [] := by
  obtain ⟨state, view, event⟩ := moment
  cases event with
  | resumed firstRun => exact ⟨_, rfl, by cases firstRun <;> rfl⟩
  | _ => cases resumes

theorem prompts_resumed {moment : Moment} (resumes : moment.event.resumes = true) :
    moment.prompts = moment.before.pendingImport.toList := by
  obtain ⟨later, actions_eq, silent⟩ := actions_resumed resumes
  rw [prompts, actions_eq, List.filterMap_append, silent, List.append_nil]
  cases moment.before.pendingImport <;> rfl

/-- No other event asks about a document. -/
theorem prompts_other {moment : Moment} (other : moment.event.resumes = false) :
    moment.prompts = [] := by
  rw [prompts, List.filterMap_eq_nil_iff]
  intro action member
  have known := moment.before.handle_within moment.view moment.event action member
  cases action with
  | promptImport pending =>
    exfalso
    revert known other
    cases moment.event <;> simp [Event.resumes]
  | _ => rfl

end Moment

/-! ## Runs -/

/-- The part of a history since the host last came to the foreground. -/
def sinceResume (moments : List Moment) : List Moment :=
  moments.rtakeWhile fun moment => !moment.event.resumes

/-- The document that arrived last since the host last came to the foreground. -/
def lastArrival? (moments : List Moment) : Option PendingImport :=
  ((sinceResume moments).filterMap Moment.arriving?).getLast?

theorem lastArrival_snoc (moments : List Moment) (newest : Moment) :
    lastArrival? (moments ++ [newest]) =
      if newest.event.resumes then none else newest.arriving?.or (lastArrival? moments) := by
  unfold lastArrival? sinceResume
  cases resumes : newest.event.resumes with
  | true =>
    rw [List.rtakeWhile_concat_neg _ _ _ (by simp [resumes])]
    rfl
  | false =>
    rw [List.rtakeWhile_concat_pos _ _ _ (by simp [resumes]), List.filterMap_append,
      List.getLast?_append]
    cases arriving : newest.arriving? <;> simp [arriving]

theorem map_uri_lastArrival (moments : List Moment) :
    (lastArrival? moments).map (·.uri) =
      ((sinceResume moments).filterMap (·.event.arrival?)).getLast? := by
  rw [lastArrival?, ← List.getLast?_map, List.map_filterMap]
  congr 2
  funext moment
  rw [Moment.arriving?, Option.map_map]
  exact Option.map_id_apply

/-- A document is suggested under the name of its address. -/
theorem suggestedName_lastArrival {moments : List Moment} {pending : PendingImport}
    (last : lastArrival? moments = some pending) :
    pending.suggestedName = Document.bookName? pending.uri := by
  obtain ⟨moment, -, arrived⟩ := List.mem_filterMap.mp (List.mem_of_getLast? last)
  obtain ⟨uri, -, rfl⟩ := Option.map_eq_some_iff.mp arrived
  rfl

namespace Coordinator

/-- What waits is what arrived last. -/
theorem pendingImport_run (settings : Settings) (stimuli : List Stimulus) :
    ((initial settings).run stimuli).pendingImport =
      lastArrival? ((initial settings).history stimuli) := by
  induction stimuli using List.reverseRecOn with
  | nil => rfl
  | append_singleton stimuli stimulus ih =>
    rw [run_snoc, history_snoc, Moment.pendingImport_after, lastArrival_snoc, ← ih]
    rfl

/-- Whenever the host comes to the foreground, the user is first of all asked about the document
that arrived last since the previous time, under its suggested name, and is asked about no other;
without an arrival the user is not asked. No other event asks, and of the others only arrivals touch
what waits. -/
theorem import_prompted_once (settings : Settings) (stimuli : List Stimulus) (next : Stimulus) :
    let moments := (initial settings).history stimuli
    let moment := ((initial settings).run stimuli).meet next
    let arrivals := (sinceResume moments).filterMap (·.event.arrival?)
    (moment.event.resumes = true →
      match arrivals.getLast? with
      | none => moment.prompts = []
      | some uri => ∃ pending later, moment.outcome.actions = .promptImport pending :: later ∧
          later.filterMap Action.prompted? = [] ∧ pending.uri = uri ∧
          pending.suggestedName = Document.bookName? uri) ∧
    (moment.event.resumes = false → moment.prompts = []) ∧
    (moment.event.resumes = false → moment.event.arrival? = none →
      moment.after.pendingImport = moment.before.pendingImport) := by
  intro moments moment arrivals
  have waiting : moment.before.pendingImport = lastArrival? moments :=
    pendingImport_run settings stimuli
  have addresses : arrivals.getLast? = (lastArrival? moments).map (·.uri) :=
    (map_uri_lastArrival moments).symm
  refine ⟨fun resumes => ?_, Moment.prompts_other, fun other quiet => ?_⟩
  · cases last : lastArrival? moments with
    | none =>
      rw [addresses, last]
      change moment.prompts = []
      rw [Moment.prompts_resumed resumes, waiting, last]
      rfl
    | some pending =>
      rw [addresses, last]
      obtain ⟨later, actions_eq, silent⟩ := Moment.actions_resumed resumes
      rw [waiting, last] at actions_eq
      exact ⟨pending, later, actions_eq, silent, rfl, suggestedName_lastArrival last⟩
  · rw [Moment.pendingImport_after, other, Moment.arriving?, quiet]
    rfl

end Coordinator

end Panes
