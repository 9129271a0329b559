import Panes.Proofs.Replay.Run

/-!
# Clock and trace contexts in a replay

Whether a span is traced while the event of a line is handled depends on the filter alone. So a line
takes from its number no more than what the clock reads and which trace context its commands get, if
they get any. Both are the surroundings' own choice. If the clock reads the same at its lines,
whatever one script draws for them, another script that asks for the same can draw as well.
-/

namespace Panes

namespace Trace

/-- A directive on spans is about the spans of all lines, or of none. -/
theorem Directive.coversSpan_replayStep (directive : Directive) (line other : Nat) :
    directive.coversSpan (.replayStep line) = directive.coversSpan (.replayStep other) := by
  unfold coversSpan
  congr 1
  cases directive.condition with
  | none => rfl
  | some condition =>
    simp only [Option.all_some, Opening.replayStep, List.lookup_cons]
    split <;> rfl

namespace Filter

variable (filter : Filter)

theorem isSome_levelWithin_replayStep (line other : Nat) :
    (filter.levelWithin? (.replayStep line)).isSome =
      (filter.levelWithin? (.replayStep other)).isSome := by
  have same : (filter.directives.foldl add []).filter (·.coversSpan (.replayStep line)) =
      (filter.directives.foldl add []).filter (·.coversSpan (.replayStep other)) := by
    congr 1
    funext directive
    exact directive.coversSpan_replayStep line other
  unfold levelWithin?
  rw [same]
  split <;> rfl

theorem traces_replayStep (scope : Scope) (line other : Nat) :
    filter.traces scope (.replayStep line) = filter.traces scope (.replayStep other) := by
  unfold traces
  rw [filter.isSome_levelWithin_replayStep line other]
  rfl

/-- What is open after a span was opened, if it is traced. -/
def opened (scope : Scope) (opening : Opening) : Scope :=
  if filter.traces scope opening then filter.enter scope opening scope.spans.length else scope

/-- What is traced stays open within further spans. -/
theorem isSome_foldl_opened {scope : Scope} (traced : scope.spans.head?.isSome = true)
    (openings : List Opening) :
    (openings.foldl filter.opened scope).spans.head?.isSome = true := by
  induction openings generalizing scope with
  | nil => exact traced
  | cons opening openings ih =>
    refine ih ?_
    unfold opened
    split
    · rfl
    · exact traced

/-- Some of several spans within one another is traced exactly if one of them is traced alone. -/
theorem isSome_foldl_opened_empty (openings : List Opening) :
    (openings.foldl filter.opened .empty).spans.head?.isSome =
      openings.any (filter.traces .empty) := by
  induction openings with
  | nil => rfl
  | cons opening openings ih =>
    rw [List.foldl_cons, List.any_cons]
    cases traced : filter.traces .empty opening with
    | true =>
      rw [opened, if_pos traced, Bool.true_or]
      exact filter.isSome_foldl_opened rfl openings
    | false => rw [opened, if_neg (ne_true_of_eq_false traced), ih, Bool.false_or]

end Filter

end Trace

namespace Replay

open Trace

theorem isSome_scopeOfEvent (filter : Filter) (line other : Nat) :
    (scopeOfEvent filter line).spans.head?.isSome =
      (scopeOfEvent filter other).spans.head?.isSome := by
  have own := filter.isSome_foldl_opened_empty [.replayStep line, .dispatch 0, .handle []]
  have others := filter.isSome_foldl_opened_empty [.replayStep other, .dispatch 0, .handle []]
  rw [List.any_cons, filter.traces_replayStep .empty line other, ← List.any_cons, ← others] at own
  exact own

namespace Setting

variable (setting : Setting)

/-- The same setting with another clock. -/
def reading (clock : Nat → Int64) : Setting := { setting with now := clock }

/-- What the clock reads at the steps that lines ask for. -/
def readings (number : Nat) (lines : List (List Char)) : List Int64 :=
  (stepsFrom number lines).map fun asked => setting.now asked.2

/-- The same setting with other contexts. -/
def drawing (contexts : Nat → Nat → Shelf.TraceContext) : Setting :=
  { setting with context := contexts }

theorem surroundings_drawing {contexts others : Nat → Nat → Shelf.TraceContext} {line : Nat}
    (same : ∀ span, contexts line span = others line span) :
    (setting.drawing contexts).surroundings line = (setting.drawing others).surroundings line := by
  simp only [surroundings, drawing, same]

/-- A line can draw the context that another one drew, if the clock reads the same. -/
theorem exists_surroundings (other : Nat) :
    ∃ context : Shelf.TraceContext, ∀ clock contexts line, clock line = setting.now other →
      (∀ span, contexts line span = context) →
      ((setting.reading clock).drawing contexts).surroundings line =
        setting.surroundings other := by
  cases setting_eq : setting.filter with
  | none =>
    refine ⟨⟨"", ""⟩, fun clock contexts line read _ => ?_⟩
    simp [surroundings, drawing, reading, setting_eq, read]
  | some filter =>
    cases other_eq : (scopeOfEvent filter other).spans.head? with
    | none =>
      refine ⟨⟨"", ""⟩, fun clock contexts line read _ => ?_⟩
      have untraced := isSome_scopeOfEvent filter line other
      rw [other_eq, Option.isSome_none, Option.isSome_eq_false_iff, Option.isNone_iff_eq_none]
        at untraced
      simp [surroundings, drawing, reading, setting_eq, other_eq, untraced, read]
    | some span =>
      refine ⟨setting.context other span.2, fun clock contexts line read drawn => ?_⟩
      have traced := isSome_scopeOfEvent filter line other
      rw [other_eq, Option.isSome_some, Option.isSome_iff_exists] at traced
      obtain ⟨own, own_eq⟩ := traced
      simp [surroundings, drawing, reading, setting_eq, other_eq, own_eq, drawn, read]

/-- The lines of a script can draw the contexts that the lines of another one drew, if the clock
reads the same at them. -/
theorem exists_drawing {clock : Nat → Int64} {own other : List (Step × Nat)}
    (same : own.map (·.1) = other.map (·.1))
    (read : own.map (fun asked => clock asked.2) = other.map fun asked => setting.now asked.2)
    (distinct : (own.map (·.2)).Nodup) :
    ∃ contexts,
      own.map ((setting.reading clock).drawing contexts).done = other.map setting.done := by
  induction own generalizing other with
  | nil =>
    obtain rfl : other = [] := by simpa using same.symm
    exact ⟨setting.context, rfl⟩
  | cons first own ih =>
    obtain ⟨step, number⟩ := first
    cases other with
    | nil => cases same
    | cons second other =>
      obtain ⟨step_eq, rest⟩ := List.cons.inj same
      obtain ⟨now_eq, read⟩ := List.cons.inj read
      obtain ⟨fresh, distinct⟩ := List.nodup_cons.mp distinct
      obtain ⟨contexts, later⟩ := ih rest read distinct
      obtain ⟨context, drawn⟩ := setting.exists_surroundings second.2
      -- The first line draws for itself. No other line has its number, so none draws anew.
      let extended : Nat → Nat → Shelf.TraceContext := fun line span =>
        if line = number then context else contexts line span
      have first_eq := drawn clock extended number now_eq fun _ => if_pos rfl
      have unchanged : ∀ entry ∈ own, ((setting.reading clock).drawing extended).done entry =
          ((setting.reading clock).drawing contexts).done entry := by
        intro entry member
        have inside : entry.2 ∈ own.map (·.2) := List.mem_map_of_mem member
        have other_line : entry.2 ≠ number := fun same => fresh (same ▸ inside)
        rw [done, done, (setting.reading clock).surroundings_drawing fun span => if_neg other_line]
      refine ⟨extended, ?_⟩
      rw [List.map_cons, List.map_cons, ← later, List.map_congr_left unchanged, done, done,
        first_eq]
      exact congrArg (fun step => Step.toSession _ step :: _) step_eq

end Setting

/-! ## Numbers of lines -/

theorem le_of_mem_stepsFrom {number : Nat} {lines : List (List Char)} {entry : Step × Nat}
    (member : entry ∈ stepsFrom number lines) : number ≤ entry.2 := by
  induction lines generalizing number with
  | nil => cases member
  | cons line lines ih =>
    rcases line_cases line with ⟨sound, skipped⟩ | ⟨faulty, -, -⟩ | ⟨step, sound, asked, read⟩
    · rw [stepsFrom_skipped sound skipped] at member
      exact Nat.le_of_succ_le (ih member)
    · rw [stepsFrom_faulty faulty] at member
      cases member
    · rw [stepsFrom_step sound asked read] at member
      rcases List.mem_cons.mp member with rfl | later
      · exact Nat.le_refl _
      · exact Nat.le_of_succ_le (ih later)

theorem nodup_stepsFrom (number : Nat) (lines : List (List Char)) :
    ((stepsFrom number lines).map (·.2)).Nodup := by
  induction lines generalizing number with
  | nil => exact List.nodup_nil
  | cons line lines ih =>
    rcases line_cases line with ⟨sound, skipped⟩ | ⟨faulty, -, -⟩ | ⟨step, sound, asked, read⟩
    · rw [stepsFrom_skipped sound skipped]
      exact ih (number + 1)
    · rw [stepsFrom_faulty faulty]
      exact List.nodup_nil
    · rw [stepsFrom_step sound asked read, List.map_cons, List.nodup_cons]
      refine ⟨fun again => ?_, ih (number + 1)⟩
      obtain ⟨entry, member, same⟩ := List.mem_map.mp again
      have later : number + 1 ≤ entry.2 := le_of_mem_stepsFrom member
      omega

/-- The steps that lines ask for are those that other lines ask for, if the lines that ask for
something are the same, the clock reads the same, and the same contexts are drawn. -/
theorem Setting.exists_steps (setting : Setting) (number other : Nat) {clock : Nat → Int64}
    {lines others : List (List Char)} (same : askingLines lines = askingLines others)
    (read : (setting.reading clock).readings number lines = setting.readings other others) :
    ∃ contexts,
      ((setting.reading clock).drawing contexts).steps number lines =
        setting.steps other others := by
  refine setting.exists_drawing ?_ read (nodup_stepsFrom number lines)
  rw [map_stepsFrom, map_stepsFrom, same]

/-- A clock that stands still reads the same whatever the numbers of the lines are. -/
theorem Setting.readings_of_still {setting : Setting} {time : Int64}
    (still : ∀ line, setting.now line = time) (number other : Nat) {lines others : List (List Char)}
    (same : askingLines lines = askingLines others) :
    setting.readings number lines = setting.readings other others := by
  have length_eq : (stepsFrom number lines).length = (stepsFrom other others).length := by
    rw [← List.length_map (·.1), map_stepsFrom, same, ← map_stepsFrom other, List.length_map]
  simp only [readings, still, List.map_const', length_eq]

/-- Nothing is drawn where nothing is traced. -/
theorem Setting.steps_untraced {setting : Setting} (untraced : setting.filter = none)
    (contexts : Nat → Nat → Shelf.TraceContext) (number : Nat) (lines : List (List Char)) :
    (setting.drawing contexts).steps number lines = setting.steps number lines := by
  have same : (setting.drawing contexts).done = setting.done := by
    funext asked
    simp [done, surroundings, drawing, untraced]
  rw [steps, steps, same]

end Replay

end Panes
