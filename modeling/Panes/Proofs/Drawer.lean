import Panes.Proofs.Drawer.Offset
import Panes.Proofs.Turn
import Mathlib.Data.List.Destutter

/-!
# The edges of the drawer

A sample that counts lies at one of two edges, and the drawer reports that edge exactly if the last
sample before it that counts lay at the other one. So what it reports is the edges of all samples
without repetitions, and marking the drawer open or closed in between makes no difference to that.
The induction carries the edge of the last sample that counted, which is what the phase keeps.
-/

namespace Panes.Drawer

/-- What can happen to the drawer. -/
inductive Operation
  /-- It reports its offset. -/
  | slide (offset : Offset)
  /-- The program opens it. -/
  | markOpen
  /-- The program closes it. -/
  | markClosed
  deriving DecidableEq, Repr

namespace Operation

/-- Carry out an operation: the drawer that it leaves, and the edge that it makes. -/
def perform (drawer : Drawer) : Operation → Drawer × Option Edge
  | slide offset => drawer.slide offset
  | markOpen => (drawer.markOpen, none)
  | markClosed => (drawer.markClosed, none)

/-- The sample that the drawer reports. -/
def sample? : Operation → Option Offset
  | slide offset => some offset
  | _ => none

/-- The edge that the sample lies at, if it counts. -/
def edge? (operation : Operation) : Option Edge := operation.sample?.bind (·.value.edge?)

end Operation

/-- The drawer after an operation. -/
def next (drawer : Drawer) (operation : Operation) : Drawer := (operation.perform drawer).1

/-- The edge that a turn makes. -/
def reported? (turn : Turn Drawer Operation) : Option Edge :=
  (turn.operation.perform turn.before).2

/-- What the logical flag is set to at a turn, by the edge that it makes or by a mark. -/
def flag? (turn : Turn Drawer Operation) : Option Bool :=
  match turn.operation with
  | .slide _ => (reported? turn).map Edge.isOpen
  | .markOpen => some true
  | .markClosed => some false

/-! ## One operation -/

/-- The phase after samples, given the edge of the last one that counted. -/
def phaseAfter (last : Option Edge) : Phase := (last.map Edge.phase).getD .unknown

theorem phaseAfter_eq_iff {last : Option Edge} {edge : Edge} :
    phaseAfter last = edge.phase ↔ last = some edge := by
  rcases last with _ | _ | _ <;> cases edge <;> decide

/-- A sample makes the edge that it lies at, unless the phase is there already. -/
theorem edge?_phase (phase : Phase) (offset : Offset) :
    phase.edge? offset = offset.value.edge?.filter (·.phase ≠ phase) := by
  rw [Offset.edge?_value]
  unfold Phase.edge?
  cases zero : offset.isZero with
  | true =>
    rw [Offset.isPositive_eq_false_of_isZero zero]
    cases phase <;> rfl
  | false => cases positive : offset.isPositive <;> cases phase <;> rfl

theorem slide_eq (drawer : Drawer) (offset : Offset) :
    drawer.slide offset =
      let edge := drawer.phase.edge? offset
      (⟨(edge.map Edge.phase).getD drawer.phase, some offset,
        (edge.map Edge.isOpen).getD drawer.isOpen⟩, edge) := by
  unfold slide
  cases drawer.phase.edge? offset <;> rfl

theorem reported?_eq (drawer : Drawer) (operation : Operation) :
    reported? ⟨drawer, operation⟩ = operation.edge?.filter (·.phase ≠ drawer.phase) := by
  cases operation with
  | slide offset =>
    exact (congrArg Prod.snd (slide_eq drawer offset)).trans (edge?_phase drawer.phase offset)
  | markOpen => rfl
  | markClosed => rfl

/-- The phase goes with the samples that count. -/
theorem phase_next (drawer : Drawer) (operation : Operation) :
    (next drawer operation).phase = (operation.edge?.map Edge.phase).getD drawer.phase := by
  cases operation with
  | slide offset =>
    have phase_eq : (drawer.slide offset).1.phase =
        ((drawer.phase.edge? offset).map Edge.phase).getD drawer.phase :=
      congrArg (·.1.phase) (slide_eq drawer offset)
    refine phase_eq.trans ?_
    rw [edge?_phase]
    change _ = (offset.value.edge?.map Edge.phase).getD drawer.phase
    cases lies : offset.value.edge? with
    | none => rfl
    | some edge =>
      by_cases there : edge.phase = drawer.phase <;> simp [Option.filter_some, there]
  | markOpen => rfl
  | markClosed => rfl

theorem isOpen_next (drawer : Drawer) (operation : Operation) :
    (next drawer operation).isOpen = (flag? ⟨drawer, operation⟩).getD drawer.isOpen := by
  cases operation with
  | slide offset =>
    change (drawer.slide offset).1.isOpen =
      ((drawer.slide offset).2.map Edge.isOpen).getD drawer.isOpen
    rw [slide_eq]
  | markOpen => rfl
  | markClosed => rfl

theorem lastOffset_next (drawer : Drawer) (operation : Operation) :
    (next drawer operation).lastOffset = (operation.sample?.map some).getD drawer.lastOffset := by
  cases operation with
  | slide offset => exact congrArg (·.1.lastOffset) (slide_eq drawer offset)
  | markOpen => rfl
  | markClosed => rfl

/-! ## Several operations -/

theorem destutter_toList_append {α : Type} [DecidableEq α] {last : Option α} {item : α}
    (other : last ≠ some item) (items : List α) :
    (last.toList ++ item :: items).destutter (· ≠ ·) =
      last.toList ++ (item :: items).destutter (· ≠ ·) := by
  cases last with
  | none => rfl
  | some last =>
    have apart : last ≠ item := fun same => other (congrArg some same)
    exact List.destutter'_cons_pos items apart

/-- From a drawer that keeps the edge of the last sample, the edges that are reported continue that
one without repetitions. -/
theorem reported_from (operations : List Operation) (last : Option Edge) (drawer : Drawer)
    (keeps : drawer.phase = phaseAfter last) :
    last.toList ++ (course next drawer operations).filterMap reported? =
      (last.toList ++ operations.filterMap Operation.edge?).destutter (· ≠ ·) := by
  induction operations generalizing last drawer with
  | nil => cases last <;> rfl
  | cons operation operations ih =>
    have phase_eq := phase_next drawer operation
    have reported_eq := reported?_eq drawer operation
    rw [course, List.filterMap_cons, List.filterMap_cons]
    cases lies : operation.edge? with
    | none =>
      rw [lies] at phase_eq reported_eq
      rw [reported_eq]
      exact ih last (next drawer operation) (phase_eq.trans keeps)
    | some edge =>
      rw [lies] at phase_eq reported_eq
      have continued := ih (some edge) (next drawer operation) phase_eq
      by_cases repeats : last = some edge
      · have silent : reported? ⟨drawer, operation⟩ = none := by
          rw [reported_eq, keeps, phaseAfter_eq_iff.mpr repeats]
          simp [Option.filter_some]
        rw [silent, repeats]
        exact continued.trans (List.destutter'_cons_neg _ (not_not_intro rfl)).symm
      · have makes : reported? ⟨drawer, operation⟩ = some edge := by
          have apart : edge.phase ≠ drawer.phase := by
            rw [keeps, ne_comm]
            exact mt phaseAfter_eq_iff.mp repeats
          rw [reported_eq, Option.filter_some, if_pos (decide_eq_true apart)]
        rw [makes, destutter_toList_append repeats]
        exact congrArg (last.toList ++ ·) continued

/-! ## From the start -/

/-- The drawer after some operations, one after another. -/
def run (operations : List Operation) : Drawer := operations.foldl next initial

/-- The turns of these operations. -/
def history (operations : List Operation) : List (Turn Drawer Operation) :=
  course next initial operations

/-- The drawer detects the edges of its samples. Of the samples, those that are zero or positive lie
at an edge, and the others do not count. Whatever marks come in between, the drawer reports the
edges of the samples in order, without repetitions. The phase is that of the last sample that
counts, the flag is as the last reported edge or mark set it, and the offset is that of the last
sample, whether it counts or not. -/
theorem edges_follow_samples (operations : List Operation) :
    let turns := history operations
    let drawer := run operations
    let samples := operations.filterMap Operation.sample?
    let edges := samples.filterMap (·.value.edge?)
    turns.filterMap reported? = edges.destutter (· ≠ ·) ∧
      drawer.phase = (edges.getLast?.map Edge.phase).getD .unknown ∧
      drawer.isOpen = (turns.filterMap flag?).getLast?.getD false ∧
      drawer.lastOffset = samples.getLast? := by
  intro turns drawer samples edges
  have edges_eq : operations.filterMap Operation.edge? = edges :=
    (List.filterMap_filterMap ..).symm
  refine ⟨?_, ?_, ?_, ?_⟩
  · rw [← edges_eq]
    exact reported_from operations none initial rfl
  · have phase_eq := foldl_eq_getLast_read Drawer.phase Operation.edge? Edge.phase
      (fun turn => phase_next turn.before turn.operation) initial operations
    rwa [edges_eq] at phase_eq
  · exact foldl_eq_getLast Drawer.isOpen flag? (fun turn => isOpen_next turn.before turn.operation)
      initial operations
  · have lastOffset_eq := foldl_eq_getLast_read Drawer.lastOffset Operation.sample? some
      (fun turn => lastOffset_next turn.before turn.operation) initial operations
    refine lastOffset_eq.trans ?_
    cases samples.getLast? <;> rfl

/-- The drawer is pulled out in two samples, marked closed in between, and pushed back. -/
example :
    (history [.slide ⟨0x3e99999a⟩, .markClosed, .slide ⟨0x3f19999a⟩, .slide ⟨0⟩]).filterMap
      reported? = [.opened, .closed] := by decide

end Panes.Drawer
