import Mathlib.Algebra.Order.Group.Nat
import Mathlib.Algebra.Order.Ring.Canonical
import Mathlib.Algebra.Ring.Parity
import Mathlib.Data.Finset.Card
import Mathlib.Data.List.DropRight
import Panes.Selection

/-!
# Selections as sets of entries

A toggle turns its own entry over and keeps the list of identifiers increasing. An increasing list
is determined by its members, so a selection depends on nothing but the parity of the toggles of
each entry since the last clear, and not on their order.
-/

namespace Panes.Selection

variable {selection other : Selection} {ids : List ItemId} {id : ItemId}

/-- The identifiers increase, and so each stands there once. -/
def Ordered (selection : Selection) : Prop := selection.ids.Pairwise (·.raw < ·.raw)

/-! ## One toggle -/

theorem insertOrdered_perm (id : ItemId) (ids : List ItemId) :
    (insertOrdered id ids).Perm (id :: ids) := by
  induction ids with
  | nil => exact .refl _
  | cons head tail ih =>
    rw [insertOrdered]
    split
    · exact .refl _
    · exact (ih.cons head).trans (.swap id head tail)

theorem nodup_toggle {selection : Selection} (distinct : selection.ids.Nodup) (id : ItemId) :
    (selection.toggle id).ids.Nodup := by
  unfold toggle
  split
  · exact distinct.erase id
  · rename_i absent
    rw [(insertOrdered_perm id selection.ids).nodup_iff, List.nodup_cons]
    refine ⟨?_, distinct⟩
    intro member
    exact absent (List.contains_iff_mem.mpr member)

/-- A toggle turns its own entry over and leaves all others. -/
theorem contains_toggle {selection : Selection} (distinct : selection.ids.Nodup)
    (id other : ItemId) :
    (selection.toggle id).contains other =
      if other = id then !selection.contains other else selection.contains other := by
  have mem_iff : other ∈ (selection.toggle id).ids ↔
      if other = id then other ∉ selection.ids else other ∈ selection.ids := by
    unfold toggle
    by_cases selected : id ∈ selection.ids
    · rw [if_pos (show selection.contains id = true from List.contains_iff_mem.mpr selected),
        distinct.mem_erase_iff]
      by_cases own : other = id
      · simp [own, selected]
      · simp [own]
    · have unselected : ¬ selection.contains id = true := mt List.contains_iff_mem.mp selected
      rw [if_neg unselected, mem_insertOrdered]
      by_cases own : other = id
      · simp [own, selected]
      · simp [own]
  rw [Bool.eq_iff_iff, contains, List.contains_iff_mem, mem_iff]
  split <;> simp [contains]

theorem turnOver_fst (selection : Selection) (id : ItemId) :
    (selection.turnOver id).1 = selection.toggle id := by
  rw [turnOver, toggle]
  split <;> rfl

/-- An entry is answered to be selected if it was not selected before. -/
theorem turnOver_snd (selection : Selection) (id : ItemId) :
    (selection.turnOver id).2 = !selection.contains id := by
  rw [turnOver]
  split
  · next selected => rw [selected, Bool.not_true]
  · next unselected => rw [Bool.eq_false_of_not_eq_true unselected, Bool.not_false]

/-! ## Increasing lists -/

theorem pairwise_insertOrdered (ordered : ids.Pairwise (·.raw < ·.raw)) (absent : id ∉ ids) :
    (insertOrdered id ids).Pairwise (·.raw < ·.raw) := by
  induction ids with
  | nil => exact List.pairwise_singleton _ _
  | cons head tail ih =>
    obtain ⟨least, rest⟩ := List.pairwise_cons.mp ordered
    obtain ⟨other, absent⟩ : id ≠ head ∧ id ∉ tail := by simpa using absent
    rw [insertOrdered]
    split
    · next below =>
      refine List.pairwise_cons.mpr ⟨?_, ordered⟩
      intro later member
      obtain rfl | member := List.mem_cons.mp member
      · exact below
      · exact Int64.lt_trans below (least later member)
    · next above =>
      have greater : head.raw < id.raw := by
        refine Int64.lt_of_le_of_ne (Int64.not_lt.mp above) fun same => other ?_
        cases id
        cases head
        exact congrArg ItemId.mk same.symm
      refine List.pairwise_cons.mpr ⟨?_, ih rest absent⟩
      intro later member
      obtain rfl | member := mem_insertOrdered.mp member
      · exact greater
      · exact least later member

namespace Ordered

theorem empty : Ordered .empty := List.Pairwise.nil

theorem toggle (ordered : selection.Ordered) (id : ItemId) : (selection.toggle id).Ordered := by
  unfold Selection.toggle
  split
  · exact List.Pairwise.sublist List.erase_sublist ordered
  · next unselected =>
    exact pairwise_insertOrdered ordered (mt List.contains_iff_mem.mpr unselected)

theorem nodup (ordered : selection.Ordered) : selection.ids.Nodup := by
  refine List.Pairwise.imp ?_ ordered
  rintro id _ below rfl
  exact Int64.lt_irrefl below

/-- What is selected determines the list. -/
theorem ext (ordered : selection.Ordered) (ordered' : other.Ordered)
    (same : ∀ id, selection.contains id = other.contains id) : selection = other := by
  have mem_iff (id : ItemId) : id ∈ selection.ids ↔ id ∈ other.ids := by
    rw [← List.contains_iff_mem, ← List.contains_iff_mem]
    exact Bool.eq_iff_iff.mp (same id)
  have perm : selection.ids.Perm other.ids :=
    (List.perm_ext_iff_of_nodup ordered.nodup ordered'.nodup).mpr mem_iff
  have ids_eq : selection.ids = other.ids :=
    perm.eq_of_pairwise (fun _ _ _ _ below above => absurd above (Int64.lt_asymm below))
      ordered ordered'
  cases selection
  cases other
  exact congrArg Selection.mk ids_eq

end Ordered

/-! ## Many operations -/

/-- What is done to a selection. -/
inductive Operation
  /-- An entry is toggled. -/
  | toggle (id : ItemId)
  /-- All entries are dropped. -/
  | clear
  deriving DecidableEq, Repr

/-- The entry that an operation toggles. -/
def Operation.toggled? : Operation → Option ItemId
  | toggle id => some id
  | clear => none

/-- The selection after an operation. -/
def perform (selection : Selection) : Operation → Selection
  | .toggle id => (selection.turnOver id).1
  | .clear => .empty

/-- The selection after operations, when nothing was selected before. -/
def after (operations : List Operation) : Selection := operations.foldl perform .empty

/-- The entries toggled since the last clear, one after the other. -/
def sinceClear (operations : List Operation) : List ItemId :=
  (operations.rtakeWhile (·.toggled?.isSome)).filterMap Operation.toggled?

theorem after_snoc (operations : List Operation) (operation : Operation) :
    after (operations ++ [operation]) = (after operations).perform operation :=
  List.foldl_concat ..

theorem sinceClear_toggle (operations : List Operation) (id : ItemId) :
    sinceClear (operations ++ [.toggle id]) = sinceClear operations ++ [id] := by
  rw [sinceClear, List.rtakeWhile_concat_pos _ _ _ rfl, List.filterMap_append]
  rfl

theorem sinceClear_clear (operations : List Operation) :
    sinceClear (operations ++ [.clear]) = [] := by
  rw [sinceClear, List.rtakeWhile_concat_neg _ _ _ (by decide)]
  rfl

theorem ordered_after (operations : List Operation) : (after operations).Ordered := by
  induction operations using List.reverseRecOn with
  | nil => exact .empty
  | append_singleton operations operation ih =>
    rw [after_snoc]
    cases operation with
    | toggle id =>
      rw [perform, turnOver_fst]
      exact ih.toggle id
    | clear => exact .empty

/-- An entry is selected exactly if it was toggled an odd number of times since the last clear. -/
theorem contains_after (operations : List Operation) (id : ItemId) :
    (after operations).contains id = true ↔ Odd ((sinceClear operations).count id) := by
  induction operations using List.reverseRecOn with
  | nil => exact iff_of_false Bool.false_ne_true (by simp [sinceClear])
  | append_singleton operations operation ih =>
    rw [after_snoc]
    cases operation with
    | toggle toggled =>
      rw [perform, turnOver_fst, contains_toggle (ordered_after operations).nodup,
        sinceClear_toggle, List.count_append]
      by_cases own : id = toggled
      · rw [if_pos own, own, List.count_singleton_self, Nat.odd_add_one, ← own, ← ih,
          Bool.not_eq_true', Bool.not_eq_true]
      · rw [if_neg own, List.count_singleton, beq_false_of_ne (Ne.symm own)]
        exact ih
    | clear =>
      rw [sinceClear_clear]
      exact iff_of_false Bool.false_ne_true (by simp)

theorem mem_ids_after (operations : List Operation) (id : ItemId) :
    id ∈ (after operations).ids ↔ Odd ((sinceClear operations).count id) := by
  rw [← contains_after, contains, List.contains_iff_mem]

theorem count_after (operations : List Operation) :
    (after operations).count =
      ((sinceClear operations).toFinset.filter
        fun id => Odd ((sinceClear operations).count id)).card := by
  rw [Selection.count, ← List.toFinset_card_of_nodup (ordered_after operations).nodup]
  congr 1
  ext id
  rw [List.mem_toFinset, mem_ids_after, Finset.mem_filter, List.mem_toFinset]
  exact ⟨fun odd => ⟨List.count_pos_iff.mp odd.pos, odd⟩, And.right⟩

/-- The order of the toggles since the last clear, and all that came before it, do not matter. -/
theorem after_congr {operations others : List Operation}
    (perm : (sinceClear others).Perm (sinceClear operations)) :
    after others = after operations := by
  refine (ordered_after others).ext (ordered_after operations) fun id => ?_
  rw [Bool.eq_iff_iff, contains_after, contains_after, perm.count_eq]

/-- After any operations the identifiers increase and are those that were toggled an odd number of
times since the last clear, and every question about the selection is answered by them. A further
toggle answers whether its entry is then selected. Other operations with the same toggles since
their last clear, in whatever order, select the same. -/
theorem oddly_toggled (operations : List Operation) :
    let selection := after operations
    let toggles := sinceClear operations
    selection.ids.Pairwise (·.raw < ·.raw) ∧
      (∀ id, id ∈ selection.ids ↔ Odd (toggles.count id)) ∧
      selection.count = selection.ids.length ∧
      selection.count = (toggles.toFinset.filter fun id => Odd (toggles.count id)).card ∧
      (selection.isEmpty = true ↔ selection.count = 0) ∧
      (∀ id, selection.contains id = true ↔ id ∈ selection.ids) ∧
      (∀ id, (selection.turnOver id).2 = (after (operations ++ [.toggle id])).contains id) ∧
      ∀ others, (sinceClear others).Perm toggles → (after others).ids = selection.ids := by
  intro selection toggles
  have ordered : selection.Ordered := ordered_after operations
  refine ⟨ordered, mem_ids_after operations, rfl, count_after operations, ?_, ?_, ?_, ?_⟩
  · rw [isEmpty, List.isEmpty_iff, Selection.count, List.length_eq_zero_iff]
  · intro id
    exact List.contains_iff_mem
  · intro id
    rw [after_snoc, perform, turnOver_fst, turnOver_snd, contains_toggle ordered.nodup, if_pos rfl]
  · intro others perm
    exact congrArg ids (after_congr perm)

/-- Of four toggles after a clear two cancel out, and the others may come in either order. -/
theorem oddly_toggled_reordered :
    let operations : List Operation :=
      [.toggle ⟨5⟩, .clear, .toggle ⟨9⟩, .toggle ⟨3⟩, .toggle ⟨-2⟩, .toggle ⟨3⟩]
    let others : List Operation := [.toggle ⟨3⟩, .toggle ⟨3⟩, .toggle ⟨-2⟩, .toggle ⟨9⟩]
    (sinceClear others).Perm (sinceClear operations) ∧
      (after operations).ids = [⟨-2⟩, ⟨9⟩] ∧ (after others).ids = [⟨-2⟩, ⟨9⟩] := by
  intro operations others
  obtain ⟨-, -, -, -, -, -, -, reordered⟩ := oddly_toggled operations
  have perm : (sinceClear others).Perm (sinceClear operations) := by decide
  have selected : (after operations).ids = [⟨-2⟩, ⟨9⟩] := by decide
  exact ⟨perm, selected, (reordered others perm).trans selected⟩

end Panes.Selection
