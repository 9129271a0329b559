import Panes.Surface.Controller
import Mathlib.Data.List.Nodup

/-!
# Which surfaces are tracked

The controller keeps the shown surface and the surfaces that were asked to close in different
places. Put together they are the tracked surfaces: starting one adds it at the end, finishing it
changes nothing, and the report of its close takes it out. Their numbers increase and are below the
next number, which is why a late report never means another surface.
-/

namespace Panes.Surface.Controller

/-- The surfaces that were started and are not reported closed, oldest first, with their tags. -/
def tracked (controller : Controller) : List (Id × Option Tag) :=
  controller.closing ++ (controller.activeSurface?.map (·, controller.activeTag)).toList

/-- What is kept of surfaces fits together. -/
structure Orderly (controller : Controller) : Prop where
  /-- Surfaces are tracked in the order of their numbers. -/
  increasing : (controller.tracked.map (·.1.number)).Pairwise (· < ·)
  /-- The next number is new. -/
  below : ∀ entry ∈ controller.tracked, entry.1.number < controller.nextNumber
  /-- A surface that is finishing is among those that were asked to close. -/
  finishing : ∀ surface, controller.phase = .finishing surface →
    ∃ entry ∈ controller.closing, entry.1 = surface
  /-- A surface is shown only while something is selected. -/
  positive : ∀ count surface, controller.phase = .active count surface → 0 < count

theorem isActive_eq_isSome (controller : Controller) :
    controller.isActive = controller.activeSurface?.isSome := by
  unfold isActive activeSurface?
  cases controller.phase <;> rfl

theorem activeSurface?_eq_some_iff {controller : Controller} {surface : Id} :
    controller.activeSurface? = some surface ↔
      ∃ count, controller.phase = .active count surface := by
  unfold activeSurface?
  cases controller.phase <;> simp

theorem mem_tracked_iff {controller : Controller} {surface : Id} {tag : Option Tag} :
    (surface, tag) ∈ controller.tracked ↔
      (surface, tag) ∈ controller.closing ∨
        controller.activeSurface? = some surface ∧ controller.activeTag = tag := by
  simp only [tracked, List.mem_append, Option.mem_toList, Option.map_eq_some_iff,
    Prod.mk.injEq]
  constructor
  · rintro (closing | ⟨_, active, rfl, tag_eq⟩)
    · exact .inl closing
    · exact .inr ⟨active, tag_eq⟩
  · rintro (closing | ⟨active, tag_eq⟩)
    · exact .inl closing
    · exact .inr ⟨surface, active, rfl, tag_eq⟩

theorem tracked_of_inactive {controller : Controller}
    (inactive : controller.activeSurface? = none) : controller.tracked = controller.closing := by
  simp [tracked, inactive]

theorem orderly_initial : initial.Orderly where
  increasing := .nil
  below := by simp [tracked, initial, activeSurface?]
  finishing := by simp [initial]
  positive := by simp [initial]

namespace Orderly

/-- A number stands for one surface, so a surface has one tag. -/
theorem eq_of_mem {controller : Controller} (orderly : controller.Orderly)
    {left right : Id × Option Tag} (leftMem : left ∈ controller.tracked)
    (rightMem : right ∈ controller.tracked) (same : left.1 = right.1) : left = right := by
  have distinct : (controller.tracked.map (·.1.number)).Nodup :=
    orderly.increasing.imp fun less => Nat.ne_of_lt less
  exact List.inj_on_of_nodup_map distinct leftMem rightMem (congrArg Id.number same)

/-- The shown surface was not asked to close. -/
theorem closing_ne_active {controller : Controller} (orderly : controller.Orderly) {surface : Id}
    (active : controller.activeSurface? = some surface) {entry : Id × Option Tag}
    (closing : entry ∈ controller.closing) : entry.1 ≠ surface := by
  have increasing := orderly.increasing
  simp only [tracked, active, List.map_append, List.pairwise_append] at increasing
  have less := increasing.2.2 _ (List.mem_map_of_mem closing) surface.number (by simp)
  intro same
  rw [same] at less
  exact Nat.lt_irrefl _ less

end Orderly

/-! ## Finishing the shown surface -/

theorem finish_of_active {controller : Controller} {count : Nat} {surface : Id}
    (active : controller.phase = .active count surface) :
    controller.finish =
      ({ controller with
          phase := .finishing surface
          activeTag := none
          closing := controller.closing ++ [(surface, controller.activeTag)] },
        some (.finish surface)) := by
  simp only [finish, active]

theorem finish_of_inactive {controller : Controller}
    (inactive : controller.activeSurface? = none) : controller.finish = (controller, none) := by
  unfold activeSurface? at inactive
  unfold finish
  split <;> simp_all

theorem finish_command (controller : Controller) :
    controller.finish.2 = controller.activeSurface?.map .finish := by
  unfold finish activeSurface?
  cases controller.phase <;> rfl

@[simp]
theorem activeSurface?_finish (controller : Controller) :
    controller.finish.1.activeSurface? = none := by
  cases phase : controller.phase <;> simp [finish, activeSurface?, phase]

theorem finish_not_active (controller : Controller) (count : Nat) (surface : Id) :
    controller.finish.1.phase ≠ .active count surface := by
  intro active
  have shown := activeSurface?_eq_some_iff.mpr ⟨count, active⟩
  simp at shown

@[simp]
theorem tracked_finish (controller : Controller) :
    controller.finish.1.tracked = controller.tracked := by
  cases phase : controller.phase <;> simp [tracked, finish, activeSurface?, phase]

@[simp]
theorem nextNumber_finish (controller : Controller) :
    controller.finish.1.nextNumber = controller.nextNumber := by
  unfold finish
  cases controller.phase <;> rfl

theorem orderly_finish {controller : Controller} (orderly : controller.Orderly) :
    controller.finish.1.Orderly where
  increasing := by
    rw [tracked_finish]
    exact orderly.increasing
  below := by
    rw [tracked_finish, nextNumber_finish]
    exact orderly.below
  finishing := by
    intro surface finishing
    cases phase : controller.phase with
    | active count shown =>
      rw [finish_of_active phase] at finishing ⊢
      cases finishing
      exact ⟨(surface, controller.activeTag), by simp, rfl⟩
    | inactive | finishing _ =>
      rw [finish_of_inactive (by simp [activeSurface?, phase])] at finishing ⊢
      exact orderly.finishing surface finishing
  positive := by
    intro count surface active
    exact absurd active (controller.finish_not_active count surface)

/-! ## Starting a surface -/

@[simp]
theorem activeSurface?_start (controller : Controller) (count : Nat) (descriptor : Descriptor) :
    (controller.start count descriptor).1.activeSurface? = some ⟨controller.nextNumber⟩ := rfl

theorem tracked_start {controller : Controller} (inactive : controller.activeSurface? = none)
    (count : Nat) (descriptor : Descriptor) :
    (controller.start count descriptor).1.tracked =
      controller.tracked ++ [(⟨controller.nextNumber⟩, descriptor.tag)] := by
  rw [tracked_of_inactive inactive]
  rfl

theorem orderly_start {controller : Controller} (orderly : controller.Orderly)
    (inactive : controller.activeSurface? = none) {count : Nat} (selected : count ≠ 0)
    (descriptor : Descriptor) : (controller.start count descriptor).1.Orderly where
  increasing := by
    rw [tracked_start inactive, List.map_append, List.pairwise_append]
    refine ⟨orderly.increasing, List.pairwise_singleton _ _, ?_⟩
    intro number older next newest
    obtain ⟨entry, member, rfl⟩ := List.mem_map.mp older
    obtain rfl := List.mem_singleton.mp newest
    exact orderly.below entry member
  below := by
    rw [tracked_start inactive]
    intro entry member
    change entry.1.number < controller.nextNumber + 1
    rcases List.mem_append.mp member with older | newest
    · exact Nat.lt_succ_of_lt (orderly.below entry older)
    · rw [List.mem_singleton.mp newest]
      exact Nat.lt_succ_self _
  finishing := by
    intro surface finishing
    cases finishing
  positive := by
    intro shown surface active
    cases active
    exact Nat.pos_of_ne_zero selected

/-! ## Following the number of selected entries -/

theorem update_idle {controller : Controller} (inactive : controller.activeSurface? = none)
    (descriptor : Descriptor) :
    controller.update 0 descriptor = ({ controller with phase := .inactive }, none) := by
  unfold activeSurface? at inactive
  unfold update
  split <;> simp_all

theorem update_finish {controller : Controller} {surface : Id}
    (active : controller.activeSurface? = some surface) (descriptor : Descriptor) :
    controller.update 0 descriptor = controller.finish := by
  obtain ⟨shown, phase⟩ := activeSurface?_eq_some_iff.mp active
  simp only [update, phase, if_true]

theorem update_invalidate {controller : Controller} {surface : Id}
    (active : controller.activeSurface? = some surface) {count : Nat} (selected : count ≠ 0)
    (descriptor : Descriptor) :
    controller.update count descriptor =
      ({ controller with phase := .active count surface }, some (.invalidate surface count)) := by
  obtain ⟨shown, phase⟩ := activeSurface?_eq_some_iff.mp active
  simp only [update, phase, if_neg selected]

theorem update_start {controller : Controller} (inactive : controller.activeSurface? = none)
    {count : Nat} (selected : count ≠ 0) (descriptor : Descriptor) :
    controller.update count descriptor =
      ((controller.start count descriptor).1,
        some (.start ⟨controller.nextNumber⟩ descriptor)) := by
  unfold activeSurface? at inactive
  unfold update
  split <;> simp_all [start]

/-- An update idles, finishes, refreshes or starts, as the table of phases says. -/
theorem update_cases (controller : Controller) (count : Nat) (descriptor : Descriptor) :
    (count = 0 ∧ controller.activeSurface? = none ∧
      controller.update count descriptor = ({ controller with phase := .inactive }, none)) ∨
    (count = 0 ∧ controller.update count descriptor = controller.finish) ∨
    (∃ surface, count ≠ 0 ∧ controller.activeSurface? = some surface ∧
      controller.update count descriptor =
        ({ controller with phase := .active count surface }, some (.invalidate surface count))) ∨
    (count ≠ 0 ∧ controller.activeSurface? = none ∧
      controller.update count descriptor =
        ((controller.start count descriptor).1,
          some (.start ⟨controller.nextNumber⟩ descriptor))) := by
  by_cases empty : count = 0
  · subst empty
    cases active : controller.activeSurface? with
    | none => exact .inl ⟨rfl, rfl, update_idle active descriptor⟩
    | some surface => exact .inr (.inl ⟨rfl, update_finish active descriptor⟩)
  · cases active : controller.activeSurface? with
    | none => exact .inr (.inr (.inr ⟨empty, rfl, update_start active empty descriptor⟩))
    | some surface =>
      exact .inr (.inr (.inl ⟨surface, empty, rfl, update_invalidate active empty descriptor⟩))

theorem tracked_idle {controller : Controller} (inactive : controller.activeSurface? = none) :
    tracked { controller with phase := .inactive } = controller.tracked := by
  rw [tracked_of_inactive inactive, tracked_of_inactive rfl]

theorem tracked_invalidate {controller : Controller} {surface : Id}
    (active : controller.activeSurface? = some surface) (count : Nat) :
    tracked { controller with phase := .active count surface } = controller.tracked := by
  simp only [tracked, active]
  rfl

theorem orderly_idle {controller : Controller} (orderly : controller.Orderly)
    (inactive : controller.activeSurface? = none) :
    Orderly { controller with phase := .inactive } where
  increasing := by
    rw [tracked_idle inactive]
    exact orderly.increasing
  below := by
    rw [tracked_idle inactive]
    exact orderly.below
  finishing := by
    intro surface finishing
    cases finishing
  positive := by
    intro count surface active
    cases active

theorem orderly_invalidate {controller : Controller} (orderly : controller.Orderly) {surface : Id}
    (active : controller.activeSurface? = some surface) {count : Nat} (selected : count ≠ 0) :
    Orderly { controller with phase := .active count surface } where
  increasing := by
    rw [tracked_invalidate active]
    exact orderly.increasing
  below := by
    rw [tracked_invalidate active]
    exact orderly.below
  finishing := by
    intro other finishing
    cases finishing
  positive := by
    intro shown other phase
    cases phase
    exact Nat.pos_of_ne_zero selected

theorem orderly_update {controller : Controller} (orderly : controller.Orderly) (count : Nat)
    (descriptor : Descriptor) : (controller.update count descriptor).1.Orderly := by
  rcases update_cases controller count descriptor with
    ⟨-, inactive, update_eq⟩ | ⟨-, update_eq⟩ | ⟨surface, selected, active, update_eq⟩ |
      ⟨selected, inactive, update_eq⟩
  · rw [update_eq]
    exact orderly_idle orderly inactive
  · rw [update_eq]
    exact orderly_finish orderly
  · rw [update_eq]
    exact orderly_invalidate orderly active selected
  · rw [update_eq]
    exact orderly_start orderly inactive selected descriptor

/-- After an update a shown surface stands for the new number of entries. -/
theorem count_of_update {controller : Controller} {count shown : Nat} {descriptor : Descriptor}
    {surface : Id}
    (active : (controller.update count descriptor).1.phase = .active shown surface) :
    shown = count := by
  rcases controller.update_cases count descriptor with
    ⟨-, -, update_eq⟩ | ⟨-, update_eq⟩ | ⟨other, -, -, update_eq⟩ | ⟨-, -, update_eq⟩
  · rw [update_eq] at active
    cases active
  · rw [update_eq] at active
    exact absurd active (controller.finish_not_active shown surface)
  · rw [update_eq] at active
    cases active
    rfl
  · rw [update_eq] at active
    cases active
    rfl

/-- After an update no surface is shown exactly if nothing is selected. -/
theorem activeSurface?_update_eq_none_iff (controller : Controller) (count : Nat)
    (descriptor : Descriptor) :
    (controller.update count descriptor).1.activeSurface? = none ↔ count = 0 := by
  rcases controller.update_cases count descriptor with
    ⟨empty, inactive, update_eq⟩ | ⟨empty, update_eq⟩ | ⟨other, selected, -, update_eq⟩ |
      ⟨selected, -, update_eq⟩
  · rw [update_eq]
    exact iff_of_true rfl empty
  · rw [update_eq]
    exact iff_of_true (controller.activeSurface?_finish) empty
  · rw [update_eq]
    exact iff_of_false (by simp [activeSurface?]) selected
  · rw [update_eq]
    exact iff_of_false (by simp) selected

/-! ## Reports of closed surfaces -/

theorem eraseP_eq_filter {entries : List (Id × Option Tag)}
    (increasing : (entries.map (·.1.number)).Pairwise (· < ·)) (surface : Id) :
    entries.eraseP (·.1 == surface) = entries.filter (·.1 != surface) := by
  induction entries with
  | nil => rfl
  | cons entry entries ih =>
    rw [List.map_cons, List.pairwise_cons] at increasing
    by_cases named : entry.1 = surface
    · rw [List.eraseP_cons_of_pos (by simp [named]), List.filter_cons_of_neg (by simp [named])]
      refine (List.filter_eq_self.mpr ?_).symm
      intro other member
      have less := increasing.1 _ (List.mem_map_of_mem member)
      rw [bne_iff_ne]
      rintro same
      rw [named, same] at less
      exact Nat.lt_irrefl _ less
    · rw [List.eraseP_cons_of_neg (by simp [named]), List.filter_cons_of_pos (by simp [named]),
        ih increasing.2]

/-- A report on a surface that was asked to close. -/
theorem closed_of_closing {controller : Controller} (orderly : controller.Orderly) {surface : Id}
    {tag : Option Tag} (closing : (surface, tag) ∈ controller.closing) :
    controller.closed surface =
      ({ controller with
          phase := if controller.phase = .finishing surface then .inactive else controller.phase
          closing := controller.closing.filter (·.1 != surface) },
        some ⟨surface, tag, false⟩) := by
  have closing_increasing : (controller.closing.map (·.1.number)).Pairwise (· < ·) := by
    have increasing := orderly.increasing
    rw [tracked, List.map_append, List.pairwise_append] at increasing
    exact increasing.1
  have found : controller.closing.find? (·.1 == surface) = some (surface, tag) := by
    cases result : controller.closing.find? (·.1 == surface) with
    | none =>
      have absent := List.find?_eq_none.mp result _ closing
      simp at absent
    | some entry =>
      have member := List.mem_of_find?_eq_some result
      have named := List.find?_some result
      have subset : controller.closing ⊆ controller.tracked := List.subset_append_left _ _
      have same : entry.1 = surface := by simpa using named
      exact congrArg some (orderly.eq_of_mem (subset member) (subset closing) same)
  simp only [closed, found]
  rw [eraseP_eq_filter closing_increasing]

/-- A report on the shown surface: the user dismissed it. -/
theorem closed_of_active {controller : Controller} (orderly : controller.Orderly) {surface : Id}
    (active : controller.activeSurface? = some surface) :
    controller.closed surface =
      ({ controller with phase := .inactive, activeTag := none },
        some ⟨surface, controller.activeTag, true⟩) := by
  have absent : controller.closing.find? (·.1 == surface) = none := by
    rw [List.find?_eq_none]
    intro entry member
    rw [beq_iff_eq]
    exact orderly.closing_ne_active active member
  simp only [closed, absent, active, if_true]

/-- A report on any other surface changes nothing. -/
theorem closed_of_untracked {controller : Controller} {surface : Id}
    (untracked : ∀ entry ∈ controller.tracked, entry.1 ≠ surface) :
    controller.closed surface = (controller, none) := by
  have absent : controller.closing.find? (·.1 == surface) = none := by
    rw [List.find?_eq_none]
    intro entry member
    rw [beq_iff_eq]
    exact untracked entry (List.mem_append_left _ member)
  have hidden : controller.activeSurface? ≠ some surface := by
    intro active
    exact untracked (surface, controller.activeTag) (mem_tracked_iff.mpr (.inr ⟨active, rfl⟩)) rfl
  simp only [closed, absent, if_neg hidden]

/-- A report concerns a surface that was asked to close, the shown surface, or none. -/
theorem closed_cases {controller : Controller} (orderly : controller.Orderly) (surface : Id) :
    (∃ tag, (surface, tag) ∈ controller.closing ∧ controller.activeSurface? ≠ some surface ∧
      controller.closed surface =
        ({ controller with
            phase := if controller.phase = .finishing surface then .inactive else controller.phase
            closing := controller.closing.filter (·.1 != surface) },
          some ⟨surface, tag, false⟩)) ∨
    (controller.activeSurface? = some surface ∧
      controller.closed surface =
        ({ controller with phase := .inactive, activeTag := none },
          some ⟨surface, controller.activeTag, true⟩)) ∨
    ((∀ entry ∈ controller.tracked, entry.1 ≠ surface) ∧
      controller.closed surface = (controller, none)) := by
  by_cases closing : ∃ tag, (surface, tag) ∈ controller.closing
  · obtain ⟨tag, member⟩ := closing
    refine .inl ⟨tag, member, ?_, closed_of_closing orderly member⟩
    intro active
    exact orderly.closing_ne_active active member rfl
  · by_cases active : controller.activeSurface? = some surface
    · exact .inr (.inl ⟨active, closed_of_active orderly active⟩)
    · have untracked : ∀ entry ∈ controller.tracked, entry.1 ≠ surface := by
        rintro ⟨other, tag⟩ member rfl
        rcases mem_tracked_iff.mp member with asked | ⟨shown, -⟩
        · exact closing ⟨tag, asked⟩
        · exact active shown
      exact .inr (.inr ⟨untracked, closed_of_untracked untracked⟩)

theorem phase_closed {controller : Controller} (orderly : controller.Orderly) (surface : Id) :
    (controller.closed surface).1.phase =
      if controller.phase = .finishing surface ∨ controller.activeSurface? = some surface then
        .inactive
      else
        controller.phase := by
  rcases closed_cases orderly surface with
    ⟨tag, -, other, closed_eq⟩ | ⟨active, closed_eq⟩ | ⟨untracked, closed_eq⟩
  · simp only [closed_eq, other, or_false]
  · rw [closed_eq, if_pos (.inr active)]
  · rw [closed_eq, if_neg]
    rintro (finishing | active)
    · obtain ⟨entry, asked, named⟩ := orderly.finishing surface finishing
      exact untracked entry (List.mem_append_left _ asked) named
    · exact untracked _ (mem_tracked_iff.mpr (.inr ⟨active, rfl⟩)) rfl

theorem closing_closed {controller : Controller} (orderly : controller.Orderly) (surface : Id) :
    (controller.closed surface).1.closing = controller.closing.filter (·.1 != surface) := by
  rcases closed_cases orderly surface with
    ⟨tag, -, -, closed_eq⟩ | ⟨active, closed_eq⟩ | ⟨untracked, closed_eq⟩
  · rw [closed_eq]
  · rw [closed_eq, eq_comm, List.filter_eq_self]
    intro entry member
    rw [bne_iff_ne]
    exact orderly.closing_ne_active active member
  · rw [closed_eq, eq_comm, List.filter_eq_self]
    intro entry member
    rw [bne_iff_ne]
    exact untracked entry (List.mem_append_left _ member)

theorem activeSurface?_closed {controller : Controller} (orderly : controller.Orderly)
    (surface : Id) :
    (controller.closed surface).1.activeSurface? =
      if controller.activeSurface? = some surface then none else controller.activeSurface? := by
  rw [activeSurface?, phase_closed orderly]
  by_cases active : controller.activeSurface? = some surface
  · rw [if_pos active, if_pos (.inr active)]
  · rw [if_neg active]
    by_cases finishing : controller.phase = .finishing surface
    · simp only [activeSurface?, finishing, true_or, if_true]
    · rw [if_neg (not_or.mpr ⟨finishing, active⟩), activeSurface?]

theorem activeTag_closed {controller : Controller} (orderly : controller.Orderly) {surface : Id}
    (other : controller.activeSurface? ≠ some surface) :
    (controller.closed surface).1.activeTag = controller.activeTag := by
  rcases closed_cases orderly surface with
    ⟨tag, -, -, closed_eq⟩ | ⟨active, -⟩ | ⟨-, closed_eq⟩
  · rw [closed_eq]
  · exact absurd active other
  · rw [closed_eq]

/-- The report of a close takes the surface out, whatever it was. -/
theorem tracked_closed {controller : Controller} (orderly : controller.Orderly) (surface : Id) :
    (controller.closed surface).1.tracked =
      controller.tracked.filter (·.1 != surface) := by
  rw [tracked, closing_closed orderly, activeSurface?_closed orderly, tracked, List.filter_append]
  congr 1
  by_cases active : controller.activeSurface? = some surface
  · simp [active]
  · rw [if_neg active, activeTag_closed orderly active]
    cases shown : controller.activeSurface? with
    | none => rfl
    | some newest =>
      have different : newest ≠ surface := by
        rintro rfl
        exact active shown
      simp [different]

/-- The answer to a report names the surface with its tag, and says whether it was still shown. -/
theorem closed_eq_some_iff {controller : Controller} (orderly : controller.Orderly) {surface : Id}
    {answer : Closed} :
    (controller.closed surface).2 = some answer ↔
      ∃ tag, (surface, tag) ∈ controller.tracked ∧
        answer = ⟨surface, tag, decide (controller.activeSurface? = some surface)⟩ := by
  -- A tracked surface has one tag, so there is one answer to give.
  have answered {own : Option Tag} (member : (surface, own) ∈ controller.tracked) {shown : Bool}
      (shown_eq : decide (controller.activeSurface? = some surface) = shown) :
      some (Closed.mk surface own shown) = some answer ↔
        ∃ tag, (surface, tag) ∈ controller.tracked ∧
          answer = ⟨surface, tag, decide (controller.activeSurface? = some surface)⟩ := by
    constructor
    · rintro ⟨⟩
      exact ⟨own, member, by rw [shown_eq]⟩
    · rintro ⟨tag, tracked, rfl⟩
      obtain ⟨-, rfl⟩ := Prod.mk.inj (orderly.eq_of_mem member tracked rfl)
      rw [shown_eq]
  rcases closed_cases orderly surface with
    ⟨own, asked, other, closed_eq⟩ | ⟨active, closed_eq⟩ | ⟨untracked, closed_eq⟩
  · rw [closed_eq]
    exact answered (mem_tracked_iff.mpr (.inl asked)) (decide_eq_false other)
  · rw [closed_eq]
    exact answered (mem_tracked_iff.mpr (.inr ⟨active, rfl⟩)) (decide_eq_true active)
  · rw [closed_eq]
    refine iff_of_false (by simp) ?_
    rintro ⟨tag, tracked, -⟩
    exact untracked _ tracked rfl

/-- A report is answered exactly if the surface is tracked, and with its tag. -/
theorem mem_tracked_iff_closed {controller : Controller} (orderly : controller.Orderly)
    {surface : Id} {tag : Option Tag} :
    (surface, tag) ∈ controller.tracked ↔
      ∃ closed, (controller.closed surface).2 = some closed ∧ closed.tag = tag := by
  constructor
  · intro tracked
    exact ⟨_, (closed_eq_some_iff orderly).mpr ⟨tag, tracked, rfl⟩, rfl⟩
  · rintro ⟨answer, answered, rfl⟩
    obtain ⟨tag, tracked, rfl⟩ := (closed_eq_some_iff orderly).mp answered
    exact tracked

/-- The user dismissed the surface exactly if it was shown. -/
theorem dismissed_iff {controller : Controller} (orderly : controller.Orderly) (surface : Id) :
    (controller.closed surface).2.any (·.hostInitiated) = true ↔
      controller.activeSurface? = some surface := by
  rw [Option.any_eq_true]
  constructor
  · rintro ⟨answer, answered, dismissed⟩
    obtain ⟨tag, -, rfl⟩ := (closed_eq_some_iff orderly).mp answered
    exact of_decide_eq_true dismissed
  · intro active
    have tracked := mem_tracked_iff.mpr (.inr ⟨active, rfl⟩)
    exact ⟨_, (closed_eq_some_iff orderly).mpr ⟨_, tracked, rfl⟩, decide_eq_true active⟩

@[simp]
theorem nextNumber_closed (controller : Controller) (surface : Id) :
    (controller.closed surface).1.nextNumber = controller.nextNumber := by
  unfold closed
  split
  · rfl
  · split <;> rfl

theorem orderly_closed {controller : Controller} (orderly : controller.Orderly) (surface : Id) :
    (controller.closed surface).1.Orderly where
  increasing := by
    rw [tracked_closed orderly]
    exact orderly.increasing.sublist (List.filter_sublist.map _)
  below := by
    rw [tracked_closed orderly, nextNumber_closed]
    intro entry member
    exact orderly.below entry (List.mem_of_mem_filter member)
  finishing := by
    intro other finishing
    rw [phase_closed orderly] at finishing
    split at finishing
    · cases finishing
    · rename_i standing
      obtain ⟨entry, member, rfl⟩ := orderly.finishing other finishing
      refine ⟨entry, ?_, rfl⟩
      rw [closing_closed orderly, List.mem_filter, bne_iff_ne]
      refine ⟨member, ?_⟩
      rintro rfl
      exact standing (.inl finishing)
  positive := by
    intro count shown active
    rw [phase_closed orderly] at active
    split at active
    · cases active
    · exact orderly.positive count shown active

/-! ## The end of the host -/

@[simp]
theorem tracked_reset (controller : Controller) : controller.reset.tracked = [] := rfl

theorem orderly_reset (controller : Controller) : controller.reset.Orderly where
  increasing := .nil
  below := by
    intro entry member
    cases member
  finishing := by
    intro surface finishing
    cases finishing
  positive := by
    intro count surface active
    cases active

end Panes.Surface.Controller
