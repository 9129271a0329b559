import Panes.Proofs.Background
import Panes.Session

/-!
# The router and the list pane

The router remembers the pane that announced itself last, and the list pane keeps the pane that it
was made for. Both change separately: a book that scrolls announces itself again and again, while
its list pane stays. They always denote the same pane, as announcements in between change nothing
that tells panes apart.
-/

namespace Panes

theorem Router.isNews_eq (router : Router) (pane : Pane) :
    router.isNews pane = !router.current.any (·.sameIdentity pane) := by
  unfold isNews
  cases router.current <;> rfl

/-! ## The pane of the list pane -/

theorem Pane.kind_congr {left right : Pane} (same : left.identity = right.identity) :
    left.kind = right.kind := by
  rw [← kind_identity left, same, kind_identity]

namespace Effect

/-- What an effect makes of the pane that the list pane was made for. -/
def nextPane (pane : Option Pane) : Effect → Option Pane
  | replace newcomer => newcomer.filter (·.kind.isList)
  | tearDown => none
  | _ => pane

theorem map_pane_clear (list : Option ListPane) :
    (list.map ListPane.clear).map ListPane.pane = list.map ListPane.pane := by
  cases list <;> rfl

theorem map_pane_listFor (pane : Option Pane) :
    (pane.bind Coordinator.listFor).map ListPane.pane = pane.filter (·.kind.isList) := by
  cases pane with
  | none => rfl
  | some pane =>
    cases isList : pane.kind.isList <;>
      simp [Coordinator.listFor, Option.filter, isList, ListPane.fresh]

/-- Only another pane and the end of the host take the list pane away. -/
theorem map_pane_apply (focus : Focus) (effect : Effect) :
    (effect.apply focus).1.list.map ListPane.pane =
      effect.nextPane (focus.list.map ListPane.pane) := by
  cases effect with
  | keep => rfl
  | toggle id descriptor =>
    cases listed : focus.list with
    | none => simp [apply, nextPane, listed]
    | some list =>
      cases offered : descriptor.or list.defaultDescriptor? <;>
        simp [apply, nextPane, listed, offered, ListPane.toggle]
  | finish => rfl
  | clear => exact map_pane_clear focus.list
  | replace pane => exact map_pane_listFor pane
  | close surface =>
    simp only [apply, nextPane]
    split
    · exact map_pane_clear focus.list
    · rfl
  | tearDown => rfl

end Effect

theorem Moment.map_pane_after (moment : Moment) :
    moment.after.list.map ListPane.pane =
      moment.effect.nextPane (moment.before.list.map ListPane.pane) := by
  have list_eq : moment.after.list = (moment.effect.apply moment.before.focus).1.list :=
    congrArg Focus.list moment.focus_after
  rw [list_eq]
  exact moment.effect.map_pane_apply moment.before.focus

namespace Coordinator

/-- The list pane is the pane that the router remembers, wherever either is scrolled to, and there
is none if that pane is no list pane. -/
def Located (state : Coordinator) : Prop :=
  (state.list.map ListPane.pane).map Pane.identity =
    (state.router.current.filter (·.kind.isList)).map Pane.identity

/-- Panes of one identity are lists or not together. -/
theorem filter_isList_identity {left right : Pane} (same : left.identity = right.identity) :
    ((some left).filter (·.kind.isList)).map Pane.identity =
      ((some right).filter (·.kind.isList)).map Pane.identity := by
  simp only [Option.filter, Pane.kind_congr same]
  split <;> simp [same]

theorem located_paneAnnounced (view : HostView) {state : Coordinator} (located : state.Located)
    (pane : Pane) (title subtitle : Option String) :
    ((state.effect view (.paneAnnounced pane title subtitle)).nextPane
        (state.list.map ListPane.pane)).map Pane.identity =
      ((some pane).filter (·.kind.isList)).map Pane.identity := by
  simp only [effect]
  cases current_eq : state.router.current with
  | none => simp [Router.isNews, current_eq, Effect.nextPane]
  | some current =>
    by_cases same : current.sameIdentity pane = true
    · have kept : ¬ state.router.isNews pane = true := by simp [Router.isNews, current_eq, same]
      rw [if_neg kept]
      refine located.trans ?_
      rw [current_eq]
      exact filter_isList_identity (Pane.sameIdentity_iff.mp same)
    · have news : state.router.isNews pane = true := by simp [Router.isNews, current_eq, same]
      rw [if_pos news]
      rfl

theorem nextPane_opening (view : HostView) (noteId : NoteId) (pane : Option Pane) :
    (opening view noteId).nextPane pane = pane := by
  unfold opening
  cases view.note noteId <;> rfl

/-- What tells the list pane apart follows what tells the remembered pane apart. -/
theorem located_after {moment : Moment} (located : moment.before.Located) :
    moment.after.Located := by
  have router_eq : moment.after.router = moment.before.router.next moment.event :=
    router_handle _ _ _
  rw [Located, moment.map_pane_after, router_eq]
  obtain ⟨state, view, event⟩ := moment
  simp only [Moment.effect]
  cases event with
  | hostDestroyed | panesCleared => rfl
  | paneAnnounced pane title subtitle =>
    exact located_paneAnnounced view located pane title subtitle
  | drawerItemClicked item =>
    simp only [effect]
    split <;> exact located
  | noteClicked noteId =>
    simp only [effect]
    split
    · exact located
    · rw [nextPane_opening]
      exact located
  | noteLongClicked noteId =>
    simp only [effect]
    split
    · rw [nextPane_opening]
      exact located
    · exact located
  | selectionCleared =>
    simp only [effect]
    split <;> exact located
  | shelfResponse response =>
    cases response with
    | bookDeleted bookId =>
      simp only [effect, Router.next]
      split
      · rfl
      · exact located
    | _ => exact located
  | _ => exact located

theorem located_run (settings : Settings) (stimuli : List Stimulus) :
    ((initial settings).run stimuli).Located := by
  apply run_invariant Located
  · rfl
  · intro moment located
    exact located_after located

/-- An announcement replaces the list pane exactly if it is news, and then the surface is finished.
Otherwise it leaves the list pane, its selection and the surfaces as they were. -/
theorem focus_paneAnnounced (view : HostView) (state : Coordinator) (pane : Pane)
    (title subtitle : Option String) :
    (state.handle view (.paneAnnounced pane title subtitle)).state.focus =
      if state.router.current.any (·.sameIdentity pane) then
        state.focus
      else
        ⟨listFor pane, state.surfaces.finish.1⟩ := by
  rw [state.applied_handle view, effect, Router.isNews_eq]
  cases state.router.current.any (·.sameIdentity pane) <;> rfl

/-- A list pane is there exactly if the router remembers a list pane, and it is that pane: of the
same kind and of the same book, whatever it was scrolled to since. It is replaced by a fresh one or
by none exactly if a pane is announced that is not the remembered one. -/
theorem list_agrees_with_router (settings : Settings) (stimuli : List Stimulus) :
    let state := (initial settings).run stimuli
    (state.list.isSome = true ↔
      ∃ current, state.router.current = some current ∧ current.kind.isList = true) ∧
    (∀ list current, state.list = some list → state.router.current = some current →
      list.pane.sameIdentity current = true ∧ list.pane.kind = current.kind ∧
        list.pane.bookId? = current.bookId?) ∧
    ∀ view pane title subtitle,
      (state.handle view (.paneAnnounced pane title subtitle)).state.focus =
        if state.router.current.any (·.sameIdentity pane) then
          state.focus
        else
          ⟨listFor pane, state.surfaces.finish.1⟩ := by
  intro state
  have located : state.Located := located_run settings stimuli
  refine ⟨?_, ?_, state.focus_paneAnnounced⟩
  · have isSome_eq := congrArg Option.isSome located
    simp only [Option.isSome_map] at isSome_eq
    rw [isSome_eq, Option.isSome_filter, Option.any_eq_true]
  · intro list current listed remembered
    rw [Located, listed, remembered] at located
    obtain ⟨kept, kept_eq, identity_eq⟩ := Option.map_eq_some_iff.mp located.symm
    obtain ⟨current_eq, -⟩ := Option.filter_eq_some_iff.mp kept_eq
    obtain rfl := Option.some.inj current_eq
    have same : list.pane.identity = current.identity := identity_eq.symm
    refine ⟨Pane.sameIdentity_iff.mpr same, Pane.kind_congr same, ?_⟩
    rw [← Pane.bookId?_identity, same, Pane.bookId?_identity]

/-- A book is announced, a note in it is selected, and the book scrolls to the note: the list pane
keeps the place it was made for and the selection. -/
theorem list_agrees_after_scroll :
    let view : HostView := Host.initial.view .still
    let stimuli : List Stimulus :=
      [⟨view, .paneAnnounced (.book ⟨7⟩ none) none none⟩, ⟨view, .itemToggled ⟨42⟩ none⟩,
        ⟨view, .paneAnnounced (.book ⟨7⟩ (some ⟨42⟩)) none none⟩]
    let state := (initial .standard).run stimuli
    let list : ListPane := ⟨.book ⟨7⟩ none, ⟨[⟨42⟩]⟩⟩
    let current : Pane := .book ⟨7⟩ (some ⟨42⟩)
    state.list = some list ∧ state.router.current = some current ∧
      list.pane.sameIdentity current = true ∧ list.pane.kind = current.kind ∧
        list.pane.bookId? = current.bookId? := by
  intro view stimuli state list current
  have listed : state.list = some list := by decide
  have remembered : state.router.current = some current := by decide
  exact ⟨listed, remembered,
    (list_agrees_with_router .standard stimuli).2.1 list current listed remembered⟩

end Coordinator

end Panes
