import Panes.Proofs.Run
import Panes.Session

/-!
# What the search box starts with

The pane that a search starts from offers a text or none, and the box holds that text with a space
behind it. The space is there even if the text is empty, which only an empty search can offer: the
search for a book is never empty. So the box is not always empty when there is nothing to search
for.
-/

namespace Panes

namespace Router

section

variable (router : Router) (visible : Option Pane) (bookName : BookId → Option String)

/-- The text that the pane a search starts from offers: the expression of a search, or the search
for everything in a book whose name is known. The pane is the one that the host reports, or else
the one that announced itself last. -/
def Offers (text : String) : Prop :=
  visible.or router.current = some (.query text) ∨
    ∃ bookId place name, visible.or router.current = some (.book bookId place) ∧
      bookName bookId = some name ∧ text = Search.bookScope name

/-- What the box is meant to start with: the text that the pane offers and a space, or nothing if
the pane offers no text but the empty one. -/
def Meant (box : String) : Prop :=
  (∀ text, text ≠ "" → (box = text ++ " " ↔ router.Offers visible bookName text)) ∧
    ((∀ text, text ≠ "" → ¬ router.Offers visible bookName text) → box = "")

variable {router visible bookName} {text : String}

theorem searchPrefill_of_offers (offered : router.Offers visible bookName text) :
    router.searchPrefill visible bookName = text ++ " " := by
  unfold searchPrefill searchedPane?
  obtain searched | ⟨bookId, place, name, searched, named, rfl⟩ := offered
  · rw [searched]
  · rw [searched]
    simp only [named, Option.map_some]

theorem searchPrefill_of_not_offers (nothing : ∀ text, ¬ router.Offers visible bookName text) :
    router.searchPrefill visible bookName = "" := by
  unfold searchPrefill searchedPane?
  cases searched : visible.or router.current with
  | none => rfl
  | some pane =>
    cases pane with
    | query text => exact absurd (.inl searched) (nothing text)
    | book bookId place =>
      cases named : bookName bookId with
      | none => simp only [named, Option.map_none]
      | some name =>
        exact absurd (.inr ⟨bookId, place, name, searched, named, rfl⟩) (nothing _)
    | _ => rfl

/-- The space is there whatever the text is. -/
theorem append_space_ne_empty (text : String) : text ++ " " ≠ "" := by
  intro empty
  have lengths := congrArg String.length empty
  simp at lengths

theorem searchPrefill_eq_iff :
    router.searchPrefill visible bookName = text ++ " " ↔ router.Offers visible bookName text := by
  refine ⟨fun prefilled => ?_, searchPrefill_of_offers⟩
  by_cases offered : ∃ other, router.Offers visible bookName other
  · obtain ⟨other, offered⟩ := offered
    rw [searchPrefill_of_offers offered] at prefilled
    obtain rfl : other = text := (String.append_left_inj " ").mp prefilled
    exact offered
  · rw [searchPrefill_of_not_offers (not_exists.mp offered)] at prefilled
    exact absurd prefilled.symm (append_space_ne_empty text)

theorem searchPrefill_eq_empty_iff :
    router.searchPrefill visible bookName = "" ↔ ∀ text, ¬ router.Offers visible bookName text := by
  refine ⟨fun empty text offered => ?_, searchPrefill_of_not_offers⟩
  rw [searchPrefill_of_offers offered] at empty
  exact append_space_ne_empty text empty

/-- The search for a book has a mark in front. -/
theorem bookScope_ne_empty (name : String) : Search.bookScope name ≠ "" := by
  intro empty
  have lengths := congrArg String.length empty
  simp [Search.bookScope] at lengths

theorem offers_empty_iff :
    router.Offers visible bookName "" ↔ visible.or router.current = some (.query "") := by
  refine ⟨fun offered => ?_, .inl⟩
  obtain searched | ⟨bookId, place, name, searched, named, empty⟩ := offered
  · exact searched
  · exact absurd empty.symm (bookScope_ne_empty name)

/-- A pane offers one text at most. -/
theorem Offers.unique {other : String} (offered : router.Offers visible bookName text)
    (again : router.Offers visible bookName other) : other = text := by
  have same := (searchPrefill_of_offers again).symm.trans (searchPrefill_of_offers offered)
  exact (String.append_left_inj " ").mp same

end

/-- The box holds what the pane offers and a space, and is empty exactly if the pane offers nothing.
This is what it is meant to hold exactly unless the pane is an empty search. -/
theorem searchPrefill_meant_iff (router : Router) (visible : Option Pane)
    (bookName : BookId → Option String) :
    let box := router.searchPrefill visible bookName
    (router.Meant visible bookName box ↔ visible.or router.current ≠ some (.query "")) ∧
    (∀ text, box = text ++ " " ↔ router.Offers visible bookName text) ∧
    (box = "" ↔ ∀ text, ¬ router.Offers visible bookName text) := by
  intro box
  refine ⟨?_, fun text => searchPrefill_eq_iff, searchPrefill_eq_empty_iff⟩
  have empty_search : router.Offers visible bookName "" ↔ _ := offers_empty_iff
  rw [ne_eq, ← empty_search]
  constructor
  · rintro ⟨-, otherwise⟩ offered
    have empty := otherwise fun text filled again => filled (offered.unique again)
    exact searchPrefill_eq_empty_iff.mp empty "" offered
  · intro unoffered
    refine ⟨fun text _ => searchPrefill_eq_iff, fun nothing => ?_⟩
    refine searchPrefill_eq_empty_iff.mpr fun text offered => ?_
    by_cases empty : text = ""
    · exact unoffered (empty ▸ offered)
    · exact nothing text empty offered

end Router

namespace Coordinator

/-- An empty search is submitted and its pane announces itself. When the box is opened next, it
starts with a lone space. -/
theorem empty_search_prefills_space :
    let view : HostView := Host.initial.view .still
    let stimuli : List Stimulus :=
      [⟨view, .searchSubmitted ""⟩, ⟨view, .paneAnnounced (.query "") none none⟩]
    let state := (initial .standard).run stimuli
    (state.handle view .searchOpened).actions = [.setSearchQuery " "] ∧
      ¬ state.router.Meant view.visiblePane view.bookName
        (state.router.searchPrefill view.visiblePane view.bookName) := by
  intro view stimuli state
  have prefilled : state.router.searchPrefill view.visiblePane view.bookName = " " := by decide
  have searched : view.visiblePane.or state.router.current = some (.query "") := by decide
  refine ⟨by decide, fun meant => ?_⟩
  have offered : state.router.Offers view.visiblePane view.bookName "" := .inl searched
  have empty := meant.2 fun text filled again => filled (offered.unique again)
  rw [prefilled] at empty
  revert empty
  decide

end Coordinator

end Panes
