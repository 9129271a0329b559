import Mathlib.Data.List.DropRight
import Panes.DataDirectory

/-!
# What a tilde stands for

A home directory may be written with slashes at its end. They are dropped before anything is put
behind it, which leaves the names on the way as they are. The root has no name, and there the only
slash is dropped as well: a lone tilde then gives no path at all, while a tilde with something
behind it still gives a path from the root.
-/

namespace Panes.DataDirectory

variable {home path : List Char}

/-- The text is a path from the root. -/
def Rooted (path : String) : Prop := ∃ rest, path.toList = '/' :: rest

/-- The names on the way that a path describes. Further slashes add none. -/
def names (path : List Char) : List (List Char) := (path.splitOn '/').filter (· ≠ [])

/-- The home directory is the root. -/
def IsRoot (home : String) : Prop := ∀ char ∈ home.toList, char = '/'

/-- What a path is meant to be replaced by: a tilde stands for the home directory and is followed
from there, all other paths stay, and nothing is left to be replaced. -/
structure Meant (home path expanded : String) : Prop where
  alone : path = "~" → Rooted expanded ∧ names expanded.toList = names home.toList
  below : ∀ rest, path = "~/" ++ rest →
    Rooted expanded ∧ names expanded.toList = names home.toList ++ names rest.toList
  other : path ≠ "~" → (∀ rest, path ≠ "~/" ++ rest) → expanded = path
  again : expandTilde (some home) expanded = expanded

/-! ## Names -/

theorem names_append_slash (left right : List Char) :
    names (left ++ '/' :: right) = names left ++ names right := by
  rw [names, List.splitOn_append_cons_self, List.filter_append]
  rfl

theorem trimSlashes_eq (home : List Char) : trimSlashes home = home.rdropWhile (· == '/') := rfl

/-- The slashes at the end belong to no name. -/
theorem names_trimSlashes (home : List Char) : names (trimSlashes home) = names home := by
  rw [trimSlashes_eq]
  induction home using List.reverseRecOn with
  | nil => rfl
  | append_singleton home char ih =>
    by_cases slash : char = '/'
    · subst slash
      have nothing : names [] = [] := rfl
      rw [List.rdropWhile_concat_pos _ _ _ rfl, ih, names_append_slash, nothing, List.append_nil]
    · rw [List.rdropWhile_concat_neg _ _ _ (by simpa using slash)]

theorem trimSlashes_eq_nil_iff : trimSlashes home = [] ↔ ∀ char ∈ home, char = '/' := by
  rw [trimSlashes_eq, List.rdropWhile_eq_nil_iff]
  simp only [beq_iff_eq]

/-- Unless nothing is left, the first slash is. -/
theorem trimSlashes_rooted (rooted : ∃ rest, home = '/' :: rest) (named : trimSlashes home ≠ []) :
    ∃ rest, trimSlashes home = '/' :: rest := by
  obtain ⟨rest, rfl⟩ := rooted
  obtain ⟨dropped, split⟩ : trimSlashes ('/' :: rest) <+: '/' :: rest := List.rdropWhile_prefix _ _
  cases trimmed : trimSlashes ('/' :: rest) with
  | nil => exact absurd trimmed named
  | cons first others =>
    rw [trimmed, List.cons_append] at split
    obtain ⟨rfl, -⟩ := List.cons.inj split
    exact ⟨others, rfl⟩

/-- What is put behind the home directory is reached from the root, also when the home directory is
the root. -/
theorem join_rooted (rooted : ∃ rest, home = '/' :: rest) (later : List Char) :
    ∃ rest, trimSlashes home ++ '/' :: later = '/' :: rest := by
  by_cases named : trimSlashes home = []
  · exact ⟨later, by rw [named, List.nil_append]⟩
  · obtain ⟨front, front_eq⟩ := trimSlashes_rooted rooted named
    exact ⟨front ++ '/' :: later, by rw [front_eq, List.cons_append]⟩

/-! ## Expansion -/

theorem expandChars_other (alone : path ≠ ['~']) (below : ∀ rest, path ≠ '~' :: '/' :: rest) :
    expandChars home path = path := by
  unfold expandChars
  split
  · exact absurd rfl alone
  · exact absurd rfl (below _)
  · rfl

/-- What is put for a tilde has no tilde to start with. -/
theorem expandChars_trimSlashes (rooted : ∃ rest, home = '/' :: rest) :
    expandChars home (trimSlashes home) = trimSlashes home := by
  by_cases named : trimSlashes home = []
  · rw [named]
    rfl
  · obtain ⟨rest, rest_eq⟩ := trimSlashes_rooted rooted named
    rw [rest_eq]
    exact expandChars_other (by simp) (by simp)

/-- What has been expanded is not expanded again. -/
theorem expandChars_expandChars (rooted : ∃ rest, home = '/' :: rest) (path : List Char) :
    expandChars home (expandChars home path) = expandChars home path := by
  by_cases alone : path = ['~']
  · rw [alone]
    exact expandChars_trimSlashes rooted
  by_cases below : ∃ later, path = '~' :: '/' :: later
  · obtain ⟨later, rfl⟩ := below
    obtain ⟨rest, joined⟩ := join_rooted rooted later
    have expanded : expandChars home ('~' :: '/' :: later) = '/' :: rest := joined
    rw [expanded]
    exact expandChars_other (by simp) (by simp)
  · have same : expandChars home path = path := expandChars_other alone (not_exists.mp below)
    rw [same, same]

section

variable {home path : String}

theorem expandTilde_alone (home : String) :
    (expandTilde (some home) "~").toList = trimSlashes home.toList := by
  rw [expandTilde, String.toList_ofList]
  rfl

theorem expandTilde_below (home rest : String) :
    (expandTilde (some home) ("~/" ++ rest)).toList =
      trimSlashes home.toList ++ '/' :: rest.toList := by
  rw [expandTilde, String.toList_ofList, String.toList_append]
  rfl

theorem expandTilde_other (alone : path ≠ "~") (below : ∀ rest, path ≠ "~/" ++ rest) :
    expandTilde (some home) path = path := by
  have alone' : path.toList ≠ ['~'] := fun same => alone (String.toList_inj.mp same)
  have below' : ∀ rest, path.toList ≠ '~' :: '/' :: rest := fun rest same =>
    below (String.ofList rest) (String.toList_inj.mp (by rw [same]; simp))
  rw [expandTilde, expandChars_other alone' below', String.ofList_toList]

theorem expandTilde_expandTilde (rooted : Rooted home) (path : String) :
    expandTilde (some home) (expandTilde (some home) path) = expandTilde (some home) path := by
  simp only [expandTilde, String.toList_ofList, expandChars_expandChars rooted]

/-- A path means what it should unless it is a lone tilde and the home directory is the root. Then
nothing is put for it. -/
theorem expandTilde_meant_iff (rooted : Rooted home) :
    (Meant home path (expandTilde (some home) path) ↔ ¬ (path = "~" ∧ IsRoot home)) ∧
      (path = "~" ∧ IsRoot home → expandTilde (some home) path = "") := by
  have nothing (lost : path = "~" ∧ IsRoot home) : expandTilde (some home) path = "" := by
    obtain ⟨rfl, root⟩ := lost
    apply String.toList_inj.mp
    rw [expandTilde_alone, trimSlashes_eq_nil_iff.mpr root]
    rfl
  refine ⟨⟨fun meant lost => ?_, fun found => ?_⟩, nothing⟩
  · obtain ⟨⟨rest, slash⟩, -⟩ := meant.alone lost.1
    rw [nothing lost] at slash
    cases slash
  · refine ⟨?_, ?_, expandTilde_other, expandTilde_expandTilde rooted path⟩
    · rintro rfl
      have named : trimSlashes home.toList ≠ [] :=
        fun trimmed => found ⟨rfl, trimSlashes_eq_nil_iff.mp trimmed⟩
      rw [Rooted, expandTilde_alone]
      exact ⟨trimSlashes_rooted rooted named, names_trimSlashes home.toList⟩
    · rintro rest rfl
      rw [Rooted, expandTilde_below]
      refine ⟨join_rooted rooted rest.toList, ?_⟩
      rw [names_append_slash, names_trimSlashes]

/-- The home directory ends with slashes, and the path goes on behind one more. -/
theorem expandTilde_meant_notes :
    let home := "/srv//ada//"
    let path := "~//notes"
    Rooted home ∧ ¬ (path = "~" ∧ IsRoot home) ∧
      Meant home path (expandTilde (some home) path) ∧
      expandTilde (some home) path = "/srv//ada//notes" := by
  intro home path
  have rooted : Rooted home := ⟨"srv//ada//".toList, by decide⟩
  have below : ¬ (path = "~" ∧ IsRoot home) := fun lost => absurd lost.1 (by decide)
  exact ⟨rooted, below, (expandTilde_meant_iff rooted).1.mpr below, by decide⟩

/-- The home directory is the root. A lone tilde gives no path, and the trace file falls into
whatever directory the program was started in. -/
theorem tilde_lost_at_root :
    Rooted "/" ∧ expandTilde (some "/") "~" = "" ∧
      ¬ Meant "/" "~" (expandTilde (some "/") "~") ∧
      expandTilde (some "/") "~/" = "/" ∧
      join (resolve (some "/") (some "~")) traceFileName = traceFileName := by
  have nothing : expandTilde (some "/") "~" = "" := by decide
  refine ⟨⟨[], by decide⟩, nothing, fun meant => ?_, by decide, by decide⟩
  obtain ⟨⟨rest, slash⟩, -⟩ := meant.alone rfl
  rw [nothing] at slash
  cases slash

end

end Panes.DataDirectory
