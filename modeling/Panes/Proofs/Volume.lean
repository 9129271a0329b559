import Mathlib.Data.List.Basic
import Panes.Volume

/-!
# Files after an operation

Each operation on a volume says where the entry at a path comes from: from the operation itself, or
from the same path before. What lies elsewhere stays, also when a directory is moved.
-/

namespace Panes

namespace Path

@[simp]
theorem parent_appendToName (path : Path) (suffix : String) :
    (path.appendToName suffix).parent = path.parent := by
  rw [appendToName]
  cases named : path.getLast? with
  | none =>
    rw [List.getLast?_eq_none_iff.mp named]
    rfl
  | some name => simp [parent]

theorem appendToName_inj {path : Path} {left right : String} :
    path.appendToName left = path.appendToName right ↔ left = right := by
  rw [appendToName, appendToName]
  cases path.getLast? <;> simp

theorem appendToName_ne_nil (path : Path) (suffix : String) : path.appendToName suffix ≠ [] := by
  rw [appendToName]
  split <;> simp

/-- What is put behind its name makes of a path neither itself nor a directory that it lies in. -/
theorem not_prefix_of_appendToName (path : Path) {suffix : String} (proper : suffix ≠ "") :
    ¬ path.appendToName suffix <+: path := by
  intro leads
  rw [appendToName] at leads
  cases named : path.getLast? with
  | none =>
    rw [List.getLast?_eq_none_iff.mp named] at leads
    simp at leads
  | some name =>
    obtain ⟨front, rfl⟩ := List.getLast?_eq_some_iff.mp named
    simp only [named, List.dropLast_concat, List.prefix_append_right_inj] at leads
    have renamed : name ++ suffix = name ++ "" := by simpa using leads
    exact proper ((String.append_right_inj name).mp renamed)

end Path

namespace Volume

variable {volume after : Volume} {path other : Path} {node : Node}

/-! ## Single entries -/

@[simp]
theorem node?_nil (volume : Volume) : volume.node? [] = some .directory := rfl

theorem node?_eq_lookup (proper : path ≠ []) : volume.node? path = volume.entries.lookup path :=
  if_neg proper

theorem ne_nil_of_file {serial : Nat} {content : String}
    (found : volume.node? path = some (.file serial content)) : path ≠ [] := by
  rintro rfl
  cases found

theorem node?_erase_self (proper : path ≠ []) : (volume.erase path).node? path = none := by
  rw [node?_eq_lookup proper, erase, List.lookup_eq_none_iff]
  intro entry member
  have apart : entry.1 ≠ path := bne_iff_ne.mp (List.mem_filter.mp member).2
  exact bne_iff_ne.mpr apart.symm

theorem node?_erase_of_ne (apart : other ≠ path) :
    (volume.erase path).node? other = volume.node? other := by
  by_cases root : other = []
  · rw [root, node?_nil, node?_nil]
  rw [node?_eq_lookup root, node?_eq_lookup root, erase]
  induction volume.entries with
  | nil => rfl
  | cons entry entries ih =>
    by_cases here : entry.1 = path
    · have passed : (other == entry.1) = false := beq_false_of_ne (here ▸ apart)
      rw [List.filter_cons_of_neg (by simp [here]), ih, List.lookup_cons, passed]
    · rw [List.filter_cons_of_pos (by simp [here]), List.lookup_cons, List.lookup_cons, ih]

theorem node?_set_self (proper : path ≠ []) : (volume.set path node).node? path = some node := by
  rw [node?_eq_lookup proper, set, List.lookup_cons_self]

theorem node?_set_of_ne (apart : other ≠ path) :
    (volume.set path node).node? other = volume.node? other := by
  have erased : (volume.erase path).node? other = volume.node? other := node?_erase_of_ne apart
  rw [← erased]
  by_cases root : other = []
  · rw [root, node?_nil, node?_nil]
  rw [node?_eq_lookup root, node?_eq_lookup root, set, List.lookup_cons, beq_false_of_ne apart]

/-! ## Files -/

section

variable {serial : Nat} {content : String}

theorem content?_of_file (found : volume.node? path = some (.file serial content)) :
    volume.content? path = some content := by
  rw [content?, found]

theorem content?_of_absent (absent : volume.node? path = none) : volume.content? path = none := by
  rw [content?, absent]

theorem isDirectory_of_file (found : volume.node? path = some (.file serial content)) :
    volume.isDirectory path = false := by
  rw [isDirectory, found]
  rfl

theorem isDirectory_of_absent (absent : volume.node? path = none) :
    volume.isDirectory path = false := by
  rw [isDirectory, absent]
  rfl

theorem contains_of_file (found : volume.node? path = some (.file serial content)) :
    volume.contains path = true := by
  rw [contains, found]
  rfl

theorem contains_of_absent (absent : volume.node? path = none) :
    volume.contains path = false := by
  rw [contains, absent]
  rfl

/-- What is no directory is a file, or is not there. -/
theorem file_or_absent (free : volume.isDirectory path = false) :
    (∃ serial content, volume.node? path = some (.file serial content)) ∨
      volume.node? path = none := by
  rw [isDirectory] at free
  cases found : volume.node? path with
  | none => exact .inr rfl
  | some node =>
    cases node with
    | directory =>
      rw [found] at free
      cases free
    | file serial content => exact .inl ⟨serial, content, rfl⟩

theorem node?_create_self (proper : path ≠ []) (content : String) :
    (volume.create path content).node? path = some (.file volume.nextSerial content) :=
  node?_set_self proper

theorem node?_create_of_ne (apart : other ≠ path) (content : String) :
    (volume.create path content).node? other = volume.node? other :=
  node?_set_of_ne apart

theorem openToAppend_of_file (found : volume.node? path = some (.file serial content)) :
    volume.openToAppend path = some (volume, serial, content) := by
  rw [openToAppend, found]

theorem openToAppend_of_absent (absent : volume.node? path = none)
    (directory : volume.isDirectory path.parent = true) :
    volume.openToAppend path = some (volume.create path "", volume.nextSerial, "") := by
  rw [openToAppend, absent]
  exact if_pos directory

/-- A file that is there is opened as it is, and one that is not is created. -/
theorem openToAppend_cases (opened : volume.openToAppend path = some (after, serial, content)) :
    volume.node? path = some (.file serial content) ∧ after = volume ∨
      volume.node? path = none ∧ after = volume.create path "" ∧ serial = volume.nextSerial ∧
        content = "" := by
  rw [openToAppend] at opened
  split at opened
  · next found =>
    cases opened
    exact .inl ⟨found, rfl⟩
  · cases opened
  · next absent =>
    split at opened
    · cases opened
      exact .inr ⟨absent, rfl, rfl, rfl⟩
    · cases opened

/-- An open file is there with the text that was reported, and a file that was not there before is
empty. -/
theorem node?_openToAppend (opened : volume.openToAppend path = some (after, serial, content)) :
    after.node? path = some (.file serial content) ∧
      (volume.node? path = none → content = "") := by
  obtain ⟨found, rfl⟩ | ⟨absent, rfl, rfl, rfl⟩ := openToAppend_cases opened
  · exact ⟨found, fun absent => by rw [found] at absent; cases absent⟩
  · have proper : path ≠ [] := by
      rintro rfl
      cases absent
    exact ⟨node?_create_self proper "", fun _ => rfl⟩

theorem node?_openToAppend_of_ne
    (opened : volume.openToAppend path = some (after, serial, content)) (apart : other ≠ path) :
    after.node? other = volume.node? other := by
  obtain ⟨-, rfl⟩ | ⟨-, rfl, -⟩ := openToAppend_cases opened
  · rfl
  · exact node?_create_of_ne apart ""

theorem append_of_file (found : volume.node? path = some (.file serial content)) (text : String) :
    volume.append path serial text = volume.set path (.file serial (content ++ text)) := by
  rw [append, found]
  exact if_pos rfl

theorem node?_append_of_ne (apart : other ≠ path) (serial : Nat) (text : String) :
    (volume.append path serial text).node? other = volume.node? other := by
  rw [append]
  split
  · split
    · exact node?_set_of_ne apart
    · rfl
  · rfl

theorem removeFile_of_file (found : volume.node? path = some (.file serial content)) :
    volume.removeFile path = some (volume.erase path) := by
  rw [removeFile, found]

theorem removeFile_cases (removed : volume.removeFile path = some after) :
    path ≠ [] ∧ after = volume.erase path := by
  rw [removeFile] at removed
  split at removed
  · next found =>
    cases removed
    exact ⟨ne_nil_of_file found, rfl⟩
  · cases removed

end

/-! ## Moves -/

section

variable {source target : Path} {serial : Nat} {content : String}

theorem rename_of_file (found : volume.node? source = some (.file serial content))
    (free : volume.isDirectory target = false)
    (directory : volume.isDirectory target.parent = true) :
    volume.rename source target =
      some ((volume.erase source).set target (.file serial content)) := by
  rw [rename, if_neg (not_not.mpr directory), found]
  obtain ⟨_, _, there⟩ | absent := file_or_absent free
  · rw [there]
  · rw [absent]

theorem rename_of_file_cases (found : volume.node? source = some (.file serial content))
    (renamed : volume.rename source target = some after) :
    after = (volume.erase source).set target (.file serial content) := by
  rw [rename, found] at renamed
  split at renamed
  · cases renamed
  · cases there : volume.node? target with
    | none =>
      rw [there] at renamed
      exact (Option.some.inj renamed).symm
    | some node =>
      rw [there] at renamed
      cases node with
      | directory => cases renamed
      | file _ _ => exact (Option.some.inj renamed).symm

/-- Entries below one path go below another. -/
theorem lookup_map_of_apart {entries : List (Path × Node)} (away : ¬ source <+: other)
    (clear : ¬ target <+: other) :
    (entries.map fun entry =>
      if source.isPrefixOf entry.1 then (target ++ entry.1.drop source.length, entry.2)
      else entry).lookup other = entries.lookup other := by
  induction entries with
  | nil => rfl
  | cons entry entries ih =>
    rw [List.map_cons, List.lookup_cons, List.lookup_cons, ih]
    by_cases below : source.isPrefixOf entry.1 = true
    · have before : other ≠ entry.1 := by
        rintro rfl
        exact away (List.isPrefixOf_iff_prefix.mp below)
      have after : other ≠ target ++ entry.1.drop source.length := by
        rintro rfl
        exact clear (List.prefix_append _ _)
      rw [if_pos below, beq_false_of_ne before, beq_false_of_ne after]
    · rw [if_neg below]

/-- What lies below neither end of a move stays. -/
theorem node?_rename_of_apart (renamed : volume.rename source target = some after)
    (away : ¬ source <+: other) (clear : ¬ target <+: other) :
    after.node? other = volume.node? other := by
  have notSource : other ≠ source := fun same => away (same ▸ List.prefix_refl _)
  have notTarget : other ≠ target := fun same => clear (same ▸ List.prefix_refl _)
  rw [rename] at renamed
  split at renamed
  · cases renamed
  split at renamed
  · cases renamed
  · cases renamed
  · cases renamed
    rw [node?_set_of_ne notTarget, node?_erase_of_ne notSource]
  · cases renamed
  · split at renamed
    · cases renamed
    · cases renamed
      have cleared : (volume.erase target).node? other = volume.node? other :=
        node?_erase_of_ne notTarget
      rw [← cleared]
      by_cases root : other = []
      · rw [root, node?_nil, node?_nil]
      rw [node?_eq_lookup root, node?_eq_lookup root]
      exact lookup_map_of_apart away clear

end

end Volume

end Panes
