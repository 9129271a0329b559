import Panes.Proofs.Volume
import Panes.Trace.Rotation

/-!
# Rotations

The file that lines go to and its backups are numbered places. A rotation moves what is at each
place to the next one, and what is at the last place is lost.
-/

namespace Panes.Trace

/-- The path of the file, then those of its backups. -/
def place (path : Path) : Nat → Path
  | 0 => path
  | index + 1 => path.appendToName ("." ++ (index + 1).repr)

/-- The text at a place. What is not there has none. -/
def text (path : Path) (volume : Volume) (index : Nat) : String :=
  (volume.content? (place path index)).getD ""

/-- Nothing stands in the way of a file at any of the places. -/
structure Usable (path : Path) (last : Nat) (volume : Volume) : Prop where
  directory : volume.isDirectory path.parent = true
  free : ∀ index ≤ last, volume.isDirectory (place path index) = false

/-- What was at the places from the lowest on is one place further, up to the highest place. The
lowest is free, and what was at the highest is gone. -/
structure Moved (path : Path) (low high : Nat) (volume after : Volume) : Prop where
  left : after.node? (place path low) = none
  moved : ∀ index, low ≤ index → index < high →
    after.node? (place path (index + 1)) = volume.node? (place path index)
  kept : ∀ other, (∀ index, low ≤ index → index ≤ high → other ≠ place path index) →
    after.node? other = volume.node? other

variable {path : Path} {volume middle after : Volume} {index low high last : Nat}

/-! ## Places -/

theorem not_prefix_of_backup (path : Path) (index : Nat) :
    ¬ path.appendToName ("." ++ index.repr) <+: path := by
  apply path.not_prefix_of_appendToName
  intro empty
  have lengths := congrArg String.length empty
  simp at lengths

theorem place_succ_ne (index : Nat) : place path (index + 1) ≠ path := by
  intro same
  rw [place] at same
  exact not_prefix_of_backup path (index + 1) (same.symm ▸ List.prefix_refl path)

theorem repr_inj {left right : Nat} (same : left.repr = right.repr) : left = right := by
  have digits := congrArg String.toList same
  rw [Nat.toList_repr, Nat.toList_repr] at digits
  have values := congrArg (Nat.ofDigitChars 10 · 0) digits
  simpa using values

theorem place_inj {left right : Nat} : place path left = place path right ↔ left = right := by
  refine ⟨fun same => ?_, fun same => same ▸ rfl⟩
  cases left with
  | zero =>
    cases right with
    | zero => rfl
    | succ right => exact absurd same.symm (place_succ_ne right)
  | succ left =>
    cases right with
    | zero => exact absurd same (place_succ_ne left)
    | succ right =>
      rw [place, place, Path.appendToName_inj, String.append_right_inj] at same
      exact repr_inj same

theorem place_ne {left right : Nat} (apart : left ≠ right) : place path left ≠ place path right :=
  mt place_inj.mp apart

theorem parent_place (index : Nat) : (place path index).parent = path.parent := by
  cases index with
  | zero => rfl
  | succ index => exact path.parent_appendToName _

/-! ## What has moved -/

theorem Moved.of_absent (absent : volume.node? (place path index) = none) :
    Moved path index index volume volume where
  left := absent
  moved _ least below := absurd below (Nat.not_lt.mpr least)
  kept _ _ := rfl

/-- The upper files move first, so that the lower ones find their places free. -/
theorem Moved.trans {between : Nat} (upper : Moved path between high volume middle)
    (lower : Moved path low between middle after) (least : low ≤ between)
    (greatest : between ≤ high) : Moved path low high volume after where
  left := lower.left
  moved index above below := by
    by_cases under : index < between
    · rw [lower.moved index above under]
      exact upper.kept _ fun _ upward _ => place_ne (by omega)
    · rw [lower.kept _ fun _ _ within => place_ne (by omega)]
      exact upper.moved index (by omega) below
  kept other away := by
    rw [lower.kept other fun index above within => away index above (by omega)]
    exact upper.kept other fun index above within => away index (by omega) within

/-- A file goes to the next place. -/
theorem Moved.of_file {serial : Nat} {content : String}
    (found : volume.node? (place path index) = some (.file serial content))
    (proper : place path (index + 1) ≠ []) :
    Moved path index (index + 1) volume
      ((volume.erase (place path index)).set (place path (index + 1)) (.file serial content)) where
  left := by
    rw [Volume.node?_set_of_ne (place_ne (by omega)),
      Volume.node?_erase_self (Volume.ne_nil_of_file found)]
  moved other above below := by
    obtain rfl : other = index := by omega
    rw [Volume.node?_set_self proper, found]
  kept other away := by
    rw [Volume.node?_set_of_ne (away _ (by omega) (Nat.le_refl _)),
      Volume.node?_erase_of_ne (away _ (Nat.le_refl _) (by omega))]

theorem Moved.of_absent_both (absent : volume.node? (place path index) = none)
    (free : volume.node? (place path (index + 1)) = none) :
    Moved path index (index + 1) volume volume where
  left := absent
  moved other above below := by
    obtain rfl : other = index := by omega
    rw [absent, free]
  kept _ _ := rfl

theorem Moved.erase (proper : place path index ≠ []) :
    Moved path index index volume (volume.erase (place path index)) where
  left := Volume.node?_erase_self proper
  moved _ least below := absurd below (Nat.not_lt.mpr least)
  kept _ away := Volume.node?_erase_of_ne (away index (Nat.le_refl _) (Nat.le_refl _))

theorem Usable.parent_ne_place (usable : Usable path last volume) (within : index ≤ last) :
    path.parent ≠ place path index := by
  intro same
  have free := usable.free index within
  rw [← same, usable.directory] at free
  cases free

theorem Usable.place_ne_nil (usable : Usable path last volume) (within : index ≤ last) :
    place path index ≠ [] := by
  intro root
  have free := usable.free index within
  rw [root] at free
  cases free

theorem Moved.usable (moved : Moved path low high volume after) (within : high ≤ last)
    (usable : Usable path last volume) : Usable path last after where
  directory := by
    rw [Volume.isDirectory, moved.kept _ fun index _ below => usable.parent_ne_place (by omega)]
    exact usable.directory
  free index inside := by
    have free := usable.free index inside
    by_cases here : low ≤ index ∧ index ≤ high
    · obtain rfl | above := Nat.eq_or_lt_of_le here.1
      · exact Volume.isDirectory_of_absent moved.left
      · obtain ⟨below, rfl⟩ : ∃ below, index = below + 1 := ⟨index - 1, by omega⟩
        rw [Volume.isDirectory, moved.moved below (by omega) (by omega)]
        exact usable.free below (by omega)
    · rw [Volume.isDirectory, moved.kept _ fun _ above below => place_ne (by omega)]
      exact free

/-! ## A rotation -/

namespace Writer

variable {writer : Writer} {count : Nat}

theorem backup_succ (writer : Writer) (index : Nat) :
    writer.backup (index + 1) = place writer.path (index + 1) := rfl

theorem backup_maxBackups (backups : writer.policy.maxBackups ≠ 0) :
    writer.backup writer.policy.maxBackups = place writer.path writer.policy.maxBackups := by
  obtain ⟨last, numbered⟩ := Nat.exists_eq_succ_of_ne_zero backups
  rw [numbered]
  rfl

theorem dropOldest_of_usable (backups : writer.policy.maxBackups ≠ 0)
    (usable : Usable writer.path writer.policy.maxBackups volume) :
    ∃ after, writer.dropOldest volume = (after, true) ∧
      Moved writer.path writer.policy.maxBackups writer.policy.maxBackups volume after := by
  rw [dropOldest, backup_maxBackups backups]
  obtain ⟨_, _, found⟩ | absent := Volume.file_or_absent (usable.free _ (Nat.le_refl _))
  · rw [Volume.contains_of_file found, Volume.removeFile_of_file found]
    exact ⟨_, rfl, .erase (Volume.ne_nil_of_file found)⟩
  · rw [Volume.contains_of_absent absent]
    exact ⟨_, rfl, .of_absent absent⟩

/-- When the place above is free, every backup finds the next place free. -/
theorem shiftBackups_of_usable (usable : Usable writer.path last volume) (within : count < last)
    (free : volume.node? (place writer.path (count + 1)) = none) :
    ∃ after, writer.shiftBackups count volume = (after, true) ∧
      Moved writer.path 1 (count + 1) volume after := by
  induction count generalizing volume with
  | zero => exact ⟨volume, rfl, .of_absent free⟩
  | succ count ih =>
    rw [shiftBackups, backup_succ, backup_succ]
    obtain ⟨_, _, found⟩ | absent := Volume.file_or_absent (usable.free (count + 1) (by omega))
    · have moved := Moved.of_file found (usable.place_ne_nil (by omega))
      obtain ⟨after, shifted, lower⟩ := ih (moved.usable (by omega) usable) (by omega) moved.left
      rw [Volume.contains_of_file found, Volume.rename_of_file found (usable.free _ (by omega))
        ((parent_place _).symm ▸ usable.directory)]
      exact ⟨after, shifted, moved.trans lower (by omega) (by omega)⟩
    · obtain ⟨after, shifted, lower⟩ := ih usable (by omega) absent
      rw [Volume.contains_of_absent absent]
      exact ⟨after, shifted, (Moved.of_absent_both absent free).trans lower (by omega) (by omega)⟩

/-- A rotation moves each file to the next place. -/
theorem rotate_of_usable {serial : Nat} {content : String}
    (usable : Usable writer.path writer.policy.maxBackups volume)
    (found : volume.node? writer.path = some (.file serial content)) :
    ∃ after, writer.rotate volume = (after, true) ∧
      Moved writer.path 0 writer.policy.maxBackups volume after := by
  rw [rotate]
  by_cases backups : writer.policy.maxBackups = 0
  · rw [if_pos backups, Volume.removeFile_of_file found, backups]
    exact ⟨_, rfl, .erase (Volume.ne_nil_of_file found)⟩
  · -- From the highest place down, so that each file finds the next place free.
    obtain ⟨cleared, dropped, top⟩ := dropOldest_of_usable backups usable
    obtain ⟨count, numbered⟩ := Nat.exists_eq_succ_of_ne_zero backups
    rw [numbered] at usable top
    obtain ⟨shifted, gone, rest⟩ :=
      shiftBackups_of_usable (top.usable (Nat.le_refl _) usable) (Nat.lt_succ_self _) top.left
    have upper := top.trans rest (by omega) (Nat.le_refl _)
    have free := upper.usable (Nat.le_refl _) usable
    have active : shifted.node? (place writer.path 0) = some (.file serial content) :=
      (upper.kept _ fun _ positive _ => place_ne (by omega)).trans found
    have renamed : shifted.rename writer.path (writer.backup 1) = some _ :=
      Volume.rename_of_file active (free.free 1 (by omega))
        ((parent_place 1).symm ▸ free.directory)
    have lowest := Moved.of_file active (free.place_ne_nil (by omega))
    rw [if_neg backups, dropped, numbered, Nat.succ_sub_one]
    simp only [gone, renamed]
    exact ⟨_, rfl, upper.trans lowest (by omega) (by omega)⟩

end Writer

end Panes.Trace
