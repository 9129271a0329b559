import Panes.Proofs.Trace.Restart

/-!
# What rotations lose

Read from the oldest backup to the file itself, what is kept is the end of what there was and of
what has been written since. Only whole files are lost, the oldest first.
-/

namespace Panes.Trace

variable {path : Path} {volume after : Volume} {last index : Nat} {line : String} {fresh : Bool}
  {before later : List String} {writer : Writer}

/-- The texts at all places, the oldest first. -/
def reading (path : Path) (last : Nat) (volume : Volume) : List String :=
  (List.range (last + 1)).reverse.map (text path volume)

/-- Texts before and after a line: it begins a new one and the oldest is lost, or it comes behind
the newest. -/
inductive Added (line : String) : Bool → List String → List String → Prop
  | fresh (oldest : String) (rest : List String) :
      Added line true (oldest :: rest) (rest ++ [line])
  | behind (front : List String) (newest : String) :
      Added line false (front ++ [newest]) (front ++ [newest ++ line])

/-- Texts before and after lines, and how many of the lines have begun a new one. -/
inductive Grown : List String → Nat → List String → List String → Prop
  | nil (texts : List String) : Grown [] 0 texts texts
  | cons {line : String} {lines : List String} {fresh : Bool} {count : Nat}
      {before middle later : List String} :
      Added line fresh before middle → Grown lines count middle later →
      Grown (line :: lines) (fresh.toNat + count) before later

namespace Writer

/-- The line would not fit into the file. -/
def rotates (writer : Writer) (volume : Volume) (line : String) : Bool :=
  (writer.opened volume).any fun (_, handle) => writer.overflows handle (line.utf8ByteSize + 1)

/-- How many rotations there are while lines are written. -/
def rotations (writer : Writer) (volume : Volume) : List String → Nat
  | [] => 0
  | line :: lines =>
    let attempt := writer.writeLine volume line
    (writer.rotates volume line).toNat + attempt.writer.rotations attempt.volume lines

end Writer

/-! ## Texts -/

theorem text_congr {other : Nat}
    (same : after.node? (place path other) = volume.node? (place path index)) :
    text path after other = text path volume index := by
  rw [text, text, Volume.content?, Volume.content?, same]

theorem text_of_file {serial : Nat} {content : String}
    (found : volume.node? (place path index) = some (.file serial content)) :
    text path volume index = content := by
  rw [text, Volume.content?_of_file found]
  rfl

theorem text_of_absent (absent : volume.node? (place path index) = none) :
    text path volume index = "" := by
  rw [text, Volume.content?_of_absent absent]
  rfl

theorem reading_eq_cons (path : Path) (last : Nat) (volume : Volume) :
    reading path last volume =
      text path volume last :: (List.range last).reverse.map (text path volume) := by
  rw [reading, List.range_succ, List.reverse_concat, List.map_cons]

theorem reading_eq_concat (path : Path) (last : Nat) (volume : Volume) :
    reading path last volume =
      (List.range last).reverse.map (fun index => text path volume (index + 1)) ++
        [text path volume 0] := by
  rw [reading, List.range_succ_eq_map, List.reverse_cons, List.map_append, ← List.map_reverse,
    List.map_map]
  rfl

theorem added_of_moved (front : text path after 0 = line)
    (moved : ∀ index < last, text path after (index + 1) = text path volume index) :
    Added line true (reading path last volume) (reading path last after) := by
  rw [reading_eq_cons path last volume, reading_eq_concat path last after, front]
  have same : (List.range last).reverse.map (fun index => text path after (index + 1)) =
      (List.range last).reverse.map (text path volume) :=
    List.map_congr_left fun index member =>
      moved index (List.mem_range.mp (List.mem_reverse.mp member))
  rw [same]
  exact .fresh _ _

theorem added_of_kept (front : text path after 0 = text path volume 0 ++ line)
    (kept : ∀ index, text path after (index + 1) = text path volume (index + 1)) :
    Added line false (reading path last volume) (reading path last after) := by
  rw [reading_eq_concat path last volume, reading_eq_concat path last after, front, funext kept]
  exact .behind _ _

/-! ## What one line leaves -/

namespace Added

/-- Texts that are put together from pieces still are, and the new line is one piece of one text. -/
theorem exists_pieces (added : Added line fresh before later) {files : List (List String)}
    (whole : files.map String.join = before) :
    ∃ lost remaining, files.flatten ++ [line] = lost ++ List.flatten remaining ∧
      remaining.map String.join = later := by
  cases added with
  | fresh oldest rest =>
    obtain ⟨first, others, rfl, rfl, rfl⟩ := List.map_eq_cons_iff.mp whole
    refine ⟨first, others ++ [[line]], ?_, ?_⟩
    · simp
    · simp
  | behind front newest =>
    obtain ⟨others, newer, rfl, rfl, single⟩ := List.map_eq_append_iff.mp whole
    obtain ⟨active, rfl, rfl⟩ := List.map_eq_singleton_iff.mp single
    refine ⟨[], others ++ [active ++ [line]], ?_, ?_⟩
    · simp
    · simp [String.join_append]

/-- While the oldest text is empty, nothing is lost. -/
theorem join_of_room (added : Added line fresh before later) {room : Nat}
    (within : room < before.length) (empty : ∀ text ∈ before.take room, text = "")
    (enough : fresh.toNat ≤ room) :
    String.join later = String.join before ++ line ∧ later.length = before.length ∧
      ∀ text ∈ later.take (room - fresh.toNat), text = "" := by
  cases added with
  | fresh oldest rest =>
    obtain ⟨room, rfl⟩ := Nat.exists_eq_add_of_le' enough
    rw [Bool.toNat_true, List.take_succ_cons] at empty
    obtain ⟨rfl, others⟩ := List.forall_mem_cons.mp empty
    refine ⟨by simp [String.join_append], by simp, ?_⟩
    rw [Nat.add_sub_cancel, List.take_append_of_le_length (by simpa using Nat.le_of_lt within)]
    exact others
  | behind front newest =>
    have inside : room ≤ front.length := by
      rw [List.length_append, List.length_singleton] at within
      exact Nat.le_of_lt_succ within
    rw [List.take_append_of_le_length inside] at empty
    refine ⟨by simp [String.join_append, String.append_assoc], by simp, ?_⟩
    rw [Bool.toNat_false, Nat.sub_zero, List.take_append_of_le_length inside]
    exact empty

end Added

namespace Grown

variable {lines : List String} {count : Nat}

theorem exists_pieces (grown : Grown lines count before later) {files : List (List String)}
    (whole : files.map String.join = before) :
    ∃ lost remaining, files.flatten ++ lines = lost ++ List.flatten remaining ∧
      remaining.map String.join = later := by
  induction grown generalizing files with
  | nil texts => exact ⟨[], files, by simp, whole⟩
  | @cons line lines _ _ _ _ _ added _ ih =>
    obtain ⟨lost, remaining, split, middle⟩ := added.exists_pieces whole
    obtain ⟨more, kept, rest, later⟩ := ih middle
    refine ⟨lost ++ more, kept, ?_, later⟩
    calc
      files.flatten ++ line :: lines = files.flatten ++ [line] ++ lines := by simp
      _ = lost ++ (remaining.flatten ++ lines) := by rw [split, List.append_assoc]
      _ = lost ++ more ++ kept.flatten := by rw [rest, List.append_assoc]

theorem join_of_room (grown : Grown lines count before later) {room : Nat}
    (within : room < before.length) (empty : ∀ text ∈ before.take room, text = "")
    (enough : count ≤ room) : String.join later = String.join (before ++ lines) := by
  induction grown generalizing room with
  | nil texts => rw [List.append_nil]
  | cons added _ ih =>
    obtain ⟨joined, long, still⟩ := added.join_of_room within empty (by omega)
    rw [ih (by omega) still (by omega), String.join_append, joined, String.join_append,
      String.join_cons, String.append_assoc]

end Grown

/-! ## One line -/

theorem Usable.of_file (usable : Usable path last volume) (file : after.isDirectory path = false)
    (kept : ∀ other, other ≠ path → after.node? other = volume.node? other) :
    Usable path last after where
  directory := by
    rw [Volume.isDirectory, kept _ (usable.parent_ne_place (Nat.zero_le last))]
    exact usable.directory
  free index within := by
    cases index with
    | zero => exact file
    | succ index =>
      rw [Volume.isDirectory, kept _ (place_succ_ne index)]
      exact usable.free _ within

/-- The file can be opened, which is all that changes. -/
theorem Usable.openToAppend (usable : Usable path last volume) :
    ∃ base serial, volume.openToAppend path = some (base, serial, text path volume 0) ∧
      Usable path last base ∧ ∀ index, text path base index = text path volume index := by
  have free : volume.isDirectory path = false := usable.free 0 (Nat.zero_le last)
  obtain ⟨serial, content, found⟩ | absent := Volume.file_or_absent free
  · have same : text path volume 0 = content := text_of_file found
    rw [Volume.openToAppend_of_file found, same]
    exact ⟨volume, serial, rfl, usable, fun _ => rfl⟩
  · have proper : path ≠ [] := usable.place_ne_nil (Nat.zero_le last)
    have created : (volume.create path "").node? path = some (.file volume.nextSerial "") :=
      Volume.node?_create_self proper ""
    have same : text path volume 0 = "" := text_of_absent absent
    rw [Volume.openToAppend_of_absent absent usable.directory, same]
    refine ⟨_, _, rfl, ?_, ?_⟩
    · exact usable.of_file (Volume.isDirectory_of_file created)
        fun other apart => Volume.node?_create_of_ne apart ""
    · rintro (_ | index)
      · rw [same]
        exact text_of_file created
      · exact text_congr (Volume.node?_create_of_ne (place_succ_ne index) "")

namespace Writer

theorem opened_of_usable (writer : Writer) (usable : Usable writer.path last volume) :
    ∃ base handle, writer.opened volume = some (base, handle) ∧ Usable writer.path last base ∧
      ∀ index, text writer.path base index = text writer.path volume index := by
  cases held : writer.handle with
  | some handle => exact ⟨volume, handle, by rw [opened, held], usable, fun _ => rfl⟩
  | none =>
    obtain ⟨base, serial, begun, still, same⟩ := usable.openToAppend
    exact ⟨base, _, by rw [opened, held, begun]; rfl, still, same⟩

theorem rotates_of_opened {handle : Handle} (begun : writer.opened volume = some (after, handle))
    (line : String) :
    writer.rotates volume line = writer.overflows handle (line.utf8ByteSize + 1) := by
  rw [rotates, begun, Option.any_some]

theorem writeLine_of_fits {handle : Handle} (begun : writer.opened volume = some (after, handle))
    (fits : writer.rotates volume line = false) :
    writer.writeLine volume line = writer.put after handle line := by
  rw [rotates_of_opened begun] at fits
  rw [writeLine, begun]
  simp only [fits, Bool.false_eq_true, if_false]

theorem writeLine_of_rotated {handle : Handle} {rotated base : Volume} {serial : Nat}
    {content : String} (begun : writer.opened volume = some (after, handle))
    (full : writer.rotates volume line = true)
    (gone : writer.renewed.rotate after = (rotated, true))
    (reopened : rotated.openToAppend writer.path = some (base, serial, content)) :
    writer.writeLine volume line = writer.put base ⟨serial, 0⟩ line := by
  rw [rotates_of_opened begun] at full
  rw [renewed, closed] at gone
  rw [writeLine, begun]
  simp only [full, if_true, gone, reopened]
  rfl

/-- Where nothing is in the way, a line is put behind the text of the file, or behind none when the
files have all moved to the next place. -/
theorem writeLine_of_usable (tracked : writer.Tracked volume)
    (usable : Usable writer.path writer.policy.maxBackups volume) (line : String) :
    ∃ base handle, handle.Matches writer.path base ∧
      Usable writer.path writer.policy.maxBackups base ∧
      writer.writeLine volume line = writer.put base handle line ∧
      (writer.rotates volume line = false ∧
          (∀ index, text writer.path base index = text writer.path volume index) ∨
        writer.rotates volume line = true ∧ text writer.path base 0 = "" ∧
          ∀ index < writer.policy.maxBackups,
            text writer.path base (index + 1) = text writer.path volume index) := by
  obtain ⟨after, handle, begun, still, same⟩ := writer.opened_of_usable usable
  have found := matches_of_opened tracked begun
  cases full : writer.rotates volume line with
  | false => exact ⟨after, handle, found, still, writeLine_of_fits begun full, .inl ⟨rfl, same⟩⟩
  | true =>
    obtain ⟨content, there, -⟩ := found
    obtain ⟨rotated, gone, moved : Moved writer.path 0 writer.policy.maxBackups after rotated⟩ :=
      writer.renewed.rotate_of_usable still there
    have empty : text writer.path rotated 0 = "" := text_of_absent moved.left
    obtain ⟨base, serial, reopened, free, texts⟩ :=
      (moved.usable (Nat.le_refl _) still).openToAppend
    have begins := (Volume.node?_openToAppend reopened).1
    rw [empty] at begins
    refine ⟨base, ⟨serial, 0⟩, ⟨"", begins, rfl⟩, free,
      writeLine_of_rotated begun full gone reopened,
      .inr ⟨rfl, (texts 0).trans empty, fun index below => ?_⟩⟩
    rw [texts, ← same]
    exact text_congr (moved.moved index (Nat.zero_le index) below)

section Put

variable {base : Volume} {handle : Handle}

theorem node?_put_of_ne (writer : Writer) (base : Volume) (handle : Handle) (line : String)
    {other : Path} (apart : other ≠ writer.path) :
    (writer.put base handle line).volume.node? other = base.node? other :=
  Volume.node?_append_of_ne apart handle.serial (line ++ "\n")

theorem text_put_zero (found : handle.Matches writer.path base) (line : String) :
    text writer.path (writer.put base handle line).volume 0 =
      text writer.path base 0 ++ (line ++ "\n") := by
  obtain ⟨content, there, -⟩ := found
  have before : text writer.path base 0 = content := text_of_file there
  rw [put, Volume.append_of_file there, before]
  exact text_of_file (Volume.node?_set_self (Volume.ne_nil_of_file there))

theorem text_put_succ (writer : Writer) (base : Volume) (handle : Handle) (line : String)
    (index : Nat) :
    text writer.path (writer.put base handle line).volume (index + 1) =
      text writer.path base (index + 1) :=
  text_congr (writer.node?_put_of_ne base handle line (place_succ_ne index))

theorem usable_put (found : handle.Matches writer.path base)
    (usable : Usable writer.path last base) (line : String) :
    Usable writer.path last (writer.put base handle line).volume := by
  obtain ⟨_, there, _⟩ := matches_put found line
  exact usable.of_file (Volume.isDirectory_of_file there)
    fun _ => writer.node?_put_of_ne base handle line

end Put

/-- Where nothing is in the way, a line is written, and nothing is in the way afterwards. -/
theorem added_of_usable (tracked : writer.Tracked volume)
    (usable : Usable writer.path writer.policy.maxBackups volume) (line : String) :
    ∃ after handle,
      writer.writeLine volume line = ⟨after, { writer with handle := some handle }, true⟩ ∧
      handle.Matches writer.path after ∧ Usable writer.path writer.policy.maxBackups after ∧
      Added (line ++ "\n") (writer.rotates volume line)
        (reading writer.path writer.policy.maxBackups volume)
        (reading writer.path writer.policy.maxBackups after) := by
  obtain ⟨base, handle, found, still, done, cases⟩ := writeLine_of_usable tracked usable line
  refine ⟨(writer.put base handle line).volume, _, done, matches_put found line,
    usable_put found still line, ?_⟩
  obtain ⟨fits, same⟩ | ⟨full, empty, moved⟩ := cases
  · rw [fits]
    apply added_of_kept
    · rw [text_put_zero found, same]
    · intro index
      rw [text_put_succ, same]
  · rw [full]
    apply added_of_moved
    · rw [text_put_zero found, empty, String.empty_append]
    · intro index below
      rw [text_put_succ, moved index below]

theorem grown_of_usable (tracked : writer.Tracked volume)
    (usable : Usable writer.path writer.policy.maxBackups volume) (lines : List String) :
    (∀ attempt ∈ writer.attempts volume lines, attempt.written = true) ∧
      Grown (lines.map (· ++ "\n")) (writer.rotations volume lines)
        (reading writer.path writer.policy.maxBackups volume)
        (reading writer.path writer.policy.maxBackups (writer.writeLines volume lines).2) := by
  induction lines generalizing writer volume with
  | nil => exact ⟨fun _ member => (List.not_mem_nil member).elim, .nil _⟩
  | cons line lines ih =>
    obtain ⟨after, handle, done, found, still, added⟩ := added_of_usable tracked usable line
    have tracks : Tracked { writer with handle := some handle } after := by
      rintro _ ⟨⟩
      exact found
    obtain ⟨written, grown⟩ := ih tracks still
    rw [attempts, rotations, writeLines, done]
    exact ⟨List.forall_mem_cons.mpr ⟨rfl, written⟩, .cons added grown⟩

end Writer

/-! ## What is read after many lines -/

theorem length_reading (path : Path) (last : Nat) (volume : Volume) :
    (reading path last volume).length = last + 1 := by
  simp [reading]

/-- Above the highest backup there is room. -/
theorem reading_vacant {highest : Nat} (vacant : ∀ index, highest < index → index ≤ last →
      volume.contains (place path index) = false) :
    ∀ text ∈ (reading path last volume).take (last - highest), text = "" := by
  intro content member
  rw [reading, ← List.map_take] at member
  obtain ⟨index, inside, rfl⟩ := List.mem_map.mp member
  rw [List.take_reverse, List.mem_reverse, List.length_range, List.range_eq_range',
    List.drop_range', List.mem_range'_1] at inside
  have absent := vacant index (by omega) (by omega)
  rw [Volume.contains, Option.isSome_eq_false_iff, Option.isNone_iff_eq_none] at absent
  exact text_of_absent absent

theorem join_flatten (files : List (List String)) :
    String.join files.flatten = String.join (files.map String.join) := by
  induction files with
  | nil => rfl
  | cons file files ih =>
    rw [List.flatten_cons, String.join_append, ih, List.map_cons, String.join_cons]

theorem join_singletons (texts : List String) :
    (texts.map fun text => [text]).map String.join = texts := by
  rw [List.map_map]
  exact List.map_id'' (fun _ => by simp) texts

/-- Where nothing is in the way, every line is written, and what is read is the end of what was read
before and of the lines, with every line whole in one file. Nothing at all is lost while the
rotations are no more than the free places above the highest backup. -/
theorem rotation_loses_oldest (path : Path) (policy : Policy) (volume : Volume)
    (lines : List String) (usable : Usable path policy.maxBackups volume) :
    let writer := Writer.closed path policy
    let before := reading path policy.maxBackups volume
    let later := reading path policy.maxBackups (writer.writeLines volume lines).2
    let written := lines.map (· ++ "\n")
    (∀ attempt ∈ writer.attempts volume lines, attempt.written = true) ∧
      (∃ lost files, before ++ written = lost ++ List.flatten files ∧
        files.map String.join = later) ∧
      (∃ lost, String.join (before ++ written) = lost ++ String.join later) ∧
      ∀ highest,
        (∀ index, highest < index → index ≤ policy.maxBackups →
          volume.contains (place path index) = false) →
        writer.rotations volume lines + highest ≤ policy.maxBackups →
        String.join later = String.join (before ++ written) := by
  intro writer before later written
  obtain ⟨all, grown : Grown written (writer.rotations volume lines) before later⟩ :=
    Writer.grown_of_usable (Writer.tracked_closed path policy volume) usable lines
  -- To begin with, every text that is there is one piece.
  obtain ⟨lost, files, pieces, whole⟩ := grown.exists_pieces (join_singletons before)
  rw [← List.flatMap_def, List.flatMap_singleton'] at pieces
  refine ⟨all, ⟨lost, files, pieces, whole⟩, ⟨String.join lost, ?_⟩, ?_⟩
  · rw [pieces, String.join_append, join_flatten, whole]
  · intro highest vacant few
    refine grown.join_of_room ?_ (reading_vacant vacant) (by omega)
    rw [length_reading]
    omega

/-- A file and one backup leave a place free, so that the first rotation loses nothing. -/
theorem first_rotation_loses_nothing :
    let path : Path := ["trace.jsonl"]
    let volume : Volume :=
      ⟨[(path, .file 0 "old\n"), (["trace.jsonl.1"], .file 1 "first\n")], 2⟩
    let writer := Writer.closed path ⟨8, 2⟩
    let later := (writer.writeLines volume ["one", "three"]).2
    Usable path 2 volume ∧ volume.contains (place path 2) = false ∧
      writer.rotations volume ["one", "three"] = 1 ∧
      reading path 2 later = ["first\n", "old\none\n", "three\n"] ∧
      String.join (reading path 2 later) =
        String.join (reading path 2 volume ++ ["one\n", "three\n"]) := by
  intro path volume writer later
  have usable : Usable path 2 volume := ⟨rfl, by decide⟩
  have vacant : ∀ index, 1 < index → index ≤ 2 → volume.contains (place path index) = false := by
    intro index above below
    obtain rfl : index = 2 := by omega
    rfl
  obtain ⟨-, -, -, complete⟩ := rotation_loses_oldest path ⟨8, 2⟩ volume ["one", "three"] usable
  exact ⟨usable, rfl, by decide, by decide, complete 1 vacant (by decide)⟩

end Panes.Trace
