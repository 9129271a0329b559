import Panes.Proofs.Trace.Retention

/-!
# The limit of a file

Whether a line is put behind what the file holds depends on the size that the writer keeps, and that
size is right. So a line goes to a fresh file exactly if it would take the text that is there past
the limit, however that text got there, and a file over the limit holds a single line. No backup
above the highest number is touched, whether the lines could be written or not.
-/

namespace Panes.Trace

variable {path : Path} {volume after : Volume} {index : Nat} {line added content : String}

/-- The line would take what the file holds past the limit. An empty file is never too full. -/
def Policy.Exceeded (policy : Policy) (content added : String) : Prop :=
  content ≠ "" ∧ policy.maxBytes < (content ++ added).utf8ByteSize

/-- The line stands behind what the file held, and nothing else has changed. -/
structure Extended (path : Path) (added : String) (before after : Volume) : Prop where
  behind : after.content? path = some (text path before 0 ++ added)
  kept : ∀ other ≠ path, after.node? other = before.node? other

/-- The line stands alone in a new file, and what the old one held is in the first backup, if
backups are kept. -/
structure Rotated (path : Path) (policy : Policy) (added : String) (before after : Volume) :
    Prop where
  alone : after.content? path = some added
  aside : policy.maxBackups ≠ 0 → text path after 1 = text path before 0

/-! ## Sizes -/

theorem Extended.within_limit {policy : Policy} {before : Volume}
    (extended : Extended path added before after)
    (fits : ¬ policy.Exceeded (text path before 0) added) :
    (text path after 0).utf8ByteSize ≤ policy.maxBytes ∨ after.content? path = some added := by
  by_cases empty : text path before 0 = ""
  · rw [extended.behind, empty, String.empty_append]
    exact .inr rfl
  · have text_eq : text path after 0 = text path before 0 ++ added := by
      rw [text, place, extended.behind, Option.getD_some]
    rw [text_eq]
    exact .inl (Nat.not_lt.mp fun past => fits ⟨empty, past⟩)

/-- A text that was put aside is no longer in front of the line. -/
theorem Extended.not_exceeded {policy : Policy} {before : Volume}
    (extended : Extended path added before after)
    (rotated : Rotated path policy added before after) :
    ¬ policy.Exceeded (text path before 0) added := by
  rintro ⟨filled, -⟩
  have same : text path before 0 ++ added = "" ++ added := by
    rw [String.empty_append]
    exact Option.some.inj (extended.behind.symm.trans rotated.alone)
  exact filled ((String.append_left_inj added).mp same)

theorem text_of_openToAppend {serial : Nat}
    (opened : volume.openToAppend path = some (after, serial, content)) :
    text path volume 0 = content := by
  obtain ⟨found, -⟩ | ⟨absent, -, -, rfl⟩ := Volume.openToAppend_cases opened
  · exact text_of_file found
  · exact text_of_absent absent

namespace Writer

variable {writer : Writer} {handle : Handle}

/-- The file that is opened is the only thing that changes, and its text does not. -/
theorem text_of_opened (tracked : writer.Tracked volume)
    (begun : writer.opened volume = some (after, handle)) :
    handle.size = (text writer.path volume 0).utf8ByteSize ∧
      text writer.path after 0 = text writer.path volume 0 ∧
      ∀ other ≠ writer.path, after.node? other = volume.node? other := by
  obtain ⟨content, found, sized⟩ := matches_of_opened tracked begun
  have text_eq : text writer.path after 0 = content := text_of_file found
  rw [opened] at begun
  split at begun
  · cases begun
    exact ⟨text_eq ▸ sized, rfl, fun _ _ => rfl⟩
  · obtain ⟨⟨_, serial, _⟩, opened, same⟩ := Option.map_eq_some_iff.mp begun
    cases same
    have same : text writer.path after 0 = text writer.path volume 0 := by
      rw [text_of_openToAppend opened, text_of_file (Volume.node?_openToAppend opened).1]
    rw [← same, text_eq]
    exact ⟨sized, rfl, fun _ => Volume.node?_openToAppend_of_ne opened⟩

theorem text_of_unopened (unopened : writer.opened volume = none) :
    text writer.path volume 0 = "" := by
  rw [opened] at unopened
  split at unopened
  · cases unopened
  · have refused := Option.map_eq_none_iff.mp unopened
    rw [text, place, Volume.content?]
    split
    · next found =>
      rw [Volume.openToAppend_of_file found] at refused
      cases refused
    · rfl

/-- A rotation is due exactly if the line would take the file past its limit. -/
theorem rotates_iff (tracked : writer.Tracked volume) (line : String) :
    writer.rotates volume line = true ↔
      writer.policy.Exceeded (text writer.path volume 0) (line ++ "\n") := by
  cases begun : writer.opened volume with
  | none =>
    rw [rotates, begun, text_of_unopened begun]
    exact iff_of_false Bool.false_ne_true fun exceeded => exceeded.1 rfl
  | some opened =>
    obtain ⟨base, handle⟩ := opened
    obtain ⟨sized, -, -⟩ := text_of_opened tracked begun
    have incoming : line.utf8ByteSize + 1 = (line ++ "\n").utf8ByteSize := by
      rw [String.utf8ByteSize_append]
      rfl
    rw [rotates_of_opened begun, overflows, Bool.and_eq_true, decide_eq_true_eq, decide_eq_true_eq,
      Policy.Exceeded, String.utf8ByteSize_append, sized, incoming, Nat.pos_iff_ne_zero, Ne, Ne,
      String.utf8ByteSize_eq_zero_iff]

/-! ## One line -/

theorem content?_put (found : handle.Matches writer.path volume) (line : String) :
    (writer.put volume handle line).volume.content? writer.path =
      some (text writer.path volume 0 ++ (line ++ "\n")) := by
  obtain ⟨content, there, -⟩ := found
  have before : text writer.path volume 0 = content := text_of_file there
  rw [put, Volume.append_of_file there, before]
  exact Volume.content?_of_file (Volume.node?_set_self (Volume.ne_nil_of_file there))

theorem extended_of_fits (tracked : writer.Tracked volume)
    (fits : writer.rotates volume line = false)
    (written : (writer.writeLine volume line).written = true) :
    Extended writer.path (line ++ "\n") volume (writer.writeLine volume line).volume := by
  cases begun : writer.opened volume with
  | none =>
    rw [writeLine, begun] at written
    cases written
  | some opened =>
    obtain ⟨base, handle⟩ := opened
    obtain ⟨-, same, kept⟩ := text_of_opened tracked begun
    rw [writeLine_of_fits begun fits]
    constructor
    · rw [content?_put (matches_of_opened tracked begun), same]
    · intro other apart
      rw [node?_put_of_ne _ _ _ _ apart, kept other apart]

/-- A line that did not fit and could be written went to a file that was made anew. -/
theorem reopened_of_full {base : Volume} (begun : writer.opened volume = some (base, handle))
    (full : writer.rotates volume line = true)
    (written : (writer.writeLine volume line).written = true) :
    ∃ rotated fresh serial content, writer.renewed.rotate base = (rotated, true) ∧
      rotated.openToAppend writer.path = some (fresh, serial, content) ∧
      writer.writeLine volume line = writer.put fresh ⟨serial, 0⟩ line := by
  have overflows : writer.overflows handle (line.utf8ByteSize + 1) = true := by
    rw [← rotates_of_opened begun, full]
  rw [writeLine, begun] at written
  simp only [overflows, if_true] at written
  split at written
  · cases written
  · next rotated gone =>
    split at written
    · next fresh serial content reopened =>
      exact ⟨rotated, fresh, serial, content, gone, reopened,
        writeLine_of_rotated begun full gone reopened⟩
    · cases written

/-- The file that is made anew after a rotation is empty, and the old text is in the first backup,
if backups are kept. -/
theorem text_of_reopened (writer : Writer) {rotated fresh : Volume} {serial number : Nat}
    {found : String} (there : volume.node? writer.path = some (.file serial content))
    (gone : writer.rotate volume = (rotated, true))
    (reopened : rotated.openToAppend writer.path = some (fresh, number, found)) :
    fresh.node? writer.path = some (.file number "") ∧
      (writer.policy.maxBackups ≠ 0 → text writer.path fresh 1 = content) := by
  constructor
  · obtain ⟨begins, empty⟩ := Volume.node?_openToAppend reopened
    rwa [empty (writer.node?_rotate there gone)] at begins
  · intro backups
    obtain ⟨none, -⟩ | ⟨shifted, rfl⟩ := writer.rotate_cases there gone
    · exact absurd none backups
    · have moved : fresh.node? (place writer.path 1) = some (.file serial content) :=
        (Volume.node?_openToAppend_of_ne reopened (place_succ_ne 0)).trans
          (Volume.node?_set_self (writer.path.appendToName_ne_nil _))
      exact text_of_file moved

theorem rotated_of_full (tracked : writer.Tracked volume)
    (full : writer.rotates volume line = true)
    (written : (writer.writeLine volume line).written = true) :
    Rotated writer.path writer.policy (line ++ "\n") volume
      (writer.writeLine volume line).volume := by
  cases begun : writer.opened volume with
  | none =>
    rw [rotates, begun] at full
    cases full
  | some opened =>
    obtain ⟨base, handle⟩ := opened
    obtain ⟨-, same, -⟩ := text_of_opened tracked begun
    obtain ⟨content, there, -⟩ := matches_of_opened tracked begun
    obtain ⟨rotated, fresh, serial, _, gone, reopened, done⟩ := reopened_of_full begun full written
    obtain ⟨begins, aside⟩ := writer.renewed.text_of_reopened there gone reopened
    rw [done]
    constructor
    · have vacant : text writer.path fresh 0 = "" := text_of_file begins
      have found : Handle.Matches ⟨serial, 0⟩ writer.path fresh := ⟨"", begins, rfl⟩
      rw [content?_put found, vacant, String.empty_append]
    · intro backups
      have held : text writer.path base 0 = content := text_of_file there
      have moved : text writer.path fresh 1 = content := aside backups
      rw [text_put_succ, moved, ← same, held]

/-! ## What is no place -/

section

variable {other : Path}

/-- A rotation touches nothing but the places, even if it breaks off. -/
theorem node?_rotate_of_apart (writer : Writer) (volume : Volume)
    (apart : ∀ index ≤ writer.policy.maxBackups, ¬ place writer.path index <+: other) :
    (writer.rotate volume).1.node? other = volume.node? other := by
  have ne_place (index : Nat) (within : index ≤ writer.policy.maxBackups) :
      other ≠ place writer.path index :=
    fun same => apart index within (same ▸ List.prefix_refl _)
  rw [rotate]
  split
  · split
    · next removed =>
      obtain ⟨-, rfl⟩ := Volume.removeFile_cases removed
      exact Volume.node?_erase_of_ne (ne_place 0 (Nat.zero_le _))
    · rfl
  · next backups =>
    have dropped : (writer.dropOldest volume).1.node? other = volume.node? other := by
      apply writer.node?_dropOldest
      rw [backup_maxBackups backups]
      exact ne_place _ (Nat.le_refl _)
    have shifted (cleared : Volume) :
        (writer.shiftBackups (writer.policy.maxBackups - 1) cleared).1.node? other =
          cleared.node? other :=
      writer.node?_shiftBackups _ cleared fun index within => apart (index + 1) (by omega)
    split
    · next failed =>
      rw [failed] at dropped
      exact dropped
    · next cleared done =>
      rw [done] at dropped
      have both := (shifted cleared).trans dropped
      split
      · next failed =>
        rw [failed] at both
        exact both
      · next moved done =>
        rw [done] at both
        split
        · next renamed =>
          rw [Volume.node?_rename_of_apart renamed (apart 0 (Nat.zero_le _)) (apart 1 (by omega))]
          exact both
        · exact both

/-- A line touches nothing but the places, whether it can be written or not. -/
theorem node?_writeLine_of_apart (tracked : writer.Tracked volume) (line : String)
    (apart : writer.path ≠ [] →
      ∀ index ≤ writer.policy.maxBackups, ¬ place writer.path index <+: other) :
    (writer.writeLine volume line).volume.node? other = volume.node? other := by
  rw [writeLine]
  split
  · rfl
  · next base handle begun =>
    obtain ⟨content, there, -⟩ := matches_of_opened tracked begun
    obtain ⟨-, -, kept⟩ := text_of_opened tracked begun
    have apart := apart (Volume.ne_nil_of_file there)
    have ne_path : other ≠ writer.path :=
      fun same => apart 0 (Nat.zero_le _) (same ▸ List.prefix_refl _)
    split
    · have untouched := writer.renewed.node?_rotate_of_apart base apart
      rw [kept other ne_path, renewed, closed] at untouched
      dsimp only
      split
      · next failed =>
        rw [failed] at untouched
        exact untouched
      · next gone =>
        rw [gone] at untouched
        split
        · next fresh serial _ reopened =>
          have put_eq := writer.renewed.node?_put_of_ne fresh ⟨serial, 0⟩ line ne_path
          exact put_eq.trans ((Volume.node?_openToAppend_of_ne reopened ne_path).trans untouched)
        · exact untouched
    · rw [node?_put_of_ne _ _ _ _ ne_path, kept other ne_path]

theorem node?_writeLines_of_apart (tracked : writer.Tracked volume) (lines : List String)
    (apart : writer.path ≠ [] →
      ∀ index ≤ writer.policy.maxBackups, ¬ place writer.path index <+: other) :
    (writer.writeLines volume lines).2.node? other = volume.node? other := by
  induction lines generalizing writer volume with
  | nil => rfl
  | cons line lines ih =>
    have same := renewed_writeLine tracked line
    have path_eq : (writer.writeLine volume line).writer.path = writer.path :=
      congrArg (·.path) same
    have policy_eq : (writer.writeLine volume line).writer.policy = writer.policy :=
      congrArg (·.policy) same
    have later := ih (tracked_writeLine tracked line) (by rwa [path_eq, policy_eq])
    exact later.trans (node?_writeLine_of_apart tracked line apart)

end

end Writer

/-! ## Places above the highest -/

theorem length_place (proper : path ≠ []) (index : Nat) :
    (place path index).length = path.length := by
  cases index with
  | zero => rfl
  | succ index =>
    cases named : path.getLast? with
    | none => exact absurd (List.getLast?_eq_none_iff.mp named) proper
    | some name =>
      obtain ⟨front, rfl⟩ := List.getLast?_eq_some_iff.mp named
      simp [place, Path.appendToName]

/-- No place lies below another. -/
theorem not_prefix_place (proper : path ≠ []) {left right : Nat} (apart : left ≠ right) :
    ¬ place path left <+: place path right := by
  intro leads
  refine place_ne apart (leads.eq_of_length ?_)
  rw [length_place proper, length_place proper]

/-! ## After any lines -/

/-- Where nothing is in the way, nothing is in the way of a further line either. -/
theorem Writer.written_of_usable {writer : Writer} (tracked : writer.Tracked volume)
    (usable : Usable writer.path writer.policy.maxBackups volume) (lines : List String)
    (line : String) :
    ((writer.writeLines volume lines).1.writeLine (writer.writeLines volume lines).2
      line).written = true := by
  induction lines generalizing writer volume with
  | nil =>
    obtain ⟨after, handle, done, -⟩ := added_of_usable tracked usable line
    rw [writeLines, done]
  | cons first lines ih =>
    obtain ⟨after, handle, done, found, still, -⟩ := added_of_usable tracked usable first
    have tracks : Tracked { writer with handle := some handle } after := by
      rintro _ ⟨⟩
      exact found
    rw [writeLines, done]
    exact ih tracks still

/-- What a line leaves that could be written. -/
theorem Writer.line_within_limit {writer : Writer} (tracked : writer.Tracked volume)
    (written : (writer.writeLine volume line).written = true) :
    let after := (writer.writeLine volume line).volume
    let added := line ++ "\n"
    let full := writer.policy.Exceeded (text writer.path volume 0) added
    (∃ front, after.content? writer.path = some (front ++ added)) ∧
      ((text writer.path after 0).utf8ByteSize ≤ writer.policy.maxBytes ∨
        after.content? writer.path = some added) ∧
      (full → Rotated writer.path writer.policy added volume after) ∧
      (Extended writer.path added volume after ↔ ¬ full) := by
  intro after added full
  have due : writer.rotates volume line = true ↔ full := rotates_iff tracked line
  cases rotates : writer.rotates volume line with
  | true =>
    have rotated : Rotated writer.path writer.policy added volume after :=
      rotated_of_full tracked rotates written
    refine ⟨⟨"", ?_⟩, .inr rotated.alone, fun _ => rotated, ?_⟩
    · rw [String.empty_append]
      exact rotated.alone
    · exact ⟨fun extended => extended.not_exceeded rotated, absurd (due.mp rotates)⟩
  | false =>
    have fits : ¬ full := fun full => Bool.false_ne_true (rotates.symm.trans (due.mpr full))
    have extended : Extended writer.path added volume after :=
      extended_of_fits tracked rotates written
    exact ⟨⟨_, extended.behind⟩, extended.within_limit fits, fun full => absurd full fits,
      iff_of_true extended fits⟩

/-- Whatever lines were tried before on whatever volume, a line that can be written stands at the
end of the file, and the file is within its limit or holds nothing else. There is a rotation exactly
if the line would take a file that is not empty past its limit. Above the highest number no backup
is created or touched. Where nothing is in the way, every line can be written. -/
theorem file_within_limit (path : Path) (policy : Policy) (volume : Volume) (lines : List String)
    (line : String) :
    let reached := (Writer.closed path policy).writeLines volume lines
    let before := reached.2
    let attempt := reached.1.writeLine before line
    let after := attempt.volume
    let added := line ++ "\n"
    let full := policy.Exceeded (text path before 0) added
    (attempt.written = true →
      (∃ front, after.content? path = some (front ++ added)) ∧
        ((text path after 0).utf8ByteSize ≤ policy.maxBytes ∨ after.content? path = some added) ∧
        (full → Rotated path policy added before after) ∧
        (Extended path added before after ↔ ¬ full)) ∧
      (reached.1.rotates before line = true ↔ full) ∧
      (∀ index, policy.maxBackups < index →
        after.node? (place path index) = volume.node? (place path index)) ∧
      (Usable path policy.maxBackups volume → attempt.written = true) := by
  intro reached before attempt after added full
  have begun := Writer.tracked_closed path policy volume
  obtain ⟨tracked, same⟩ := Writer.tracked_writeLines begun lines
  have path_eq : reached.1.path = path := congrArg (·.path) same
  have policy_eq : reached.1.policy = policy := congrArg (·.policy) same
  refine ⟨fun written => ?_, ?_, fun index above => ?_, fun usable => ?_⟩
  · have left := Writer.line_within_limit tracked written
    rwa [path_eq, policy_eq] at left
  · have due := Writer.rotates_iff tracked line
    rwa [path_eq, policy_eq] at due
  · have apart (proper : path ≠ []) (other : Nat) (within : other ≤ policy.maxBackups) :
        ¬ place path other <+: place path index := not_prefix_place proper (by omega)
    have earlier := Writer.node?_writeLines_of_apart begun lines apart
    have latest : after.node? (place path index) = before.node? (place path index) :=
      Writer.node?_writeLine_of_apart tracked line (by rwa [path_eq, policy_eq])
    exact latest.trans earlier
  · exact Writer.written_of_usable begun usable lines line

/-- The file was left over the limit, the first line is longer than the limit, and the second one
puts it aside. -/
theorem long_line_put_aside :
    let path : Path := ["trace.jsonl"]
    let policy : Policy := ⟨6, 1⟩
    let volume : Volume := ⟨[(path, .file 0 "0123456789\n")], 1⟩
    let reached := (Writer.closed path policy).writeLines volume ["abcdefgh"]
    let before := reached.2
    let attempt := reached.1.writeLine before "ab"
    Usable path policy.maxBackups volume ∧ attempt.written = true ∧
      policy.Exceeded (text path before 0) "ab\n" ∧
      Rotated path policy "ab\n" before attempt.volume ∧
      ¬ Extended path "ab\n" before attempt.volume ∧
      text path before 0 = "abcdefgh\n" ∧ text path attempt.volume 1 = "abcdefgh\n" := by
  intro path policy volume reached before attempt
  obtain ⟨bounded, -, -, complete⟩ := file_within_limit path policy volume ["abcdefgh"] "ab"
  have usable : Usable path policy.maxBackups volume := ⟨rfl, by decide⟩
  have written : attempt.written = true := complete usable
  have held : text path before 0 = "abcdefgh\n" := by decide
  have full : policy.Exceeded (text path before 0) "ab\n" := by
    rw [held]
    exact ⟨by decide, by decide⟩
  obtain ⟨-, -, rotated, extended⟩ := bounded written
  exact ⟨usable, written, full, rotated full, fun kept => extended.mp kept full, held,
    (rotated full).aside (by decide) |>.trans held⟩

end Panes.Trace
