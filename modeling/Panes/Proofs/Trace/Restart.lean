import Panes.Proofs.Trace.Rotation

/-!
# A writer made anew

What a writer knows of its open file is what it would find if it opened the file now. A new writer
in its place therefore goes on as the old one would have.
-/

namespace Panes.Trace

/-- The handle is that of the file at this path, and its size is that of the text there. -/
def Handle.Matches (handle : Handle) (path : Path) (volume : Volume) : Prop :=
  ∃ content, volume.node? path = some (.file handle.serial content) ∧
    handle.size = content.utf8ByteSize

namespace Writer

variable {writer : Writer} {volume after : Volume} {handle : Handle}

/-- What the writer knows of its open file is right. -/
def Tracked (writer : Writer) (volume : Volume) : Prop :=
  ∀ handle, writer.handle = some handle → handle.Matches writer.path volume

/-- A new writer in the place of this one. -/
def renewed (writer : Writer) : Writer := closed writer.path writer.policy

/-- The attempts to write lines one after the other. -/
def attempts (writer : Writer) (volume : Volume) : List String → List Attempt
  | [] => []
  | line :: lines =>
    let attempt := writer.writeLine volume line
    attempt :: attempt.writer.attempts attempt.volume lines

theorem tracked_closed (path : Path) (policy : Policy) (volume : Volume) :
    (closed path policy).Tracked volume := by
  rintro handle ⟨⟩

theorem eq_renewed_of_closed (held : writer.handle = none) : writer = writer.renewed := by
  rw [renewed, closed, ← held]

/-! ## The file during a rotation -/

theorem path_ne_backup (writer : Writer) (index : Nat) : writer.path ≠ writer.backup index := by
  intro same
  have leads : writer.backup index <+: writer.path := ⟨[], (List.append_nil _).trans same.symm⟩
  exact not_prefix_of_backup writer.path index leads

theorem node?_dropOldest (writer : Writer) (volume : Volume) {other : Path}
    (apart : other ≠ writer.backup writer.policy.maxBackups) :
    (writer.dropOldest volume).1.node? other = volume.node? other := by
  rw [dropOldest]
  split
  · split
    · next removed =>
      obtain ⟨_, rfl⟩ := Volume.removeFile_cases removed
      exact Volume.node?_erase_of_ne apart
    · rfl
  · rfl

/-- Whatever a backup is, what is no part of it stays. -/
theorem node?_shiftBackups (writer : Writer) (count : Nat) (volume : Volume) {other : Path}
    (apart : ∀ index ≤ count, ¬ writer.backup (index + 1) <+: other) :
    (writer.shiftBackups count volume).1.node? other = volume.node? other := by
  induction count generalizing volume with
  | zero => rfl
  | succ count ih =>
    have lower : ∀ index ≤ count, ¬ writer.backup (index + 1) <+: other :=
      fun index within => apart index (Nat.le_succ_of_le within)
    rw [shiftBackups]
    split
    · split
      · next renamed =>
        rw [ih _ lower]
        exact Volume.node?_rename_of_apart renamed (apart count (Nat.le_succ count))
          (apart (count + 1) (Nat.le_refl _))
      · rfl
    · exact ih volume lower

/-- A rotation that went well removed the file, or made it the first backup last of all. -/
theorem rotate_cases (writer : Writer) {serial : Nat} {content : String}
    (found : volume.node? writer.path = some (.file serial content))
    (rotated : writer.rotate volume = (after, true)) :
    writer.policy.maxBackups = 0 ∧ after = volume.erase writer.path ∨
      ∃ shifted : Volume,
        after = (shifted.erase writer.path).set (writer.backup 1) (.file serial content) := by
  rw [rotate] at rotated
  split at rotated
  · next none =>
    rw [Volume.removeFile_of_file found] at rotated
    cases rotated
    exact .inl ⟨none, rfl⟩
  · split at rotated
    · cases rotated
    · next cleared dropped =>
      split at rotated
      · cases rotated
      · next shifted moved =>
        split at rotated
        · next renamed =>
          cases rotated
          have still := writer.node?_dropOldest volume (writer.path_ne_backup _)
          have there := writer.node?_shiftBackups (writer.policy.maxBackups - 1) cleared
            fun index _ => not_prefix_of_backup writer.path (index + 1)
          rw [dropped, found] at still
          rw [moved, still] at there
          exact .inr ⟨shifted, Volume.rename_of_file_cases there renamed⟩
        · cases rotated

theorem node?_rotate (writer : Writer) {serial : Nat} {content : String}
    (found : volume.node? writer.path = some (.file serial content))
    (rotated : writer.rotate volume = (after, true)) : after.node? writer.path = none := by
  obtain ⟨-, rfl⟩ | ⟨shifted, rfl⟩ := writer.rotate_cases found rotated
  · exact Volume.node?_erase_self (Volume.ne_nil_of_file found)
  · rw [Volume.node?_set_of_ne (writer.path_ne_backup 1),
      Volume.node?_erase_self (Volume.ne_nil_of_file found)]

/-! ## One line -/

theorem matches_of_opened (tracked : writer.Tracked volume)
    (opened : writer.opened volume = some (after, handle)) : handle.Matches writer.path after := by
  rw [Writer.opened] at opened
  split at opened
  · next there =>
    cases opened
    exact tracked _ there
  · obtain ⟨⟨_, serial, content⟩, begun, same⟩ := Option.map_eq_some_iff.mp opened
    cases same
    exact ⟨content, (Volume.node?_openToAppend begun).1, rfl⟩

/-- A line is written behind the text of a file whose size is known, or the file is closed. -/
theorem writeLine_cases (tracked : writer.Tracked volume) (line : String) :
    (∃ after, writer.writeLine volume line = ⟨after, writer.renewed, false⟩) ∨
      ∃ base handle, handle.Matches writer.path base ∧
        writer.writeLine volume line = writer.put base handle line := by
  rw [writeLine]
  split
  · next unopened =>
    cases held : writer.handle with
    | none =>
      rw [← eq_renewed_of_closed held]
      exact .inl ⟨volume, rfl⟩
    | some handle =>
      rw [opened, held] at unopened
      cases unopened
  · next base handle begun =>
    have found := matches_of_opened tracked begun
    split
    · obtain ⟨content, there, _⟩ := found
      dsimp only
      split
      · exact .inl ⟨_, rfl⟩
      · next cleared rotated =>
        split
        · next after serial text reopened =>
          obtain ⟨fresh, empty⟩ := Volume.node?_openToAppend reopened
          rw [empty (writer.renewed.node?_rotate there rotated)] at fresh
          exact .inr ⟨after, ⟨serial, 0⟩, ⟨"", fresh, rfl⟩, rfl⟩
        · exact .inl ⟨_, rfl⟩
    · exact .inr ⟨base, handle, found, rfl⟩

theorem matches_put (found : handle.Matches writer.path volume) (line : String) :
    Handle.Matches ⟨handle.serial, handle.size + (line ++ "\n").utf8ByteSize⟩ writer.path
      (writer.put volume handle line).volume := by
  obtain ⟨content, there, sized⟩ := found
  refine ⟨content ++ (line ++ "\n"), ?_, ?_⟩
  · rw [put, Volume.append_of_file there]
    exact Volume.node?_set_self (Volume.ne_nil_of_file there)
  · rw [sized]
    exact String.utf8ByteSize_append.symm

theorem tracked_writeLine (tracked : writer.Tracked volume) (line : String) :
    (writer.writeLine volume line).writer.Tracked (writer.writeLine volume line).volume := by
  obtain ⟨after, failed⟩ | ⟨base, handle, found, written⟩ := writeLine_cases tracked line
  · rw [failed]
    exact tracked_closed _ _ _
  · rw [written]
    rintro _ ⟨⟩
    exact matches_put found line

/-- A new writer does the same. -/
theorem writeLine_renewed (tracked : writer.Tracked volume) (line : String) :
    writer.writeLine volume line = writer.renewed.writeLine volume line := by
  cases held : writer.handle with
  | none => rw [← eq_renewed_of_closed held]
  | some handle =>
    obtain ⟨content, there, sized⟩ := tracked handle held
    have begun : writer.opened volume = some (volume, handle) := by
      rw [opened, held]
    have reopened : writer.renewed.opened volume = some (volume, handle) := by
      rw [opened, renewed, closed]
      simp [Volume.openToAppend_of_file there, ← sized]
    rw [writeLine, writeLine, begun, reopened]
    rfl

/-! ## Many lines -/

theorem renewed_writeLine (tracked : writer.Tracked volume) (line : String) :
    (writer.writeLine volume line).writer.renewed = writer.renewed := by
  obtain ⟨after, failed⟩ | ⟨base, handle, -, written⟩ := writeLine_cases tracked line
  · rw [failed]
    rfl
  · rw [written]
    rfl

theorem tracked_writeLines (tracked : writer.Tracked volume) (lines : List String) :
    (writer.writeLines volume lines).1.Tracked (writer.writeLines volume lines).2 ∧
      (writer.writeLines volume lines).1.renewed = writer.renewed := by
  induction lines generalizing writer volume with
  | nil => exact ⟨tracked, rfl⟩
  | cons line lines ih =>
    obtain ⟨still, same⟩ := ih (tracked_writeLine tracked line)
    exact ⟨still, same.trans (renewed_writeLine tracked line)⟩

theorem writeLines_append (writer : Writer) (volume : Volume) (first second : List String) :
    writer.writeLines volume (first ++ second) =
      (writer.writeLines volume first).1.writeLines (writer.writeLines volume first).2 second := by
  induction first generalizing writer volume with
  | nil => rfl
  | cons line first ih => exact ih _ _

theorem writeLines_renewed (tracked : writer.Tracked volume) (lines : List String) :
    (writer.writeLines volume lines).2 = (writer.renewed.writeLines volume lines).2 := by
  cases lines with
  | nil => rfl
  | cons line lines => rw [writeLines, writeLines, writeLine_renewed tracked line]

/-- Whether the lines are cut and every part has a writer of its own, or one writer has them all:
the volume is the same afterwards, failures or not. -/
theorem segments_flatten (path : Path) (policy : Policy) (segments : List (List String))
    (volume : Volume) :
    segments.foldl (fun volume lines => ((closed path policy).writeLines volume lines).2) volume =
      ((closed path policy).writeLines volume segments.flatten).2 := by
  induction segments generalizing volume with
  | nil => rfl
  | cons lines segments ih =>
    obtain ⟨tracked, same⟩ := tracked_writeLines (tracked_closed path policy volume) lines
    rw [List.foldl_cons, ih, List.flatten_cons, writeLines_append, writeLines_renewed tracked, same]
    rfl

theorem matches_of_mem_attempts (tracked : writer.Tracked volume) {lines : List String}
    {attempt : Attempt} (member : attempt ∈ writer.attempts volume lines)
    (written : attempt.written = true) :
    ∃ handle, attempt.writer.handle = some handle ∧ handle.Matches writer.path attempt.volume := by
  induction lines generalizing writer volume with
  | nil => cases member
  | cons line lines ih =>
    obtain rfl | later := List.mem_cons.mp member
    · obtain ⟨after, failed⟩ | ⟨base, handle, found, done⟩ := writeLine_cases tracked line
      · rw [failed] at written
        cases written
      · rw [done]
        exact ⟨_, rfl, matches_put found line⟩
    · obtain ⟨handle, held, found⟩ := ih (tracked_writeLine tracked line) later
      have same : (writer.writeLine volume line).writer.path = writer.path :=
        congrArg (·.path) (renewed_writeLine tracked line)
      rw [same] at found
      exact ⟨handle, held, found⟩

/-- One writer and a new one for each part of the lines come to the same volume. After a line has
been written, the size that is kept is that of the file. -/
theorem restarts_invisible (path : Path) (policy : Policy) (volume : Volume)
    (segments : List (List String)) :
    let writer := closed path policy
    segments.foldl (fun volume lines => (writer.writeLines volume lines).2) volume =
        (writer.writeLines volume segments.flatten).2 ∧
      ∀ attempt ∈ writer.attempts volume segments.flatten, attempt.written = true →
        ∃ handle content, attempt.writer.handle = some handle ∧
          attempt.volume.content? path = some content ∧ handle.size = content.utf8ByteSize := by
  intro writer
  refine ⟨segments_flatten path policy segments volume, fun attempt member written => ?_⟩
  obtain ⟨handle, held, content, found, sized⟩ :=
    matches_of_mem_attempts (tracked_closed path policy volume) member written
  exact ⟨handle, content, held, Volume.content?_of_file found, sized⟩

/-- The file is filled up to the limit, and the new writer finds it full. -/
theorem restart_at_limit :
    let path : Path := ["trace.jsonl"]
    let volume : Volume := ⟨[(path, .file 0 "0123456\n")], 1⟩
    let writer := closed path ⟨12, 1⟩
    let attempt := writer.writeLine volume "abc"
    let restarted := ((closed path ⟨12, 1⟩).writeLines attempt.volume ["d"]).2
    attempt ∈ writer.attempts volume [["abc"], ["d"]].flatten ∧ attempt.written = true ∧
      (∃ handle content, attempt.writer.handle = some handle ∧
        attempt.volume.content? path = some content ∧ handle.size = content.utf8ByteSize) ∧
      restarted = (writer.writeLines volume ["abc", "d"]).2 ∧
      restarted.content? (writer.backup 1) = some "0123456\nabc\n" := by
  intro path volume writer attempt restarted
  obtain ⟨same, sized⟩ := restarts_invisible path ⟨12, 1⟩ volume [["abc"], ["d"]]
  have member : attempt ∈ writer.attempts volume [["abc"], ["d"]].flatten :=
    List.mem_cons_self
  exact ⟨member, rfl, sized attempt member rfl, same, by decide⟩

end Writer

end Panes.Trace
