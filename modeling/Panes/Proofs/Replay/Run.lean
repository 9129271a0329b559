import Panes.Proofs.Replay.Script
import Panes.Proofs.Session.Outage

/-!
# Replays as runs of a session

A replay carries out the lines before the first faulty one, blank lines and comments left out, as
the steps of one run of a session, and prints what the host logs during each of them. That the log
is taken away after each step makes no difference, as nothing depends on it. Steps take from their
lines only their numbers, and a number only chooses the place in a trace that commands come from.
-/

namespace Panes.Replay

/-! ## What lines ask for -/

/-- The line asks for nothing. -/
def isSkipped (line : List Char) : Bool := isComment (Text.trim line)

/-- The text of a line that is to be read. -/
def textOf (line : List Char) : String := String.ofList (Text.trim line)

/-- What a line asks for. -/
def stepOf? (line : List Char) : Option Step := Step.ofText? (textOf line)

/-- The line should ask for something, and cannot be read. -/
def isFaulty (line : List Char) : Bool := !isSkipped line && (stepOf? line).isNone

/-- The lines before the first faulty one. -/
def soundLines (lines : List (List Char)) : List (List Char) :=
  lines.takeWhile fun line => !isFaulty line

/-- The first faulty line. -/
def faultyLine? (lines : List (List Char)) : Option (List Char) := lines.find? isFaulty

/-- What the lines before the first faulty one ask for, with the numbers of the lines, of which the
first is given. -/
def stepsFrom (number : Nat) (lines : List (List Char)) : List (Step × Nat) :=
  ((soundLines lines).zipIdx number).filterMap fun (line, number) =>
    if isSkipped line then none else (stepOf? line).map (·, number)

/-- A step as it is done to a session. -/
def Step.toSession (surroundings : Surroundings) : Step → Session.Step
  | advance milliseconds => .advance surroundings (milliseconds * Scheduler.millisecond)
  | note ref => .addNote ref
  | book id name => .addBook id name
  | confirmation needed => .confirmation needed
  | event happening => .dispatch surroundings happening

/-- A step of a line as it is done to a session. -/
def Setting.done (setting : Setting) (asked : Step × Nat) : Session.Step :=
  asked.1.toSession (setting.surroundings asked.2)

/-- The steps of a session that lines ask for. -/
def Setting.steps (setting : Setting) (number : Nat) (lines : List (List Char)) :
    List Session.Step :=
  (stepsFrom number lines).map setting.done

/-- The lines that actions are printed as. -/
def printed (actions : List Action) : List String :=
  actions.map fun action => action.toJson.render

theorem printed_append (front back : List Action) :
    printed (front ++ back) = printed front ++ printed back := List.map_append

section

variable {line : List Char} {lines : List (List Char)} {number : Nat}

/-- A line is skipped, or faulty, or asks for a step. -/
theorem line_cases (line : List Char) : isFaulty line = false ∧ isSkipped line = true ∨
    isFaulty line = true ∧ isSkipped line = false ∧ stepOf? line = none ∨
      ∃ step, isFaulty line = false ∧ isSkipped line = false ∧ stepOf? line = some step := by
  cases skipped : isSkipped line with
  | true => exact .inl ⟨by simp [isFaulty, skipped], rfl⟩
  | false =>
    cases read : stepOf? line with
    | none => exact .inr (.inl ⟨by simp [isFaulty, skipped, read], rfl, rfl⟩)
    | some step => exact .inr (.inr ⟨step, by simp [isFaulty, read], rfl, rfl⟩)

theorem soundLines_of_sound (sound : isFaulty line = false) :
    soundLines (line :: lines) = line :: soundLines lines := by
  rw [soundLines, List.takeWhile_cons_of_pos (by simp [sound]), soundLines]

theorem soundLines_of_faulty (faulty : isFaulty line = true) : soundLines (line :: lines) = [] := by
  rw [soundLines, List.takeWhile_cons_of_neg (by simp [faulty])]

theorem faultyLine_of_sound (sound : isFaulty line = false) :
    faultyLine? (line :: lines) = faultyLine? lines := by
  rw [faultyLine?, List.find?_cons, sound, faultyLine?]

theorem faultyLine_of_faulty (faulty : isFaulty line = true) :
    faultyLine? (line :: lines) = some line := by
  rw [faultyLine?, List.find?_cons, faulty]

theorem stepsFrom_skipped (sound : isFaulty line = false) (skipped : isSkipped line = true) :
    stepsFrom number (line :: lines) = stepsFrom (number + 1) lines := by
  simp [stepsFrom, soundLines_of_sound sound, skipped]

theorem stepsFrom_faulty (faulty : isFaulty line = true) :
    stepsFrom number (line :: lines) = [] := by
  rw [stepsFrom, soundLines_of_faulty faulty]
  rfl

theorem stepsFrom_step {step : Step} (sound : isFaulty line = false)
    (asked : isSkipped line = false) (read : stepOf? line = some step) :
    stepsFrom number (line :: lines) = (step, number) :: stepsFrom (number + 1) lines := by
  simp [stepsFrom, soundLines_of_sound sound, asked, read]

end

/-! ## One line -/

section

variable (setting : Setting) (session : Session) (number : Nat) {line : List Char}
  (lines : List (Option (List Char)))

theorem runLines_skipped (skipped : isSkipped line = true) :
    runLines setting session number (some line :: lines) =
      runLines setting session (number + 1) lines := by
  have skipped : isComment (Text.trim line) = true := skipped
  rw [runLines, if_pos skipped]

theorem runLines_faulty (asked : isSkipped line = false) (unread : stepOf? line = none) :
    runLines setting session number (some line :: lines) =
      (Record.failed (setting.malformed number (textOf line))).after []
        (setting.traced number fun _ => []) := by
  have asked : ¬ isComment (Text.trim line) = true := ne_true_of_eq_false asked
  have unread : Step.ofText? (String.ofList (Text.trim line)) = none := unread
  rw [runLines, if_neg asked]
  simp only [unread]
  rfl

theorem Step.run_eq (surroundings : Surroundings) (step : Step) :
    step.run surroundings session = (session.take (step.toSession surroundings)).1 := by
  cases step <;> rfl

theorem runLines_step {step : Step} (asked : isSkipped line = false)
    (read : stepOf? line = some step) :
    let surroundings := setting.surroundings number
    let next := (session.take (step.toSession surroundings)).1
    runLines setting session number (some line :: lines) =
      (runLines setting { next with host := next.host.takeLog.1 } (number + 1) lines).after
        (printed next.host.log)
        (setting.traced number fun _ => activity surroundings session step) := by
  intro surroundings next
  have asked : ¬ isComment (Text.trim line) = true := ne_true_of_eq_false asked
  have read : Step.ofText? (String.ofList (Text.trim line)) = some step := read
  rw [runLines, if_neg asked]
  simp only [read, Step.run_eq]
  rfl

end

/-! ## Many lines -/

theorem Step.calm_toSession (surroundings : Surroundings) (step : Step) :
    (step.toSession surroundings).calm = step.toSession surroundings := by
  cases step <;> rfl

theorem Setting.steps_step {setting : Setting} {number : Nat} {line : List Char}
    {lines : List (List Char)} {step : Step} (sound : isFaulty line = false)
    (asked : isSkipped line = false) (read : stepOf? line = some step) :
    setting.steps number (line :: lines) =
      step.toSession (setting.surroundings number) :: setting.steps (number + 1) lines := by
  rw [steps, stepsFrom_step sound asked read]
  rfl

/-- A replay prints what the host logs during the steps of one run, whose log is never taken
away. -/
theorem output_runLines (setting : Setting) (session : Session) (log : List Action) (number : Nat)
    (lines : List (List Char)) :
    (runLines setting (session.calmed []) number (lines.map some)).output =
      printed (((session.calmed log).history (setting.steps number lines)).flatMap
        Session.Turn.logged) := by
  induction lines generalizing session log number with
  | nil => rfl
  | cons line lines ih =>
    rw [List.map_cons]
    rcases line_cases line with
      ⟨sound, skipped⟩ | ⟨faulty, asked, unread⟩ | ⟨step, sound, asked, read⟩
    · rw [runLines_skipped _ _ _ _ skipped, ih session log, Setting.steps, Setting.steps,
        stepsFrom_skipped sound skipped]
    · rw [runLines_faulty _ _ _ _ asked unread, Setting.steps, stepsFrom_faulty faulty]
      rfl
    · rw [runLines_step _ _ _ _ asked read, Setting.steps_step sound asked read]
      generalize step_eq : step.toSession (setting.surroundings number) = done
      -- The step does and logs the same whatever the log was before: none, or all of the run's.
      have calm : done.calm = done := step_eq ▸ step.calm_toSession _
      have drained := Session.take_calmed session [] done
      have kept := Session.take_calmed session log done
      have logged := Session.logged_calmed session log done
      rw [calm] at drained kept logged
      simp only [drained, Session.history_cons, kept, List.flatMap_cons, logged]
      rw [printed_append, ← ih]
      rfl

/-- The first faulty line ends a replay, with its number in the error. -/
theorem error_runLines (setting : Setting) (session : Session) (number : Nat)
    (lines : List (List Char)) :
    (runLines setting session number (lines.map some)).error =
      (faultyLine? lines).map fun line =>
        setting.malformed (number + (soundLines lines).length) (textOf line) := by
  induction lines generalizing session number with
  | nil => rfl
  | cons line lines ih =>
    have shifted : number + 1 + (soundLines lines).length =
        number + ((soundLines lines).length + 1) := by omega
    rw [List.map_cons]
    rcases line_cases line with
      ⟨sound, skipped⟩ | ⟨faulty, asked, unread⟩ | ⟨step, sound, asked, read⟩
    · rw [runLines_skipped _ _ _ _ skipped, ih, faultyLine_of_sound sound,
        soundLines_of_sound sound, List.length_cons, shifted]
    · rw [runLines_faulty _ _ _ _ asked unread, faultyLine_of_faulty faulty,
        soundLines_of_faulty faulty]
      rfl
    · rw [runLines_step _ _ _ _ asked read, faultyLine_of_sound sound, soundLines_of_sound sound,
        List.length_cons, ← shifted, ← ih]
      rfl

/-- Nothing that comes after a faulty line matters. -/
theorem runLines_faulty_last (setting : Setting) (session : Session) (number : Nat)
    {lines : List (List Char)} {line : List Char} (first : faultyLine? lines = some line)
    (later : List (Option (List Char))) :
    runLines setting session number ((soundLines lines ++ [line]).map some ++ later) =
      runLines setting session number (lines.map some) := by
  induction lines generalizing session number with
  | nil => cases first
  | cons front lines ih =>
    rcases line_cases front with
      ⟨sound, skipped⟩ | ⟨faulty, asked, unread⟩ | ⟨step, sound, asked, read⟩
    · rw [faultyLine_of_sound sound] at first
      rw [soundLines_of_sound sound, List.cons_append, List.map_cons, List.cons_append,
        List.map_cons, runLines_skipped _ _ _ _ skipped, runLines_skipped _ _ _ _ skipped,
        ih _ _ first]
    · obtain rfl := Option.some.inj ((faultyLine_of_faulty faulty).symm.trans first)
      rw [soundLines_of_faulty faulty, List.nil_append, List.map_singleton, List.singleton_append,
        List.map_cons, runLines_faulty _ _ _ _ asked unread, runLines_faulty _ _ _ _ asked unread]
    · rw [faultyLine_of_sound sound] at first
      rw [soundLines_of_sound sound, List.cons_append, List.map_cons, List.cons_append,
        List.map_cons, runLines_step _ _ _ _ asked read, runLines_step _ _ _ _ asked read]
      simp only [ih _ _ first]

/-! ## Lines that ask for nothing -/

/-- The lines that ask for something. -/
def askingLines (lines : List (List Char)) : List (List Char) :=
  lines.filter fun line => !isSkipped line

theorem askingLines_of_skipped {line : List Char} {lines : List (List Char)}
    (skipped : isSkipped line = true) : askingLines (line :: lines) = askingLines lines := by
  rw [askingLines, List.filter_cons_of_neg (by simp [skipped]), askingLines]

theorem askingLines_of_asked {line : List Char} {lines : List (List Char)}
    (asked : isSkipped line = false) :
    askingLines (line :: lines) = line :: askingLines lines := by
  rw [askingLines, List.filter_cons_of_pos (by simp [asked]), askingLines]

theorem askingLines_soundLines (lines : List (List Char)) :
    askingLines (soundLines lines) = soundLines (askingLines lines) := by
  induction lines with
  | nil => rfl
  | cons line lines ih =>
    rcases line_cases line with ⟨sound, skipped⟩ | ⟨faulty, asked, -⟩ | ⟨step, sound, asked, -⟩
    · rw [soundLines_of_sound sound, askingLines_of_skipped skipped, askingLines_of_skipped skipped,
        ih]
    · rw [soundLines_of_faulty faulty, askingLines_of_asked asked, soundLines_of_faulty faulty]
      rfl
    · rw [soundLines_of_sound sound, askingLines_of_asked asked, askingLines_of_asked asked,
        soundLines_of_sound sound, ih]

theorem faultyLine_askingLines (lines : List (List Char)) :
    faultyLine? (askingLines lines) = faultyLine? lines := by
  rw [faultyLine?, askingLines, List.find?_filter]
  congr 1
  funext line
  unfold isFaulty
  cases isSkipped line <;> cases stepOf? line <;> rfl

/-- What lines ask for does not depend on those that ask for nothing, but for the numbers. -/
theorem map_stepsFrom (number : Nat) (lines : List (List Char)) :
    (stepsFrom number lines).map (·.1) = (soundLines (askingLines lines)).filterMap stepOf? := by
  rw [← askingLines_soundLines, stepsFrom, askingLines]
  generalize soundLines lines = lines
  induction lines generalizing number with
  | nil => rfl
  | cons line lines ih =>
    rw [List.zipIdx_cons, List.filterMap_cons, List.filter_cons]
    cases skipped : isSkipped line with
    | true => simpa [skipped] using ih (number + 1)
    | false => cases read : stepOf? line <;> simp [skipped, read, ih (number + 1)]

end Panes.Replay
