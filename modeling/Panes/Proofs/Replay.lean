import Panes.Proofs.Replay.Context
import Panes.Proofs.Replay.Event

/-!
# What a script comes to

A script is carried out line by line up to its first faulty line, which ends it with an error that
names it. Blank lines and comments count as lines and make no other difference.
-/

namespace Panes.Replay

open Text

variable (setting : Setting) (settings : Settings)

/-- What is printed is what the host logs at the lines before the first faulty one. -/
theorem output_run (text : List Char) :
    (run setting settings (Utf8.encode text)).output =
      printed (((Session.initial settings).history (setting.steps 1 (linesOf text))).flatMap
        Session.Turn.logged) := by
  rw [run_encode]
  exact output_runLines setting (Session.initial settings) [] 1 (linesOf text)

/-- Each action is printed on a line of its own. -/
theorem newline_notMem_printed {actions : List Action} {line : String}
    (member : line ∈ printed actions) : '\n' ∉ line.toList := by
  obtain ⟨action, -, rfl⟩ := List.mem_map.mp member
  rw [Json.render, String.toList_ofList]
  exact Json.newline_notMem_chars action.toJson

/-- The first faulty line ends a replay, and its number counts all lines before it. -/
theorem error_run (text : List Char) :
    (run setting settings (Utf8.encode text)).error =
      (faultyLine? (linesOf text)).map fun line =>
        setting.malformed ((soundLines (linesOf text)).length + 1) (textOf line) := by
  rw [run_encode, error_runLines]
  simp only [Nat.add_comm 1]

/-- After a faulty line the script may go on as it likes. -/
theorem run_faulty {text line : List Char} (first : faultyLine? (linesOf text) = some line)
    (later : List UInt8) :
    run setting settings
        (Utf8.encode ((soundLines (linesOf text) ++ [line]).flatMap (· ++ ['\n'])) ++ later) =
      run setting settings (Utf8.encode text) := by
  have unbroken : ∀ other ∈ soundLines (linesOf text) ++ [line], '\n' ∉ other := by
    intro other member
    rcases List.mem_append.mp member with sound | last
    · exact newline_notMem_linesOf ((List.takeWhile_sublist _).subset sound)
    · rw [List.mem_singleton.mp last]
      exact newline_notMem_linesOf (List.mem_of_find?_eq_some first)
  rw [run_closed setting settings unbroken, run_encode, runLines_faulty_last _ _ _ first]

/-- Scripts that ask for the same print the same, and both end early or neither does. -/
theorem run_congr {text other : List Char} {setting elsewhere : Setting}
    (same : askingLines (linesOf other) = askingLines (linesOf text))
    (steps_eq : elsewhere.steps 1 (linesOf other) = setting.steps 1 (linesOf text)) :
    let record := run setting settings (Utf8.encode text)
    let again := run elsewhere settings (Utf8.encode other)
    again.output = record.output ∧ again.error.isSome = record.error.isSome := by
  intro record again
  constructor
  · rw [output_run, output_run, steps_eq]
  · rw [error_run, error_run, Option.isSome_map, Option.isSome_map, ← faultyLine_askingLines, same,
      faultyLine_askingLines]

/-- A script prints, action by action on lines of their own, what the host logs at the steps before
its first faulty line. That line, counted with all others, is named in the error, and nothing behind
it matters; without such a line there is no error. Blank lines and comments make no difference to
what is printed, as long as the clock reads the same at the other lines, which it does if it stands
still, except that the trace contexts of commands are drawn anew for each script. A line that writes
an event asks for that event. -/
theorem run_script (text : List Char) :
    let lines := linesOf text
    let record := run setting settings (Utf8.encode text)
    (record.output =
        printed (((Session.initial settings).history (setting.steps 1 lines)).flatMap
          Session.Turn.logged) ∧
      ∀ line ∈ record.output, '\n' ∉ line.toList) ∧
    record.error = (faultyLine? lines).map (fun line =>
      .configuration ("line " ++ ((soundLines lines).length + 1).repr ++ ": "
        ++ setting.complaint (textOf line))) ∧
    (∀ line, faultyLine? lines = some line → ∀ later : List UInt8,
      run setting settings
          (Utf8.encode ((soundLines lines ++ [line]).flatMap (· ++ ['\n'])) ++ later) = record) ∧
    (∀ other clock, askingLines (linesOf other) = askingLines lines →
      (setting.reading clock).readings 1 (linesOf other) = setting.readings 1 lines →
      (∃ contexts,
        let again := run ((setting.reading clock).drawing contexts) settings (Utf8.encode other)
        again.output = record.output ∧ again.error.isSome = record.error.isSome) ∧
      (setting.filter = none →
        (run (setting.reading clock) settings (Utf8.encode other)).output = record.output)) ∧
    (∀ other time, askingLines (linesOf other) = askingLines lines →
      (∀ line, setting.now line = time) →
      setting.readings 1 (linesOf other) = setting.readings 1 lines) ∧
    ∀ event : Event, event.Fits → ¬ event.IsSlide → ∀ left right : List Char,
      (∀ char ∈ left ++ right, isBlank char = true) →
        let line := left ++ (Event.format.text event).toList ++ right
        isSkipped line = false ∧ stepOf? line = some (.event event) := by
  intro lines record
  refine ⟨⟨output_run setting settings text, ?_⟩, error_run setting settings text,
    fun line first later => run_faulty setting settings first later,
    fun other clock same read => ⟨?_, ?_⟩,
    fun other time same still => Setting.readings_of_still still 1 1 same,
    fun event fits steady left right blank => step_of_event fits steady blank⟩
  · intro line member
    rw [output_run] at member
    exact newline_notMem_printed member
  · obtain ⟨contexts, drawn⟩ := setting.exists_steps 1 1 same read
    exact ⟨contexts, run_congr settings same drawn⟩
  · intro untraced
    obtain ⟨contexts, drawn⟩ := setting.exists_steps 1 1 same read
    have untraced : (setting.reading clock).filter = none := untraced
    rw [Setting.steps_untraced untraced] at drawn
    exact (run_congr settings same drawn).1

end Panes.Replay
