/-!
# Command line arguments

`panenav [--config FILE] [SCRIPT]`. The option may be given once, as one word with an equals sign or
as two words. Two dashes end the options.
-/

namespace Panes.Replay

/-- What the command line asks for. -/
structure Arguments where
  /-- The settings file. -/
  settingsFile : Option String
  /-- The script, and standard input when there is none. -/
  script : Option String
  deriving DecidableEq, Repr

namespace Arguments

/-- Nothing is asked for. -/
def none : Arguments := ⟨.none, .none⟩

/-- The word looks like an option. A single dash does not. -/
def isOption (word : String) : Bool :=
  match word.toList with
  | '-' :: _ :: _ => true
  | _ => false

/-- Take the settings file, which may be given once and has a name. -/
def withSettings? (arguments : Arguments) (file : String) : Option Arguments :=
  if arguments.settingsFile.isSome ∨ file.isEmpty then .none
  else some { arguments with settingsFile := some file }

/-- Take the script, which may be given once and has a name. -/
def withScript? (arguments : Arguments) (file : String) : Option Arguments :=
  if arguments.script.isSome ∨ file.isEmpty then .none
  else some { arguments with script := some file }

/-- What words after the option and its equals sign name. -/
def settingsValue? (word : String) : Option String :=
  match word.toList with
  | '-' :: '-' :: 'c' :: 'o' :: 'n' :: 'f' :: 'i' :: 'g' :: '=' :: file =>
    some (String.ofList file)
  | _ => .none

/-- Take words one after the other. -/
def take? (arguments : Arguments) : List String → Option Arguments
  | [] => some arguments
  | "--" :: words => words.foldlM withScript? arguments
  | ["--config"] => .none
  | "--config" :: file :: words =>
    if isOption file then .none
    else (arguments.withSettings? file).bind (·.take? words)
  | word :: words =>
    match settingsValue? word with
    | some file => (arguments.withSettings? file).bind (·.take? words)
    | .none =>
      if isOption word then .none else (arguments.withScript? word).bind (·.take? words)

/-- What a command line asks for, if it can be understood. -/
def ofWords? (words : List String) : Option Arguments := Arguments.none.take? words

end Arguments

end Panes.Replay
