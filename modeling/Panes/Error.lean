/-!
# Errors

What can go wrong around the coordinator. The coordinator itself has no errors: what it cannot make
out it ignores.
-/

namespace Panes

/-- Something went wrong. -/
inductive Error
  /-- A file or directory could not be used. -/
  | io
  /-- The settings or a script make no sense, for this reason. -/
  | configuration (reason : String)
  /-- A settings file is malformed. -/
  | settingsSyntax
  /-- A written value could not be read. -/
  | payload
  /-- The host refused a command, for this reason. -/
  | host (reason : String)
  deriving DecidableEq, Repr

/-- The first line of the message of an error. -/
def Error.message : Error → String
  | io => "IO error"
  | configuration reason => "Configuration error: " ++ reason
  | settingsSyntax => "TOML error"
  | payload => "Payload error"
  | host reason => "Host error: " ++ reason

end Panes
