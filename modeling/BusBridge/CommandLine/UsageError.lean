/-!
# Usage errors

What can be wrong with a command line before its words mean anything.
-/

namespace BusBridge

inductive UsageError
  /-- An option that does not exist, or a word for which there is no place. -/
  | unknownArgument (argument : String)
  /-- A value that is not one of the possible ones, or that is missing. -/
  | invalidValue (argument value : String)
  /-- A value that cannot be read. -/
  | valueValidation (argument value : String)
  /-- A value for an option that takes none. -/
  | unneededValue (argument value : String)
  | argumentConflict (argument : String)
  | missingArgument (arguments : List String)
  | invalidCommand (name : String)
  | missingCommand (program : String)
  | nothingGiven
  | invalidUtf8
deriving DecidableEq, Repr

end BusBridge
