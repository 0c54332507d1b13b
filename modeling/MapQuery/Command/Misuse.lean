import MapQuery.Text.Literal
import MapQuery.Text.Similar

/-!
# Misuse of a command

What can be wrong with the arguments of a command, and how that is reported.
-/

namespace MapQuery.Command

/-- Something wrong with arguments. -/
inductive Misuse where
  | unknownOption (name : String) (close : List String)
  | unknownCommand (name : String) (close : List String)
  | needsValue (option : String)
  | takesNoValue (option : String)
  | missingCommand
  | extraArguments (arguments : List String)
  /-- The value of an option that is shown with its names does not fit. -/
  | badValue (option problem : String)
  deriving DecidableEq, Repr

/-- Names that may have been meant. -/
def suggestion : List String → String
  | [] => ""
  | [name] => " Did you mean " ++ Text.literal name ++ "?"
  | names =>
    " (Did you mean one of: " ++
      ", ".intercalate ((names.mergeSort fun a b => decide (a ≤ b)).map Text.literal) ++ "?)"

/-- The message of a misuse. -/
def Misuse.message : Misuse → String
  | .unknownOption name close =>
    "No such option " ++ Text.literal name ++ "." ++ suggestion close
  | .unknownCommand name close =>
    "No such command " ++ Text.literal name ++ "." ++ suggestion close
  | .needsValue option => "Option " ++ Text.literal option ++ " requires an argument."
  | .takesNoValue option => "Option " ++ Text.literal option ++ " does not take a value."
  | .missingCommand => "Missing command."
  | .extraArguments [a] => "Got unexpected extra argument (" ++ a ++ ")"
  | .extraArguments as => "Got unexpected extra arguments (" ++ " ".intercalate as ++ ")"
  | .badValue option problem => "Invalid value for " ++ option ++ ": " ++ problem

end MapQuery.Command
