import MapQuery.Command.Misuse
import MapQuery.Screen.Markup

/-!
# Output of a command

A command writes results and notes to its output, and warnings and errors beside it. It ends with
an exit code, early if need be.
-/

namespace MapQuery.Command

/-- What was written so far. -/
structure Output where
  out : String := ""
  err : String := ""
  deriving DecidableEq, Repr

/-- A fault that commands do not report as an error of their own. -/
structure Crash where
  kind : String
  message : Rough
  deriving DecidableEq, Repr

/-- Why a command ends early. -/
inductive Stop where
  | exit (code : Nat)
  | misuse (e : Misuse)
  | crash (c : Crash)
  deriving DecidableEq, Repr

/-- A command's work. -/
abbrev Work (m : Type → Type) (α : Type) := ExceptT Stop (StateT Output m) α

/-- A message between two marked-up passages, as it is shown where lines are long enough for it. -/
def messageText (before message after : Rough) : Rough :=
  Screen.printed (Screen.lines (Screen.render
    (before.points ++ Screen.escape message.points ++ after.points)))

variable {m : Type → Type} [Monad m]

/-- Writes to the output. A text that is not clean is not written, and the fault says so, with some
    advice. -/
def writeAdvised (advice : String) (s : Rough) : Work m Unit :=
  match s.encode with
  | .ok t => modify fun o => { o with out := o.out ++ t }
  | .error e => throw (.crash ⟨"UnicodeEncodeError", e.message ++ advice⟩)

/-- Writes to the output as it is. -/
def write (s : Rough) : Work m Unit := writeAdvised "" s

/-- Writes to the output what is made for the screen. -/
def display (s : Rough) : Work m Unit :=
  writeAdvised "\n*** You may need to add PYTHONIOENCODING=utf-8 to your environment ***" s

/-- Writes beside the output. -/
def writeError (s : Rough) : Work m Unit := modify fun o => { o with err := o.err ++ s.escaped }

/-- A note on what is done. -/
def info (message : Rough) : Work m Unit := display (messageText "[info]" message "[/info]")

/-- A note on what was achieved. -/
def success (message : Rough) : Work m Unit :=
  display (messageText "[success]" message "[/success]")

/-- A warning. -/
def warning (message : Rough) : Work m Unit :=
  writeError (messageText "[warning]Warning:[/warning] " message "")

/-- An error. -/
def error (message : Rough) : Work m Unit :=
  writeError (messageText "[error]Error:[/error] " message "")

/-- A hint on how an error can be avoided. -/
def hint (message : Rough) : Work m Unit :=
  writeError (messageText "  [info]Hint:[/info] " message "")

/-- An error that ends the command. -/
def fail {α : Type} (code : Nat) (message : Rough) : Work m α := do
  error message
  throw (.exit code)

/-- How much a command tells. -/
structure Mode where
  verbose : Bool := false
  quiet : Bool := false
  deriving DecidableEq, Repr

/-- Warnings, unless the command is to be quiet. -/
def warnings (mode : Mode) (messages : List Rough) : Work m Unit := do
  if !mode.quiet then messages.forM warning

end MapQuery.Command
