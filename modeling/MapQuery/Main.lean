import MapQuery.Command.Program
import Std.Time

/-!
# Main

Runs the program on the files of the machine.
-/

namespace MapQuery.Main

/-- What a failed access to a path says about it. -/
def faultOf (p : Path) : IO.Error → StorageFault
  | .noFileOrDirectory _ _ _ => .missing p
  | .alreadyExists _ _ _ => .inTheWay p
  | .inappropriateType _ code _ => if code = 20 then .notAFolder p else .isAFolder p
  | e => ⟨0, toString e, p⟩

/-- The text of a path for the machine, which is asked for files by clean names only. -/
def textOf (p : Path) : IO String :=
  match p.text.encode with
  | .ok s => return s
  | .error _ => throw (.noFileOrDirectory p.text.escaped 2 "")

/-- The files of the machine. -/
instance : Storage IO where
  look p := do
    try
      return .file (← IO.FS.readBinFile (← textOf p)).toList
    catch e =>
      match (faultOf p e).number with
      | 2 => return .nothing
      | 20 => return .blocked
      | 21 => return .directory
      | _ => return .nothing
  write p bytes := do
    try
      IO.FS.createDirAll (← textOf p.parent)
    catch e => return .error (faultOf p.parent e)
    try
      IO.FS.writeBinFile (← textOf p) ⟨bytes.toArray⟩
      return .ok ()
    catch e => return .error (faultOf p e)

/-- The variables of the environment that the program looks at. -/
def environment : IO (List (String × String)) := do
  let value ← IO.getEnv Command.configVariable
  return (value.map fun v => (Command.configVariable, v)).toList

/-- What the program can see of the machine. -/
def world : IO Command.World := do
  let folder := Path.ofText ((← IO.getEnv "PWD").getD "/")
  let home := ((← IO.getEnv "HOME").map fun (text : String) => Path.ofText text).getD folder
  return ⟨⟨folder, home, []⟩, ← environment, (← Std.Time.Timestamp.now).toSecondsSinceUnixEpoch.val⟩

end MapQuery.Main

/-- Runs the program, writes what it has to say, and ends with its exit code. -/
def main (args : List String) : IO UInt32 := do
  let r ← MapQuery.Command.report (← MapQuery.Main.world) args
  IO.print r.output.out
  IO.eprint r.output.err
  match r.crash with
  | some c => IO.eprintln (c.kind ++ ": " ++ c.message.escaped)
  | none => pure ()
  return r.code.toUInt32
