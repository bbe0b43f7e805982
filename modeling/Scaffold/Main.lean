import Scaffold.Command.Run

/-!
Contract: the program on the disk.

Owns:
- files as they are kept on the disk;
- the printing of an outcome.
-/

namespace Scaffold

namespace Disk

/-- The cause of a failure on the disk. -/
def faultOf : IO.Error → Fault
  | .noFileOrDirectory _ _ _ => .notFound
  | .alreadyExists _ _ _ => .alreadyExists
  | .userError _ => .invalidData
  | .inappropriateType _ _ _ => .notADirectory
  | _ => .isADirectory

/-- The value of an action, or the cause of its failure. -/
def attempt {α : Type} (action : IO α) : IO (Except Fault α) := do
  try
    return .ok (← action)
  catch error =>
    return .error (faultOf error)

/-- Everyone may read a file, and its owner may write it. -/
def readableByAll : IO.FileRight where
  user := { read := true, write := true }
  group := { read := true }
  other := { read := true }

instance : Storage IO where
  readText path := attempt (IO.FS.readFile path.text)
  isFile path := do
    match ← attempt (IO.FS.readBinFile path.text) with
    | .ok _ => return true
    | .error _ => return false
  makeDirectories path :=
    attempt (if path.isEmpty then pure () else IO.FS.createDirAll path.text)
  createFile path := attempt (discard (IO.FS.Handle.mk path.text .writeNew))
  writeText path text := attempt (IO.FS.writeFile path.text text)
  sync path := attempt do (← IO.FS.Handle.mk path.text .append).flush
  permit path := attempt (IO.setAccessRights path.text readableByAll)
  rename source destination := attempt (IO.FS.rename source.text destination.text)
  discard path := do
    discard (attempt (IO.FS.removeFile path.text))

/-- Print an error and what is behind it. -/
def report : Command.Ended → IO Unit
  | .failure error => do
      IO.eprintln ("Error: " ++ error.message)
      match error.cause? with
      | some cause => IO.eprintln ("\nCaused by:\n    " ++ cause)
      | none => return ()
  | _ => return ()

end Disk

end Scaffold

/-- Run the program on the disk. -/
def main (arguments : List String) : IO UInt32 := do
  let outcome ← Scaffold.Command.run (← Scaffold.Environment.ofLookup (IO.getEnv ·)) arguments
  IO.print outcome.text
  outcome.complaints.forM IO.eprintln
  Scaffold.Disk.report outcome.ended
  return outcome.ended.status.toUInt32
