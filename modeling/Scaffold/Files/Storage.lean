import Scaffold.Files.Fault
import Scaffold.Files.Path

/-!
Contract: what a generation run asks of the place where files are kept.

Owns:
- the operations on files that a run is made of.

A run is written over these operations alone, so it does the same whether files are kept on a
disk or in a value. Each operation may fail for reasons of its own, and what it leaves then is
its own affair: how a file is replaced as a whole is not.
-/

namespace Scaffold

/-- A place where files are kept, operated on in a monad. -/
class Storage (m : Type → Type) where
  /-- The text of the file at a path. -/
  readText : Path → m (Except Fault String)
  /-- Is there a file at a path? -/
  isFile : Path → m Bool
  /-- Make a directory and those around it, as far as they are not there. The empty path names
  the directory where paths begin, which is there. -/
  makeDirectories : Path → m (Except Fault Unit)
  /-- Make an empty file at a path, where nothing may stand. -/
  createFile : Path → m (Except Fault Unit)
  /-- Write a text to the file at a path. -/
  writeText : Path → String → m (Except Fault Unit)
  /-- Wait until what was written to the file at a path is kept. -/
  sync : Path → m (Except Fault Unit)
  /-- Let everyone read the file at a path, and its owner write it. -/
  permit : Path → m (Except Fault Unit)
  /-- Move the file at a path to another path, in the place of the file there. -/
  rename : Path → Path → m (Except Fault Unit)
  /-- Remove the file at a path, if there is one. -/
  discard : Path → m Unit

end Scaffold
