/-
  FlowProcessor.Interaction — COMPUTATIONS THAT USE FILES.

  An interaction asks for files to be read and written, one request after the other, and goes on
  with what it is told.  It says nothing about where the files are: `Interaction.runIn` answers
  from a directory, and the command line answers from the file system.
-/
import FlowProcessor.Directory

namespace FlowProcessor

/-- A computation that reads and writes files. -/
inductive Interaction (α : Type)
  | done (a : α)
  | read (path : String) (next : Except FileError String → Interaction α)
  | write (path : String) (text : String) (next : Except FileError Unit → Interaction α)

namespace Interaction

variable {α β : Type}

/-- Goes on with the answer of an interaction. -/
def bind : Interaction α → (α → Interaction β) → Interaction β
  | .done a, f => f a
  | .read path next, f => .read path fun answer => (next answer).bind f
  | .write path text next, f => .write path text fun answer => (next answer).bind f

instance : Monad Interaction where
  pure := .done
  bind := bind

/-- Reads a file. -/
def readFile (path : String) : Interaction (Except FileError String) := .read path .done

/-- Writes a file. -/
def writeFile (path text : String) : Interaction (Except FileError Unit) := .write path text .done

/-- Carries out an interaction in a directory. -/
def runIn : Interaction α → Directory → α × Directory
  | .done a, d => (a, d)
  | .read path next, d => (next (d.read path)).runIn d
  | .write path text next, d =>
      match d.write path text with
      | .ok d => (next (.ok ())).runIn d
      | .error error => (next (.error error)).runIn d

end Interaction

end FlowProcessor
