/-
  FlowProcessor.CommandLine.Value — VALUES OF OPTIONS.

  Builders for the options of the tools: one that is a flag, one that keeps a text, one that names
  a file, and one that reads an identifier or a number.
-/
import FlowProcessor.CommandLine.Scanner
import FlowProcessor.InputError

namespace FlowProcessor.CommandLine

variable {σ α : Type}

/-- A flag, given at most once. -/
def flag (long : String) (short : Char) (setting : σ) : OptionRule σ :=
  ⟨long, some short, .nothing, false, fun _ => .ok setting⟩

/-- An option whose value is kept as it is. -/
def textOption (long : String) (short : Char) (setting : String → σ) : OptionRule σ :=
  ⟨long, some short, .value, false, fun value => .ok (setting value)⟩

/-- An option that names a file; the name is not empty. -/
def pathOption (long : String) (setting : String → σ) : OptionRule σ :=
  ⟨long, none, .value, false, fun value =>
    if value = "" then .error .invalidValue else .ok (setting value)⟩

/-- An option whose value is read; `word` words the reason of a refusal. -/
def readOption (long : String) (short : Char) (repeatable : Bool)
    (read : String → Except InputError α) (word : InputError → String) (setting : α → σ) :
    OptionRule σ :=
  ⟨long, some short, .value, repeatable, fun value =>
    match read value with
    | .ok a => .ok (setting a)
    | .error error => .error (.valueRefused (word error))⟩

end FlowProcessor.CommandLine
