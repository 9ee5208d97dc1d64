/-
  FlowProcessor.CommandLine.Scanner — OPTIONS ON A COMMAND LINE.

  A grammar lists the options of a tool; each reads its value into a setting of the tool, and a
  command line becomes the list of its settings in order.

  Long options are `--name`, `--name value` and `--name=value`; short ones may be joined (`-pc`),
  with a value attached (`-d2`, `-d=2`) or in the next argument (`-d 2`).  An argument that begins
  with a dash is never taken as the value of the option before it; there are no other arguments.

  The value in the next argument is judged when its option ends, which is when the argument after
  it has been recognised.  So an unknown argument is reported before a bad value in front of it.

    • `Scan.argument` — one argument
    • `scan`          — a whole command line
-/

namespace FlowProcessor.CommandLine

/-! ## §1. Grammars. -/

/-- Why a command line is rejected before its settings are looked at. -/
inductive Rejection
  | unknownArgument
  /-- An option without its value, or an empty path. -/
  | invalidValue
  /-- A value that its option cannot read. -/
  | valueRefused (message : String)
  /-- Options that exclude each other, or an option that may be given only once. -/
  | conflict
  | missingArgument
  /-- A value for an option that takes none. -/
  | tooManyValues
  /-- The help was asked for. -/
  | help
  /-- The help is shown because nothing was asked for. -/
  | helpOnMissing
  deriving DecidableEq, Repr

/-- A rejection in words. -/
def Rejection.message : Rejection → String
  | .unknownArgument => "unknown argument"
  | .invalidValue => "an option lacks its value"
  | .valueRefused message => message
  | .conflict => "an option is given twice, or beside one that excludes it"
  | .missingArgument => "a required option is missing"
  | .tooManyValues => "a value is given to an option that takes none"
  | .help | .helpOnMissing => "options:"

/-- What an option takes. -/
inductive Takes
  | nothing
  | value
  /-- A value only after `=`, and a fixed one otherwise. -/
  | attached (otherwise : String)
  deriving DecidableEq, Repr

/-- An option and the setting it makes of its value. -/
structure OptionRule (σ : Type) where
  long : String
  short : Option Char
  takes : Takes
  repeatable : Bool
  read : String → Except Rejection σ

/-- The options of a tool. -/
abbrev Grammar (σ : Type) : Type := List (OptionRule σ)

variable {σ : Type}

/-- The option of that long name. -/
def Grammar.long? (g : Grammar σ) (name : List Char) : Option (OptionRule σ) :=
  g.find? fun rule => rule.long.toList == name

/-- The option of that short name. -/
def Grammar.short? (g : Grammar σ) (name : Char) : Option (OptionRule σ) :=
  g.find? fun rule => rule.short == some name

/-- The line of an option in the help. -/
def OptionRule.help (rule : OptionRule σ) : String :=
  let short := match rule.short with
    | some c => "-" ++ String.singleton c ++ ", "
    | none => ""
  let value := match rule.takes with
    | .value => " <value>"
    | .nothing | .attached _ => ""
  "  " ++ short ++ "--" ++ rule.long ++ value ++ "\n"

/-- The help: one line for each option. -/
def Grammar.help (g : Grammar σ) : String := String.join (g.map OptionRule.help)

/-! ## §2. The state of a scan. -/

/-- The settings so far, each with the name of its option, and the option that has not ended yet,
with its value if there was one. -/
structure Scan (σ : Type) where
  seen : List (String × σ)
  awaiting : Option (OptionRule σ × Option String)

namespace Scan

/-- Nothing was scanned. -/
def start : Scan σ := ⟨[], none⟩

/-- Records an option with its value. -/
def record (s : Scan σ) (rule : OptionRule σ) (value : String) : Except Rejection (Scan σ) :=
  if !rule.repeatable && s.seen.any (fun entry => entry.1 == rule.long) then .error .conflict
  else (rule.read value).map fun setting => ⟨s.seen ++ [(rule.long, setting)], none⟩

/-- Ends the option that has not ended yet. -/
def settle (s : Scan σ) : Except Rejection (Scan σ) :=
  match s.awaiting with
  | none => .ok s
  | some (_, none) => .error .invalidValue
  | some (rule, some value) => s.record rule value

/-- Ends the option before and records another one with its value. -/
def take (s : Scan σ) (rule : OptionRule σ) (value : String) : Except Rejection (Scan σ) := do
  let s ← s.settle
  s.record rule value

/-- Ends the option before and waits for the value of another one. -/
def await (s : Scan σ) (rule : OptionRule σ) : Except Rejection (Scan σ) :=
  s.settle.map fun s => { s with awaiting := some (rule, none) }

/-- Ends the option before and asks for the help. -/
def help (s : Scan σ) : Except Rejection (Scan σ) := do
  let _ ← s.settle
  .error .help

/-! ## §3. Arguments. -/

/-- Takes a long option with the value attached to it, if any. -/
def longOption (g : Grammar σ) (s : Scan σ) (name : List Char) (value : Option (List Char)) :
    Except Rejection (Scan σ) :=
  match g.long? name with
  | some rule =>
      match rule.takes, value with
      | .nothing, none => s.take rule ""
      | .nothing, some _ => .error .tooManyValues
      | .attached otherwise, none => s.take rule otherwise
      | .value, none => s.await rule
      | _, some value => s.take rule (String.ofList value)
  | none =>
      if name = "help".toList then
        match value with
        | none => s.help
        | some _ => .error .tooManyValues
      else .error .unknownArgument

/-- Takes the short options that are joined in an argument. -/
def shortOptions (g : Grammar σ) : List Char → Scan σ → Except Rejection (Scan σ)
  | [], s => .ok s
  | name :: rest, s =>
      match g.short? name with
      | some rule =>
          match rule.takes, rest with
          | .nothing, rest => do
              let s ← s.take rule ""
              shortOptions g rest s
          | .value, [] => s.await rule
          | .value, '=' :: value => s.take rule (String.ofList value)
          | .value, value => s.take rule (String.ofList value)
          | .attached _, '=' :: value => s.take rule (String.ofList value)
          | .attached otherwise, rest => do
              let s ← s.take rule otherwise
              shortOptions g rest s
      | none => if name = 'h' then s.help else .error .unknownArgument

/-- Takes an argument that is no option: the value that is waited for. -/
def plain (s : Scan σ) (value : String) : Except Rejection (Scan σ) :=
  match s.awaiting with
  | some (rule, none) => .ok { s with awaiting := some (rule, some value) }
  | _ => .error .unknownArgument

/-- Splits a long option from the value after the first `=`. -/
def splitValue (cs : List Char) : List Char × Option (List Char) :=
  match cs.dropWhile (· != '=') with
  | [] => (cs, none)
  | _ :: value => (cs.takeWhile (· != '='), some value)

/-- Takes one argument. -/
def argument (g : Grammar σ) (s : Scan σ) (text : String) : Except Rejection (Scan σ) :=
  match text.toList with
  | '-' :: '-' :: long =>
      let (name, value) := splitValue long
      longOption g s name value
  | '-' :: name :: rest => shortOptions g (name :: rest) s
  | _ => s.plain text

/-- Takes the arguments one by one.  After `--` no argument is an option. -/
def arguments (g : Grammar σ) : List String → Scan σ → Except Rejection (Scan σ)
  | [], s => s.settle
  | text :: rest, s =>
      if text = "--" then
        if rest.isEmpty then s.settle else .error .unknownArgument
      else do
        let s ← s.argument g text
        arguments g rest s

end Scan

/-- The settings on a command line, in order. -/
def scan (g : Grammar σ) (args : List String) : Except Rejection (List σ) :=
  (Scan.start.arguments g args).map fun s => s.seen.map (·.2)

end FlowProcessor.CommandLine
