/-
  FlowProcessor.Logging.Level — LEVELS OF A LOG.

  A level of a setting or of an option is a name or a number from 0, only errors, to 4, everything.
  A verbosity of a log filter is a name or a number too, but counts from 1, and 0 shows nothing.

    • `logLevel?`  — from the text of a level to a severity
    • `verbosity?` — from a word of a filter to the largest rank that is shown
-/
import FlowProcessor.Event

namespace FlowProcessor

/-! ## §1. White space. -/

/-- The characters that count as white space around a text. -/
def isWhiteSpace (c : Char) : Bool :=
  let n := c.toNat
  (0x09 ≤ n && n ≤ 0x0D) || n == 0x20 || n == 0x85 || n == 0xA0 || n == 0x1680
    || (0x2000 ≤ n && n ≤ 0x200A) || n == 0x2028 || n == 0x2029 || n == 0x202F || n == 0x205F
    || n == 0x3000

/-- A text without the white space at both ends. -/
def trim (cs : List Char) : List Char :=
  ((cs.dropWhile isWhiteSpace).reverse.dropWhile isWhiteSpace).reverse

/-! ## §2. Levels. -/

/-- The severity that a level names, up to which events are shown. -/
def logLevel? (text : String) : Option Severity :=
  match String.ofList ((trim text.toList).map Char.toLower) with
  | "0" | "error" => some .error
  | "1" | "warn" | "warning" => some .warn
  | "2" | "info" => some .info
  | "3" | "debug" => some .debug
  | "4" | "trace" => some .trace
  | _ => none

/-- The name of a severity as a level. -/
def Severity.name : Severity → String
  | .error => "error"
  | .warn => "warn"
  | .info => "info"
  | .debug => "debug"
  | .trace => "trace"

/-! ## §3. Verbosities. -/

/-- The verbosity that shows everything. -/
def fullVerbosity : Nat := Severity.trace.rank

/-- The verbosity of a number: decimal digits, with leading zeros or a plus sign if one likes. -/
def numberedVerbosity? (word : List Char) : Option Nat :=
  let digits := match word with
    | '+' :: cs => cs
    | cs => cs
  if digits = [] then none
  else (Numeral.Base.decimal.value digits).filter (· ≤ fullVerbosity)

/-- The verbosity of a name, in upper or lower case. -/
def namedVerbosity? (word : List Char) : Option Nat :=
  let name := String.ofList (word.map Char.toLower)
  if name = "off" then some 0
  else ([.error, .warn, .info, .debug, .trace].find? fun s => s.name == name).map Severity.rank

/-- The verbosity of a word. -/
def verbosity? (word : List Char) : Option Nat :=
  numberedVerbosity? word <|> namedVerbosity? word

end FlowProcessor
