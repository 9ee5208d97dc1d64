/-
  FlowProcessor.Logging.Directive — THE DIRECTIVES OF A LOG FILTER.

  A directive gives a verbosity to some events: to all, to those whose origin begins with a name,
  to those that carry a detail, or to those inside of a span of a given name or with a given detail.

      info                            everything up to information
      nfm_lbmgr=debug                 an origin
      nfm_lbmgr                       an origin, completely
      [apply]=debug                   a span
      nfm_lbmgr[set_group{group}]=warn
                                      a span of an origin, with a detail
      [{mode=L2}]=debug               spans with a detail that fits a pattern

    • `Directive.read` — from the text of a directive to the directive
-/
import FlowProcessor.Logging.Pattern.Automaton
import FlowProcessor.Logging.Pattern.Notation

namespace FlowProcessor

/-! ## §1. Directives. -/

/-- A demand on the text of a detail. -/
structure ValueTest where
  text : String
  /-- The pattern to accept the text of the detail; none for a number or a truth value, because no
  detail is kept as one. -/
  pattern : Option Pattern
  deriving DecidableEq, Repr

/-- A demand for a detail. -/
structure DetailTest where
  name : String
  value : Option ValueTest
  deriving DecidableEq, Repr

/-- A verbosity and the events it is for; 0 shows nothing. -/
structure Directive where
  /-- What the origin begins with. -/
  origin : Option String
  span : Option String
  detail : Option DetailTest
  verbosity : Nat
  deriving DecidableEq, Repr

namespace Directive

/-- The directive for all events. -/
def upTo (verbosity : Nat) : Directive := ⟨none, none, none, verbosity⟩

/-! ## §2. Demands on details. -/

/-- Drops decimal digits; `true` reports that there were some. -/
def dropDigits (cs : List Char) : Bool × List Char :=
  ((cs.head?.map Char.isDigit).getD false, cs.dropWhile Char.isDigit)

/-- Drops a sign. -/
def dropSign : List Char → List Char
  | '+' :: cs => cs
  | '-' :: cs => cs
  | cs => cs

/-- Whether a text is an exponent, or nothing. -/
def isExponent : List Char → Bool
  | [] => true
  | c :: cs =>
      (c == 'e' || c == 'E') && (match dropDigits (dropSign cs) with
        | (present, rest) => present && rest.isEmpty)

/-- Whether a text is a number without sign: digits, a fraction and an exponent. -/
def isUnsignedNumber (cs : List Char) : Bool :=
  match dropDigits cs with
  | (whole, '.' :: rest) =>
      match dropDigits rest with
      | (fraction, rest) => (whole || fraction) && isExponent rest
  | (whole, rest) => whole && isExponent rest

/-- Whether a text names something that is no finite number. -/
def isUnboundedNumber (cs : List Char) : Bool :=
  ["inf", "infinity", "nan"].contains (String.ofList (cs.map Char.toLower))

/-- Whether a text is a number or a truth value. -/
def isScalar (cs : List Char) : Bool :=
  cs = "true".toList || cs = "false".toList
    || isUnsignedNumber (dropSign cs) || isUnboundedNumber (dropSign cs)

/-- Reads a demand on the text of a detail. -/
def value? (cs : List Char) : Option ValueTest :=
  if isScalar cs then some ⟨String.ofList cs, none⟩
  else (Pattern.read cs).map fun pattern => ⟨String.ofList cs, some pattern⟩

/-- Reads a demand for a detail: a name, and after `=` a demand on the text. -/
def detail? (cs : List Char) : Option DetailTest :=
  match splitAt '=' cs with
  | [] => none
  | [name] => if name = [] then none else some ⟨String.ofList name, none⟩
  | name :: value :: _ => (value? value).map fun value => ⟨String.ofList name, some value⟩

/-! ## §3. Reading. -/

/-- What is being read: the part of a directive that began at a position, or what may follow. -/
inductive Reading
  | start
  | word
  | span (first : Nat)
  | detail (first : Nat)
  /-- After the detail. -/
  | detailEnd
  /-- After the span. -/
  | spanEnd
  | verbosity (first : Nat)
  deriving DecidableEq, Repr

/-- A directive that is being read. -/
structure Draft where
  reading : Reading
  directive : Directive

/-- Nothing was read; a directive without a verbosity shows everything. -/
def Draft.start : Draft := ⟨.start, .upTo fullVerbosity⟩

/-- The characters of a text from one position to another. -/
def cut (text : List Char) (first last : Nat) : List Char := (text.take last).drop first

/-- Whether a directive can begin with a character. -/
def canBegin (c : Char) : Bool := c == '-' || c == ':' || c == '_' || isAlphanumeric c

/-- Reads a character at a position. -/
def Draft.step (text : List Char) (d : Draft) (c : Char) (position : Nat) : Option Draft :=
  match d.reading with
  | .start =>
      if c = '[' then some { d with reading := .span (position + 1) }
      else if canBegin c then some { d with reading := .word }
      else none
  | .word =>
      let named := { d.directive with origin := some (String.ofList (cut text 0 position)) }
      if c = '=' then some ⟨.verbosity (position + 1), named⟩
      else if c = '[' then some ⟨.span (position + 1), named⟩
      else some d
  | .span first =>
      let name := cut text first position
      if c = ']' then
        some ⟨.spanEnd, { d.directive with span := some (String.ofList name) }⟩
      else if c = '\x7b' then
        some ⟨.detail (position + 1), { d.directive with
          span := if name = [] then none else some (String.ofList name) }⟩
      else some d
  | .detail first =>
      if c = '\x7d' then
        (detail? (cut text first position)).map fun detail =>
          ⟨.detailEnd, { d.directive with detail := some detail }⟩
      else some d
  | .detailEnd => if c = ']' then some { d with reading := .spanEnd } else none
  | .spanEnd => if c = '=' then some { d with reading := .verbosity (position + 1) } else none
  | .verbosity _ => some d

/-- Reads characters from a position on. -/
def Draft.steps (text : List Char) : Nat → List Char → Draft → Option Draft
  | _, [], d => some d
  | position, c :: cs, d =>
      (d.step text c position).bind fun d => Draft.steps text (position + 1) cs d

/-- The verbosity of the rest of a text; none is the full one. -/
def restVerbosity? (word : List Char) : Option Nat :=
  if word = [] then some fullVerbosity else verbosity? word

/-- The directive that was read, if it is complete. -/
def Draft.finish (text : List Char) (d : Draft) : Option Directive :=
  match d.reading with
  | .word =>
      match verbosity? text with
      | some verbosity => some (.upTo verbosity)
      | none => some { d.directive with origin := some (String.ofList text) }
  | .verbosity first =>
      (restVerbosity? (text.drop first)).map fun verbosity =>
        { d.directive with verbosity := verbosity }
  | .spanEnd => some d.directive
  | _ => none

/-- Reads a directive.  White space around it is passed over in the counting of positions, but the
parts are cut from the whole text: white space in front displaces them, so that they name nothing,
and white space at the end belongs to the last part. -/
def read (text : List Char) : Option Directive :=
  (Draft.start.steps text 0 (trim text)).bind (·.finish text)

end Directive

end FlowProcessor
