/-
  FlowProcessor.Logging.Pattern.Basic — PATTERNS OF TEXTS.

  A pattern describes texts by fixed texts, sets of characters, boundaries, sequences, choices and
  repetitions.  A choice prefers what is written first; a repetition prefers more, or less if it is
  not greedy.

  Patterns are built by three functions that keep them in a simple form: sequences and choices are
  flat, texts in a row are one text, a choice between characters is a set, and what all sequences of
  a choice begin with is put in front of the choice.  The last of these counts when the common
  beginning fits in several ways: the choice is then made for each of them anew.

    • `Pattern.sequence`, `Pattern.choice`, `Pattern.repetition` — patterns in simple form
    • `Boundary.holdsBefore`, `Boundary.holdsAfter`              — whether a boundary is at a place
-/
import FlowProcessor.Logging.Pattern.CharSet

namespace FlowProcessor

/-! ## §1. Boundaries. -/

/-- A kind of place in a text. -/
inductive Boundary
  | textStart
  | textEnd
  | lineStart
  | lineEnd
  /-- The start of a line, where a carriage return ends a line too, but not inside of a pair. -/
  | pairedLineStart
  | pairedLineEnd
  | wordEdge
  | noWordEdge
  | wordStart
  | wordEnd
  deriving DecidableEq, Repr

namespace Boundary

/-- Whether there is a character of a word. -/
def inWord (c : Option Char) : Bool := c.any isWordCharacter

/-- Whether a boundary is known to be at a place from the character before the place. -/
def holdsBefore (before : Option Char) : Boundary → Bool
  | .textStart => before.isNone
  | .lineStart => before.all (· == '\n')
  | .pairedLineStart => before.all (· == '\n')
  | _ => false

/-- Whether a boundary is known to be at a place once the character after the place is known too. -/
def holdsAfter (before after : Option Char) : Boundary → Bool
  | .textStart => false
  | .textEnd => after.isNone
  | .lineStart => false
  | .lineEnd => after.all (· == '\n')
  | .pairedLineStart => before == some '\r' && after != some '\n'
  | .pairedLineEnd => after.all fun c => c == '\r' || (c == '\n' && before != some '\r')
  | .wordEdge => inWord before != inWord after
  | .noWordEdge => inWord before == inWord after
  | .wordStart => !inWord before && inWord after
  | .wordEnd => inWord before && !inWord after

end Boundary

/-! ## §2. Patterns. -/

/-- What the characters of a set are taken from. -/
inductive Alphabet
  | unicode
  | ascii
  deriving DecidableEq, Repr

/-- How often a pattern is repeated. -/
inductive Times
  /-- Once or not at all. -/
  | atMostOnce
  /-- As often as it is there. -/
  | anyTimes
  /-- As often as it is there, but once. -/
  | atLeastOnce
  deriving DecidableEq, Repr

/-- A description of texts. -/
inductive Pattern
  /-- The empty text. -/
  | nothing
  /-- A fixed text. -/
  | text (cs : List Char)
  /-- One character of a set.  Patterns with sets of different alphabets differ. -/
  | one (s : CharSet) (alphabet : Alphabet)
  /-- The empty text at a boundary. -/
  | boundary (b : Boundary)
  /-- A group with a number, which makes it different from all other groups. -/
  | group (number : Nat) (a : Pattern)
  /-- Repetitions, as many as possible if it is greedy and else as few. -/
  | repeated (a : Pattern) (times : Times) (greedy : Bool)
  /-- One text after the other. -/
  | both (a b : Pattern)
  /-- One text or else the other. -/
  | either (a b : Pattern)
  deriving DecidableEq, Repr

namespace Pattern

/-- One character of a set; a set of one is a text. -/
def ofSet (s : CharSet) (alphabet : Alphabet) : Pattern :=
  match s.only? with
  | some c => .text [c]
  | none => .one s (if s = .empty then .ascii else alphabet)

/-- Whether a pattern is for the empty text alone. -/
def isBlank : Pattern → Bool
  | .nothing => true
  | .text _ => false
  | .one _ _ => false
  | .boundary _ => true
  | .group _ a => a.isBlank
  | .repeated a times _ => times == .atMostOnce && a.isBlank
  | .both a b => a.isBlank && b.isBlank
  | .either a b => a.isBlank && b.isBlank

/-- A pattern repeated; to repeat the empty text adds nothing. -/
def repetition (a : Pattern) (times : Times) (greedy : Bool) : Pattern :=
  if a.isBlank then
    match times with
    | .atLeastOnce => a
    | _ => .repeated a .atMostOnce greedy
  else .repeated a times greedy

/-! ## §3. Sequences. -/

/-- The patterns of a sequence. -/
def parts : Pattern → List Pattern
  | .nothing => []
  | .both a b => a.parts ++ b.parts
  | a => [a]

/-- Puts a part in front of others; two texts become one. -/
def consPart (a : Pattern) (rest : List Pattern) : List Pattern :=
  match a, rest with
  | .text cs, .text ds :: rest => .text (cs ++ ds) :: rest
  | a, rest => a :: rest

/-- Parts in a row as a pattern. -/
def ofParts : List Pattern → Pattern
  | [] => .nothing
  | [a] => a
  | a :: rest => .both a (ofParts rest)

/-- One pattern after the other. -/
def sequence (patterns : List Pattern) : Pattern :=
  ofParts ((patterns.flatMap parts).foldr consPart [])

/-! ## §4. Choices. -/

/-- The patterns of a choice. -/
def choices : Pattern → List Pattern
  | .either a b => a.choices ++ b.choices
  | a => [a]

/-- The set of the characters, if a pattern is a text of one. -/
def character? : Pattern → Option CharSet
  | .text [c] => some (.single c)
  | _ => none

/-- The set of a pattern for one character of a set. -/
def set? : Pattern → Option CharSet
  | .one s _ => some s
  | _ => none

/-- Patterns to choose from as a pattern. -/
def ofChoices : List Pattern → Pattern
  | [] => .one .empty .ascii
  | [a] => a
  | a :: rest => .either a (ofChoices rest)

/-- A choice between patterns; between characters, or between sets, it is a set. -/
def plainChoice (patterns : List Pattern) : Pattern :=
  match patterns.flatMap choices with
  | [a] => a
  | all =>
      match (all.mapM character?).orElse fun _ => all.mapM set? with
      | some sets => ofSet (sets.foldl .union .empty) .unicode
      | none => ofChoices all

/-- What two lists begin with. -/
def commonStart : List Pattern → List Pattern → List Pattern
  | a :: as, b :: bs => if a = b then a :: commonStart as bs else []
  | _, _ => []

/-- What all sequences among some patterns begin with; nothing if one of them is no sequence. -/
def sharedStart : List Pattern → List Pattern
  | [] => []
  | a :: rest =>
      if (a :: rest).all (2 ≤ ·.parts.length) then
        rest.foldl (fun start b => commonStart start b.parts) a.parts
      else []

/-- A choice between patterns. -/
def choice (patterns : List Pattern) : Pattern :=
  match plainChoice patterns with
  | .either a b =>
      let all := choices (.either a b)
      match sharedStart all with
      | [] => .either a b
      | start =>
          sequence (start ++ [plainChoice (all.map fun p => ofParts (p.parts.drop start.length))])
  | a => a

end Pattern

end FlowProcessor
