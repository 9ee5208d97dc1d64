/-
  FlowProcessor.Logging.Pattern.Notation — PATTERNS AS THEY ARE WRITTEN.

      L2          a text                    a|b     a choice
      .           any character             a* a+   repetitions; `a*?` prefers less
      [a-f]       a character of a set      a?      at most once
      ^ $         the first and last place  (a)     a group; `(?<n>a)` has a name
      \d \x41 \(  escapes                   (?:a)   a group without a number
      (?i) (?i:a) modes for the rest of the group, and for a group

  A brace opens a count.  It can not be closed, because a demand on a detail ends at the first
  closing brace, so a pattern with a brace outside of a set is refused.

    • `Pattern.read` — from the notation to a pattern
-/
import FlowProcessor.Logging.Alphanumeric
import FlowProcessor.Logging.Pattern.SetNotation

namespace FlowProcessor

/-! ## §1. Groups under construction. -/

/-- A piece of a pattern. -/
structure Piece where
  pattern : Pattern
  /-- How deep what it was written with is nested. -/
  depth : Nat
  /-- It can be repeated; modes can not. -/
  isRepeatable : Bool
  deriving DecidableEq, Repr

namespace Piece

/-- A piece that is written without others. -/
def plain (pattern : Pattern) : Piece := ⟨pattern, 0, true⟩

/-- Modes. -/
def modes : Piece := ⟨.nothing, 0, false⟩

/-- The depth of pieces that are written together. -/
def joinedDepth : List Piece → Nat
  | [] => 0
  | [a] => a.depth
  | pieces => pieces.foldl (fun depth a => max depth a.depth) 0 + 1

/-- Pieces one after the other. -/
def sequence (pieces : List Piece) : Piece :=
  ⟨.sequence (pieces.map (·.pattern)), joinedDepth pieces, true⟩

/-- A choice between pieces. -/
def choice (pieces : List Piece) : Piece :=
  ⟨.choice (pieces.map (·.pattern)), joinedDepth pieces, true⟩

end Piece

/-- A group under construction: the choices that are complete, and the pieces of the last one, the
latest first. -/
structure GroupDraft where
  choices : List Piece
  pieces : List Piece
  deriving DecidableEq, Repr

namespace GroupDraft

/-- A group without anything. -/
def start : GroupDraft := ⟨[], []⟩

/-- Adds a piece. -/
def add (g : GroupDraft) (a : Piece) : GroupDraft := { g with pieces := a :: g.pieces }

/-- Completes a choice. -/
def split (g : GroupDraft) : GroupDraft := ⟨g.choices ++ [.sequence g.pieces.reverse], []⟩

/-- What was read so far. -/
def whole (g : GroupDraft) : Piece :=
  match g.choices with
  | [] => .sequence g.pieces.reverse
  | _ => .choice g.split.choices

/-- Repeats the latest piece; there has to be one. -/
def repeat? (g : GroupDraft) (times : Times) (greedy : Bool) : Option GroupDraft :=
  match g.pieces with
  | [] => none
  | a :: pieces =>
      if a.isRepeatable then
        let repeated : Piece := ⟨.repetition a.pattern times greedy, a.depth + 1, true⟩
        some { g with pieces := repeated :: pieces }
      else none

end GroupDraft

/-- A group that goes on when the one inside of it is complete. -/
structure OuterGroup where
  draft : GroupDraft
  modes : Modes
  /-- The number of the group inside, if it has one. -/
  number : Option Nat
  deriving DecidableEq, Repr

/-- A pattern under construction. -/
structure PatternDraft where
  group : GroupDraft
  outer : List OuterGroup
  modes : Modes
  /-- How many groups have a number. -/
  count : Nat
  /-- The names of groups. -/
  names : List (List Char)
  deriving DecidableEq, Repr

namespace PatternDraft

/-- A pattern without anything. -/
def start : PatternDraft := ⟨.start, [], {}, 0, []⟩

/-! ## §2. Parts of the notation. -/

/-- Adds a piece. -/
def add (d : PatternDraft) (a : Piece) : PatternDraft := { d with group := d.group.add a }

/-- Begins a group, in modes of its own. -/
def openWith (d : PatternDraft) (modes : Modes) (number : Option Nat) : PatternDraft :=
  { d with group := .start, outer := ⟨d.group, d.modes, number⟩ :: d.outer, modes := modes }

/-- Begins a group with the next number. -/
def openNumbered (d : PatternDraft) : PatternDraft :=
  { d.openWith d.modes (some d.count) with count := d.count + 1 }

/-- Whether characters are a name for a group. -/
def isName : List Char → Bool
  | [] => false
  | c :: cs =>
      (c == '_' || isAlphabetic c)
        && cs.all fun c => c == '_' || c == '.' || c == '[' || c == ']' || isAlphanumeric c

/-- Begins a group with a name, which ends at an angle bracket and may be given only once. -/
def openNamed? (d : PatternDraft) (cs : List Char) : Option (PatternDraft × List Char) :=
  let name := cs.takeWhile (· != '>')
  match cs.dropWhile (· != '>') with
  | [] => none
  | _ :: cs =>
      if isName name && !d.names.contains name then
        some ({ d.openNumbered with names := name :: d.names }, cs)
      else none

/-- Switches modes, for the rest of the group or for a group that begins here. -/
def switchModes? (d : PatternDraft) (cs : List Char) : Option (PatternDraft × List Char) :=
  let isEnd (c : Char) : Bool := c == ':' || c == ')'
  let letters := cs.takeWhile (!isEnd ·)
  (d.modes.switched? letters).bind fun modes =>
    match cs.dropWhile (!isEnd ·) with
    | [] => none
    | c :: cs =>
        if c = ':' then some (d.openWith modes none, cs)
        else if letters = [] then none
        else some ({ d with modes := modes }.add .modes, cs)

/-- Begins a group after its parenthesis. -/
def openGroup? (d : PatternDraft) (cs : List Char) : Option (PatternDraft × List Char) :=
  match skipSpace d.modes cs with
  | '?' :: 'P' :: '<' :: cs => d.openNamed? cs
  | '?' :: '<' :: cs => d.openNamed? cs
  | '?' :: cs => d.switchModes? cs
  | cs => some (d.openNumbered, cs)

/-- Completes a group, which has to be open. -/
def closeGroup? (d : PatternDraft) : Option PatternDraft :=
  match d.outer with
  | [] => none
  | around :: outer =>
      let inner := d.group.whole
      let pattern := match around.number with
        | some number => .group number inner.pattern
        | none => inner.pattern
      some { d with
        group := around.draft.add ⟨pattern, inner.depth + 1, true⟩
        outer := outer
        modes := around.modes }

/-- Repeats the latest piece; a question mark right behind the sign makes it prefer less. -/
def repeat? (d : PatternDraft) (times : Times) (cs : List Char) :
    Option (PatternDraft × List Char) :=
  let (greedy, cs) := match cs with
    | '?' :: cs => (false, cs)
    | cs => (true, cs)
  (d.group.repeat? times (greedy != d.modes.swapped)).map fun g => ({ d with group := g }, cs)

/-- Adds a pattern, if there is one. -/
def addPlain? (d : PatternDraft) (a : Option Pattern) (cs : List Char) :
    Option (PatternDraft × List Char) :=
  a.map fun a => (d.add (.plain a), cs)

/-- Reads what follows a backslash. -/
def escape? (d : PatternDraft) (cs : List Char) : Option (PatternDraft × List Char) :=
  (Escape.read d.modes cs).bind fun (e, cs) =>
    match e with
    | .character w => d.addPlain? (d.modes.ofChar? w) cs
    | .letterClass k => d.addPlain? (d.modes.ofClass? k) cs
    | .boundary b => d.addPlain? (d.modes.ofBoundary? b) cs

/-- Reads a set after its bracket. -/
def set? (d : PatternDraft) (cs : List Char) : Option (PatternDraft × List Char) :=
  (readSet d.modes cs).map fun (s, cs) =>
    (d.add ⟨.ofSet s.set d.modes.alphabet, s.depth, true⟩, cs)

/-- Reads what begins with a character. -/
def step? (d : PatternDraft) (c : Char) (cs : List Char) : Option (PatternDraft × List Char) :=
  match c with
  | '(' => d.openGroup? cs
  | ')' => d.closeGroup?.map fun d => (d, cs)
  | '|' => some ({ d with group := d.group.split }, cs)
  | '[' => d.set? cs
  | '?' => d.repeat? .atMostOnce cs
  | '*' => d.repeat? .anyTimes cs
  | '+' => d.repeat? .atLeastOnce cs
  | '\x7b' => none
  | '\\' => d.escape? cs
  | '.' => d.addPlain? d.modes.ofPoint? cs
  | '^' => d.addPlain? (d.modes.ofBoundary? .lineStart) cs
  | '$' => d.addPlain? (d.modes.ofBoundary? .lineEnd) cs
  | c => d.addPlain? (d.modes.ofChar? ⟨c, false⟩) cs

/-! ## §3. Whole patterns. -/

/-- Reads the rest of a pattern; `fuel` bounds its length. -/
def readFrom : Nat → PatternDraft → List Char → Option Piece
  | 0, _, _ => none
  | fuel + 1, d, cs =>
      match skipSpace d.modes cs with
      | [] => if d.outer.isEmpty then some d.group.whole else none
      | c :: cs => (d.step? c cs).bind fun (d, cs) => readFrom fuel d cs

end PatternDraft

namespace Pattern

/-- The greatest depth to which groups, repetitions, sequences, choices and sets may be nested. -/
def depthLimit : Nat := 250

/-- Reads a pattern. -/
def read (cs : List Char) : Option Pattern :=
  (PatternDraft.readFrom (cs.length + 1) .start cs).bind fun a =>
    if a.depth ≤ depthLimit then some a.pattern else none

end Pattern

end FlowProcessor
