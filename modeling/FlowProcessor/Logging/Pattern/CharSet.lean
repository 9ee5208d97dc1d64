/-
  FlowProcessor.Logging.Pattern.CharSet — SETS OF CHARACTERS.

  A set is kept as ascending ranges of code points that neither overlap nor touch, so that two sets
  of the same characters are equal.

    • `CharSet.contains`           — whether a character is in a set
    • `CharSet.union`, `CharSet.complement`, `CharSet.combine` — sets from sets
    • `CharSet.named?`             — the sets that have a name
-/

namespace FlowProcessor

/-- Some characters: ascending ranges of code points, both ends included. -/
structure CharSet where
  ranges : List (Nat × Nat)
  deriving DecidableEq, Repr

namespace CharSet

/-! ## §1. Basic sets. -/

/-- The largest code point. -/
def lastCode : Nat := 0x10FFFF

/-- The largest code point of ASCII. -/
def lastAscii : Nat := 0x7F

/-- No character. -/
def empty : CharSet := ⟨[]⟩

/-- The characters from one to another. -/
def range (first last : Char) : CharSet := ⟨[(first.toNat, last.toNat)]⟩

/-- One character. -/
def single (c : Char) : CharSet := range c c

/-- Whether a character is in a set. -/
def contains (s : CharSet) (c : Char) : Bool :=
  s.ranges.any fun r => r.1 ≤ c.toNat && c.toNat ≤ r.2

/-- The character of a set of one. -/
def only? (s : CharSet) : Option Char :=
  match s.ranges with
  | [(first, last)] => if first = last then some (Char.ofNat first) else none
  | _ => none

/-! ## §2. Sets from sets. -/

/-- Adds a range to ascending ranges and joins it with those that it overlaps or touches. -/
def insertRange (r : Nat × Nat) : List (Nat × Nat) → List (Nat × Nat)
  | [] => [r]
  | q :: qs =>
      if r.2 + 1 < q.1 then r :: q :: qs
      else if q.2 + 1 < r.1 then q :: insertRange r qs
      else insertRange (min r.1 q.1, max r.2 q.2) qs

/-- The characters of either set. -/
def union (s t : CharSet) : CharSet :=
  ⟨t.ranges.foldl (fun ranges r => insertRange r ranges) s.ranges⟩

/-- The ranges between ascending ranges, from a code point on. -/
def gaps : Nat → List (Nat × Nat) → List (Nat × Nat)
  | first, [] => if first ≤ lastCode then [(first, lastCode)] else []
  | first, q :: qs =>
      if first < q.1 then (first, q.1 - 1) :: gaps (q.2 + 1) qs else gaps (q.2 + 1) qs

/-- The characters that are not in a set. -/
def complement (s : CharSet) : CharSet := ⟨gaps 0 s.ranges⟩

/-- All characters. -/
def full : CharSet := empty.complement

/-- How two sets are put together. -/
inductive Operator
  /-- What is in both. -/
  | both
  /-- What is in the first alone. -/
  | firstOnly
  /-- What is in one of them alone. -/
  | oneOnly
  deriving DecidableEq, Repr

/-- Puts two sets together. -/
def combine (operator : Operator) (s t : CharSet) : CharSet :=
  let inBoth := (s.complement.union t.complement).complement
  match operator with
  | .both => inBoth
  | .firstOnly => (s.complement.union t).complement
  | .oneOnly => ((s.union t).complement.union inBoth).complement

/-- The letters of ASCII among some ranges, moved between the two cases by a distance. -/
def shifted (first last : Nat) (move : Nat → Nat) (s : CharSet) : CharSet :=
  s.ranges.foldl (fun t r =>
    let low := max r.1 first
    let high := min r.2 last
    if low ≤ high then t.union ⟨[(move low, move high)]⟩ else t) empty

/-- The characters of a set, each letter of ASCII in both cases. -/
def bothCases (s : CharSet) : CharSet :=
  (s.union (s.shifted 0x61 0x7A (· - 0x20))).union (s.shifted 0x41 0x5A (· + 0x20))

/-! ## §3. Sets with a name. -/

/-- The set of some ranges. -/
def ofRanges (ranges : List (Char × Char)) : CharSet :=
  ranges.foldl (fun s r => s.union (range r.1 r.2)) empty

/-- The decimal digits. -/
def digits : CharSet := range '0' '9'

/-- The characters of words. -/
def wordCharacters : CharSet := ofRanges [('0', '9'), ('A', 'Z'), ('_', '_'), ('a', 'z')]

/-- The blanks and the ends of lines. -/
def blanks : CharSet := ofRanges [('\t', '\r'), (' ', ' ')]

/-- The sets of ASCII that have a name. -/
def named? : String → Option CharSet
  | "alnum" => some (ofRanges [('0', '9'), ('A', 'Z'), ('a', 'z')])
  | "alpha" => some (ofRanges [('A', 'Z'), ('a', 'z')])
  | "ascii" => some (range '\x00' '\x7f')
  | "blank" => some (ofRanges [('\t', '\t'), (' ', ' ')])
  | "cntrl" => some (ofRanges [('\x00', '\x1f'), ('\x7f', '\x7f')])
  | "digit" => some digits
  | "graph" => some (range '!' '~')
  | "lower" => some (range 'a' 'z')
  | "print" => some (range ' ' '~')
  | "punct" => some (ofRanges [('!', '/'), (':', '@'), ('[', '\x60'), ('\x7b', '~')])
  | "space" => some blanks
  | "upper" => some (range 'A' 'Z')
  | "word" => some wordCharacters
  | "xdigit" => some (ofRanges [('0', '9'), ('A', 'F'), ('a', 'f')])
  | _ => none

end CharSet

/-- Whether a character is one of a word. -/
def isWordCharacter (c : Char) : Bool := CharSet.wordCharacters.contains c

end FlowProcessor
