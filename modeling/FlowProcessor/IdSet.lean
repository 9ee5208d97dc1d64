/-
  FlowProcessor.IdSet — SETS OF BOUNDED IDENTIFIERS IN ONE WORD.

  Bit `i` of the word says whether identifier `i` is a member.  The word is kept as it was given:
  a device may set bits beyond the range of identifiers, and they survive every operation that does
  not address them, but they are members of nothing.

    • `IdSet.contains` — membership, by the flag of the identifier
    • `IdSet.members`  — the view of a set as an ascending list
    • `IdSet.insert`, `IdSet.remove`, `IdSet.union` — each changes the flags it names and no other
    • `IdSet.isEmpty`  — whether the whole word is zero, which is more than having no members
-/
import FlowProcessor.Ident

namespace FlowProcessor

/-! ## §1. The type and its operations. -/

/-- A set of identifiers below `n`, as a word of flags. -/
structure IdSet (n : Nat) where
  bits : UInt32
  deriving DecidableEq, Repr

/-- The host destinations of a load-balance group. -/
abbrev DestSet : Type := IdSet destCount

/-- The load-balance groups a forwarding rule feeds. -/
abbrev GroupSet : Type := IdSet groupCount

namespace IdSet

variable {n : Nat}

/-- The set without members and without any other flag. -/
def empty : IdSet n := ⟨0⟩

/-- The word in which only flag `i` is set. -/
def flag (i : Fin n) : UInt32 := 1 <<< UInt32.ofNat i.val

/-- Membership: the identifier's flag is set. -/
def contains (s : IdSet n) (i : Fin n) : Bool := s.bits &&& flag i != 0

/-- Adds an identifier. -/
def insert (s : IdSet n) (i : Fin n) : IdSet n := ⟨s.bits ||| flag i⟩

/-- Takes an identifier out. -/
def remove (s : IdSet n) (i : Fin n) : IdSet n := ⟨s.bits &&& ~~~ flag i⟩

/-- All flags of both. -/
def union (s t : IdSet n) : IdSet n := ⟨s.bits ||| t.bits⟩

/-- The members in ascending order. -/
def members (s : IdSet n) : List (Fin n) := (List.finRange n).filter s.contains

/-- The number of members. -/
def size (s : IdSet n) : Nat := s.members.length

/-- Whether no flag at all is set, in the range of identifiers or beyond. -/
def isEmpty (s : IdSet n) : Bool := s.bits == 0

/-- The set with exactly the listed identifiers. -/
def ofList (ids : List (Fin n)) : IdSet n := ids.foldl insert empty

/-- The word of a set, eight hexadecimal digits wide, in the form of a log line. -/
def wordText (s : IdSet n) : String := "BitSet32(" ++ Numeral.hexPadded 8 s.bits ++ ")"

/-- The set as `0x` and hexadecimal digits. -/
def text (s : IdSet n) : String := Numeral.hex s.bits

end IdSet

end FlowProcessor
