/-
  FlowProcessor.Destinations — DESTINATION SETS AS TEXT.

  A destination set is written as a bitmask (`0x3f`, `63`) or as a list of identifiers separated
  by commas (`0,1,2`).  A listing shows its members in ascending order, or says that there are
  none.
-/
import FlowProcessor.IdSet

namespace FlowProcessor

/-! ## §1. Reading. -/

/-- The characters of numbers. -/
def isNumberChar (c : Char) : Bool := (Numeral.hexDigit? c).isSome || c == 'x'

/-- The characters of lists of numbers. -/
def isListChar (c : Char) : Bool := isNumberChar c || c == ','

/-- Reads a bitmask. -/
def DestSet.readBitmask (text : String) : Except InputError DestSet :=
  if text.toList.all isNumberChar then (Numeral.read text).map IdSet.mk
  else .error (.malformed text .foreignCharacter)

/-- Cuts a text at every occurrence of a separator; there is always at least one piece. -/
def splitAt (sep : Char) : List Char → List (List Char)
  | [] => [[]]
  | c :: cs =>
      if c = sep then [] :: splitAt sep cs
      else
        match splitAt sep cs with
        | [] => [[c]]
        | piece :: pieces => (c :: piece) :: pieces

/-- Reads one entry of the list `text`. -/
def DestSet.readEntry (text : String) (entry : List Char) : Except InputError DestId :=
  if entry = [] then .error (.malformed text .emptyDestination)
  else DestId.read (String.ofList entry)

/-- Reads a list of destinations; the leftmost defect counts, repetitions are harmless. -/
def DestSet.readList (text : String) : Except InputError DestSet :=
  if text.toList.all isListChar then
    ((splitAt ',' text.toList).mapM (DestSet.readEntry text)).map IdSet.ofList
  else .error (.malformed text .foreignCharacter)

/-! ## §2. Listing. -/

/-- What is shown of a destination set. -/
inductive Listing
  /-- No flag is set. -/
  | noDestinations
  /-- The members in ascending order. -/
  | members (ids : List DestId)
  deriving DecidableEq, Repr

/-- The listing of a set. -/
def Listing.ofSet (s : DestSet) : Listing :=
  if s.isEmpty then .noDestinations else .members s.members

/-- The text of a listing. -/
def Listing.text : Listing → String
  | .noDestinations => "No destinations defined"
  | .members ids => " ".intercalate (ids.map idText)

end FlowProcessor
