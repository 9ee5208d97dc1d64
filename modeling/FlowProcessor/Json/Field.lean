/-
  FlowProcessor.Json.Field — VALUES AND RECORDS IN A DOCUMENT.

  A word, a truth value, a text or an optional value is read from one document; a record from an
  object whose members are named after the fields, or from an array of the fields in their order.

  Members that are no fields are ignored; a field given twice is refused.  What a missing field
  means depends on the form: `Slot.omitted` in an object, `Slot.cut` at the end of an array.
-/
import FlowProcessor.Json.Basic

namespace FlowProcessor.Json

/-! ## §1. Values. -/

/-- The text of a string. -/
def text? : Json → Option String
  | .string pieces => (Piece.decode pieces).map String.ofList
  | _ => none

/-- A truth value. -/
def bool? : Json → Option Bool
  | .bool value => some value
  | _ => none

/-- An unsigned integer below `bound`. -/
def below? (bound : Nat) : Json → Option (Fin bound)
  | .natural value => if h : value < bound then some ⟨value, h⟩ else none
  | _ => none

/-- A 32-bit word. -/
def word? (document : Json) : Option UInt32 := (document.below? UInt32.size).map UInt32.ofFin

/-- An array, element by element. -/
def list? {α : Type} (item? : Json → Option α) : Json → Option (List α)
  | .array items => items.mapM item?
  | _ => none

/-- A value that may be absent, in which case the document is `null`. -/
def option? {α : Type} (item? : Json → Option α) : Json → Option (Option α)
  | .null => some none
  | document => (item? document).map some

/-- A text as a string. -/
def ofText (text : String) : Json := .string (Piece.encode text.toList)

/-- A word as an integer. -/
def ofWord (word : UInt32) : Json := .natural word.toNat

/-- A value that may be absent, `null` standing for its absence. -/
def ofOption {α : Type} (write : α → Json) : Option α → Json
  | none => .null
  | some a => write a

/-! ## §2. Records. -/

/-- What a document says about a field. -/
inductive Slot
  /-- The field has a value. -/
  | given (document : Json)
  /-- The object has no member of that name. -/
  | omitted
  /-- The array ends before the field. -/
  | cut
  deriving Repr

/-- The members whose key is the name of the field. -/
def named (name : String) (members : List (String × Json)) : List Json :=
  members.filterMap fun member => if member.1 = name then some member.2 else none

/-- The only member of that name; refused when there are several. -/
def Slot.ofMembers? (members : List (String × Json)) (name : String) : Option Slot :=
  match named name members with
  | [] => some .omitted
  | [document] => some (.given document)
  | _ => none

/-- The elements of an array as the first fields; refused when there are too many. -/
def Slot.ofItems? : List String → List Json → Option (List Slot)
  | [], [] => some []
  | [], _ :: _ => none
  | _ :: fields, [] => (ofItems? fields []).map (.cut :: ·)
  | _ :: fields, item :: items => (ofItems? fields items).map (.given item :: ·)

/-- The members of an object with their keys as texts. -/
def members? (members : List (List Piece × Json)) : Option (List (String × Json)) :=
  members.mapM fun member => (Piece.decode member.1).map fun key => (String.ofList key, member.2)

/-- What a document says about each field of a record, in the order of the fields. -/
def record? (fields : List String) : Json → Option (List Slot)
  | .object members => (members? members).bind fun members => fields.mapM (Slot.ofMembers? members)
  | .array items => Slot.ofItems? fields items
  | _ => none

/-- The value of a field that has to be there. -/
def Slot.required? {α : Type} (item? : Json → Option α) : Slot → Option α
  | .given document => item? document
  | _ => none

/-- The value of an optional field: absent in an object means absent. -/
def Slot.optional? {α : Type} (item? : Json → Option α) : Slot → Option (Option α)
  | .given document => document.option? item?
  | .omitted => some none
  | .cut => none

/-- The value of a field with a default for its absence. -/
def Slot.orElse? {α : Type} (default : α) (item? : Json → Option α) : Slot → Option α
  | .given document => item? document
  | _ => some default

/-- A record as an object with its fields in order. -/
def ofFields (fields : List (String × Json)) : Json :=
  .object (fields.map fun field => (Piece.encode field.1.toList, field.2))

/-! ## §3. Alternatives. -/

/-- An alternative without content is written as its name, or as an object that maps it to `null`. -/
def unit? (name : String) : Json → Option Unit
  | .string pieces => if Piece.decode pieces = some name.toList then some () else none
  | .object [(key, .null)] => if Piece.decode key = some name.toList then some () else none
  | _ => none

/-- An alternative with content is written as an object that maps its name to the content. -/
def content? (name : String) : Json → Option Json
  | .object [(key, document)] => if Piece.decode key = some name.toList then some document else none
  | _ => none

/-! ## §4. Numbered tables. -/

/-- The number a key denotes: plain decimal digits without a leading zero. -/
def key? (pieces : List Piece) : Option UInt32 := do
  let digits ← pieces.mapM fun
    | .plain c => some c
    | _ => none
  match ← Token.integer? digits with
  | (digits, []) => (Json.natural (← Numeral.Base.decimal.value digits)).word?
  | _ => none

/-- The entries of a table numbered by words, in the order they are written. -/
def entries? {α : Type} (item? : Json → Option α) : Json → Option (List (UInt32 × α))
  | .object members => members.mapM fun member => do
      let key ← key? member.1
      let item ← item? member.2
      some (key, item)
  | _ => none

/-- A table numbered by words as an object. -/
def ofEntries {α : Type} (write : α → Json) (entries : List (UInt32 × α)) : Json :=
  .object (entries.map fun entry => (Piece.encode (Nat.toDigits 10 entry.1.toNat), write entry.2))

end FlowProcessor.Json
