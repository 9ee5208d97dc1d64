/-
  FlowProcessor.InputError — WHAT CAN BE WRONG WITH A TEXT A CALLER HANDS IN.

  An input error is found before any device is touched.  There are two kinds: the text does not
  have the expected form, or it denotes a number that is too large.  The wording of both lives in
  `InputError.complaint`; the readers construct causes, never sentences.

  The first word is left to the caller of `complaint`: a library error begins with a lower case
  letter (`InputError.message`), a diagnostic of a tool with an upper case one.
-/

namespace FlowProcessor

/-! ## §1. Quantities with a largest value. -/

/-- A quantity that is written as a number and has a largest admissible value. -/
inductive Quantity
  | number
  | device
  | group
  | destination
  | vlan
  deriving DecidableEq, Repr

/-- The name under which a diagnostic speaks of the quantity. -/
def Quantity.label : Quantity → String
  | .number => "number"
  | .device => "device"
  | .group => "group ID"
  | .destination => "destination ID"
  | .vlan => "VLAN ID"

/-- The largest admissible value. -/
def Quantity.limit : Quantity → Nat
  | .number => 4294967295
  | .device => 3
  | .group => 23
  | .destination => 31
  | .vlan => 4094

/-! ## §2. Defects of form. -/

/-- The ways in which a text misses the expected form. -/
inductive Defect
  /-- No digits at all. -/
  | notANumber
  /-- A character that is no decimal digit. -/
  | notDecimal
  /-- A character that is no hexadecimal digit, after `0x`. -/
  | notHexadecimal
  /-- A character that occurs in no number and no list. -/
  | foreignCharacter
  /-- Nothing between two commas of a destination list. -/
  | emptyDestination
  /-- No colon between a group and its bitmask. -/
  | notGroupBitmask
  /-- No colon between a group and its list. -/
  | notGroupList
  /-- Neither two nor three fields of an interface. -/
  | notInterface
  /-- A value given to an action that takes none. -/
  | flagWithValue (flag : String)
  /-- A defect in a caller's own words. -/
  | noted (text : String)
  deriving DecidableEq, Repr

/-- The wording of a defect. -/
def Defect.text : Defect → String
  | .notANumber => "expected a number"
  | .notDecimal => "not a decimal number"
  | .notHexadecimal => "not a hexadecimal number"
  | .foreignCharacter => "unexpected character"
  | .emptyDestination => "empty destination ID"
  | .notGroupBitmask => "expected group:bitmask"
  | .notGroupList => "expected group:list"
  | .notInterface => "expected <phy>:[<vlan>:]<lif>"
  | .flagWithValue flag => "--" ++ flag ++ " takes no value"
  | .noted text => text

/-! ## §3. Input errors. -/

/-- Why a text is refused. -/
inductive InputError
  /-- The text does not have the expected form. -/
  | malformed (text : String) (defect : Defect)
  /-- The number, in the spelling `value`, is beyond the limit of its quantity. -/
  | outOfRange (quantity : Quantity) (value : String)
  deriving DecidableEq, Repr

/-- The diagnostic without its first word. -/
def InputError.complaint : InputError → String
  | .malformed text defect => " format '" ++ text ++ "': " ++ defect.text
  | .outOfRange quantity value =>
      " " ++ quantity.label ++ " (" ++ value ++ ") specified, valid values are 0-"
        ++ quantity.limit.repr

/-- The diagnostic of a reader. -/
def InputError.message (e : InputError) : String := "invalid" ++ e.complaint

end FlowProcessor
