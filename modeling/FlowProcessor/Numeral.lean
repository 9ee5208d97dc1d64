/-
  FlowProcessor.Numeral — NUMBERS AS TEXT.

  A number is a run of decimal digits, or `0x` followed by a run of hexadecimal digits of either
  case.  Leading zeros are allowed; signs, blanks and an upper case `X` are not.  The value has
  to fit in 32 bits.

    • `Numeral.Base.value` — the value of a run of digits in a base
    • `Numeral.read`       — the reader, with the reason of a refusal
    • `Numeral.hex`        — the writer of masks: `0x` and lower case digits
    • `Numeral.hexPadded`  — the writer of raw words: at least a given number of digits
-/
import FlowProcessor.InputError

namespace FlowProcessor.Numeral

/-! ## §1. Digits and their values. -/

/-- The base a number is written in. -/
inductive Base
  | decimal
  | hexadecimal
  deriving DecidableEq, Repr

/-- The number of digits of a base. -/
def Base.radix : Base → Nat
  | .decimal => 10
  | .hexadecimal => 16

/-- The defect of a text with a character that is no digit of its base. -/
def Base.defect : Base → Defect
  | .decimal => .notDecimal
  | .hexadecimal => .notHexadecimal

/-- The value of a hexadecimal digit of either case. -/
def hexDigit? (c : Char) : Option Nat :=
  if '0' ≤ c ∧ c ≤ '9' then some (c.toNat - 48)
  else if 'a' ≤ c ∧ c ≤ 'f' then some (c.toNat - 87)
  else if 'A' ≤ c ∧ c ≤ 'F' then some (c.toNat - 55)
  else none

/-- The value of a character as a digit of the base. -/
def Base.digit? (b : Base) (c : Char) : Option Nat :=
  (hexDigit? c).filter (· < b.radix)

/-- The value of a run of digits, most significant first; `none` if some character is no digit. -/
def Base.value (b : Base) (digits : List Char) : Option Nat :=
  digits.foldlM (fun n c => (b.digit? c).map (n * b.radix + ·)) 0

/-! ## §2. Reading. -/

/-- Separates the mark of the base from the digits. -/
def split : List Char → Base × List Char
  | '0' :: 'x' :: digits => (.hexadecimal, digits)
  | digits => (.decimal, digits)

/-- Reads a decimal number, or a hexadecimal one after `0x`. -/
def read (text : String) : Except InputError UInt32 :=
  let (base, digits) := split text.toList
  if digits = [] then .error (.malformed text .notANumber)
  else
    match base.value digits with
    | none => .error (.malformed text base.defect)
    | some n =>
        if h : n < UInt32.size then .ok (UInt32.ofNatLT n h)
        else .error (.outOfRange .number text)

/-! ## §3. Writing. -/

/-- The decimal digits of a word. -/
def decimal (n : UInt32) : String := n.toNat.repr

/-- The lower case hexadecimal digits of a number, without leading zeros. -/
def hexDigits (n : Nat) : List Char := Nat.toDigits 16 n

/-- A word as `0x` and its hexadecimal digits. -/
def hex (n : UInt32) : String := "0x" ++ String.ofList (hexDigits n.toNat)

/-- A word as `0x` and at least `width` hexadecimal digits. -/
def hexPadded (width : Nat) (n : UInt32) : String :=
  "0x" ++ String.ofList ((hexDigits n.toNat).leftpad width '0')

end FlowProcessor.Numeral
