/-
  FlowProcessor.Json.Text — STRINGS OF A JSON DOCUMENT.

  Between its quotes a string is a sequence of pieces: a character that stands for itself, a short
  escape such as `\n`, or a UTF-16 code unit `\u00e9`.  The pieces are kept as written, because
  what a piece means matters only where the string is used: a document may carry a lone surrogate
  in a member that nobody reads.

    • `Piece.scan`   — from the characters after the opening quote to the pieces
    • `Piece.decode` — from the pieces to the text they denote; refuses lone surrogates
    • `Piece.encode` — from a text to its pieces: only quotes, backslashes and controls are escaped
-/
import FlowProcessor.Numeral

namespace FlowProcessor.Json

/-! ## §1. Pieces. -/

/-- One element of a string between its quotes. -/
inductive Piece
  /-- A character that stands for itself. -/
  | plain (c : Char)
  /-- A backslash and a letter. -/
  | short (letter : Char)
  /-- A backslash, `u` and four hexadecimal digits: one UTF-16 code unit. -/
  | unit (value : Nat)
  deriving DecidableEq, Repr

namespace Piece

/-- The character a short escape stands for. -/
def shortValue? : Char → Option Char
  | '"' => some '"'
  | '\\' => some '\\'
  | '/' => some '/'
  | 'b' => some '\x08'
  | 'f' => some '\x0c'
  | 'n' => some '\n'
  | 'r' => some '\r'
  | 't' => some '\t'
  | _ => none

/-- The value of four hexadecimal digits. -/
def unitValue? (a b c d : Char) : Option Nat := Numeral.Base.hexadecimal.value [a, b, c, d]

/-! ## §2. Scanning. -/

/-- Reads up to the closing quote; the second part is what follows it. -/
def scan : List Char → Option (List Piece × List Char)
  | [] => none
  | '"' :: cs => some ([], cs)
  | '\\' :: 'u' :: a :: b :: c :: d :: cs => do
      let value ← unitValue? a b c d
      let (pieces, rest) ← scan cs
      some (.unit value :: pieces, rest)
  | '\\' :: letter :: cs => do
      let _ ← shortValue? letter
      let (pieces, rest) ← scan cs
      some (.short letter :: pieces, rest)
  | c :: cs =>
      if c < ' ' then none
      else do
        let (pieces, rest) ← scan cs
        some (.plain c :: pieces, rest)

/-! ## §3. Meaning. -/

/-- Whether a code unit is the first half of a pair. -/
def isHigh (u : Nat) : Bool := 0xD800 ≤ u && u ≤ 0xDBFF

/-- Whether a code unit is the second half of a pair. -/
def isLow (u : Nat) : Bool := 0xDC00 ≤ u && u ≤ 0xDFFF

/-- The character of a surrogate pair. -/
def pair (high low : Nat) : Char :=
  Char.ofNat (0x10000 + (high - 0xD800) * 0x400 + (low - 0xDC00))

/-- The text the pieces denote; a surrogate without its partner denotes nothing. -/
def decode : List Piece → Option (List Char)
  | [] => some []
  | .plain c :: ps => (decode ps).map (c :: ·)
  | .short letter :: ps => do
      let c ← shortValue? letter
      (decode ps).map (c :: ·)
  | .unit high :: .unit low :: ps =>
      if isHigh high then
        if isLow low then (decode ps).map (pair high low :: ·) else none
      else if isLow high then none
      else (decode (.unit low :: ps)).map (Char.ofNat high :: ·)
  | .unit u :: ps =>
      if isHigh u || isLow u then none else (decode ps).map (Char.ofNat u :: ·)

/-- The piece that writes a character: short escapes where there are some, units for the other
controls, the character itself everywhere else. -/
def ofChar (c : Char) : Piece :=
  if c = '"' then .short '"'
  else if c = '\\' then .short '\\'
  else if c = '\x08' then .short 'b'
  else if c = '\x0c' then .short 'f'
  else if c = '\n' then .short 'n'
  else if c = '\r' then .short 'r'
  else if c = '\t' then .short 't'
  else if c < ' ' then .unit c.toNat
  else .plain c

/-- The pieces that write a text. -/
def encode (cs : List Char) : List Piece := cs.map ofChar

/-- The characters of a piece. -/
def chars : Piece → List Char
  | .plain c => [c]
  | .short letter => ['\\', letter]
  | .unit value => '\\' :: 'u' :: (Numeral.hexDigits value).leftpad 4 '0'

end Piece

end FlowProcessor.Json
