/-
  FlowProcessor.Json.Token — THE TOKENS OF A JSON DOCUMENT.

  Blanks, tabs and line ends separate tokens and mean nothing.  Of a number only what the tables of
  a platform can hold is kept: an unsigned integer has its value, and a number with a sign, a
  fraction or an exponent is just that.

    • `Token.lex`   — from characters to tokens
    • `Token.chars` — the characters of a token
-/
import FlowProcessor.Json.Text

namespace FlowProcessor.Json

/-- A token of a document. -/
inductive Token
  | openBrace
  | closeBrace
  | openBracket
  | closeBracket
  | colon
  | comma
  | null
  | bool (value : Bool)
  /-- An integer without sign, fraction and exponent. -/
  | natural (value : Nat)
  /-- Any other number. -/
  | otherNumber
  | string (pieces : List Piece)
  deriving DecidableEq, Repr

namespace Token

/-! ## §1. Numbers. -/

/-- Drops one or more decimal digits. -/
def dropDigits? (cs : List Char) : Option (List Char) :=
  match cs with
  | [] => none
  | c :: rest => if c.isDigit then some (rest.dropWhile Char.isDigit) else none

/-- Drops the sign of an exponent, if there is one. -/
def dropSign : List Char → List Char
  | '+' :: cs => cs
  | '-' :: cs => cs
  | cs => cs

/-- Drops an exponent if one starts here; `true` reports that there was one. -/
def dropExponent? : List Char → Option (Bool × List Char)
  | 'e' :: cs => (dropDigits? (dropSign cs)).map (true, ·)
  | 'E' :: cs => (dropDigits? (dropSign cs)).map (true, ·)
  | cs => some (false, cs)

/-- Drops a fraction and an exponent if they start here; `true` reports that there was one. -/
def dropTail? : List Char → Option (Bool × List Char)
  | '.' :: cs => do
      let rest ← dropDigits? cs
      let (_, rest) ← dropExponent? rest
      some (true, rest)
  | cs => dropExponent? cs

/-- Splits off the integer digits; a zero stands alone. -/
def integer? : List Char → Option (List Char × List Char)
  | '0' :: cs => some (['0'], cs)
  | c :: cs =>
      if c.isDigit then some (c :: cs.takeWhile Char.isDigit, cs.dropWhile Char.isDigit) else none
  | [] => none

/-- Reads an unsigned number. -/
def unsigned? (cs : List Char) : Option (Token × List Char) := do
  let (digits, rest) ← integer? cs
  let (tailed, rest) ← dropTail? rest
  let value ← Numeral.Base.decimal.value digits
  some (if tailed then .otherNumber else .natural value, rest)

/-- Reads a number. -/
def number? : List Char → Option (Token × List Char)
  | '-' :: cs => (unsigned? cs).map fun (_, rest) => (.otherNumber, rest)
  | cs => unsigned? cs

/-! ## §2. Lexing. -/

/-- Whether a character only separates tokens. -/
def isBlank (c : Char) : Bool := c == ' ' || c == '\t' || c == '\n' || c == '\r'

/-- Reads the token at the head of a text that starts with no blank. -/
def next? : List Char → Option (Token × List Char)
  | '\x7b' :: cs => some (.openBrace, cs)
  | '\x7d' :: cs => some (.closeBrace, cs)
  | '[' :: cs => some (.openBracket, cs)
  | ']' :: cs => some (.closeBracket, cs)
  | ':' :: cs => some (.colon, cs)
  | ',' :: cs => some (.comma, cs)
  | 'n' :: 'u' :: 'l' :: 'l' :: cs => some (.null, cs)
  | 't' :: 'r' :: 'u' :: 'e' :: cs => some (.bool true, cs)
  | 'f' :: 'a' :: 'l' :: 's' :: 'e' :: cs => some (.bool false, cs)
  | '"' :: cs => (Piece.scan cs).map fun (pieces, rest) => (.string pieces, rest)
  | cs => number? cs

/-- Reads all tokens; `fuel` bounds the number of characters. -/
def lexWith : Nat → List Char → Option (List Token)
  | _, [] => some []
  | 0, _ :: _ => none
  | fuel + 1, c :: cs =>
      if isBlank c then lexWith fuel cs
      else do
        let (token, rest) ← next? (c :: cs)
        (lexWith fuel rest).map (token :: ·)

/-- Reads all tokens of a text. -/
def lex (cs : List Char) : Option (List Token) := lexWith cs.length cs

/-! ## §3. Writing. -/

/-- The characters of a token.  A number that is no natural has lost its spelling and is written
as the simplest of its kind. -/
def chars : Token → List Char
  | .openBrace => ['\x7b']
  | .closeBrace => ['\x7d']
  | .openBracket => ['[']
  | .closeBracket => [']']
  | .colon => [':']
  | .comma => [',']
  | .null => ['n', 'u', 'l', 'l']
  | .bool true => ['t', 'r', 'u', 'e']
  | .bool false => ['f', 'a', 'l', 's', 'e']
  | .natural value => Nat.toDigits 10 value
  | .otherNumber => ['-', '1']
  | .string pieces => '"' :: pieces.flatMap Piece.chars ++ ['"']

end Token

end FlowProcessor.Json
