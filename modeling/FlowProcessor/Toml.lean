/-
  FlowProcessor.Toml — FLAT TOML FILES.

  A settings file is a TOML document whose values are texts and lists of integers under plain keys
  at the top.  Everything else a document may hold (tables, dotted keys, dates, fractions, truth
  values) has no place among the settings, so it is refused where it is met.

    • `Toml.text?`     — a text in one of the four notations
    • `Toml.integers?` — a list of integers
    • `Toml.read`      — a whole file as its keys and values, in order; no key occurs twice
-/
import FlowProcessor.Numeral

namespace FlowProcessor

/-- A value of a flat file. -/
inductive TomlValue
  | text (text : String)
  | integers (items : List Int)
  deriving DecidableEq, Repr

namespace Toml

/-! ## §1. Blanks, comments and line ends. -/

/-- Whether a character is a blank within a line. -/
def isBlank (c : Char) : Bool := c == ' ' || c == '\t'

/-- Drops the blanks at the head of a text. -/
def dropBlanks (cs : List Char) : List Char := cs.dropWhile isBlank

/-- Whether a character may stand in a comment or in a text as it is. -/
def isOrdinary (c : Char) : Bool := c == '\t' || (' ' ≤ c && c != '\x7f')

/-- Drops a comment, if one starts here. -/
def dropComment : List Char → List Char
  | '#' :: cs => cs.dropWhile isOrdinary
  | cs => cs

/-- What follows a line end, if there is one here. -/
def afterNewline? : List Char → Option (List Char)
  | '\n' :: cs => some cs
  | '\r' :: '\n' :: cs => some cs
  | _ => none

/-- Drops the rest of a line that holds nothing more than blanks and a comment. -/
def endOfLine? (cs : List Char) : Option (List Char) :=
  match dropComment (dropBlanks cs) with
  | [] => some []
  | cs => afterNewline? cs

/-- Drops blanks, comments and line ends; `fuel` bounds the number of lines. -/
def dropLines : Nat → List Char → List Char
  | 0, cs => cs
  | fuel + 1, cs =>
      let rest := dropComment (dropBlanks cs)
      match afterNewline? rest with
      | some rest => dropLines fuel rest
      | none => rest

/-! ## §2. Texts. -/

/-- The character of a code point; surrogates and numbers beyond the last one denote none. -/
def scalar? (n : Nat) : Option Char :=
  if h : n.isValidChar then some (Char.ofNatAux n h) else none

/-- Puts a character in front of a text that was read. -/
def consTo (c : Char) (r : Option (List Char × List Char)) : Option (List Char × List Char) :=
  r.map fun (text, rest) => (c :: text, rest)

/-- Puts the character of a code point in front of a text that was read. -/
def consScalar (digits : List Char) (r : Option (List Char × List Char)) :
    Option (List Char × List Char) := do
  let n ← Numeral.Base.hexadecimal.value digits
  let c ← scalar? n
  consTo c r

/-- The character of a short escape. -/
def escape? : Char → Option Char
  | 'b' => some '\x08'
  | 't' => some '\t'
  | 'n' => some '\n'
  | 'f' => some '\x0c'
  | 'r' => some '\r'
  | '"' => some '"'
  | '\\' => some '\\'
  | _ => none

/-- A text of one line with escapes, after its opening quote. -/
def basic? : List Char → Option (List Char × List Char)
  | [] => none
  | '"' :: cs => some ([], cs)
  | '\\' :: 'u' :: a :: b :: c :: d :: cs => consScalar [a, b, c, d] (basic? cs)
  | '\\' :: 'U' :: a :: b :: c :: d :: e :: f :: g :: h :: cs =>
      consScalar [a, b, c, d, e, f, g, h] (basic? cs)
  | '\\' :: letter :: cs => (escape? letter).bind fun c => consTo c (basic? cs)
  | c :: cs => if isOrdinary c then consTo c (basic? cs) else none

/-- A text of one line without escapes, after its opening quote. -/
def literal? : List Char → Option (List Char × List Char)
  | [] => none
  | '\'' :: cs => some ([], cs)
  | c :: cs => if isOrdinary c then consTo c (literal? cs) else none

/-- Whether the rest of a line is blank, so that a backslash before it joins the lines. -/
def joins (cs : List Char) : Bool := (afterNewline? (dropBlanks cs)).isSome

/-- Drops blanks and line ends. -/
def dropSpace : List Char → List Char
  | [] => []
  | ' ' :: cs => dropSpace cs
  | '\t' :: cs => dropSpace cs
  | '\n' :: cs => dropSpace cs
  | '\r' :: '\n' :: cs => dropSpace cs
  | cs => cs

/-- The closing quotes of a text of several lines; up to two more belong to the text. -/
def closing? (quote : Char) : List Char → Option (List Char × List Char)
  | a :: b :: c :: cs =>
      if a = quote ∧ b = quote ∧ c = quote then
        match cs with
        | d :: e :: rest =>
            if d = quote then
              if e = quote then some ([quote, quote], rest) else some ([quote], e :: rest)
            else some ([], d :: e :: rest)
        | [d] => if d = quote then some ([quote], []) else some ([], [d])
        | [] => some ([], [])
      else none
  | _ => none

/-- A text of several lines with escapes, after its opening quotes; `fuel` bounds its length. -/
def basicLines? : Nat → List Char → Option (List Char × List Char)
  | 0, _ => none
  | fuel + 1, cs =>
      match closing? '"' cs with
      | some result => some result
      | none =>
          match cs with
          | [] => none
          | '\r' :: '\n' :: cs => consTo '\n' (basicLines? fuel cs)
          | '\n' :: cs => consTo '\n' (basicLines? fuel cs)
          | '\\' :: 'u' :: a :: b :: c :: d :: cs => consScalar [a, b, c, d] (basicLines? fuel cs)
          | '\\' :: 'U' :: a :: b :: c :: d :: e :: f :: g :: h :: cs =>
              consScalar [a, b, c, d, e, f, g, h] (basicLines? fuel cs)
          | '\\' :: cs =>
              if joins cs then basicLines? fuel (dropSpace cs)
              else
                match cs with
                | letter :: cs => (escape? letter).bind fun c => consTo c (basicLines? fuel cs)
                | [] => none
          | c :: cs => if isOrdinary c then consTo c (basicLines? fuel cs) else none

/-- A text of several lines without escapes, after its opening quotes; `fuel` bounds its length. -/
def literalLines? : Nat → List Char → Option (List Char × List Char)
  | 0, _ => none
  | fuel + 1, cs =>
      match closing? '\'' cs with
      | some result => some result
      | none =>
          match cs with
          | [] => none
          | '\r' :: '\n' :: cs => consTo '\n' (literalLines? fuel cs)
          | '\n' :: cs => consTo '\n' (literalLines? fuel cs)
          | c :: cs => if isOrdinary c then consTo c (literalLines? fuel cs) else none

/-- Drops the line end right after the opening quotes. -/
def dropFirstNewline (cs : List Char) : List Char := (afterNewline? cs).getD cs

/-- Reads a text. -/
def text? : List Char → Option (List Char × List Char)
  | '"' :: '"' :: '"' :: cs => basicLines? (cs.length + 1) (dropFirstNewline cs)
  | '"' :: cs => basic? cs
  | '\'' :: '\'' :: '\'' :: cs => literalLines? (cs.length + 1) (dropFirstNewline cs)
  | '\'' :: cs => literal? cs
  | _ => none

/-! ## §3. Integers. -/

/-- The value of a digit below a radix. -/
def digit? (radix : Nat) (c : Char) : Option Nat := (Numeral.hexDigit? c).filter (· < radix)

/-- Reads more digits after the number `n`; an underscore may stand between two digits. -/
def moreDigits? (radix : Nat) (n : Nat) : List Char → Option (Nat × List Char)
  | [] => some (n, [])
  | '_' :: [] => none
  | '_' :: c :: cs =>
      match digit? radix c with
      | some d => moreDigits? radix (n * radix + d) cs
      | none => none
  | c :: cs =>
      match digit? radix c with
      | some d => moreDigits? radix (n * radix + d) cs
      | none => some (n, c :: cs)

/-- Reads the digits of a number, one at least. -/
def digits? (radix : Nat) : List Char → Option (Nat × List Char)
  | [] => none
  | c :: cs => (digit? radix c).bind fun d => moreDigits? radix d cs

/-- Reads a decimal number, in which a zero stands alone at the head. -/
def decimal? : List Char → Option (Nat × List Char)
  | '0' :: cs =>
      match cs with
      | [] => some (0, [])
      | c :: rest => if c.isDigit || c == '_' then none else some (0, c :: rest)
  | cs => digits? 10 cs

/-- Reads an integer. -/
def integer? : List Char → Option (Int × List Char)
  | '0' :: 'x' :: cs => (digits? 16 cs).map fun (n, rest) => (n, rest)
  | '0' :: 'o' :: cs => (digits? 8 cs).map fun (n, rest) => (n, rest)
  | '0' :: 'b' :: cs => (digits? 2 cs).map fun (n, rest) => (n, rest)
  | '+' :: cs => (decimal? cs).map fun (n, rest) => (n, rest)
  | '-' :: cs => (decimal? cs).map fun (n, rest) => (-n, rest)
  | cs => (decimal? cs).map fun (n, rest) => (n, rest)

/-- Reads the integers of a list, after its opening bracket; `fuel` bounds their number. -/
def integers? : Nat → List Char → Option (List Int × List Char)
  | 0, _ => none
  | fuel + 1, cs =>
      match dropLines cs.length cs with
      | ']' :: rest => some ([], rest)
      | cs =>
          match integer? cs with
          | none => none
          | some (n, rest) =>
              match dropLines rest.length rest with
              | ',' :: rest => (integers? fuel rest).map fun (items, rest) => (n :: items, rest)
              | ']' :: rest => some ([n], rest)
              | _ => none

/-! ## §4. Files. -/

/-- Whether a character may stand in a key without quotes. -/
def isKeyChar (c : Char) : Bool := c.isAlphanum || c == '_' || c == '-'

/-- Reads a key. -/
def key? : List Char → Option (List Char × List Char)
  | '"' :: cs => basic? cs
  | '\'' :: cs => literal? cs
  | cs =>
      let name := cs.takeWhile isKeyChar
      if name.isEmpty then none else some (name, cs.dropWhile isKeyChar)

/-- Reads a value. -/
def value? : List Char → Option (TomlValue × List Char)
  | '[' :: cs => (integers? (cs.length + 1) cs).map fun (items, rest) => (.integers items, rest)
  | cs => (text? cs).map fun (text, rest) => (.text (String.ofList text), rest)

/-- Reads a line with a key and a value. -/
def entry? (cs : List Char) : Option ((String × TomlValue) × List Char) := do
  let (key, rest) ← key? cs
  match dropBlanks rest with
  | '=' :: rest =>
      let (value, rest) ← value? (dropBlanks rest)
      let rest ← endOfLine? rest
      some ((String.ofList key, value), rest)
  | _ => none

/-- Reads lines to the end of a file; `fuel` bounds their number. -/
def entries? : Nat → List Char → Option (List (String × TomlValue))
  | 0, _ => none
  | fuel + 1, cs =>
      match dropLines cs.length cs with
      | [] => some []
      | cs =>
          match entry? cs with
          | none => none
          | some (entry, rest) => (entries? fuel rest).map (entry :: ·)

/-- Whether a key occurs twice. -/
def repeats (entries : List (String × TomlValue)) : Bool :=
  match entries with
  | [] => false
  | entry :: rest => rest.any (fun other => other.1 == entry.1) || repeats rest

/-- Drops the mark that some editors put in front of a text. -/
def dropMark : List Char → List Char
  | '\uFEFF' :: cs => cs
  | cs => cs

/-- Reads a file. -/
def read (text : String) : Option (List (String × TomlValue)) := do
  let cs := dropMark text.toList
  let entries ← entries? (cs.length + 1) cs
  if repeats entries then none else some entries

end Toml

end FlowProcessor
