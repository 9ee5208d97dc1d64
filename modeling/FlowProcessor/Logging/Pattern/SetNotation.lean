/-
  FlowProcessor.Logging.Pattern.SetNotation — SETS OF CHARACTERS AS THEY ARE WRITTEN.

  A set stands in brackets: characters, ranges, classes with a name such as `[:digit:]`, and sets in
  brackets again.  A circumflex after the bracket excludes what is listed.  `&&`, `--` and `~~` keep
  what is on both sides, on the left alone or on one side alone, from left to right.

  Dashes at the beginning stand for themselves, and so does a closing bracket there.

    • `Escape.read`   — what follows a backslash
    • `readSet`       — from the text after an opening bracket to a set
-/
import FlowProcessor.Logging.Pattern.Modes
import FlowProcessor.Logging.Level

namespace FlowProcessor

/-! ## §1. White space. -/

/-- Passes over white space and over comments, which begin at a number sign and end with the line. -/
def skipComments : Bool → List Char → List Char
  | _, [] => []
  | true, c :: cs => skipComments (c != '\n') cs
  | false, c :: cs =>
      if c = '#' then skipComments true cs
      else if isWhiteSpace c then skipComments false cs
      else c :: cs

/-- Passes over white space and comments if modes ask for it. -/
def skipSpace (m : Modes) (cs : List Char) : List Char :=
  if m.spaced then skipComments false cs else cs

/-- The character that counts as the next one after a dash in a set.  White space is passed over if
modes ask for it, and one number sign with it, but not the comment behind it. -/
def peekSpace (m : Modes) (cs : List Char) : Option Char :=
  if m.spaced then
    let ahead := match cs.dropWhile isWhiteSpace with
      | '#' :: cs => cs.dropWhile isWhiteSpace
      | cs => cs
    ahead.head?.or cs.head?
  else cs.head?

/-! ## §2. Escapes. -/

/-- What is written by a backslash. -/
inductive Escape
  | character (w : Written)
  | letterClass (k : LetterClass)
  | boundary (b : Boundary)
  deriving DecidableEq, Repr

/-- The value of a hexadecimal digit. -/
def hexValue? (c : Char) : Option Nat :=
  let n := c.toNat
  if '0' ≤ c && c ≤ '9' then some (n - 0x30)
  else if 'A' ≤ c && c ≤ 'F' then some (n - 0x41 + 10)
  else if 'a' ≤ c && c ≤ 'f' then some (n - 0x61 + 10)
  else none

/-- Reads some hexadecimal digits behind those with a given value. -/
def readHex (m : Modes) : Nat → Nat → List Char → Option (Nat × List Char)
  | 0, value, cs => some (value, cs)
  | n + 1, value, cs =>
      match skipSpace m cs with
      | [] => none
      | c :: cs => (hexValue? c).bind fun digit => readHex m n (16 * value + digit) cs

namespace Escape

/-- Reads a character that is given by some hexadecimal digits. -/
def readCode (m : Modes) (digits : Nat) (cs : List Char) : Option (Escape × List Char) :=
  (readHex m digits 0 cs).bind fun (n, cs) =>
    if n < 0xD800 || (0xDFFF < n && n ≤ CharSet.lastCode) then
      some (.character ⟨Char.ofNat n, digits == 2⟩, cs)
    else none

/-- What a character after a backslash stands for by itself. -/
def ofChar? : Char → Option Escape
  | 'a' => some (.character ⟨'\x07', false⟩)
  | 'f' => some (.character ⟨'\x0c', false⟩)
  | 't' => some (.character ⟨'\t', false⟩)
  | 'n' => some (.character ⟨'\n', false⟩)
  | 'r' => some (.character ⟨'\r', false⟩)
  | 'v' => some (.character ⟨'\x0b', false⟩)
  | 'd' => some (.letterClass ⟨.digits, false⟩)
  | 's' => some (.letterClass ⟨.blanks, false⟩)
  | 'w' => some (.letterClass ⟨.wordCharacters, false⟩)
  | 'D' => some (.letterClass ⟨.digits, true⟩)
  | 'S' => some (.letterClass ⟨.blanks, true⟩)
  | 'W' => some (.letterClass ⟨.wordCharacters, true⟩)
  | 'A' => some (.boundary .textStart)
  | 'z' => some (.boundary .textEnd)
  | 'b' => some (.boundary .wordEdge)
  | 'B' => some (.boundary .noWordEdge)
  | '<' => some (.boundary .wordStart)
  | '>' => some (.boundary .wordEnd)
  | c =>
      if c.toNat ≤ CharSet.lastAscii && !c.isAlphanum then some (.character ⟨c, false⟩) else none

/-- Reads what follows a backslash. -/
def read (m : Modes) : List Char → Option (Escape × List Char)
  | [] => none
  | 'x' :: cs => readCode m 2 cs
  | 'u' :: cs => readCode m 4 cs
  | 'U' :: cs => readCode m 8 cs
  | c :: cs => (ofChar? c).map fun e => (e, cs)

end Escape

/-! ## §3. Sets. -/

/-- A set that is complete, and how deep what it was written with is nested. -/
structure NestedSet where
  set : CharSet
  depth : Nat
  deriving DecidableEq, Repr

/-- A set under construction. -/
structure SetDraft where
  inverted : Bool
  /-- What is in front of the latest operator, and the operator. -/
  left : Option (NestedSet × CharSet.Operator)
  /-- How many items follow it, the characters in them, and the greatest depth of one. -/
  count : Nat
  set : CharSet
  depth : Nat
  /-- There was nothing but dashes. -/
  isFresh : Bool
  deriving DecidableEq, Repr

namespace SetDraft

/-- A set with nothing in it. -/
def start (inverted : Bool) : SetDraft := ⟨inverted, none, 0, .empty, 0, true⟩

/-- Adds an item. -/
def add (d : SetDraft) (item : NestedSet) : SetDraft :=
  { d with count := d.count + 1, set := d.set.union item.set, depth := max d.depth item.depth }

/-- What was read so far. -/
def whole (d : SetDraft) : NestedSet :=
  let right : NestedSet := ⟨d.set, if d.count ≤ 1 then d.depth else d.depth + 1⟩
  match d.left with
  | none => right
  | some (left, operator) =>
      ⟨.combine operator left.set right.set, max left.depth right.depth + 1⟩

/-- Continues behind an operator. -/
def operate (d : SetDraft) (operator : CharSet.Operator) : SetDraft :=
  { d with left := some (d.whole, operator), count := 0, set := .empty, depth := 0 }

/-- Completes a set. -/
def close? (m : Modes) (d : SetDraft) : Option NestedSet :=
  let whole := d.whole
  (if d.inverted then m.invert? whole.set else some whole.set).map fun set => ⟨set, whole.depth + 1⟩

end SetDraft

/-- Begins a set after its opening bracket. -/
def openSet (m : Modes) (cs : List Char) : SetDraft × List Char :=
  match skipSpace m cs with
  | '^' :: cs => (.start true, cs)
  | cs => (.start false, cs)

/-- Reads a set with a name after an opening bracket: a colon, maybe a circumflex, the name, and a
colon with a bracket. -/
def readNamed (cs : List Char) : Option (CharSet × Bool × List Char) :=
  match cs with
  | ':' :: cs =>
      let (inverted, cs) := match cs with
        | '^' :: cs => (true, cs)
        | cs => (false, cs)
      match cs.dropWhile (· != ':') with
      | ':' :: ']' :: rest =>
          (CharSet.named? (String.ofList (cs.takeWhile (· != ':')))).map fun s => (s, inverted, rest)
      | _ => none
  | _ => none

/-- Reads a character or an escape in a set. -/
def readItem (m : Modes) : List Char → Option (Escape × List Char)
  | [] => none
  | '\\' :: cs => Escape.read m cs
  | c :: cs => some (.character ⟨c, false⟩, cs)

/-- Whether a dash stands for a range, from what follows it. -/
def isRangeDash (m : Modes) (cs : List Char) : Bool :=
  peekSpace m cs != some ']' && peekSpace m cs != some '-'

/-- Reads a character, a range or a class in a set. -/
def readRange (m : Modes) (cs : List Char) : Option (CharSet × List Char) :=
  (readItem m cs).bind fun (first, cs) =>
    match skipSpace m cs with
    | [] => none
    | c :: cs =>
        if c = '-' && isRangeDash m cs then
          (readItem m (skipSpace m cs)).bind fun (last, cs) =>
            match first, last with
            | .character first, .character last => (m.rangeSet? first last).map fun s => (s, cs)
            | _, _ => none
        else
          match first with
          | .character w => (m.rangeSet? w w).map fun s => (s, c :: cs)
          | .letterClass k => (m.classSet? k).map fun s => (s, c :: cs)
          | .boundary _ => none

/-- Reads the rest of a set inside of other sets; `fuel` bounds its length. -/
def readSetFrom (m : Modes) :
    Nat → SetDraft → List SetDraft → List Char → Option (NestedSet × List Char)
  | 0, _, _, _ => none
  | fuel + 1, d, outer, cs =>
      let item (s : CharSet) (cs : List Char) (d : SetDraft) :=
        readSetFrom m fuel (d.add ⟨s, 0⟩) outer cs
      let operate (operator : CharSet.Operator) (cs : List Char) :=
        readSetFrom m fuel ({ d with isFresh := false }.operate operator) outer cs
      match skipSpace m cs with
      | [] => none
      | c :: cs =>
          if d.isFresh && c == '-' then
            (m.rangeSet? ⟨c, false⟩ ⟨c, false⟩).bind fun s => item s cs d
          else
            let isFirst := d.isFresh && d.count == 0
            let d := { d with isFresh := false }
            match c, cs with
            | '[', cs =>
                match readNamed cs with
                | some (s, inverted, cs) => (m.namedSet? s inverted).bind fun s => item s cs d
                | none =>
                    let (inner, cs) := openSet m cs
                    readSetFrom m fuel inner (d :: outer) cs
            | ']', cs =>
                if isFirst then (m.rangeSet? ⟨c, false⟩ ⟨c, false⟩).bind fun s => item s cs d
                else
                  (d.close? m).bind fun s =>
                    match outer with
                    | [] => some (s, cs)
                    | around :: outer => readSetFrom m fuel (around.add s) outer cs
            | '&', '&' :: cs => operate .both cs
            | '-', '-' :: cs => operate .firstOnly cs
            | '~', '~' :: cs => operate .oneOnly cs
            | c, cs => (readRange m (c :: cs)).bind fun (s, cs) => item s cs d

/-- Reads a set after its opening bracket. -/
def readSet (m : Modes) (cs : List Char) : Option (NestedSet × List Char) :=
  let (d, rest) := openSet m cs
  readSetFrom m (cs.length + 1) d [] rest

end FlowProcessor
