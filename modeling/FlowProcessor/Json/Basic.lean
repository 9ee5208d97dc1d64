/-
  FlowProcessor.Json.Basic — JSON DOCUMENTS AS TREES.

    • `Json.read`    — from text to tree, total and exact: blanks apart, every accepted text is
                       the token sequence of its tree
    • `Json.tokens`  — the token sequence of a tree
    • `Json.compact` — the text without any blank
    • `Json.pretty`  — the text with one member or element a line, indented by two blanks a level

  Both writers lay out the same tokens (`Layout`), so what they write reads back alike.
-/
import FlowProcessor.Json.Token

namespace FlowProcessor

/-- A document.  Members of an object keep their order and may repeat a key. -/
inductive Json
  | null
  | bool (value : Bool)
  | natural (value : Nat)
  | otherNumber
  | string (pieces : List Json.Piece)
  | array (items : List Json)
  | object (members : List (List Json.Piece × Json))
  deriving Repr

namespace Json

/-! ## §1. Reading. -/

mutual

/-- Reads one document from the head of a token sequence; `fuel` bounds its number of tokens. -/
def valueOf? : Nat → List Token → Option (Json × List Token)
  | 0, _ => none
  | _ + 1, .null :: ts => some (.null, ts)
  | _ + 1, .bool value :: ts => some (.bool value, ts)
  | _ + 1, .natural value :: ts => some (.natural value, ts)
  | _ + 1, .otherNumber :: ts => some (.otherNumber, ts)
  | _ + 1, .string pieces :: ts => some (.string pieces, ts)
  | _ + 1, .openBracket :: .closeBracket :: ts => some (.array [], ts)
  | fuel + 1, .openBracket :: ts => (itemsOf? fuel ts).map fun (items, rest) => (.array items, rest)
  | _ + 1, .openBrace :: .closeBrace :: ts => some (.object [], ts)
  | fuel + 1, .openBrace :: ts =>
      (membersOf? fuel ts).map fun (members, rest) => (.object members, rest)
  | _ + 1, _ => none

/-- Reads the elements of an array, at least one, and its closing bracket. -/
def itemsOf? : Nat → List Token → Option (List Json × List Token)
  | 0, _ => none
  | fuel + 1, ts =>
      match valueOf? fuel ts with
      | some (item, .comma :: rest) =>
          (itemsOf? fuel rest).map fun (items, rest) => (item :: items, rest)
      | some (item, .closeBracket :: rest) => some ([item], rest)
      | _ => none

/-- Reads the members of an object, at least one, and its closing brace. -/
def membersOf? : Nat → List Token → Option (List (List Piece × Json) × List Token)
  | fuel + 1, .string key :: .colon :: ts =>
      match valueOf? fuel ts with
      | some (item, .comma :: rest) =>
          (membersOf? fuel rest).map fun (members, rest) => ((key, item) :: members, rest)
      | some (item, .closeBrace :: rest) => some ([(key, item)], rest)
      | _ => none
  | _, _ => none

end

/-- Reads a whole text as one document. -/
def read (text : String) : Option Json :=
  match Token.lex text.toList with
  | none => none
  | some tokens =>
      match valueOf? (tokens.length + 1) tokens with
      | some (document, []) => some document
      | _ => none

/-! ## §2. Writing. -/

/-- An element of a written document: a token, the blank after a colon, or a new line. -/
inductive Layout
  | token (t : Token)
  | blank
  | line (depth : Nat)
  deriving DecidableEq, Repr

/-- The characters of a layout element; every level of depth is two blanks. -/
def Layout.chars : Layout → List Char
  | .token t => t.chars
  | .blank => [' ']
  | .line depth => '\n' :: List.replicate (2 * depth) ' '

mutual

/-- The token sequence of a document. -/
def tokens : Json → List Token
  | .null => [.null]
  | .bool value => [.bool value]
  | .natural value => [.natural value]
  | .otherNumber => [.otherNumber]
  | .string pieces => [.string pieces]
  | .array items => .openBracket :: itemTokens items ++ [.closeBracket]
  | .object members => .openBrace :: memberTokens members ++ [.closeBrace]

/-- The tokens between the brackets of an array. -/
def itemTokens : List Json → List Token
  | [] => []
  | [item] => tokens item
  | item :: items => tokens item ++ .comma :: itemTokens items

/-- The tokens between the braces of an object. -/
def memberTokens : List (List Piece × Json) → List Token
  | [] => []
  | [member] => memberToken member
  | member :: members => memberToken member ++ .comma :: memberTokens members

/-- The tokens of one member. -/
def memberToken : List Piece × Json → List Token
  | (key, item) => .string key :: .colon :: tokens item

end

mutual

/-- The layout with one element a line, for a document that starts at the given depth. -/
def layout (depth : Nat) : Json → List Layout
  | .null => [.token .null]
  | .bool value => [.token (.bool value)]
  | .natural value => [.token (.natural value)]
  | .otherNumber => [.token .otherNumber]
  | .string pieces => [.token (.string pieces)]
  | .array [] => [.token .openBracket, .token .closeBracket]
  | .array (item :: items) =>
      .token .openBracket :: itemLayout (depth + 1) (item :: items)
        ++ [.line depth, .token .closeBracket]
  | .object [] => [.token .openBrace, .token .closeBrace]
  | .object (member :: members) =>
      .token .openBrace :: memberLayout (depth + 1) (member :: members)
        ++ [.line depth, .token .closeBrace]

/-- The layout of the elements of an array, each on a line of its own. -/
def itemLayout (depth : Nat) : List Json → List Layout
  | [] => []
  | [item] => .line depth :: layout depth item
  | item :: items => .line depth :: layout depth item ++ .token .comma :: itemLayout depth items

/-- The layout of the members of an object, each on a line of its own. -/
def memberLayout (depth : Nat) : List (List Piece × Json) → List Layout
  | [] => []
  | [member] => .line depth :: oneMemberLayout depth member
  | member :: members =>
      .line depth :: oneMemberLayout depth member ++ .token .comma :: memberLayout depth members

/-- The layout of one member. -/
def oneMemberLayout (depth : Nat) : List Piece × Json → List Layout
  | (key, item) => .token (.string key) :: .token .colon :: .blank :: layout depth item

end

/-- A document as text without any blank. -/
def compact (document : Json) : String := String.ofList (document.tokens.flatMap Token.chars)

/-- A document as text with one member or element a line. -/
def pretty (document : Json) : String := String.ofList ((document.layout 0).flatMap Layout.chars)

end Json

end FlowProcessor
