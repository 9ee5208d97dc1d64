/-
  FlowProcessor.Logging.Pattern.Automaton — LOOKING FOR A PATTERN IN A TEXT.

  A pattern becomes an automaton, nodes that lead to other nodes.  The automaton reads a text from
  the left and keeps the nodes at which it waits for a character, the preferred one first; a node
  that was reached already is not visited again.  A pattern may begin anywhere: what is in front of
  it counts as any characters, as few as possible.

  The occurrence that is found is therefore the leftmost, and of those that begin there the one
  preferred by the pattern.  A text is accepted when that occurrence reaches its end.  So `2` and
  `.2` accept `L2`, while `L` and `L|2` do not: both are found before the end.

    • `Automaton.ofPattern` — the automaton of a pattern
    • `Automaton.closure`   — the nodes reached without a character
    • `Pattern.accepts`     — whether a text is accepted
-/
import FlowProcessor.Logging.Pattern.Basic

namespace FlowProcessor

namespace Automaton

/-- A node of an automaton; others are given by their positions. -/
inductive Node
  /-- The pattern is complete. -/
  | done
  /-- Takes a character of a set. -/
  | take (s : CharSet) (next : Nat)
  /-- Goes on at a boundary. -/
  | pass (b : Boundary) (next : Nat)
  /-- Goes on at two nodes, the first of which is preferred. -/
  | fork (preferred other : Nat)
  deriving DecidableEq, Repr

end Automaton

/-- Nodes, and the one to begin with. -/
structure Automaton where
  nodes : Array Automaton.Node
  first : Nat

namespace Automaton

/-! ## §1. From a pattern to an automaton. -/

/-- A fork to a repetition and to what follows it. -/
def branch (again next : Nat) (greedy : Bool) : Node :=
  if greedy then .fork again next else .fork next again

/-- Adds a node and begins with it. -/
def push (nodes : Array Node) (node : Node) : Automaton := ⟨nodes.push node, nodes.size⟩

/-- Adds a text in front of a node. -/
def pushText (nodes : Array Node) (next : Nat) (cs : List Char) : Automaton :=
  cs.foldr (fun c rest => push rest.nodes (.take (.single c) rest.first)) ⟨nodes, next⟩

/-- Adds a pattern in front of a node.  A repetition ends at a fork back to its beginning; one that
may be left out altogether begins with a second fork. -/
def pushPattern (nodes : Array Node) (next : Nat) : Pattern → Automaton
  | .nothing => ⟨nodes, next⟩
  | .text cs => pushText nodes next cs
  | .one s _ => push nodes (.take s next)
  | .boundary b => push nodes (.pass b next)
  | .group _ a => pushPattern nodes next a
  | .both a b =>
      let after := pushPattern nodes next b
      pushPattern after.nodes after.first a
  | .either a b =>
      let first := pushPattern nodes next a
      let second := pushPattern first.nodes next b
      push second.nodes (.fork first.first second.first)
  | .repeated a .atMostOnce greedy =>
      let body := pushPattern nodes next a
      push body.nodes (branch body.first next greedy)
  | .repeated a .atLeastOnce greedy =>
      let body := pushPattern (nodes.push .done) nodes.size a
      ⟨body.nodes.setIfInBounds nodes.size (branch body.first next greedy), body.first⟩
  | .repeated a .anyTimes greedy =>
      let body := pushPattern (nodes.push .done) nodes.size a
      push (body.nodes.setIfInBounds nodes.size (branch body.first next greedy))
        (branch body.first next greedy)

/-- The automaton that looks for a pattern. -/
def ofPattern (p : Pattern) : Automaton :=
  pushPattern #[.done] 0 (.both (.repeated (.one .full .unicode) .anyTimes false) p)

/-! ## §2. Moving on. -/

/-- Visits a node and those reached from it without a character, where some boundaries are known.
The nodes that were visited are given the latest first; `fuel` bounds how far the way goes on. -/
def visit (m : Automaton) (known : Boundary → Bool) : Nat → Nat → List Nat → List Nat
  | 0, _, visited => visited
  | fuel + 1, n, visited =>
      if visited.contains n then visited
      else
        match m.nodes[n]? with
        | some (.fork preferred other) =>
            m.visit known fuel other (m.visit known fuel preferred (n :: visited))
        | some (.pass b next) =>
            if known b then m.visit known fuel next (n :: visited) else n :: visited
        | _ => n :: visited

/-- Whether a node is a fork, at which nothing waits. -/
def isFork (m : Automaton) (n : Nat) : Bool :=
  match m.nodes[n]? with
  | some (.fork _ _) => true
  | _ => false

/-- Whether the pattern is complete at a node. -/
def isDone (m : Automaton) (n : Nat) : Bool := m.nodes[n]? == some .done

/-- The nodes to wait at, from some nodes on, where some boundaries are known. -/
def closure (m : Automaton) (known : Boundary → Bool) (starts : List Nat) : List Nat :=
  (starts.foldl (fun visited n => m.visit known (m.nodes.size + 1) n visited) []).reverse.filter
    fun n => !m.isFork n

/-- Whether a node asks for a boundary that becomes known with the character after the place. -/
def isWakened (m : Automaton) (before after : Option Char) (n : Nat) : Bool :=
  match m.nodes[n]? with
  | some (.pass b _) => b.holdsAfter before after && !b.holdsBefore before
  | _ => false

/-- The nodes to wait at, once the character after the place is known.  They are the same unless
one of them is wakened. -/
def awake (m : Automaton) (before after : Option Char) (waiting : List Nat) : List Nat :=
  if waiting.any (m.isWakened before after) then
    m.closure (fun b => b.holdsBefore before || b.holdsAfter before after) waiting
  else waiting

/-- The node that follows a node over a character. -/
def next? (m : Automaton) (c : Char) (n : Nat) : Option Nat :=
  match m.nodes[n]? with
  | some (.take s next) => if s.contains c then some next else none
  | _ => none

/-- The nodes to wait at after a character.  Where the pattern is complete, the nodes that are
preferred less are given up. -/
def advance (m : Automaton) (c : Char) (waiting : List Nat) : List Nat :=
  m.closure (Boundary.holdsBefore (some c)) ((waiting.takeWhile (!m.isDone ·)).filterMap (m.next? c))

/-! ## §3. Accepting. -/

/-- Reads the rest of a text; whether the pattern is complete at its end. -/
def runFrom (m : Automaton) : Option Char → List Nat → List Char → Bool
  | before, waiting, [] => (m.awake before none waiting).any m.isDone
  | before, waiting, c :: cs =>
      m.runFrom (some c) (m.advance c (m.awake before (some c) waiting)) cs

/-- Reads a text. -/
def run (m : Automaton) (cs : List Char) : Bool :=
  m.runFrom none (m.closure (Boundary.holdsBefore none) [m.first]) cs

end Automaton

/-- Whether the occurrence of the pattern that is found in a text reaches the end of the text. -/
def Pattern.accepts (p : Pattern) (text : String) : Bool := (Automaton.ofPattern p).run text.toList

end FlowProcessor
