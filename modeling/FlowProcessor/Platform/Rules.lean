/-
  FlowProcessor.Platform.Rules — THE RULES SERVICE.

  A client opens a session on a device and walks the rule table with a cursor.  A cursor walks the
  table as it was when the cursor was opened.
-/
import FlowProcessor.Platform.Basic

namespace FlowProcessor

/-- The order in which a cursor visits the rules. -/
inductive CursorOrder
  /-- By ascending priority, rules of one priority in the order of the table. -/
  | priority
  /-- The order of the table. -/
  | insertion
  deriving DecidableEq, Repr

/-- The rules in the order of a cursor. -/
def CursorOrder.arrange (order : CursorOrder) (rules : List Rule) : List Rule :=
  match order with
  | .priority => rules.mergeSort fun a b => a.priority ≤ b.priority
  | .insertion => rules

/-- An open connection to the rules of a device. -/
structure RuleSession where
  device : DeviceId
  deriving DecidableEq, Repr

/-- A position in the rules a device had when the cursor was opened. -/
structure RuleCursor where
  device : DeviceId
  rules : List Rule
  position : Nat
  deriving DecidableEq, Repr

/-- Opens a session. -/
def Platform.openRules (p : Platform) (device : DeviceId) :
    Except PlatformError RuleSession × Platform :=
  p.perform (.openRules device) do
    let _ ← .check (·.installed device)
    return ⟨device⟩

/-- Opens a cursor at the first rule. -/
def RuleSession.openCursor (session : RuleSession) (order : CursorOrder) (p : Platform) :
    Except PlatformError RuleCursor × Platform :=
  p.perform (.openCursor session.device) do
    let d ← .check (·.installed session.device)
    return ⟨session.device, order.arrange d.rules, 0⟩

/-- Closes a session, which never fails. -/
def RuleSession.close (session : RuleSession) (p : Platform) : Platform :=
  p.record (.closeRules session.device)

namespace RuleCursor

/-- Answers the rule at the position, if there is one left, and moves on to the next. -/
def advance : Service RuleCursor (Option Rule) := do
  match ← .check fun cursor => .ok cursor.rules[cursor.position]? with
  | none => return none
  | some rule =>
      .change fun cursor => { cursor with position := cursor.position + 1 }
      return some rule

/-- Reads the rule at the position.  The cursor is given back as the service has left it, whatever
the answer is. -/
def next (cursor : RuleCursor) (p : Platform) :
    (Except PlatformError (Option Rule) × RuleCursor) × Platform :=
  p.attend (.readRule cursor.device cursor.position) (fun error => (.error error, cursor))
    fun s => (advance cursor, s)

/-- The same for a reader that gives up at the first refusal. -/
def read (cursor : RuleCursor) (p : Platform) :
    Except PlatformError (Option Rule × RuleCursor) × Platform :=
  match cursor.next p with
  | ((.ok rule, cursor), p) => (.ok (rule, cursor), p)
  | ((.error error, _), p) => (.error error, p)

end RuleCursor

end FlowProcessor
