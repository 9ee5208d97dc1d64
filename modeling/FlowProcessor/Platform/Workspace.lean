/-
  FlowProcessor.Platform.Workspace — EVERYTHING THAT IS OPEN ON A PLATFORM.

  Forwarding handles, rule sessions and cursors, each under a name of its own, and every request
  that can be made of the platform, directly or through one of them.

    • `Request`        — what can be asked
    • `Request.call?`  — the call that a request makes
    • `Workspace.ask`  — one request, its answer, and what is open after it
    • `Workspace.drop` — the end of a session
-/
import FlowProcessor.Platform.Clients
import FlowProcessor.Platform.Groups
import FlowProcessor.Platform.Rules

namespace FlowProcessor

/-! ## §1. Requests and answers. -/

/-- The name a rule session is kept under. -/
abbrev SessionName : Type := String

/-- The name a cursor is kept under. -/
abbrev CursorName : Type := String

/-- What can be asked of a platform. -/
inductive Request
  | readGroups (device : DeviceId)
  | writeGroup (device : DeviceId) (group : GroupId) (dests : DestSet)
  | writeAllGroups (device : DeviceId) (groups : GroupTable)
  | clearGroups (device : DeviceId)
  /-- Open a session, in place of an earlier one of the same name. -/
  | openRules (session : SessionName) (device : DeviceId)
  /-- Open a cursor in a session, in place of an earlier one of the same name. -/
  | openCursor (session : SessionName) (cursor : CursorName) (order : CursorOrder)
  | readRule (cursor : CursorName)
  /-- Use of the forwarding handles. -/
  | forwarding (action : ClientAction)

/-- What a request is answered. -/
inductive Answer
  /-- Nothing of that name is open. -/
  | unknown
  | refused (error : PlatformError)
  | accepted
  | groups (table : GroupTable)
  /-- The next rule, or none at the end. -/
  | rule (rule : Option Rule)
  | forwarding (answer : ClientAnswer)

/-- What is answered to a read. -/
def Answer.ofRead : Except PlatformError (Option Rule) → Answer
  | .ok next => .rule next
  | .error error => .refused error

/-- The error of a request that was refused. -/
def Answer.error? : Answer → Option PlatformError
  | .refused error | .forwarding (.refused error) => some error
  | _ => none

/-! ## §2. Workspaces. -/

/-- A platform and what is open on it. -/
structure Workspace where
  platform : Platform
  handle? : HandleName → Option ForwardingHandle
  session? : SessionName → Option RuleSession
  cursor? : CursorName → Option RuleCursor

namespace Workspace

/-- A platform on which nothing is open. -/
def idle (platform : Platform) : Workspace :=
  ⟨platform, fun _ => none, fun _ => none, fun _ => none⟩

/-- What is open, on another platform. -/
def on (w : Workspace) (platform : Platform) : Workspace := { w with platform := platform }

/-- The platform and the handles. -/
def clients (w : Workspace) : Clients := ⟨w.platform, w.handle?⟩

/-- Keeps a session under a name. -/
def keepSession (w : Workspace) (name : SessionName) (session : RuleSession) : Workspace :=
  { w with session? := fun other => if other = name then some session else w.session? other }

/-- Keeps a cursor under a name. -/
def keepCursor (w : Workspace) (name : CursorName) (cursor : RuleCursor) : Workspace :=
  { w with cursor? := fun other => if other = name then some cursor else w.cursor? other }

/-- Goes on with what a service answered that works on the platform alone. -/
def conclude {α : Type} (w : Workspace) (accept : α → Workspace → Answer × Workspace) :
    Except PlatformError α × Platform → Answer × Workspace
  | (.ok a, p) => accept a (w.on p)
  | (.error error, p) => (.refused error, w.on p)

/-- Makes a request. -/
def ask (w : Workspace) : Request → Answer × Workspace
  | .readGroups device =>
      w.conclude (fun groups w => (.groups groups, w)) (w.platform.readGroups device)
  | .writeGroup device group dests =>
      w.conclude (fun _ w => (.accepted, w)) (w.platform.writeGroup device group dests)
  | .writeAllGroups device groups =>
      w.conclude (fun _ w => (.accepted, w)) (w.platform.writeAllGroups device groups)
  | .clearGroups device =>
      w.conclude (fun _ w => (.accepted, w)) (w.platform.clearGroups device)
  | .openRules name device =>
      w.conclude (fun session w => (.accepted, w.keepSession name session))
        (w.platform.openRules device)
  | .openCursor name cursor order =>
      match w.session? name with
      | none => (.unknown, w)
      | some session =>
          w.conclude (fun opened w => (.accepted, w.keepCursor cursor opened))
            (session.openCursor order w.platform)
  | .readRule name =>
      match w.cursor? name with
      | none => (.unknown, w)
      | some cursor =>
          match cursor.next w.platform with
          | ((answer, cursor), p) => (.ofRead answer, (w.on p).keepCursor name cursor)
  | .forwarding action =>
      match w.clients.step action with
      | (answer, c) => (.forwarding answer, { w with platform := c.platform, handle? := c.handle? })

/-- What is answered to a read, and what is open after it. -/
theorem ask_readRule {w : Workspace} {name : CursorName} {cursor : RuleCursor}
    (h : w.cursor? name = some cursor) :
    w.ask (.readRule name)
      = (.ofRead (cursor.next w.platform).1.1,
        (w.on (cursor.next w.platform).2).keepCursor name (cursor.next w.platform).1.2) := by
  simp only [ask, h]

/-- Ends a session, which closes it. -/
def drop (w : Workspace) (name : SessionName) : Workspace :=
  match w.session? name with
  | none => w
  | some session =>
      { w with
        platform := session.close w.platform
        session? := fun other => if other = name then none else w.session? other }

end Workspace

/-! ## §3. The calls of requests. -/

/-- The call that an action makes with an open handle. -/
def ClientAction.call : ClientAction → Call
  | .acquire _ => .openForwarding
  | .operate _ op => op.call
  | .readRateLimit _ lif => .readRateLimit lif
  | .release _ => .closeForwarding

/-- Whether the handle that an action needs is open. -/
def ClientAction.ready (action : ClientAction) (w : Workspace) : Bool :=
  match action with
  | .acquire _ => true
  | .operate name _ | .readRateLimit name _ | .release name => (w.handle? name).isSome

/-- The call that a request makes, if what it addresses is open. -/
def Request.call? (w : Workspace) : Request → Option Call
  | .readGroups device => some (.readGroups device)
  | .writeGroup device group _ => some (.writeGroup device group)
  | .writeAllGroups device _ | .clearGroups device => some (.writeAllGroups device)
  | .openRules _ device => some (.openRules device)
  | .openCursor session _ _ => (w.session? session).map fun session => .openCursor session.device
  | .readRule cursor =>
      (w.cursor? cursor).map fun cursor => .readRule cursor.device cursor.position
  | .forwarding action => if action.ready w then some action.call else none

end FlowProcessor
