/-
  FlowProcessor.Platform.Clients — SEVERAL HANDLES ON ONE PLATFORM.

  Any number of forwarding handles can be open at once, each under a name of its own.  They share
  the committed tables; what one of them has staged is nobody else's.

    • `ClientAction` — what the owner of a handle can do
    • `Clients.step` — one action, and what is answered
    • `Clients.run`  — actions of any owners, one after the other
-/
import FlowProcessor.Platform.Forwarding

namespace FlowProcessor

/-! ## §1. Actions and answers. -/

/-- The name a handle is kept under. -/
abbrev HandleName : Type := String

/-- What the owner of a handle can do. -/
inductive ClientAction
  /-- Open a handle, in place of an earlier one of the same name. -/
  | acquire (name : HandleName)
  | operate (name : HandleName) (op : ForwardingOp)
  | readRateLimit (name : HandleName) (lif : LifId)
  /-- Close a handle, which is gone even if the platform refuses. -/
  | release (name : HandleName)
  deriving DecidableEq, Repr

/-- The handle an action is about. -/
def ClientAction.name : ClientAction → HandleName
  | .acquire name | .operate name _ | .readRateLimit name _ | .release name => name

/-- What an owner is answered. -/
inductive ClientAnswer
  /-- No handle of that name is open. -/
  | unknown
  | refused (error : PlatformError)
  | accepted
  /-- The rate limit that was asked for. -/
  | limit (value : UInt32)
  deriving DecidableEq, Repr

/-- What is answered to an operation of a handle. -/
def ClientAnswer.ofResult : Except PlatformError Unit → ClientAnswer
  | .ok () => .accepted
  | .error error => .refused error

/-! ## §2. Clients. -/

/-- A platform and the handles that are open on it. -/
structure Clients where
  platform : Platform
  handle? : HandleName → Option ForwardingHandle

namespace Clients

/-- Keeps a handle under a name, or nothing. -/
def keep (c : Clients) (name : HandleName) (handle : Option ForwardingHandle) : Clients :=
  { c with handle? := fun other => if other = name then handle else c.handle? other }

/-- Carries out an action. -/
def step (c : Clients) : ClientAction → ClientAnswer × Clients
  | .acquire name =>
      match c.platform.openForwarding with
      | (.ok handle, p) => (.accepted, { c with platform := p }.keep name (some handle))
      | (.error error, p) => (.refused error, { c with platform := p })
  | .operate name op =>
      match c.handle? name with
      | none => (.unknown, c)
      | some handle =>
          match handle.operate op c.platform with
          | ((answer, handle), p) =>
              (.ofResult answer, { c with platform := p }.keep name (some handle))
  | .readRateLimit name lif =>
      match c.handle? name with
      | none => (.unknown, c)
      | some handle =>
          match handle.readRateLimit lif c.platform with
          | (.ok value, p) => (.limit value, { c with platform := p })
          | (.error error, p) => (.refused error, { c with platform := p })
  | .release name =>
      match c.handle? name with
      | none => (.unknown, c)
      | some handle =>
          match handle.close c.platform with
          | (.ok (), p) => (.accepted, { c with platform := p }.keep name none)
          | (.error error, p) => (.refused error, { c with platform := p }.keep name none)

/-- Carries out actions in order and collects the answers. -/
def run (c : Clients) : List ClientAction → List ClientAnswer × Clients
  | [] => ([], c)
  | action :: actions =>
      match c.step action with
      | (answer, c) =>
          match c.run actions with
          | (answers, c) => (answer :: answers, c)

end Clients

end FlowProcessor
