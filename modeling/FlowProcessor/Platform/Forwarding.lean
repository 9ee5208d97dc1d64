/-
  FlowProcessor.Platform.Forwarding — THE FORWARDING SERVICE.

  A handle works on a copy of the committed tables.  Structural changes stay in the copy until a
  commit makes it the committed tables; tuning applies at once, to the committed interface and to
  the handle's own copy of it.

    • `ForwardingOp`     — what can be asked of a handle
    • `ForwardingOp.act` — how the configuration and the copy are worked on, check by check
    • `ForwardingHandle.operate` — the same as a call of the platform
-/
import FlowProcessor.Platform.Basic

namespace FlowProcessor

/-! ## §1. Tables. -/

namespace ForwardingTables

/-- Writes a domain. -/
def putDomain (t : ForwardingTables) (domain : DomainId) (mode : DomainMode) : ForwardingTables :=
  { t with domains := t.domains.insert domain.word mode }

/-- Writes an interface. -/
def putLif (t : ForwardingTables) (lif : LifId) (state : LifState) : ForwardingTables :=
  { t with lifs := t.lifs.insert lif.word state }

/-- Changes an interface, if it exists. -/
def adjustLif (t : ForwardingTables) (lif : LifId) (change : LifState → LifState) :
    ForwardingTables :=
  { t with lifs := t.lifs.adjust lif.word change }

end ForwardingTables

/-! ## §2. Operations. -/

/-- What can be asked of an open handle. -/
inductive ForwardingOp
  /-- Remove every domain and interface. -/
  | clear
  /-- Create a domain, or change its mode. -/
  | configureDomain (domain : DomainId) (mode : DomainMode)
  /-- Bind an interface to a port, which resets everything else about it. -/
  | configureLif (lif : LifId) (port : PortId) (vlan : VlanTag)
  | assignAddressSpace (kind : InterfaceKind) (lif : LifId) (space : UInt32)
  /-- Attach an interface to a domain, and so detach it from any other. -/
  | attach (domain : DomainId) (lif : LifId)
  | commit
  | setMtu (kind : InterfaceKind) (lif : LifId) (mtu : UInt32)
  | setFrameType (kind : InterfaceKind) (lif : LifId) (frameType : FrameType)
  | setRateLimit (lif : LifId) (limit : UInt32)
  deriving DecidableEq, Repr

/-- What an operation works on: the committed configuration, and the copy of its handle. -/
structure Draft where
  committed : ForwardingState
  staged : ForwardingTables
  deriving DecidableEq

namespace ForwardingOp

/-- The call an operation makes. -/
def call : ForwardingOp → Call
  | .clear => .clearForwarding
  | .configureDomain domain _ => .configureDomain domain
  | .configureLif lif _ _ => .configureLif lif
  | .assignAddressSpace _ lif _ => .assignAddressSpace lif
  | .attach domain lif => .attachLif domain lif
  | .commit => .commit
  | .setMtu _ lif _ => .setMtu lif
  | .setFrameType _ lif _ => .setFrameType lif
  | .setRateLimit lif _ => .setRateLimit lif

/-- Only logical interfaces have settings. -/
def checkLogical (kind : InterfaceKind) : Service Draft Unit :=
  .require (fun _ => kind = .logical)
    (.invalidParameter "physical interface settings are not supported")

/-- Changes an interface of the copy. -/
def amend (lif : LifId) (change : LifState → LifState) : Service Draft Unit := do
  .require (fun draft => (draft.staged.lif? lif).isSome)
    (.notFound ("logical interface " ++ lif.text))
  .change fun draft => { draft with staged := draft.staged.adjustLif lif change }

/-- The error of an interface that is not committed. -/
def notCommitted (lif : LifId) : PlatformError :=
  .notFound ("logical interface " ++ lif.text ++ " is not committed")

/-- Changes a committed interface, and then the copy of it if there is one. -/
def tune (lif : LifId) (change : LifState → LifState) : Service Draft Unit := do
  .require (fun draft => (draft.committed.active.lif? lif).isSome) (notCommitted lif)
  .change fun draft =>
    { draft with committed.active := draft.committed.active.adjustLif lif change }
  .change fun draft => { draft with staged := draft.staged.adjustLif lif change }

/-- The work that an operation asks for. -/
def act : ForwardingOp → Service Draft Unit
  | .clear => .change fun draft => { draft with staged := .empty }
  | .configureDomain domain mode =>
      .change fun draft => { draft with staged := draft.staged.putDomain domain mode }
  | .configureLif lif port vlan =>
      .change fun draft => { draft with staged := draft.staged.putLif lif (.bare port vlan) }
  | .assignAddressSpace kind lif space => do
      checkLogical kind
      amend lif fun l => { l with addressSpace := some space }
  | .attach domain lif => do
      .require (fun draft => draft.staged.domains.contains domain.word)
        (.notFound ("domain " ++ domain.text))
      amend lif fun l => { l with domain := some domain }
  | .commit => do
      .change fun draft => { draft with committed.active := draft.staged }
      .change fun draft => { draft with committed.commits := draft.committed.commits + 1 }
  | .setMtu kind lif mtu => do
      checkLogical kind
      .require (fun _ => mtu ≠ 0) (.invalidParameter "MTU must be non-zero")
      tune lif fun l => { l with mtu := some mtu }
  | .setFrameType kind lif frameType => do
      checkLogical kind
      tune lif fun l => { l with frameType := frameType }
  | .setRateLimit lif limit => tune lif fun l => { l with rateLimit := some limit }

end ForwardingOp

/-! ## §3. Handles. -/

/-- An open forwarding configuration: a copy of the tables that only its owner changes. -/
structure ForwardingHandle where
  staged : ForwardingTables
  deriving DecidableEq

/-- Opens the forwarding configuration. -/
def Platform.openForwarding (p : Platform) : Except PlatformError ForwardingHandle × Platform :=
  p.perform .openForwarding do
    let active ← .check fun s => .ok s.forwarding.active
    return ⟨active⟩

namespace ForwardingHandle

/-- The work of an operation on the state of the platform and on the handle. -/
def work (handle : ForwardingHandle) (op : ForwardingOp) (s : PlatformState) :
    (Except PlatformError Unit × ForwardingHandle) × PlatformState :=
  match op.act ⟨s.forwarding, handle.staged⟩ with
  | (answer, draft) => ((answer, ⟨draft.staged⟩), { s with forwarding := draft.committed })

/-- Carries out an operation.  The handle is given back as the service has left it, whatever the
answer is. -/
def operate (handle : ForwardingHandle) (op : ForwardingOp) (p : Platform) :
    (Except PlatformError Unit × ForwardingHandle) × Platform :=
  p.attend op.call (fun error => (.error error, handle)) (handle.work op)

/-- The same for an owner that gives up at the first refusal. -/
def run (handle : ForwardingHandle) (op : ForwardingOp) (p : Platform) :
    Except PlatformError ForwardingHandle × Platform :=
  match handle.operate op p with
  | ((.ok (), handle), p) => (.ok handle, p)
  | ((.error error, _), p) => (.error error, p)

/-- The interface in the committed configuration, or the error of every call that needs it there. -/
def committedLif (s : PlatformState) (lif : LifId) : Except PlatformError LifState :=
  match s.forwarding.active.lif? lif with
  | some l => .ok l
  | none => .error (ForwardingOp.notCommitted lif)

/-- Reads the rate limit of a committed interface, 0 where none was set. -/
def readRateLimit (_handle : ForwardingHandle) (lif : LifId) (p : Platform) :
    Except PlatformError UInt32 × Platform :=
  p.perform (.readRateLimit lif) do
    let l ← .check (committedLif · lif)
    return l.rateLimit.getD 0

/-- Releases the handle; what was not committed is lost. -/
def close (_handle : ForwardingHandle) (p : Platform) : Except PlatformError Unit × Platform :=
  p.perform .closeForwarding (Service.pure ())

end ForwardingHandle

end FlowProcessor
