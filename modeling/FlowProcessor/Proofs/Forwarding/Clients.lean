/-
  FlowProcessor.Proofs.Forwarding.Clients — WHAT THE OWNER OF A HANDLE CAN DO.

  Everything an action does to the handles and to the platform is one of a few things.  They are
  listed once, with the conditions under which they happen, so that no later proof runs through
  the actions again.

    • `Clients.Does`      — everything an action can do
    • `Clients.does_step` — the list is complete
-/
import FlowProcessor.Platform.Clients
import FlowProcessor.Proofs.Forwarding.Operations

namespace FlowProcessor

/-! ## §1. The list. -/

namespace Clients

/-- The committed configuration that all handles share. -/
def forwarding (c : Clients) : ForwardingState := c.platform.state.forwarding

/-- The clients after some more calls, with another configuration. -/
def after (c : Clients) (calls : List Call) (forwarding : ForwardingState) : Clients :=
  { c with platform := c.platform.after calls forwarding }

/-- `Does c action answer c'`: carrying out the action is answered like this and leads to `c'`. -/
inductive Does (c : Clients) : ClientAction → ClientAnswer → Clients → Prop
  | unknown {action : ClientAction} (absent : c.handle? action.name = none) :
      Does c action .unknown c
  /-- Whatever is refused changes nothing but the log. -/
  | refused {action : ClientAction} (calls : List Call) (error : PlatformError) :
      Does c action (.refused error) (c.after calls c.forwarding)
  | opened (name : HandleName) :
      Does c (.acquire name) .accepted
        ((c.after [.openForwarding] c.forwarding).keep name (some ⟨c.forwarding.active⟩))
  | granted {name : HandleName} {op : ForwardingOp} {handle : ForwardingHandle}
      {f : ForwardingState} {staged : ForwardingTables} (held : c.handle? name = some handle)
      (grants : op.Grants c.forwarding handle.staged f staged) :
      Does c (.operate name op) .accepted ((c.after [op.call] f).keep name (some ⟨staged⟩))
  | answered (name : HandleName) (lif : LifId) (value : UInt32) :
      Does c (.readRateLimit name lif) (.limit value)
        (c.after [.readRateLimit lif] c.forwarding)
  | released (name : HandleName) :
      Does c (.release name) .accepted ((c.after [.closeForwarding] c.forwarding).keep name none)
  /-- A handle is gone even if closing it fails. -/
  | unreleased (name : HandleName) (error : PlatformError) :
      Does c (.release name) (.refused error)
        ((c.after [.closeForwarding] c.forwarding).keep name none)

/-! ## §2. It is complete. -/

theorem does_acquire (c : Clients) (name : HandleName) :
    c.Does (.acquire name) (c.step (.acquire name)).1 (c.step (.acquire name)).2 := by
  unfold step
  cases hfault : c.platform.faults.find? .openForwarding with
  | none =>
      rw [Platform.openForwarding_of_admitted hfault]
      exact .opened name
  | some error =>
      rw [Platform.openForwarding_of_fault hfault]
      exact .refused [.openForwarding] error

/-- Keeping a handle where it is changes nothing. -/
theorem keep_of_held (c : Clients) {name : HandleName} {handle : ForwardingHandle}
    (h : c.handle? name = some handle) : c.keep name (some handle) = c := by
  have hsame : (c.keep name (some handle)).handle? = c.handle? := by
    funext other
    show (if other = name then some handle else c.handle? other) = _
    split
    · rename_i heq
      rw [heq, h]
    · rfl
  show ({ c with handle? := (c.keep name (some handle)).handle? } : Clients) = c
  rw [hsame]

theorem does_operate (c : Clients) (name : HandleName) (op : ForwardingOp) :
    c.Does (.operate name op) (c.step (.operate name op)).1 (c.step (.operate name op)).2 := by
  simp only [step]
  cases hheld : c.handle? name with
  | none => exact .unknown hheld
  | some handle =>
      obtain ⟨⟨⟨answer, handle'⟩, q⟩, hrun⟩ : ∃ ran, handle.operate op c.platform = ran := ⟨_, rfl⟩
      simp only [hrun]
      cases answer with
      | ok u =>
          obtain ⟨-, f, hgrants, rfl⟩ := ForwardingHandle.operate_eq_ok hrun
          exact .granted hheld hgrants
      | error error =>
          -- the handle that is kept is the one there was
          obtain ⟨rfl, rfl⟩ := ForwardingHandle.operate_eq_error hrun
          have hsame := keep_of_held (c.after [op.call] c.forwarding) hheld
          exact hsame ▸ .refused [op.call] error

theorem does_readRateLimit (c : Clients) (name : HandleName) (lif : LifId) :
    c.Does (.readRateLimit name lif) (c.step (.readRateLimit name lif)).1
      (c.step (.readRateLimit name lif)).2 := by
  simp only [step]
  cases hheld : c.handle? name with
  | none => exact .unknown hheld
  | some handle =>
      obtain ⟨⟨result, q⟩, hread⟩ : ∃ read, handle.readRateLimit lif c.platform = read := ⟨_, rfl⟩
      obtain rfl : c.platform.record (.readRateLimit lif) = q := by
        rw [← handle.readRateLimit_platform lif, hread]
      simp only [hread]
      cases result with
      | ok value => exact .answered name lif value
      | error error => exact .refused [.readRateLimit lif] error

theorem does_release (c : Clients) (name : HandleName) :
    c.Does (.release name) (c.step (.release name)).1 (c.step (.release name)).2 := by
  simp only [step]
  cases hheld : c.handle? name with
  | none => exact .unknown hheld
  | some handle =>
      obtain ⟨⟨result, q⟩, hclose⟩ : ∃ closed, handle.close c.platform = closed := ⟨_, rfl⟩
      obtain rfl : c.platform.record .closeForwarding = q := by
        rw [← handle.close_platform, hclose]
      simp only [hclose]
      cases result with
      | ok u => exact .released name
      | error error => exact .unreleased name error

/-- **An action does one of the things listed, and nothing else.** -/
theorem does_step (c : Clients) (action : ClientAction) :
    c.Does action (c.step action).1 (c.step action).2 := by
  cases action with
  | acquire name => exact c.does_acquire name
  | operate name op => exact c.does_operate name op
  | readRateLimit name lif => exact c.does_readRateLimit name lif
  | release name => exact c.does_release name

end Clients

end FlowProcessor
