/-
  FlowProcessor.GroupRun — RUNNING A SEQUENCE OF LOAD-BALANCE ACTIONS.

  Actions apply to the current device, in order.  The first failure ends the run; what was done
  before stays done, and a warning says so if a device was changed.

    • `GroupCommand.apply` — one action; the answer is the device for the next
    • `GroupRun.sequence`  — actions up to the first failure
    • `GroupRun.run`       — the same, with the final word in the log
-/
import FlowProcessor.GroupListing
import FlowProcessor.Platform.Groups
import FlowProcessor.Run

namespace FlowProcessor

/-! ## §1. Single actions. -/

namespace GroupRun

/-- Empties all groups of a device. -/
def clear (device : DeviceId) : Run Unit := Run.within (.clearAll device) do
  Run.call (·.clearGroups device)
    (.device "clearing load balance group destinations" device)
  Run.log (.groupsCleared device)

/-- Sets one group of a device. -/
def set (device : DeviceId) (group : GroupId) (dests : DestSet) : Run Unit :=
  Run.within (.setGroup device group dests) do
    Run.call (·.writeGroup device group dests)
      (.device ("setting load balance group " ++ idText group ++ " to destinations " ++ dests.text)
        device)
    Run.log (.groupSet device group dests)

/-- Reads all groups of a device. -/
def listing (device : DeviceId) : Run GroupListing := do
  let groups ← Run.call (·.readGroups device)
    (.device "retrieving load balance group destinations" device)
  return ⟨device, groups⟩

end GroupRun

/-- Applies an action to the current device; the answer is the current device after it. -/
def GroupCommand.apply (device : DeviceId) : GroupCommand → Run DeviceId
  | .select next => do
      Run.log (.selected next)
      return next
  | .clear => do
      GroupRun.clear device
      return device
  | .setMask group dests | .setList group dests => do
      GroupRun.set device group dests
      return device
  | .print => do
      let listing ← GroupRun.listing device
      Run.write listing.text
      return device

/-! ## §2. Sequences. -/

/-- The failure of an action, with the number of actions before it. -/
structure GroupFailure where
  position : Nat
  command : GroupCommand
  error : ToolError
  deriving DecidableEq, Repr

/-- How a sequence ended, and the current device at its end. -/
structure GroupOutcome where
  device : DeviceId
  failure : Option GroupFailure
  deriving DecidableEq, Repr

namespace GroupRun

/-- Applies actions up to the first failure, the first of them being at a given position. -/
def sequenceFrom (position : Nat) (device : DeviceId) :
    List GroupCommand → World → GroupOutcome × World
  | [], w => (⟨device, none⟩, w)
  | command :: commands, w =>
      match command.apply device w with
      | (.ok device, w) => sequenceFrom (position + 1) device commands w
      | (.error error, w) => (⟨device, some ⟨position, command, error⟩⟩, w)

/-- Applies actions up to the first failure. -/
def sequence (device : DeviceId) (commands : List GroupCommand) (w : World) :
    GroupOutcome × World :=
  sequenceFrom 0 device commands w

/-- The event that ends the log of a run, if there is one. -/
def closing? (commands : List GroupCommand) : Option GroupFailure → Option Event
  | none => some (.applied commands.length)
  | some failure =>
      if (commands.take failure.position).any (·.isWrite) then
        some (.stopped (failure.position + 1) commands.length failure.command)
      else none

/-- Runs actions from a current device.  The answer is the number of actions applied, beside the
current device at the end. -/
def run (device : DeviceId) (commands : List GroupCommand) (w : World) :
    (DeviceId × Except ToolError Nat) × World :=
  match sequence device commands w with
  | (outcome, w) =>
      let result := match outcome.failure with
        | none => .ok commands.length
        | some failure => .error failure.error
      ((outcome.device, result), (closing? commands outcome.failure).elim w w.note)

end GroupRun

end FlowProcessor
