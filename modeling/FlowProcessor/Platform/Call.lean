/-
  FlowProcessor.Platform.Call — THE CALLS A PLATFORM ANSWERS.

  A call is what the call log records and what a fault is registered for: the service and the
  identifiers it addresses, without the values it writes.
-/
import FlowProcessor.Status

namespace FlowProcessor

/-- A service call. -/
inductive Call
  | readGroups (device : DeviceId)
  | writeGroup (device : DeviceId) (group : GroupId)
  | writeAllGroups (device : DeviceId)
  | openRules (device : DeviceId)
  | openCursor (device : DeviceId)
  /-- The read of the rule at a position in the order of the cursor. -/
  | readRule (device : DeviceId) (position : Nat)
  | closeRules (device : DeviceId)
  | openForwarding
  | clearForwarding
  | configureDomain (domain : DomainId)
  | configureLif (lif : LifId)
  | assignAddressSpace (lif : LifId)
  | attachLif (domain : DomainId) (lif : LifId)
  | commit
  | setMtu (lif : LifId)
  | setFrameType (lif : LifId)
  | setRateLimit (lif : LifId)
  | readRateLimit (lif : LifId)
  | closeForwarding
  deriving DecidableEq, Repr

/-- Whether a call addresses the load-balance groups. -/
def Call.isLoadBalance : Call → Bool
  | .readGroups _ | .writeGroup _ _ | .writeAllGroups _ => true
  | _ => false

/-! ## Faults. -/

/-- The calls that are made to fail, each with the error it fails with. -/
structure FaultTable where
  faults : List (Call × PlatformError)
  deriving DecidableEq, Repr

namespace FaultTable

/-- No call fails. -/
def empty : FaultTable := ⟨[]⟩

/-- The error registered for a call. -/
def find? (t : FaultTable) (call : Call) : Option PlatformError :=
  (t.faults.find? fun fault => fault.1 = call).map (·.2)

/-- Registers an error for a call, in place of an earlier one. -/
def insert (t : FaultTable) (call : Call) (error : PlatformError) : FaultTable :=
  ⟨(call, error) :: t.faults.filter fun fault => fault.1 ≠ call⟩

end FaultTable

end FlowProcessor
