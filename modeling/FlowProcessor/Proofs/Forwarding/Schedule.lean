/-
  FlowProcessor.Proofs.Forwarding.Schedule — THE CALLS OF A PLAN, IN ORDER.

  What a run asks of the platform is fixed by its plan before it starts.  `callSequence` writes it
  down on its own; that the steps of a plan make exactly these calls is proved.

    • `callSequence_eq`        — the steps make these calls, between opening and closing
    • `setMtu_mem_tuningCalls` — and its like: which settings are made for an interface
-/
import FlowProcessor.Proofs.Forwarding.Runs

namespace FlowProcessor

/-! ## §1. The calls. -/

namespace ForwardingPlan

variable (plan : ForwardingPlan)

/-- The calls that stage an interface. -/
def stagingCalls (spec : LifSpec) : List Call :=
  [.configureLif spec.lif, .assignAddressSpace spec.lif, .attachLif plan.domain spec.lif]

/-- The calls that tune an interface: for each setting that the plan has. -/
def tuningCalls (lif : LifId) : List Call :=
  (if plan.mtu.isSome then [.setMtu lif] else [])
    ++ (if plan.frameType = .ethernetII then [] else [.setFrameType lif])
    ++ (if plan.rateLimit.isSome then [.setRateLimit lif, .readRateLimit lif] else [])

/-- The calls of a plan, in order. -/
def callSequence : List Call :=
  [.openForwarding]
    ++ (if plan.clear then [.clearForwarding] else [])
    ++ [.configureDomain plan.domain]
    ++ plan.interfaces.flatMap plan.stagingCalls
    ++ [.commit]
    ++ plan.interfaces.flatMap (fun spec => plan.tuningCalls spec.lif)
    ++ [.closeForwarding]

end ForwardingPlan

variable {plan : ForwardingPlan}

/-! ## §2. Steps and calls. -/

theorem callsOf_staging (spec : LifSpec) :
    callsOf plan (ForwardingPlan.staging spec) = plan.stagingCalls spec := rfl

theorem FrameType.isDefault_iff {frameType : FrameType} :
    frameType.isDefault = true ↔ frameType = .ethernetII :=
  beq_iff_eq

theorem callsOf_tuning (lif : LifId) :
    callsOf plan (plan.tuning lif) = plan.tuningCalls lif := by
  have hmtu : callsOf plan (plan.mtu.toList.map (.setMtu lif))
      = if plan.mtu.isSome then [.setMtu lif] else [] := by
    cases plan.mtu <;> rfl
  have hframe : callsOf plan
        (if plan.frameType.isDefault then [] else [.setFrameType lif plan.frameType])
      = if plan.frameType = .ethernetII then [] else [.setFrameType lif] := by
    simp only [FrameType.isDefault_iff]
    split <;> rfl
  have hlimit : callsOf plan (plan.rateLimit.toList.flatMap fun limit =>
        [.setRateLimit lif limit, .checkRateLimit lif limit])
      = if plan.rateLimit.isSome then [.setRateLimit lif, .readRateLimit lif] else [] := by
    cases plan.rateLimit <;> rfl
  -- that an interface is tuned is noted without a call
  have htuned : callsOf plan (if plan.hasTuning then [.tuned lif] else []) = [] := by
    split <;> rfl
  simp only [ForwardingPlan.tuning, callsOf_append, hmtu, hframe, hlimit, htuned, List.append_nil,
    ForwardingPlan.tuningCalls]

theorem callsOf_flatMap {α : Type} (xs : List α) (steps : α → List Step) :
    callsOf plan (xs.flatMap steps) = xs.flatMap fun x => callsOf plan (steps x) :=
  List.filterMap_flatMap

/-- **The steps of a plan make its calls, between opening and closing the service.** -/
theorem callSequence_eq :
    plan.callSequence = .openForwarding :: callsOf plan plan.steps ++ [.closeForwarding] := by
  simp only [ForwardingPlan.callSequence, ForwardingPlan.steps, callsOf_append, callsOf_flatMap,
    callsOf_staging, callsOf_tuning]
  cases plan.clear <;> simp [callsOf, Step.call?]

/-! ## §3. Which calls occur. -/

theorem setMtu_mem_tuningCalls {lif other : LifId} :
    .setMtu other ∈ plan.tuningCalls lif ↔ other = lif ∧ plan.mtu.isSome := by
  simp only [ForwardingPlan.tuningCalls, List.mem_append]
  grind

theorem setFrameType_mem_tuningCalls {lif other : LifId} :
    .setFrameType other ∈ plan.tuningCalls lif ↔ other = lif ∧ plan.frameType ≠ .ethernetII := by
  simp only [ForwardingPlan.tuningCalls, List.mem_append]
  grind

theorem setRateLimit_mem_tuningCalls {lif other : LifId} :
    .setRateLimit other ∈ plan.tuningCalls lif ↔ other = lif ∧ plan.rateLimit.isSome := by
  simp only [ForwardingPlan.tuningCalls, List.mem_append]
  grind

end FlowProcessor
