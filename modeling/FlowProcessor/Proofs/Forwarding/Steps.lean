/-
  FlowProcessor.Proofs.Forwarding.Steps — WHAT ONE STEP OF A FORWARDING RUN DOES.

  A checkpoint is what a run has made of its progress and of the configuration so far.  A step that
  finds what it relies on (`Step.Ready`) has three outcomes.  Nothing is registered against its
  call, and the run reaches `Step.next`; or the call is refused, which is all that happens, and its
  error is the error; or the output comes to an end.  Logging and the texts of the steps play no
  part in which of them it is.

    • `Step.Outcome` — the three outcomes, with the calls made and the configuration left
    • `take_outcome` — taking a step has one of them
-/
import FlowProcessor.ForwardingRun
import FlowProcessor.Proofs.Forwarding.Operations
import FlowProcessor.Proofs.Worlds

namespace FlowProcessor

/-! ## §1. Calls and refusals. -/

/-- The call a step makes. -/
def Step.call? (plan : ForwardingPlan) : Step → Option Call
  | .clear => some .clearForwarding
  | .createDomain => some (.configureDomain plan.domain)
  | .configure spec => some (.configureLif spec.lif)
  | .assign lif => some (.assignAddressSpace lif)
  | .attach lif => some (.attachLif plan.domain lif)
  | .commit => some .commit
  | .setMtu lif _ => some (.setMtu lif)
  | .setFrameType lif _ => some (.setFrameType lif)
  | .setRateLimit lif _ => some (.setRateLimit lif)
  | .checkRateLimit lif _ => some (.readRateLimit lif)
  | .tuned _ => none

namespace ForwardingPlan

/-- What the platform itself has against a call of a plan: an MTU of zero. -/
def objection? (plan : ForwardingPlan) : Call → Option PlatformError
  | .setMtu _ =>
      if plan.mtu = some 0 then some (.invalidParameter "MTU must be non-zero") else none
  | _ => none

/-- The error a call of a plan is refused with: that of a registered fault, or else the objection
of the platform itself. -/
def refusal? (plan : ForwardingPlan) (faults : FaultTable) (call : Call) : Option PlatformError :=
  (faults.find? call).or (plan.objection? call)

variable {plan : ForwardingPlan} {faults : FaultTable} {call : Call}

theorem refusal?_eq_none_iff :
    plan.refusal? faults call = none
      ↔ faults.find? call = none ∧ plan.objection? call = none :=
  Option.or_eq_none_iff

theorem refusal?_of_fault {error : PlatformError} (h : faults.find? call = some error) :
    plan.refusal? faults call = some error := by
  simp [refusal?, h]

/-- A refusal is a registered fault, or the objection where there is no fault. -/
theorem refusal?_eq_some {error : PlatformError} (h : plan.refusal? faults call = some error) :
    faults.find? call = some error
      ∨ faults.find? call = none ∧ plan.objection? call = some error :=
  Option.or_eq_some_iff.mp h

end ForwardingPlan

/-! ## §2. Checkpoints. -/

/-- How far a run has come, and what the configuration is by then. -/
structure Checkpoint where
  progress : Progress
  forwarding : ForwardingState

namespace Checkpoint

/-- The copy that the handle of the run works on. -/
def staged (c : Checkpoint) : ForwardingTables := c.progress.handle.staged

/-- The checkpoint with another copy. -/
def restage (c : Checkpoint) (staged : ForwardingTables) : Checkpoint :=
  { c with progress := { c.progress with handle := ⟨staged⟩ } }

/-- The checkpoint with an interface changed, the committed one and the copy of it. -/
def retune (c : Checkpoint) (lif : LifId) (change : LifState → LifState) : Checkpoint :=
  { c.restage (c.staged.adjustLif lif change) with
    forwarding := { c.forwarding with active := c.forwarding.active.adjustLif lif change } }

/-- The checkpoint with a rate limit that was read back. -/
def noteLimit (c : Checkpoint) (lif : LifId) (limit : UInt32) : Checkpoint :=
  { c with progress := { c.progress with rateLimits := c.progress.rateLimits ++ [(lif, limit)] } }

/-- The checkpoint at the stage of a step, if it is a step with a stage of its own. -/
def reach (c : Checkpoint) (stage? : Option Stage) : Checkpoint :=
  { c with progress := { c.progress with stage := stage?.getD c.progress.stage } }

/-- The rate limit the platform stores for a committed interface, 0 where none was set. -/
def storedLimit (c : Checkpoint) (lif : LifId) : UInt32 :=
  ((c.forwarding.active.lif? lif).bind (·.rateLimit)).getD 0

@[simp] theorem staged_restage (c : Checkpoint) (staged : ForwardingTables) :
    (c.restage staged).staged = staged := rfl

@[simp] theorem forwarding_restage (c : Checkpoint) (staged : ForwardingTables) :
    (c.restage staged).forwarding = c.forwarding := rfl

end Checkpoint

namespace Step

/-- What a step that is not refused makes of the tables. -/
def change (plan : ForwardingPlan) (readback : Readback) (c : Checkpoint) : Step → Checkpoint
  | .clear => c.restage .empty
  | .createDomain => c.restage (c.staged.putDomain plan.domain plan.mode)
  | .configure spec => c.restage (c.staged.putLif spec.lif (.bare spec.port spec.vlan))
  | .assign lif =>
      c.restage (c.staged.adjustLif lif fun l => { l with addressSpace := some plan.domain.word })
  | .attach lif => c.restage (c.staged.adjustLif lif fun l => { l with domain := some plan.domain })
  | .commit => { c with forwarding := ⟨c.staged, c.forwarding.commits + 1⟩ }
  | .setMtu lif mtu => c.retune lif fun l => { l with mtu := some mtu }
  | .setFrameType lif frameType => c.retune lif fun l => { l with frameType := frameType }
  | .setRateLimit lif limit => c.retune lif fun l => { l with rateLimit := some limit }
  | .checkRateLimit lif _ => c.noteLimit lif (readback (c.storedLimit lif))
  | .tuned _ => c

/-- The checkpoint after a step that is not refused. -/
def next (plan : ForwardingPlan) (readback : Readback) (c : Checkpoint) (step : Step) :
    Checkpoint :=
  (step.change plan readback c).reach step.stage?

/-- What a step relies on: the plan it belongs to, and the earlier steps. -/
def Ready (plan : ForwardingPlan) (c : Checkpoint) : Step → Prop
  | .clear | .createDomain | .configure _ | .commit | .tuned _ => True
  | .assign lif => (c.staged.lif? lif).isSome
  | .attach lif => (c.staged.domain? plan.domain).isSome ∧ (c.staged.lif? lif).isSome
  | .setMtu lif mtu => plan.mtu = some mtu ∧ (c.forwarding.active.lif? lif).isSome
  | .setFrameType lif _ | .setRateLimit lif _ | .checkRateLimit lif _ =>
      (c.forwarding.active.lif? lif).isSome

variable {plan : ForwardingPlan} {readback : Readback} {step : Step} {c : Checkpoint}
variable {op : ForwardingOp}

theorem call?_of_op? (h : step.op? plan = some op) : step.call? plan = some op.call := by
  cases step <;> simp only [op?, Option.some.injEq, reduceCtorEq] at h <;> subst h <;> rfl

variable (readback) in
/-- A step that is an operation of the handle is granted, unless the platform objects. -/
theorem grants_of_ready (hop : step.op? plan = some op) (hready : step.Ready plan c)
    (hobjection : plan.objection? op.call = none) :
    op.Grants c.forwarding c.staged (step.change plan readback c).forwarding
      (step.change plan readback c).staged := by
  cases step with
  | clear => cases hop; exact .clear
  | createDomain => cases hop; exact .configureDomain _ _
  | configure spec => cases hop; exact .configureLif _ _ _
  | assign lif => cases hop; exact .assignAddressSpace _ hready
  | attach lif => cases hop; exact .attach hready.1 hready.2
  | commit => cases hop; exact .commit
  | setMtu lif mtu =>
      cases hop
      refine .setMtu ?_ hready.2
      rintro rfl
      -- an MTU of zero is what the platform objects to
      simp [ForwardingOp.call, ForwardingPlan.objection?, hready.1] at hobjection
  | setFrameType lif frameType => cases hop; exact .setFrameType _ hready
  | setRateLimit lif limit => cases hop; exact .setRateLimit _ hready
  | checkRateLimit lif limit => cases hop
  | tuned lif => cases hop

/-- Where the platform objects to the call of an operation, the work of it ends with that error. -/
theorem act_of_objection {error : PlatformError} (hop : step.op? plan = some op)
    (hready : step.Ready plan c) (h : plan.objection? op.call = some error) :
    op.act ⟨c.forwarding, c.staged⟩ = (.error error, ⟨c.forwarding, c.staged⟩) := by
  cases step with
  | setMtu lif mtu =>
      cases hop
      simp only [ForwardingOp.call, ForwardingPlan.objection?] at h
      split at h
      · rename_i hzero
        obtain rfl : mtu = 0 := Option.some.inj (hready.1.symm.trans hzero)
        cases h
        rfl
      · exact absurd h (by simp)
  | checkRateLimit lif limit => cases hop
  | tuned lif => cases hop
  -- to no other operation does the platform object
  | _ => cases hop; exact absurd h (by simp [ForwardingOp.call, ForwardingPlan.objection?])

/-! ## §3. How a step can end. -/

/-- What taking a step answers, the calls it makes, and the configuration it leaves; `stuck` says
whether the output holds something back then. -/
inductive Outcome (plan : ForwardingPlan) (readback : Readback) (faults : FaultTable)
    (endless stuck : Prop) (c : Checkpoint) (step : Step) :
    Except ToolError Progress → List Call → ForwardingState → Prop
  | completed
      (admitted : ∀ call, step.call? plan = some call → plan.refusal? faults call = none) :
      Outcome plan readback faults endless stuck c step (.ok (step.next plan readback c).progress)
        (step.call? plan).toList (step.next plan readback c).forwarding
  | refused {call : Call} {error : PlatformError} (makes : step.call? plan = some call)
      (refusal : plan.refusal? faults call = some error) :
      Outcome plan readback faults endless stuck c step (.error (step.cause plan error)) [call]
        c.forwarding
  /-- The output came to an end, before the call of the step or after it.  Only an announcement that
  is the same in every run can be refused as a whole. -/
  | unwritten {made : List Call} (error : FileError) (limited : ¬ endless)
      (makes : (step.call? plan).isSome) (made_part : made <+: (step.call? plan).toList)
      (sticks : step.isFixed = false → stuck) :
      Outcome plan readback faults endless stuck c step (.error (.output error)) made c.forwarding

/-! ## §4. Performing a step. -/

variable {w : World} {p : Platform} {calls : List Call} {endless : Prop}

/-- A step with its stage, once it is announced. -/
def performed (plan : ForwardingPlan) (readback : Readback) (progress : Progress) (step : Step) :
    Run Progress :=
  step.perform plan readback progress >>= fun progress =>
    Run.pure { progress with stage := step.stage?.getD progress.stage }

theorem change_progress_of_op (h : step.op? plan = some op) :
    (step.change plan readback c).progress
      = { c.progress with handle := ⟨(step.change plan readback c).staged⟩ } := by
  cases step with
  | checkRateLimit lif limit | tuned lif => cases h
  | _ => rfl

/-- A step that is an operation ends as the operation does. -/
theorem performed_of_op (hop : step.op? plan = some op)
    (h : w.Over (p.after calls c.forwarding) endless) (hready : step.Ready plan c) :
    ∃ result made f w', performed plan readback c.progress step w = (result, w')
      ∧ step.Outcome plan readback p.faults endless (w'.out.stuck = true) c result made f
      ∧ w'.Over (p.after (calls ++ made) f) endless := by
  have hcall : step.call? plan = some op.call := call?_of_op? hop
  have hperform : step.perform plan readback c.progress
      = Run.call (c.progress.handle.run op) (step.cause plan) >>= fun handle =>
          Run.pure { c.progress with handle := handle } := by
    simp only [perform, hop]
    rfl
  unfold performed
  rw [hperform]
  cases hrefusal : plan.refusal? p.faults op.call with
  | none =>
      -- without a fault and without an objection the operation is granted
      obtain ⟨hfault, hobjection⟩ := ForwardingPlan.refusal?_eq_none_iff.mp hrefusal
      have hrun : c.progress.handle.run op (p.after calls c.forwarding) = (.ok _, _) :=
        ForwardingHandle.run_of_grants hfault (grants_of_ready readback hop hready hobjection)
      obtain ⟨called, hcalled, hover⟩ := Run.call_of_ok (step.cause plan) h hrun
      refine ⟨_, _, _, called, ?_, .completed fun call hmakes => ?_, ?_⟩
      · refine (Run.bind_of_ok ((Run.bind_of_ok hcalled).trans rfl)).trans ?_
        rw [next, Checkpoint.reach, change_progress_of_op hop]
        rfl
      · obtain rfl : op.call = call := Option.some.inj (hcall.symm.trans hmakes)
        exact hrefusal
      · rw [Platform.after_after] at hover
        rw [hcall]
        exact hover
  | some error =>
      have hrun : c.progress.handle.run op (p.after calls c.forwarding)
          = (.error error, p.after (calls ++ [op.call]) c.forwarding) := by
        rw [← Platform.after_after]
        -- a fault answers before the platform comes to its objection
        rcases ForwardingPlan.refusal?_eq_some hrefusal with hfault | ⟨hfault, hobjection⟩
        · exact ForwardingHandle.run_of_fault hfault
        · exact ForwardingHandle.run_of_refusal hfault (act_of_objection hop hready hobjection)
      obtain ⟨called, hcalled, hover⟩ := Run.call_of_error (step.cause plan) h hrun
      exact ⟨_, _, _, called, Run.bind_of_error (Run.bind_of_error hcalled),
        .refused hcall hrefusal, hover⟩

/-- Reading a rate limit back ends as the call does, unless what was read cannot be written.  A
rate limit that differs is only logged. -/
theorem performed_check {lif : LifId} {limit : UInt32}
    (h : w.Over (p.after calls c.forwarding) endless)
    (hready : (checkRateLimit lif limit).Ready plan c) :
    ∃ result made f w',
      performed plan readback c.progress (.checkRateLimit lif limit) w = (result, w')
      ∧ (checkRateLimit lif limit).Outcome plan readback p.faults endless (w'.out.stuck = true) c result made f
      ∧ w'.Over (p.after (calls ++ made) f) endless := by
  unfold performed
  obtain ⟨l, hl⟩ := Option.isSome_iff_exists.mp hready
  cases hrefusal : plan.refusal? p.faults (.readRateLimit lif) with
  | some error =>
      have hread : c.progress.handle.readRateLimit lif (p.after calls c.forwarding)
          = (.error error, p.after (calls ++ [.readRateLimit lif]) c.forwarding) := by
        rw [← Platform.after_after]
        rcases ForwardingPlan.refusal?_eq_some hrefusal with hfault | ⟨_, hobjection⟩
        · exact ForwardingHandle.readRateLimit_of_fault _ hfault
        · -- the platform objects to no reading
          exact absurd hobjection (by simp [ForwardingPlan.objection?])
      obtain ⟨called, hcalled, hover⟩ :=
        Run.call_of_error ((checkRateLimit lif limit).cause plan) h hread
      exact ⟨_, _, _, called, Run.bind_of_error (Run.bind_of_error hcalled),
        .refused rfl hrefusal, hover⟩
  | none =>
      have hread := c.progress.handle.readRateLimit_of_committed (p := p.after calls c.forwarding)
        (ForwardingPlan.refusal?_eq_none_iff.mp hrefusal).1 hl
      obtain ⟨called, hcalled, hover⟩ :=
        Run.call_of_ok ((checkRateLimit lif limit).cause plan) h hread
      have hstored : c.storedLimit lif = l.rateLimit.getD 0 := by
        simp [Checkpoint.storedLimit, hl]
      rw [← hstored] at hcalled
      rw [Platform.record_eq_after, Platform.after_after] at hover
      have hcompleted : ∀ stuck : Prop, (checkRateLimit lif limit).Outcome plan readback p.faults
          endless stuck c _ [.readRateLimit lif] c.forwarding := fun stuck =>
        .completed fun call hmakes => by
          obtain rfl := Option.some.inj hmakes
          exact hrefusal
      obtain ⟨written, hwritten, hwrite | ⟨hlimited, hsticks, error, hwrite⟩⟩ :=
        Run.writeLine_over false ("L3 exception rate limit for lif" ++ lif.text ++ " is "
          ++ Numeral.decimal (readback (c.storedLimit lif))) hover
      · by_cases heq : readback (c.storedLimit lif) = limit
        · refine ⟨_, _, _, written, ?_, hcompleted _, hwritten⟩
          refine Run.bind_of_ok ((Run.bind_of_ok hcalled).trans ((Run.bind_of_ok hwrite).trans ?_))
          rw [if_pos heq]
          rfl
        · obtain ⟨logged, hlog, hlogged⟩ :=
            Run.log_over (.limitDiffers lif (readback (c.storedLimit lif)) limit) hwritten
          refine ⟨_, _, _, logged, ?_, hcompleted _, hlogged⟩
          refine Run.bind_of_ok ((Run.bind_of_ok hcalled).trans ((Run.bind_of_ok hwrite).trans ?_))
          rw [if_neg heq]
          exact Run.bind_of_ok hlog
      · -- the call is made, but the step is not completed
        refine ⟨_, _, _, written, Run.bind_of_error ((Run.bind_of_ok hcalled).trans
          (Run.bind_of_error hwrite)),
          .unwritten error hlimited rfl List.prefix_rfl fun _ => hsticks rfl, hwritten⟩

/-! ## §5. Taking a step. -/

variable (plan readback step) in
/-- A step is announced, if it makes a call, and then performed. -/
theorem take_eq_performed (progress : Progress) (h : w.Over p endless) :
    ∃ w', w'.Over p endless ∧
      (step.take plan readback progress w = performed plan readback progress step w'
        ∨ ¬ endless ∧ (step.call? plan).isSome ∧ (step.isFixed = false → w'.out.stuck = true)
          ∧ ∃ error, step.take plan readback progress w = (.error (.output error), w')) := by
  unfold take
  cases hannouncement : step.announcement plan with
  | none => exact ⟨w, h, .inl (Run.bind_of_ok rfl)⟩
  | some line =>
      obtain ⟨written, hwritten, hwrite | ⟨hlimited, hsticks, error, hwrite⟩⟩ :=
        Run.writeLine_over step.isFixed line h
      · exact ⟨written, hwritten, .inl (Run.bind_of_ok hwrite)⟩
      · refine ⟨written, hwritten, .inr ⟨hlimited, ?_, hsticks, error, Run.bind_of_error hwrite⟩⟩
        -- only the mark of a tuned interface makes no call, and it is not announced
        cases step with
        | tuned lif => cases hannouncement
        | _ => rfl

variable (readback) in
/-- **A step that finds what it relies on has one of the three outcomes.** -/
theorem take_outcome (h : w.Over (p.after calls c.forwarding) endless)
    (hready : step.Ready plan c) :
    ∃ result made f w', step.take plan readback c.progress w = (result, w')
      ∧ step.Outcome plan readback p.faults endless (w'.out.stuck = true) c result made f
      ∧ w'.Over (p.after (calls ++ made) f) endless := by
  obtain ⟨written, hwritten, htake | ⟨hlimited, hmakes, hsticks, error, htake⟩⟩ :=
    take_eq_performed plan readback step c.progress h
  · rw [htake]
    cases hop : step.op? plan with
    | some op => exact performed_of_op hop hwritten hready
    | none =>
        cases step with
        | checkRateLimit lif limit => exact performed_check hwritten hready
        | tuned lif =>
            refine ⟨_, _, _, written, Run.bind_of_ok rfl,
              .completed fun call hmakes => ?_, ?_⟩
            · cases hmakes
            · simp only [call?, Option.toList_none, List.append_nil]
              exact hwritten
        | _ => cases hop
  · exact ⟨_, [], _, written, htake, .unwritten error hlimited hmakes List.nil_prefix hsticks,
      by simpa using hwritten⟩

end Step

end FlowProcessor
