/-
  FlowProcessor.Proofs.Forwarding.Stages — THE STAGES OF A FORWARDING RUN.

  A run reaches a stage when the calls that lead to it have all succeeded: `milestones` lists the
  stages of a plan with their calls.  Most stages take one call.  Tuning an interface takes several
  and has one stage, which a run reaches only with the last of them.

    • `Paced.stage_eq`   — the stage after some steps is that of the last milestone they pass
    • `paced_steps`      — the steps of a plan are paced by its milestones
    • `stageReached_of_steps`, `stageReached_of_all` — the stage of a run, by the calls it completed
-/
import FlowProcessor.Proofs.Forwarding.Schedule

namespace FlowProcessor

/-! ## §1. Milestones. -/

/-- A stage, and the calls that lead to it from the stage before. -/
structure Milestone where
  calls : List Call
  stage : Stage
  deriving DecidableEq, Repr

namespace ForwardingPlan

variable (plan : ForwardingPlan)

/-- The milestones of staging an interface. -/
def stagingMilestones (spec : LifSpec) : List Milestone :=
  [⟨[.configureLif spec.lif], .configured spec.lif⟩,
    ⟨[.assignAddressSpace spec.lif], .assigned spec.lif⟩,
    ⟨[.attachLif plan.domain spec.lif], .attached spec.lif⟩]

/-- The milestone of tuning an interface, if the plan has any tuning. -/
def tuningMilestones (spec : LifSpec) : List Milestone :=
  if plan.hasTuning then [⟨plan.tuningCalls spec.lif, .tuned spec.lif⟩] else []

/-- The milestones between opening and closing the service. -/
def stepMilestones : List Milestone :=
  (if plan.clear then [⟨[.clearForwarding], .cleared⟩] else [])
    ++ [⟨[.configureDomain plan.domain], .domainCreated⟩]
    ++ plan.interfaces.flatMap plan.stagingMilestones
    ++ [⟨[.commit], .committed⟩]
    ++ plan.interfaces.flatMap plan.tuningMilestones

/-- The milestones of a plan, in order. -/
def milestones : List Milestone :=
  ⟨[.openForwarding], .opened⟩ :: plan.stepMilestones ++ [⟨[.closeForwarding], .closed⟩]

end ForwardingPlan

/-- The stage of the last of some milestones that a number of successful calls passes, or else the
stage before them. -/
def stageAfter : List Milestone → Nat → Stage → Stage
  | [], _, stage => stage
  | m :: ms, count, stage =>
      if m.calls.length ≤ count then stageAfter ms (count - m.calls.length) m.stage else stage

/-- The stage that a run of a plan is at after so many successful calls. -/
def ForwardingPlan.stageReached (plan : ForwardingPlan) (count : Nat) : Stage :=
  stageAfter plan.milestones count .idle

theorem stageAfter_cons_of_le {m : Milestone} {ms : List Milestone} {count : Nat} {stage : Stage} :
    stageAfter (m :: ms) (m.calls.length + count) stage = stageAfter ms count m.stage := by
  rw [stageAfter, if_pos (Nat.le_add_right _ _), Nat.add_sub_cancel_left]

/-- Calls that do not pass the milestones in front do not count for those behind. -/
theorem stageAfter_append {ms ns : List Milestone} {count : Nat} {stage : Stage} :
    stageAfter (ms ++ ns) count stage
      = if (ms.flatMap (·.calls)).length ≤ count
        then stageAfter ns (count - (ms.flatMap (·.calls)).length) (stageAfter ms count stage)
        else stageAfter ms count stage := by
  induction ms generalizing count stage with
  | nil => simp [stageAfter]
  | cons m ms ih =>
      rw [List.cons_append, stageAfter, stageAfter, List.flatMap_cons, List.length_append]
      by_cases hle : m.calls.length ≤ count
      · rw [if_pos hle, if_pos hle, ih, Nat.sub_sub]
        by_cases hrest : (ms.flatMap (·.calls)).length ≤ count - m.calls.length
        · rw [if_pos hrest, if_pos (by omega)]
        · rw [if_neg hrest, if_neg (by omega)]
      · rw [if_neg hle, if_neg hle, if_neg (by omega)]

/-! ## §2. Steps that are paced by milestones. -/

/-- The stage after some steps, from an earlier one. -/
def stageOf (steps : List Step) (stage : Stage) : Stage :=
  steps.foldl (fun stage step => step.stage?.getD stage) stage

theorem stage_afterSteps {plan : ForwardingPlan} {readback : Readback} {c : Checkpoint}
    {steps : List Step} :
    (c.afterSteps plan readback steps).progress.stage = stageOf steps c.progress.stage := by
  induction steps generalizing c with
  | nil => rfl
  | cons step steps ih =>
      have hnext : (step.next plan readback c).progress.stage
          = step.stage?.getD c.progress.stage := by
        cases step <;> rfl
      rw [Checkpoint.afterSteps_cons, ih, hnext]
      rfl

theorem stageOf_append (xs ys : List Step) (stage : Stage) :
    stageOf (xs ++ ys) stage = stageOf ys (stageOf xs stage) :=
  List.foldl_append

/-- Steps without a stage of their own leave the stage as it is. -/
theorem stageOf_silent {steps : List Step} (h : ∀ step ∈ steps, step.stage? = none)
    (stage : Stage) : stageOf steps stage = stage := by
  induction steps with
  | nil => rfl
  | cons step steps ih =>
      show stageOf steps (step.stage?.getD stage) = stage
      rw [h step List.mem_cons_self]
      exact ih fun later hmem => h later (List.mem_cons_of_mem _ hmem)

variable {plan : ForwardingPlan}

/-- Every milestone is reached by the last of the steps that make its calls. -/
inductive Paced (plan : ForwardingPlan) : List Step → List Milestone → Prop
  | nil : Paced plan [] []
  | cons {silent steps : List Step} {last : Step} {m : Milestone} {ms : List Milestone}
      (silent_stage : ∀ step ∈ silent, step.stage? = none) (reaches : last.stage? = some m.stage)
      (makes : callsOf plan (silent ++ [last]) = m.calls) (later : Paced plan steps ms) :
      Paced plan ((silent ++ [last]) ++ steps) (m :: ms)

theorem Paced.calls_eq {steps : List Step} {ms : List Milestone} (h : Paced plan steps ms) :
    callsOf plan steps = ms.flatMap (·.calls) := by
  induction h with
  | nil => rfl
  | cons silent_stage reaches makes later ih =>
      rw [callsOf_append, makes, ih, List.flatMap_cons]

theorem Paced.append {xs ys : List Step} {ms ns : List Milestone} (h : Paced plan xs ms)
    (h' : Paced plan ys ns) : Paced plan (xs ++ ys) (ms ++ ns) := by
  induction h with
  | nil => exact h'
  | cons silent_stage reaches makes later ih =>
      rw [List.append_assoc]
      exact .cons silent_stage reaches makes ih

theorem Paced.flatMap {α : Type} {steps : α → List Step} {ms : α → List Milestone}
    (h : ∀ a, Paced plan (steps a) (ms a)) (xs : List α) :
    Paced plan (xs.flatMap steps) (xs.flatMap ms) := by
  induction xs with
  | nil => exact .nil
  | cons x xs ih =>
      rw [List.flatMap_cons, List.flatMap_cons]
      exact (h x).append ih

/-- A step with one call and a stage of its own is paced by that stage. -/
theorem paced_singleton {step : Step} {call : Call} {stage : Stage}
    (hcall : step.call? plan = some call) (hstage : step.stage? = some stage) :
    Paced plan [step] [⟨[call], stage⟩] := by
  show Paced plan (([] ++ [step]) ++ []) _
  refine .cons (fun step hmem => ?_) hstage ?_ .nil
  · cases hmem
  · simp [callsOf, hcall]

/-- **Wherever paced steps are stopped at a call, the stage is that of the last milestone whose
calls have all been made.** -/
theorem Paced.stage_eq {steps done rest : List Step} {ms : List Milestone}
    (h : Paced plan steps ms) (hsplit : steps = done ++ rest)
    (hrest : ∀ step ∈ rest.head?, (step.call? plan).isSome) (stage : Stage) :
    stageOf done stage = stageAfter ms (callsOf plan done).length stage := by
  induction h generalizing done stage with
  | nil =>
      obtain ⟨rfl, -⟩ := List.append_eq_nil_iff.mp hsplit.symm
      rfl
  | @cons silent steps last m ms silent_stage reaches makes later ih =>
      have hreached : stageOf (silent ++ [last]) stage = m.stage := by
        rw [stageOf_append, stageOf_silent silent_stage]
        show last.stage?.getD stage = m.stage
        rw [reaches]
        rfl
      -- once the milestone is passed, the later ones decide
      have hpassed : ∀ more : List Step, steps = more ++ rest →
          stageOf ((silent ++ [last]) ++ more) stage
            = stageAfter (m :: ms) (callsOf plan ((silent ++ [last]) ++ more)).length stage := by
        intro more hmore
        rw [stageOf_append, hreached, ih hmore m.stage, callsOf_append, makes, List.length_append,
          stageAfter_cons_of_le]
      rcases List.append_eq_append_iff.mp hsplit with ⟨more, rfl, hmore⟩ | ⟨more, hpart, hmore⟩
      · exact hpassed more hmore
      · cases more with
        | nil =>
            obtain rfl : silent ++ [last] = done := by rw [hpart, List.append_nil]
            have hend := hpassed [] hmore.symm
            rw [List.append_nil] at hend
            exact hend
        | cons step more =>
            -- a call of the milestone is still to be made
            obtain ⟨call, hcall⟩ := Option.isSome_iff_exists.mp (hrest step (by simp [hmore]))
            have hlt : (callsOf plan done).length < m.calls.length := by
              rw [← makes, hpart, callsOf_append, callsOf_cons, hcall]
              simp
            have hsilent : silent = done ++ (step :: more).dropLast := by
              have hdrop := congrArg List.dropLast hpart
              rwa [List.dropLast_concat, List.dropLast_append_cons] at hdrop
            rw [stageAfter, if_neg (by omega)]
            refine stageOf_silent (fun step hmem => silent_stage step ?_) stage
            rw [hsilent]
            exact List.mem_append_left _ hmem

/-! ## §3. The steps of a plan. -/

theorem paced_staging (spec : LifSpec) :
    Paced plan (ForwardingPlan.staging spec) (plan.stagingMilestones spec) := by
  have hconfigure : Paced plan [.configure spec] [⟨[.configureLif spec.lif], _⟩] :=
    paced_singleton rfl rfl
  have hassign : Paced plan [.assign spec.lif] [⟨[.assignAddressSpace spec.lif], _⟩] :=
    paced_singleton rfl rfl
  have hattach : Paced plan [.attach spec.lif] [⟨[.attachLif plan.domain spec.lif], _⟩] :=
    paced_singleton rfl rfl
  exact hconfigure.append (hassign.append hattach)

/-- The settings of an interface have no stage of their own. -/
theorem stage?_of_mem_settings {lif : LifId} {step : Step}
    (h : step ∈ plan.mtu.toList.map (.setMtu lif)
      ++ (if plan.frameType.isDefault then [] else [.setFrameType lif plan.frameType])
      ++ plan.rateLimit.toList.flatMap fun limit =>
        [.setRateLimit lif limit, .checkRateLimit lif limit]) : step.stage? = none := by
  simp only [List.mem_append] at h
  rcases h with (h | h) | h
  · obtain ⟨mtu, -, rfl⟩ := List.mem_map.mp h
    rfl
  · split at h
    · cases h
    · rw [List.mem_singleton.mp h]
      rfl
  · obtain ⟨limit, -, hstep⟩ := List.mem_flatMap.mp h
    simp only [List.mem_cons, List.not_mem_nil, or_false] at hstep
    rcases hstep with rfl | rfl <;> rfl

/-- A plan without any tuning has no step for it. -/
theorem tuning_eq_nil (h : plan.hasTuning = false) (lif : LifId) : plan.tuning lif = [] := by
  simp only [ForwardingPlan.hasTuning, Bool.or_eq_false_iff, Bool.not_eq_eq_eq_not, Bool.not_false,
    Option.isSome_eq_false_iff, Option.isNone_iff_eq_none] at h
  obtain ⟨⟨hmtu, hframe⟩, hlimit⟩ := h
  simp [ForwardingPlan.tuning, ForwardingPlan.hasTuning, hmtu, hframe, hlimit]

theorem paced_tuning (spec : LifSpec) :
    Paced plan (plan.tuning spec.lif) (plan.tuningMilestones spec) := by
  unfold ForwardingPlan.tuningMilestones
  cases htuning : plan.hasTuning with
  | false =>
      rw [tuning_eq_nil htuning]
      exact .nil
  | true =>
      have hcalls : callsOf plan (plan.tuning spec.lif) = _ := callsOf_tuning spec.lif
      -- the mark at the end is the only step of the tuning with a stage
      rw [ForwardingPlan.tuning, htuning, if_pos rfl] at hcalls ⊢
      rw [← List.append_nil (_ ++ [Step.tuned spec.lif])]
      exact .cons (fun step hmem => stage?_of_mem_settings hmem) rfl hcalls .nil

/-- **The steps of a plan are paced by its milestones.** -/
theorem paced_steps : Paced plan plan.steps plan.stepMilestones := by
  have hclear : Paced plan (if plan.clear then [.clear] else [])
      (if plan.clear then [⟨[.clearForwarding], .cleared⟩] else []) := by
    cases plan.clear with
    | false => exact .nil
    | true => exact paced_singleton rfl rfl
  unfold ForwardingPlan.steps ForwardingPlan.stepMilestones
  refine Paced.append (Paced.append (Paced.append (Paced.append hclear ?_) ?_) ?_) ?_
  · exact paced_singleton rfl rfl
  · exact .flatMap paced_staging plan.interfaces
  · exact paced_singleton rfl rfl
  · exact .flatMap paced_tuning plan.interfaces

/-! ## §4. Whole runs. -/

/-- Every call of a plan leads to some milestone. -/
theorem callSequence_eq_flatMap_milestones :
    plan.callSequence = plan.milestones.flatMap (·.calls) := by
  rw [callSequence_eq, paced_steps.calls_eq, ForwardingPlan.milestones]
  simp

/-- The stage of a run that has opened the service and stopped at a call of a step, or at the
end of the steps. -/
theorem stageReached_of_steps {done rest : List Step} (hsplit : plan.steps = done ++ rest)
    (hrest : ∀ step ∈ rest.head?, (step.call? plan).isSome) :
    plan.stageReached (.openForwarding :: callsOf plan done : List Call).length
      = stageOf done .opened := by
  have hlength : (plan.stepMilestones.flatMap (·.calls)).length
      = (callsOf plan done).length + (callsOf plan rest).length := by
    rw [← paced_steps.calls_eq, hsplit, callsOf_append, List.length_append]
  have hopened : plan.stageReached (.openForwarding :: callsOf plan done : List Call).length
      = stageAfter (plan.stepMilestones ++ [⟨[.closeForwarding], .closed⟩])
        (callsOf plan done).length .opened := by
    rw [List.length_cons, Nat.add_comm]
    exact stageAfter_cons_of_le (m := ⟨[.openForwarding], .opened⟩)
  rw [hopened, stageAfter_append, paced_steps.stage_eq hsplit hrest]
  split
  · -- not even a run that has completed all steps has closed the service
    rw [stageAfter, if_neg]
    simp only [List.length_singleton]
    omega
  · rfl

/-- A run that has made all calls of its plan has closed the service. -/
theorem stageReached_of_all : plan.stageReached plan.callSequence.length = .closed := by
  rw [callSequence_eq_flatMap_milestones, ForwardingPlan.stageReached, ForwardingPlan.milestones,
    stageAfter_append, List.flatMap_append, List.length_append, if_pos (Nat.le_add_right _ _),
    Nat.add_sub_cancel_left]
  rfl

end FlowProcessor
