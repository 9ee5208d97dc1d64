/-
  FlowProcessor.Proofs.Forwarding.Application — A PLAN AS A FUNCTION OF THE TABLES.

  Carrying out a plan takes dozens of calls, of which some work on a copy and others on the
  committed tables.  Where no call is refused, all of this comes to a plain function of the tables:
  keep them or not, write the domain, and write every interface as the plan wants it in the end.

    • `ForwardingPlan.appliedTo` — that function
    • `Configured.eq_applied`    — a plan that is committed and fully tuned has computed it
    • `forwarding_of_fixed`      — nothing is committed yet where a line can be refused as a whole
    • `apply_of_unfaulted`       — a run on a platform without faults, whatever its state
-/
import FlowProcessor.Proofs.Forwarding.Effect
import FlowProcessor.Proofs.Forwarding.Wording

namespace FlowProcessor

/-! ## §1. The tables of a plan. -/

/-- The tables that a plan makes of others: over what it keeps of them, its domain, and one
interface after the other. -/
def ForwardingPlan.appliedTo (plan : ForwardingPlan) (tables : ForwardingTables) :
    ForwardingTables :=
  plan.interfaces.foldl (fun t spec => t.putLif spec.lif (plan.finalState spec))
    ((plan.base tables).putDomain plan.domain plan.mode)

/-- A state whose tables are those that a plan makes of its own, committed once more. -/
def PlatformState.configured (s : PlatformState) (plan : ForwardingPlan) : PlatformState :=
  { s with forwarding := ⟨plan.appliedTo s.forwarding.active, s.forwarding.commits + 1⟩ }

variable {plan : ForwardingPlan} {f f' : ForwardingState} {t : ForwardingTables}

theorem lif?_foldl_putLif (state : LifSpec → LifState) (specs : List LifSpec) (lif : LifId) :
    (specs.foldl (fun t spec => t.putLif spec.lif (state spec)) t).lif? lif
      = match lastNaming specs lif with
        | some spec => some (state spec)
        | none => t.lif? lif := by
  induction specs generalizing t with
  | nil => rfl
  | cons spec specs ih =>
      rw [List.foldl_cons, ih, lastNaming_cons]
      cases lastNaming specs lif with
      -- a later specification takes over from this one
      | some last => rfl
      | none =>
          rw [Option.none_or, ForwardingTables.lif?_putLif]
          by_cases h : spec.lif = lif <;> simp [h]

theorem domains_foldl_putLif (state : LifSpec → LifState) (specs : List LifSpec) :
    (specs.foldl (fun t spec => t.putLif spec.lif (state spec)) t).domains = t.domains := by
  induction specs generalizing t with
  | nil => rfl
  | cons spec specs ih =>
      rw [List.foldl_cons, ih, ForwardingTables.domains_putLif]

theorem lif?_appliedTo (lif : LifId) :
    (plan.appliedTo t).lif? lif
      = match lastNaming plan.interfaces lif with
        | some spec => some (plan.finalState spec)
        | none => (plan.base t).lif? lif := by
  rw [ForwardingPlan.appliedTo, lif?_foldl_putLif, ForwardingTables.lif?_putDomain]

theorem domain?_appliedTo (domain : DomainId) :
    (plan.appliedTo t).domain? domain
      = if domain = plan.domain then some plan.mode else (plan.base t).domain? domain := by
  rw [ForwardingTables.domain?, ForwardingPlan.appliedTo, domains_foldl_putLif]
  exact (ForwardingTables.domain?_putDomain _ _ _ domain).trans (by simp only [eq_comm])

/-! ## §2. Runs. -/

/-- **A plan that is committed, and all of whose calls have succeeded, has made those tables.** -/
theorem Configured.eq_applied (h : Configured plan (callsOf plan plan.steps) f f') :
    f' = ⟨plan.appliedTo f.active, f.commits + 1⟩ := by
  have hactive : f'.active = plan.appliedTo f.active := by
    refine ForwardingTables.ext (fun domain => ?_) fun lif => ?_
    · rw [h.domains, domain?_appliedTo]
    · rw [h.lifs, lif?_appliedTo]
      cases hlast : lastNaming plan.interfaces lif with
      | none => rfl
      | some spec =>
          have hspec : spec ∈ plan.interfaces :=
            List.mem_reverse.mp (List.mem_of_find?_eq_some hlast)
          exact congrArg some (stateAfter_of_tuned fun call => mem_callsOf_steps hspec)
  rw [← hactive, ← h.commits]

/-- All steps of a plan together apply it, and commit once. -/
theorem forwarding_steps {readback : Readback} :
    ((Checkpoint.opening f).afterSteps plan readback plan.steps).forwarding
      = ⟨plan.appliedTo f.active, f.commits + 1⟩ := by
  have hcommit : Call.commit ∈ callsOf plan plan.steps := by
    rw [ForwardingPlan.steps_eq, callsOf_append, callsOf_cons]
    simp [Step.call?]
  exact ((forwarding_afterSteps (List.append_nil plan.steps).symm rfl).2 hcommit).eq_applied

/-- Every tuning step is announced with what it sets. -/
theorem Step.Tunes.isFixed {step : Step} (h : step.Tunes plan t) : step.isFixed = false := by
  cases step with
  | clear | commit => cases h
  | _ => rfl

/-- **Up to a step whose announcement is the same in every run, nothing is committed.** -/
theorem forwarding_of_fixed {readback : Readback} {done rest : List Step} {step : Step}
    (hsplit : plan.steps = done ++ step :: rest) (hfixed : step.isFixed = true) :
    ((Checkpoint.opening f).afterSteps plan readback done).forwarding = f := by
  refine (forwarding_afterSteps hsplit rfl).1 ?_
  rw [ForwardingPlan.steps_eq] at hsplit
  rcases List.append_eq_append_iff.mp hsplit with ⟨more, hdone, hrest⟩ | ⟨more, hstaging, -⟩
  · cases more with
    | nil =>
        -- the step is the commit itself
        rw [hdone, List.append_nil]
        exact commit_notMem_of_staging fun _ hmem => isStaging_of_mem hmem
    | cons first tunings =>
        obtain ⟨-, htunings⟩ := List.cons.inj hrest
        have hmem : step ∈ plan.tuningSteps := by simp [htunings]
        have htunes : step.Tunes plan (Checkpoint.committed plan readback f).forwarding.active :=
          tunes_of_mem hmem
        rw [htunes.isFixed] at hfixed
        cases hfixed
  · exact commit_notMem_of_staging fun earlier hmem =>
      isStaging_of_mem (hstaging ▸ List.mem_append_left _ hmem)

/-- **A run that is refused nothing applies its plan, unless the output comes to an end.  Where
nothing of the output is held back then, the plan was not committed, or all of it was done.** -/
theorem ForwardingPlan.Ends.done_or_unwritten {readback : Readback} {faults : FaultTable}
    {endless stuck : Prop} {outcome : ForwardingOutcome} {made : List Call}
    (h : plan.Ends readback faults endless stuck f outcome made f')
    (hopen : faults.find? .openForwarding = none)
    (hadmitted : ∀ call ∈ callsOf plan plan.steps, plan.refusal? faults call = none)
    (hclose : faults.find? .closeForwarding = none) :
    (∃ report, outcome = ⟨.closed, .ok report⟩) ∧ f' = ⟨plan.appliedTo f.active, f.commits + 1⟩
      ∨ ¬ endless ∧ (∃ error, outcome.result = .error (.output error))
        ∧ (¬ stuck → f' = f ∨ f' = ⟨plan.appliedTo f.active, f.commits + 1⟩) := by
  cases h with
  | unannounced error limited => exact .inr ⟨limited, ⟨error, rfl⟩, fun _ => .inl rfl⟩
  | unopened refusal => rw [hopen] at refusal; cases refusal
  | unclosed admitted steps refusal => rw [hclose] at refusal; cases refusal
  | finished admitted steps closes =>
      cases steps with
      | completed admitted => exact .inl ⟨⟨_, rfl⟩, forwarding_steps⟩
  | unfinished error admitted steps limited =>
      cases steps with
      | completed admitted => exact .inr ⟨limited, ⟨error, rfl⟩, fun _ => .inr forwarding_steps⟩
  | stopped admitted steps =>
      cases steps with
      | @refused done rest step call error split before makes refusal =>
          have hmem : call ∈ callsOf plan plan.steps := by
            rw [split, callsOf_append, callsOf_cons, makes]
            simp
          rw [hadmitted call hmem] at refusal
          cases refusal
      | @unwritten done rest step made error split before limited makes part sticks =>
          refine .inr ⟨limited, ⟨error, rfl⟩, fun hnot => .inl (forwarding_of_fixed split ?_)⟩
          exact Bool.of_not_eq_false fun hfixed => hnot (sticks hfixed)

/-- **Only the output can go wrong on a platform without faults.  Whatever its tables are, a plan
that does not ask for an MTU of zero is carried out to its end, unless the output comes to one; and
if that can be flushed all the same, the state is as it was, or as after all of the plan.** -/
theorem apply_of_unfaulted (plan : ForwardingPlan) (hmtu : plan.mtu ≠ some 0) (s : PlatformState)
    (room : Option Nat) :
    ∃ outcome w, plan.apply id (World.start (.ofState s) (.ofRoom room)) = (outcome, w)
      ∧ ((∃ report, outcome = ⟨.closed, .ok report⟩) ∧ w.out.flush = .ok ()
          ∧ w.platform.state = s.configured plan
        ∨ (∃ error, outcome.result = .error (.output error)) ∧ room ≠ none
          ∧ (w.out.flush = .ok () →
            w.platform.state = s ∨ w.platform.state = s.configured plan)) := by
  obtain ⟨outcome, made, f', w, hrun, hends, hafter⟩ :=
    apply_ends plan id (World.start (.ofState s) (.ofRoom room)).over_self feasible_steps
  -- an empty table has no fault for any call, and the platform objects to none
  have hadmitted : ∀ call ∈ callsOf plan plan.steps, plan.refusal? .empty call = none :=
    fun call _ => ForwardingPlan.refusal?_eq_none_iff.mpr
      ⟨rfl, ForwardingPlan.objection?_eq_none hmtu call⟩
  refine ⟨outcome, w, hrun, ?_⟩
  rcases hends.done_or_unwritten rfl hadmitted rfl with
    ⟨⟨report, rfl⟩, hf'⟩ | ⟨hlimited, hresult, hf'⟩
  · refine .inl ⟨⟨report, rfl⟩, Sink.flush_eq_ok.mpr (apply_said hrun).stuck, ?_⟩
    rw [hafter.platform, hf']
    rfl
  · refine .inr ⟨hresult, hlimited, fun hflush => ?_⟩
    have hfree : ¬ w.out.stuck = true := by simp [Sink.flush_eq_ok.mp hflush]
    rw [hafter.platform]
    rcases hf' hfree with hkept | hdone
    · left
      rw [hkept]
      rfl
    · right
      rw [hdone]
      rfl

end FlowProcessor
