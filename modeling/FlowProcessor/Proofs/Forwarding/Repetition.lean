/-
  FlowProcessor.Proofs.Forwarding.Repetition — A PLAN THAT IS APPLIED AGAIN.

  A plan says what its domain and its interfaces are to be, never by how much to change them.  So
  it finds its own tables as it would make them, and a run that has succeeded can be repeated: what
  was admitted the first time is admitted again, as the calls of a run do not depend on what they
  find.

    • `appliedTo_appliedTo`    — the tables that a plan makes are left as they are by it
    • `applied_of_ok`          — what a run that succeeds comes to is told by its plan
    • `exists_ok_of_unrefused` — a run that is refused nothing succeeds
    • `apply_idempotent`       — the second run does what the first one did, and changes no table
-/
import FlowProcessor.Proofs.Forwarding.Application
import FlowProcessor.Proofs.Forwarding.Wording

namespace FlowProcessor

open ForwardingTables (empty)

variable {plan : ForwardingPlan} {readback : Readback} {faults : FaultTable} {endless stuck : Prop}
variable {f f' : ForwardingState} {stage : Stage} {report : ForwardingReport} {made : List Call}

/-! ## §1. The tables. -/

/-- A plan builds on nothing, or on all that is there. -/
theorem ForwardingPlan.base_cases (plan : ForwardingPlan) :
    (∀ t, plan.base t = empty) ∨ ∀ t, plan.base t = t := by
  cases hclear : plan.clear with
  | true => exact .inl fun t => by rw [base, hclear, if_pos rfl]
  | false => exact .inr fun t => by rw [base, hclear, if_neg Bool.false_ne_true]

/-- **Applied to its own tables, a plan leaves them as they are.** -/
theorem appliedTo_appliedTo (plan : ForwardingPlan) (t : ForwardingTables) :
    plan.appliedTo (plan.appliedTo t) = plan.appliedTo t := by
  -- what the plan does not write is kept both times or neither time
  refine ForwardingTables.ext (fun domain => ?_) fun lif => ?_
  · rw [domain?_appliedTo, domain?_appliedTo]
    split
    · rfl
    · rename_i hne
      rcases plan.base_cases with hbase | hbase
      · rw [hbase, hbase]
      · rw [hbase (plan.appliedTo t), domain?_appliedTo, if_neg hne]
  · rw [lif?_appliedTo, lif?_appliedTo]
    cases hlast : lastNaming plan.interfaces lif with
    | some spec => rfl
    | none =>
        rcases plan.base_cases with hbase | hbase
        · rw [hbase, hbase]
        · rw [hbase (plan.appliedTo t), lif?_appliedTo, hlast]

/-! ## §2. Runs that succeed. -/

/-- What a plan has to report when it is carried out. -/
def ForwardingPlan.reportOf (plan : ForwardingPlan) (readback : Readback) : ForwardingReport :=
  ⟨plan.interfaces.length, plan.interfaces.flatMap fun spec => plan.limitsOf readback spec.lif⟩

/-- What a run that succeeds has met, and what it makes of the world. -/
structure Applied (plan : ForwardingPlan) (readback : Readback) (w w' : World) : Prop where
  unrefused : ∀ call ∈ plan.callSequence, plan.refusal? w.platform.faults call = none
  platform : w'.platform = w.platform.after plan.callSequence
    ⟨plan.appliedTo w.platform.state.forwarding.active, w.platform.state.forwarding.commits + 1⟩
  text : w'.out.text = w.out.text ++ plan.said (plan.reportOf readback).rateLimits

namespace ForwardingPlan.Ends

/-- A run that succeeds has been refused nothing. -/
theorem unrefused_of_ok (h : plan.Ends readback faults endless stuck f ⟨stage, .ok report⟩ made f') :
    ∀ call ∈ plan.callSequence, plan.refusal? faults call = none := by
  cases h with
  | finished opens steps closes =>
      cases steps with
      | completed admitted =>
          -- the platform has no objection to opening or to closing
          rw [callSequence_eq]
          simp only [List.cons_append, List.forall_mem_cons, List.forall_mem_append,
            List.not_mem_nil, false_imp_iff, implies_true, and_true]
          exact ⟨refusal?_eq_none_iff.mpr ⟨opens, rfl⟩, admitted,
            refusal?_eq_none_iff.mpr ⟨closes, rfl⟩⟩

/-- What a run that succeeds reports, asks for and leaves. -/
theorem of_ok (h : plan.Ends readback faults endless stuck f ⟨stage, .ok report⟩ made f') :
    stage = .closed ∧ report = plan.reportOf readback ∧ made = plan.callSequence
      ∧ f' = ⟨plan.appliedTo f.active, f.commits + 1⟩ := by
  cases h with
  | finished opens steps closes =>
      cases steps with
      | completed admitted =>
          refine ⟨rfl, ?_, callSequence_eq.symm, forwarding_steps⟩
          rw [rateLimits_afterSteps, reportOf]

/-- Where nothing is refused and everything can be written, a run succeeds. -/
theorem of_unrefused {outcome : ForwardingOutcome}
    (h : plan.Ends readback faults endless stuck f outcome made f') (hendless : endless)
    (hunrefused : ∀ call ∈ plan.callSequence, plan.refusal? faults call = none) :
    ∃ stage report, outcome = ⟨stage, .ok report⟩ := by
  have hfault : ∀ call ∈ plan.callSequence, faults.find? call = none := fun call hcall =>
    (refusal?_eq_none_iff.mp (hunrefused call hcall)).1
  rw [callSequence_eq] at hunrefused hfault
  obtain ⟨rfl, -⟩ := h.of_admitted hendless (hfault _ (by simp))
    (fun call hcall => hunrefused call (by simp [hcall])) (hfault _ (by simp))
  exact ⟨_, _, rfl⟩

end ForwardingPlan.Ends

variable {w w' v : World}

/-- **What a run that succeeds comes to is told by its plan.** -/
theorem applied_of_ok (h : plan.apply readback w = (⟨stage, .ok report⟩, w')) :
    stage = .closed ∧ report = plan.reportOf readback ∧ Applied plan readback w w' := by
  obtain ⟨outcome, made, f', after, hrun, hends, hover⟩ :=
    apply_ends plan readback w.over_self feasible_steps
  obtain ⟨rfl, rfl⟩ := Prod.mk.inj (hrun.symm.trans h)
  have htext := (apply_said h).text
  obtain ⟨rfl, rfl, rfl, rfl⟩ := hends.of_ok
  exact ⟨rfl, rfl, hends.unrefused_of_ok, hover.platform, htext⟩

variable (plan readback) in
/-- **A run to which nothing is refused, and whose output never ends, succeeds.** -/
theorem exists_ok_of_unrefused (hout : w.out.room = none)
    (h : ∀ call ∈ plan.callSequence, plan.refusal? w.platform.faults call = none) :
    ∃ stage report w', plan.apply readback w = (⟨stage, .ok report⟩, w') := by
  obtain ⟨outcome, made, f', w', hrun, hends, -⟩ :=
    apply_ends plan readback w.over_self feasible_steps
  obtain ⟨stage, report, rfl⟩ := hends.of_unrefused hout h
  exact ⟨stage, report, w', hrun⟩

/-! ## §3. The second run. -/

/-- What a configurator answers is the outcome of a run. -/
theorem Configurator.apply_eq_ok {configurator configurator' : Configurator}
    (h : configurator.apply plan readback w = ((.ok report, configurator'), w')) :
    ∃ stage, plan.apply readback w = (⟨stage, .ok report⟩, w') ∧ configurator' = ⟨stage⟩ := by
  obtain ⟨⟨⟨stage, result⟩, after⟩, hrun⟩ : ∃ ran, plan.apply readback w = ran := ⟨_, rfl⟩
  rw [Configurator.apply_eq hrun] at h
  obtain ⟨hanswer, rfl⟩ := Prod.mk.inj h
  obtain ⟨rfl, rfl⟩ := Prod.mk.inj hanswer
  exact ⟨stage, hrun, rfl⟩

/-- **A plan that has been applied can be applied again, to the same effect.**  The second run,
whoever starts it and wherever it writes, succeeds with the same report, writes the same text and
makes the same calls, and what it commits are the tables that it found. -/
theorem apply_idempotent (plan : ForwardingPlan) (readback : Readback)
    (first second first' : Configurator) (report : ForwardingReport) (w w' v : World)
    (hcommits : w.platform.state.forwarding.commits.toNat < UInt32.size - 2)
    (hrun : first.apply plan readback w = ((.ok report, first'), w'))
    (hplatform : v.platform = w'.platform) (hout : v.out.room = none) :
    ∃ v', second.apply plan readback v = ((.ok report, first'), v')
      ∧ v'.platform.state.forwarding.active = w'.platform.state.forwarding.active
      ∧ v'.platform.state.devices = w'.platform.state.devices
      ∧ w'.platform.state.forwarding.commits.toNat
        = w.platform.state.forwarding.commits.toNat + 1
      ∧ v'.platform.state.forwarding.commits.toNat
        = w'.platform.state.forwarding.commits.toNat + 1
      ∧ (∃ text, w'.out.text = w.out.text ++ text ∧ v'.out.text = v.out.text ++ text)
      ∧ ∃ calls, w'.platform.calls = w.platform.calls ++ calls
        ∧ v'.platform.calls = v.platform.calls ++ calls := by
  obtain ⟨stage, happly, rfl⟩ := Configurator.apply_eq_ok hrun
  obtain ⟨rfl, rfl, happlied⟩ := applied_of_ok happly
  -- the platform refuses the calls of the second run no more than those of the first
  have hfaults : v.platform.faults = w.platform.faults := by
    rw [hplatform, happlied.platform, Platform.after_faults]
  obtain ⟨stage, report, v', hagain⟩ := exists_ok_of_unrefused plan readback hout
    (hfaults ▸ happlied.unrefused)
  obtain ⟨rfl, rfl, hagain'⟩ := applied_of_ok hagain
  have hforwarding : w'.platform.state.forwarding
      = ⟨plan.appliedTo w.platform.state.forwarding.active,
        w.platform.state.forwarding.commits + 1⟩ := by
    rw [happlied.platform, Platform.after_forwarding]
  have hforwarding' : v'.platform.state.forwarding
      = ⟨plan.appliedTo w'.platform.state.forwarding.active,
        w'.platform.state.forwarding.commits + 1⟩ := by
    rw [hagain'.platform, Platform.after_forwarding, hplatform]
  have honce : w'.platform.state.forwarding.commits.toNat
      = w.platform.state.forwarding.commits.toNat + 1 := by
    rw [hforwarding]
    exact toNat_commits_succ (by omega)
  refine ⟨v', Configurator.apply_eq hagain, ?_, ?_, honce, ?_, ⟨_, happlied.text, hagain'.text⟩,
    plan.callSequence, ?_, ?_⟩
  · rw [hforwarding', hforwarding]
    exact appliedTo_appliedTo plan _
  · rw [hagain'.platform, Platform.after_devices, hplatform]
  · rw [hforwarding']
    exact toNat_commits_succ (by omega)
  · rw [happlied.platform, Platform.after_calls]
  · rw [hagain'.platform, Platform.after_calls]

/-- A plan that names an interface twice and keeps what is there, applied by two configurators. -/
theorem apply_idempotent_of_repeated_lif :
    ∃ (report : ForwardingReport) (w' v' : World),
      Configurator.fresh.apply
          ⟨⟨3⟩, .l3, false, [.untagged 11 1, .untagged 12 1], some 1500, ⟨2⟩, some 20⟩ id
          (World.start (.ofState ⟨[], ⟨empty.putLif ⟨7⟩ (.bare ⟨4⟩ .untagged), 5⟩⟩) .unlimited)
        = ((.ok report, ⟨.closed⟩), w')
      ∧ Configurator.fresh.apply
          ⟨⟨3⟩, .l3, false, [.untagged 11 1, .untagged 12 1], some 1500, ⟨2⟩, some 20⟩ id
          (World.start w'.platform .unlimited)
        = ((.ok report, ⟨.closed⟩), v')
      ∧ report.rateLimits = [(⟨1⟩, 20), (⟨1⟩, 20)]
      ∧ v'.platform.state.forwarding.active = w'.platform.state.forwarding.active
      ∧ v'.platform.state.forwarding.commits.toNat = 7
      ∧ v'.out.text = w'.out.text := by
  obtain ⟨stage, report, w', happly⟩ := exists_ok_of_unrefused
    ⟨⟨3⟩, .l3, false, [.untagged 11 1, .untagged 12 1], some 1500, ⟨2⟩, some 20⟩ id
    (w := World.start (.ofState ⟨[], ⟨empty.putLif ⟨7⟩ (.bare ⟨4⟩ .untagged), 5⟩⟩) .unlimited)
    rfl (by decide)
  obtain ⟨rfl, rfl, -⟩ := applied_of_ok happly
  have hrun : Configurator.fresh.apply _ id _ = _ := Configurator.apply_eq happly
  obtain ⟨v', hagain, hactive, -, honce, htwice, ⟨text, htext, htext'⟩, -⟩ :=
    apply_idempotent _ id .fresh .fresh ⟨.closed⟩ _ _ w' (World.start w'.platform .unlimited)
      (by decide) hrun rfl rfl
  refine ⟨_, w', v', hrun, hagain, rfl, hactive, ?_, ?_⟩
  · rw [htwice, honce]
    rfl
  · rw [htext, htext']
    rfl

end FlowProcessor
