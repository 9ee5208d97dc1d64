/-
  FlowProcessor.Proofs.Forwarding.Atomicity — THE COMMIT IS WHERE A RUN TAKES EFFECT.

  A run completes some of the calls of its plan, in order, and stops.  If the commit is not among
  them, the state of the platform is untouched.  If it is, the tables are those of the plan, tuned
  by exactly the tuning calls among them; nothing is taken back and nothing else is tuned.  The
  stage is always that of the last milestone these calls pass, whatever an earlier run left.

  Nothing is assumed about the output: a run that can no longer write stops like any other.

    • `Reached`       — what a run that completed some calls has made of everything
    • `Ends.reached`  — every end of a run is of this form
    • `apply_takes_effect_at_commit` — the same for a run from the outside
-/
import FlowProcessor.Proofs.Forwarding.Effect
import FlowProcessor.Proofs.Forwarding.Stages

namespace FlowProcessor

open ForwardingTables (empty)

/-! ## §1. How far a run has come. -/

/-- A run of a plan has completed the calls `done`, and `rest` are those it has not completed. -/
structure Reached (plan : ForwardingPlan) (faults : FaultTable) (endless : Prop)
    (f : ForwardingState) (outcome : ForwardingOutcome) (done rest : List Call)
    (f' : ForwardingState) : Prop where
  split : plan.callSequence = done ++ rest
  admitted : ∀ call ∈ done, plan.refusal? faults call = none
  /-- Unless the output came to an end, it is a refused call that the run stopped at. -/
  stopped : endless → ∀ call ∈ rest.head?, (plan.refusal? faults call).isSome
  succeeds : (∃ report, outcome.result = .ok report) ↔ rest = []
  stage : outcome.stage = plan.stageReached done.length
  uncommitted : .commit ∉ done → f' = f
  committed : .commit ∈ done → Configured plan done f f'

variable {plan : ForwardingPlan} {readback : Readback} {faults : FaultTable} {endless stuck : Prop}
variable {f f' : ForwardingState} {outcome : ForwardingOutcome} {made : List Call}

/-- The calls that are completed before a refused one are those before the first refused one. -/
theorem completed_unique {done rest done' rest' : List Call} {call : Call}
    (hsplit : done ++ rest = done' ++ call :: rest')
    (hdone : ∀ earlier ∈ done, plan.refusal? faults earlier = none)
    (hstopped : ∀ next ∈ rest.head?, (plan.refusal? faults next).isSome)
    (hdone' : ∀ earlier ∈ done', plan.refusal? faults earlier = none)
    (hrefused : (plan.refusal? faults call).isSome) : done = done' := by
  cases rest with
  | nil =>
      -- the refused call would be among those completed
      rw [List.append_nil] at hsplit
      rw [hdone call (by simp [hsplit])] at hrefused
      cases hrefused
  | cons next rest =>
      exact (split_unique (P := fun call => (plan.refusal? faults call).isSome) hsplit
        (fun earlier hmem => by simp [hdone earlier hmem]) (hstopped next rfl)
        (fun earlier hmem => by simp [hdone' earlier hmem]) hrefused).1

/-! ## §2. Every end of a run. -/

/-- A run that has not opened the service. -/
theorem Reached.of_unopened {error : ToolError}
    (hstopped : endless → (faults.find? .openForwarding).isSome) :
    Reached plan faults endless f ⟨.idle, .error error⟩ [] plan.callSequence f where
  split := rfl
  admitted call hmem := by cases hmem
  stopped hendless call hhead := by
    rw [callSequence_eq] at hhead
    obtain rfl := Option.some.inj hhead
    obtain ⟨error, hfault⟩ := Option.isSome_iff_exists.mp (hstopped hendless)
    rw [ForwardingPlan.refusal?_of_fault hfault]
    rfl
  succeeds := by
    rw [callSequence_eq]
    simp
  stage := rfl
  uncommitted _ := rfl
  committed hmem := by cases hmem

/-- The configuration of a run depends only on which of the calls of its steps it has completed. -/
theorem configuration_of_steps {before after : List Step} (f : ForwardingState)
    (readback : Readback) (calls : List Call)
    (hsplit : plan.steps = before ++ after)
    (hf' : f' = ((Checkpoint.opening f).afterSteps plan readback before).forwarding)
    (hcalls : ∀ call, call.isTuning = true ∨ call = .commit →
      (call ∈ callsOf plan before ↔ call ∈ calls)) :
    (.commit ∉ calls → f' = f) ∧ (.commit ∈ calls → Configured plan calls f f') := by
  obtain ⟨huncommitted, hcommitted⟩ := forwarding_afterSteps hsplit hf'
  have hcommit := hcalls .commit (.inr rfl)
  refine ⟨fun hnot => huncommitted (mt hcommit.mp hnot), fun hmem => ?_⟩
  exact (hcommitted (hcommit.mpr hmem)).congr fun call htuning => hcalls call (.inl htuning)

/-- A run that has opened the service and completed some steps, but not closed it. -/
theorem Reached.of_steps {before after : List Step} {error : ToolError}
    (hopen : faults.find? .openForwarding = none) (hsplit : plan.steps = before ++ after)
    (hadmitted : ∀ call ∈ callsOf plan before, plan.refusal? faults call = none)
    (hcall : ∀ step ∈ after.head?, (step.call? plan).isSome)
    (hstopped : endless → ∀ call ∈ (callsOf plan after ++ [Call.closeForwarding]).head?,
      (plan.refusal? faults call).isSome) :
    Reached plan faults endless f
      ⟨((Checkpoint.opening f).afterSteps plan readback before).progress.stage, .error error⟩
      (.openForwarding :: callsOf plan before) (callsOf plan after ++ [.closeForwarding])
      ((Checkpoint.opening f).afterSteps plan readback before).forwarding := by
  have hconfiguration := configuration_of_steps f readback
    (.openForwarding :: callsOf plan before) hsplit rfl fun call hkind => by
      -- opening is neither a tuning nor the commit
      rw [List.mem_cons, or_iff_right]
      rintro rfl
      rcases hkind with hkind | hkind <;> cases hkind
  refine ⟨?_, fun call hmem => ?_, hstopped, by simp, ?_, hconfiguration.1, hconfiguration.2⟩
  · rw [callSequence_eq, hsplit, callsOf_append]
    simp
  · rcases List.mem_cons.mp hmem with rfl | hmem
    · exact ForwardingPlan.refusal?_eq_none_iff.mpr ⟨hopen, rfl⟩
    · exact hadmitted call hmem
  · show Progress.stage _ = _
    rw [stageReached_of_steps hsplit hcall, stage_afterSteps]
    rfl

/-- A run that has completed everything. -/
theorem Reached.of_all {report : ForwardingReport} (hopen : faults.find? .openForwarding = none)
    (hadmitted : ∀ call ∈ callsOf plan plan.steps, plan.refusal? faults call = none)
    (hclose : faults.find? .closeForwarding = none) :
    Reached plan faults endless f ⟨.closed, .ok report⟩ plan.callSequence []
      ((Checkpoint.opening f).afterSteps plan readback plan.steps).forwarding := by
  have hconfiguration := configuration_of_steps f readback plan.callSequence
    (List.append_nil plan.steps).symm rfl fun call hkind => by
      rw [callSequence_eq, List.mem_append, List.mem_cons, List.mem_singleton]
      refine ⟨fun hmem => .inl (.inr hmem), ?_⟩
      rintro ((rfl | hmem) | rfl)
      · rcases hkind with hkind | hkind <;> cases hkind
      · exact hmem
      · rcases hkind with hkind | hkind <;> cases hkind
  refine ⟨(List.append_nil _).symm, fun call hmem => ?_, fun _ call hhead => ?_, by simp,
    stageReached_of_all.symm, hconfiguration.1, hconfiguration.2⟩
  · rw [callSequence_eq, List.mem_append, List.mem_cons, List.mem_singleton] at hmem
    rcases hmem with (rfl | hmem) | rfl
    · exact ForwardingPlan.refusal?_eq_none_iff.mpr ⟨hopen, rfl⟩
    · exact hadmitted call hmem
    · exact ForwardingPlan.refusal?_eq_none_iff.mpr ⟨hclose, rfl⟩
  · cases hhead

/-- **Whatever its end, a run has reached what the calls it completed lead to.** -/
theorem ForwardingPlan.Ends.reached (h : plan.Ends readback faults endless stuck f outcome made f') :
    ∃ done rest, Reached plan faults endless f outcome done rest f' := by
  cases h with
  | unannounced error limited =>
      exact ⟨[], _, .of_unopened fun hendless => absurd hendless limited⟩
  | unopened refusal => exact ⟨[], _, .of_unopened fun _ => by rw [refusal]; rfl⟩
  | stopped admitted steps =>
      cases steps with
      | refused split hdone makes refusal =>
          refine ⟨_, _, .of_steps admitted split hdone (fun step hhead => ?_)
            fun _ call hhead => ?_⟩
          · obtain rfl := Option.some.inj hhead
            rw [makes]
            rfl
          · rw [callsOf_cons, makes] at hhead
            obtain rfl := Option.some.inj hhead
            rw [refusal]
            rfl
      | unwritten error split hdone limited makes =>
          refine ⟨_, _, .of_steps admitted split hdone (fun step hhead => ?_) fun hendless =>
            absurd hendless limited⟩
          obtain rfl := Option.some.inj hhead
          exact makes
  | unfinished error admitted steps limited =>
      cases steps with
      | completed hsteps =>
          refine ⟨_, _, .of_steps admitted (List.append_nil _).symm hsteps (fun step hhead => ?_)
            fun hendless => absurd hendless limited⟩
          cases hhead
  | unclosed admitted steps refusal =>
      cases steps with
      | completed hsteps =>
          refine ⟨_, _, .of_steps admitted (List.append_nil _).symm hsteps (fun step hhead => ?_)
            fun _ call hhead => ?_⟩
          · cases hhead
          · obtain rfl := Option.some.inj hhead
            rw [ForwardingPlan.refusal?_of_fault refusal]
            rfl
  | finished admitted steps closes =>
      cases steps with
      | completed hsteps => exact ⟨_, _, .of_all admitted hsteps closes⟩

/-! ## §3. A run from the outside. -/

/-- **A run takes effect at its commit and nowhere before; after it, exactly the tuning that was
completed is applied.  Its stage is that of the last milestone it completed.** -/
theorem apply_takes_effect_at_commit (configurator : Configurator) (plan : ForwardingPlan)
    (readback : Readback) (w : World)
    (hcommits : w.platform.state.forwarding.commits.toNat < UInt32.size - 1) :
    ∃ (result : Except ToolError ForwardingReport) (w' : World) (done rest : List Call),
      configurator.apply plan readback w = ((result, ⟨plan.stageReached done.length⟩), w')
      ∧ plan.callSequence = done ++ rest
      ∧ (∀ call ∈ done, plan.refusal? w.platform.faults call = none)
      ∧ (w.out.room = none →
        ∀ call ∈ rest.head?, (plan.refusal? w.platform.faults call).isSome)
      ∧ ((∃ report, result = .ok report) ↔ rest = [])
      ∧ (.commit ∉ done → w'.platform.state = w.platform.state)
      ∧ (.commit ∈ done →
        w'.platform.state.devices = w.platform.state.devices
        ∧ w'.platform.state.forwarding.commits.toNat
          = w.platform.state.forwarding.commits.toNat + 1
        ∧ Configured plan done w.platform.state.forwarding w'.platform.state.forwarding) := by
  obtain ⟨outcome, made, f', w', hrun, hends, hafter⟩ :=
    apply_ends plan readback w.over_self feasible_steps
  obtain ⟨done, rest, hreached⟩ := hends.reached
  refine ⟨outcome.result, w', done, rest, ?_, hreached.split, hreached.admitted, hreached.stopped,
    hreached.succeeds, fun hnot => ?_, fun hmem => ⟨?_, ?_, ?_⟩⟩
  · rw [← hreached.stage]
    exact Configurator.apply_eq hrun
  · rw [hafter.platform, hreached.uncommitted hnot, Platform.after_state_self]
  · rw [hafter.platform, Platform.after_devices]
  · rw [hafter.platform, Platform.after_forwarding, (hreached.committed hmem).commits]
    exact toNat_commits_succ hcommits
  · rw [hafter.platform, Platform.after_forwarding]
    exact hreached.committed hmem

/-- An interface that is named twice, whose rate limit cannot be read back: the first tuning is
done but for the reading, the second not begun, and the stage is still that of the commit. -/
theorem apply_takes_effect_at_commit_of_failed_readback :
    ∃ (result : Except ToolError ForwardingReport) (w' : World),
      Configurator.apply ⟨.closed⟩
          ⟨⟨3⟩, .l3, false, [.untagged 11 1, .untagged 12 1], some 1500, .ethernetII, some 20⟩ id
          (World.start ⟨⟨[], ⟨empty, 5⟩⟩, [],
            FaultTable.empty.insert (.readRateLimit ⟨1⟩) (.notFound "limit")⟩ .unlimited)
        = ((result, ⟨.committed⟩), w')
      ∧ w'.platform.state.forwarding.commits.toNat = 6
      ∧ w'.platform.state.forwarding.active.lif? ⟨1⟩
        = some ⟨⟨12⟩, .untagged, some 3, some ⟨3⟩, some 1500, .ethernetII, some 20⟩ := by
  obtain ⟨result, w', done, rest, hrun, hsplit, hadmitted, hstopped, -, -, hcommitted⟩ :=
    apply_takes_effect_at_commit ⟨.closed⟩
      ⟨⟨3⟩, .l3, false, [.untagged 11 1, .untagged 12 1], some 1500, .ethernetII, some 20⟩ id
      (World.start ⟨⟨[], ⟨empty, 5⟩⟩, [],
        FaultTable.empty.insert (.readRateLimit ⟨1⟩) (.notFound "limit")⟩ .unlimited) (by decide)
  obtain rfl := completed_unique (hsplit.symm.trans (show _ = [.openForwarding,
      .configureDomain ⟨3⟩, .configureLif ⟨1⟩, .assignAddressSpace ⟨1⟩, .attachLif ⟨3⟩ ⟨1⟩,
      .configureLif ⟨1⟩, .assignAddressSpace ⟨1⟩, .attachLif ⟨3⟩ ⟨1⟩, .commit, .setMtu ⟨1⟩,
      .setRateLimit ⟨1⟩] ++ .readRateLimit ⟨1⟩
        :: [.setMtu ⟨1⟩, .setRateLimit ⟨1⟩, .readRateLimit ⟨1⟩, .closeForwarding] from rfl))
    hadmitted (hstopped rfl) (by decide) (by decide)
  obtain ⟨-, hcount, hconfigured⟩ := hcommitted (by decide)
  exact ⟨result, w', hrun, hcount, hconfigured.lifs ⟨1⟩⟩

end FlowProcessor
