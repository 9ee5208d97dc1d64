/-
  FlowProcessor.Proofs.Forwarding.Effect — WHAT A FORWARDING RUN ACHIEVES.

  A run that no fault is registered against, and that is not asked for an MTU of zero, succeeds and
  makes the tables those of its plan: exactly them if the plan clears, and otherwise over what was
  there before.  Nothing is assumed about the platform, and a plan may name an interface as often
  as it likes; the last specification counts.

    • `stateAfter_of_tuned`  — an interface all of whose tuning has succeeded is as the plan says
    • `rateLimits_afterSteps` — every rate limit reads back as it was set
    • `apply_effect`          — the whole effect of a run
-/
import FlowProcessor.Proofs.Forwarding.Completion

namespace FlowProcessor

open ForwardingTables (empty)

variable {plan : ForwardingPlan} {readback : Readback} {c : Checkpoint}

/-! ## §1. Interfaces that are fully tuned. -/

/-- An interface once its plan is carried out. -/
def ForwardingPlan.finalState (plan : ForwardingPlan) (spec : LifSpec) : LifState where
  port := spec.port
  vlan := spec.vlan
  addressSpace := some plan.domain.word
  domain := some plan.domain
  mtu := plan.mtu
  frameType := plan.frameType
  rateLimit := plan.rateLimit

theorem stateAfter_of_tuned {spec : LifSpec} {done : List Call}
    (h : ∀ call ∈ plan.tuningCalls spec.lif, call ∈ done) :
    plan.stateAfter done spec = plan.finalState spec := by
  -- a setting that is not among the calls is one the plan does not have
  have hmtu : (if .setMtu spec.lif ∈ done then plan.mtu else none) = plan.mtu := by
    split
    · rfl
    · rename_i hnot
      have hnone : ¬ plan.mtu.isSome := fun hsome =>
        hnot (h _ (setMtu_mem_tuningCalls.mpr ⟨rfl, hsome⟩))
      exact (Option.not_isSome_iff_eq_none.mp hnone).symm
  have hframe :
      (if .setFrameType spec.lif ∈ done then plan.frameType else .ethernetII)
        = plan.frameType := by
    split
    · rfl
    · rename_i hnot
      exact Decidable.byContradiction fun hne =>
        hnot (h _ (setFrameType_mem_tuningCalls.mpr ⟨rfl, Ne.symm hne⟩))
  have hlimit :
      (if .setRateLimit spec.lif ∈ done then plan.rateLimit else none) = plan.rateLimit := by
    split
    · rfl
    · rename_i hnot
      have hnone : ¬ plan.rateLimit.isSome := fun hsome =>
        hnot (h _ (setRateLimit_mem_tuningCalls.mpr ⟨rfl, hsome⟩))
      exact (Option.not_isSome_iff_eq_none.mp hnone).symm
  simp only [ForwardingPlan.stateAfter, ForwardingPlan.retuned, ForwardingPlan.stagedState,
    LifState.bare, ForwardingPlan.finalState, hmtu, hframe, hlimit]

/-- All tuning calls of an interface of the plan are among the calls of the plan. -/
theorem mem_callsOf_steps {spec : LifSpec} (hspec : spec ∈ plan.interfaces) {call : Call}
    (hcall : call ∈ plan.tuningCalls spec.lif) : call ∈ callsOf plan plan.steps := by
  rw [ForwardingPlan.steps_eq, callsOf_append, callsOf_cons, ForwardingPlan.tuningSteps,
    callsOf_flatMap]
  refine List.mem_append_right _ (List.mem_append_right _ (List.mem_flatMap.mpr ⟨spec, hspec, ?_⟩))
  rw [callsOf_tuning]
  exact hcall

/-! ## §2. Rate limits that are read back. -/

/-- A step that reads a rate limit back. -/
def Step.isCheck : Step → Bool
  | .checkRateLimit _ _ => true
  | _ => false

theorem rateLimits_of_not_check {steps : List Step} (h : ∀ step ∈ steps, step.isCheck = false) :
    (c.afterSteps plan readback steps).progress.rateLimits = c.progress.rateLimits := by
  induction steps generalizing c with
  | nil => rfl
  | cons step steps ih =>
      have hfirst := h step List.mem_cons_self
      rw [Checkpoint.afterSteps_cons, ih fun later hmem => h later (List.mem_cons_of_mem _ hmem),
        Step.rateLimits_next]
      cases step with
      | checkRateLimit lif limit => cases hfirst
      | _ => rfl

/-- A rate limit that was just set is read back as it was set. -/
theorem rateLimits_of_set {lif : LifId} (limit : UInt32)
    (hlif : (c.forwarding.active.lif? lif).isSome) :
    (c.afterSteps plan readback
        [.setRateLimit lif limit, .checkRateLimit lif limit]).progress.rateLimits
      = c.progress.rateLimits ++ [(lif, readback limit)] := by
  obtain ⟨l, hl⟩ := Option.isSome_iff_exists.mp hlif
  have hstored : (Step.next plan readback c (.setRateLimit lif limit)).storedLimit lif = limit := by
    simp [Checkpoint.storedLimit, Step.change, Checkpoint.retune, hl]
  show c.progress.rateLimits
      ++ [(lif, readback ((Step.next plan readback c (.setRateLimit lif limit)).storedLimit lif))]
    = _
  rw [hstored]

/-- The rate limits that tuning an interface reads back: one, if the plan has any. -/
def ForwardingPlan.limitsOf (plan : ForwardingPlan) (readback : Readback) (lif : LifId) :
    List (LifId × UInt32) :=
  plan.rateLimit.toList.map fun limit => (lif, readback limit)

theorem rateLimits_tuning {lif : LifId} (hlif : (c.forwarding.active.lif? lif).isSome) :
    (c.afterSteps plan readback (plan.tuning lif)).progress.rateLimits
      = c.progress.rateLimits ++ plan.limitsOf readback lif := by
  -- neither the settings before the rate limit nor the mark after it are read back
  have hbefore : ∀ step ∈ plan.mtu.toList.map (.setMtu lif)
      ++ (if plan.frameType.isDefault then [] else [.setFrameType lif plan.frameType]),
      Step.isCheck step = false ∧ step.Tunes plan c.forwarding.active := by
    intro step hstep
    rcases List.mem_append.mp hstep with h | h
    · obtain ⟨mtu, hmtu, rfl⟩ := List.mem_map.mp h
      exact ⟨rfl, Option.mem_toList.mp hmtu, hlif⟩
    · split at h
      · exact absurd h List.not_mem_nil
      · rw [List.mem_singleton.mp h]
        exact ⟨rfl, rfl, hlif⟩
  have hafter : ∀ step ∈ (if plan.hasTuning then [.tuned lif] else []),
      Step.isCheck step = false := by
    intro step hstep
    split at hstep
    · rw [List.mem_singleton.mp hstep]
      rfl
    · exact absurd hstep List.not_mem_nil
  have hlif' := ((feasible_and_tuned plan readback fun step h =>
    (hbefore step h).2).2.isSome_lif? lif).trans hlif
  rw [ForwardingPlan.tuning, Checkpoint.afterSteps_append, rateLimits_of_not_check hafter,
    Checkpoint.afterSteps_append, ForwardingPlan.limitsOf]
  have hkept : (c.afterSteps plan readback _).progress.rateLimits = c.progress.rateLimits :=
    rateLimits_of_not_check fun step h => (hbefore step h).1
  cases plan.rateLimit with
  | none => simpa using hkept
  | some limit =>
      rw [← hkept]
      exact rateLimits_of_set limit hlif'

/-- **Every rate limit of a plan is read back, in the order of its interfaces.** -/
theorem rateLimits_tuningSteps (specs : List LifSpec)
    (h : ∀ spec ∈ specs, (c.forwarding.active.lif? spec.lif).isSome) :
    (c.afterSteps plan readback
        (specs.flatMap fun spec => plan.tuning spec.lif)).progress.rateLimits
      = c.progress.rateLimits ++ specs.flatMap fun spec => plan.limitsOf readback spec.lif := by
  induction specs generalizing c with
  | nil => simp
  | cons spec specs ih =>
      have hspec := h spec List.mem_cons_self
      have htuned := (feasible_and_tuned plan readback
        fun step hstep => tunes_of_mem_tuning hspec hstep).2
      rw [List.flatMap_cons, Checkpoint.afterSteps_append, ih fun other hother =>
        (htuned.isSome_lif? other.lif).trans (h other (List.mem_cons_of_mem _ hother)),
        rateLimits_tuning hspec, List.flatMap_cons, List.append_assoc]

theorem rateLimits_afterSteps {f : ForwardingState} :
    ((Checkpoint.opening f).afterSteps plan readback plan.steps).progress.rateLimits
      = plan.interfaces.flatMap fun spec => plan.limitsOf readback spec.lif := by
  rw [ForwardingPlan.steps_eq, Checkpoint.afterSteps_append, Checkpoint.afterSteps_cons]
  have hcommitted : (Checkpoint.committed plan readback f).progress.rateLimits = [] :=
    (afterSteps_of_staging fun _ h => isStaging_of_mem h).2
  exact (rateLimits_tuningSteps plan.interfaces fun spec h => isSome_lif?_committed h).trans
    (by rw [hcommitted, List.nil_append])

/-! ## §3. The whole effect. -/

/-- The platform objects only to an MTU of zero. -/
theorem ForwardingPlan.objection?_eq_none (h : plan.mtu ≠ some 0) (call : Call) :
    plan.objection? call = none := by
  cases call with
  | setMtu lif => exact if_neg h
  | _ => rfl

/-- The outcome of a run is what a configurator answers and remembers. -/
theorem Configurator.apply_eq {configurator : Configurator} {w w' : World} {stage : Stage}
    {result : Except ToolError ForwardingReport}
    (h : plan.apply readback w = (⟨stage, result⟩, w')) :
    configurator.apply plan readback w = ((result, ⟨stage⟩), w') := by
  rw [Configurator.apply, h]

/-- The interfaces that a plan names are those with a last specification. -/
theorem lastNaming_eq_none_iff {specs : List LifSpec} {lif : LifId} :
    lastNaming specs lif = none ↔ lif ∉ specs.map (·.lif) := by
  rw [lastNaming, List.find?_eq_none]
  simp

/-- Counting one commit more does not overflow below the limit. -/
theorem toNat_commits_succ {n : UInt32} (h : n.toNat < UInt32.size - 1) :
    (n + 1).toNat = n.toNat + 1 := by
  rw [UInt32.toNat_add, show (1 : UInt32).toNat = 1 from rfl]
  unfold UInt32.size at h
  omega

/-- **A run that nothing stands against succeeds, and makes the tables those of its plan.** -/
theorem apply_effect (configurator : Configurator) (plan : ForwardingPlan) (w : World)
    (hout : w.out.room = none)
    (hcommits : w.platform.state.forwarding.commits.toNat < UInt32.size - 1)
    (hfaults : ∀ call ∈ plan.callSequence, w.platform.faults.find? call = none)
    (hmtu : plan.mtu ≠ some 0) :
    ∃ (report : ForwardingReport) (w' : World),
      configurator.apply plan id w = ((.ok report, ⟨.closed⟩), w')
      ∧ report.interfaces = plan.interfaces.length
      ∧ report.rateLimits
        = (match plan.rateLimit with
          | some limit => plan.interfaces.map fun spec => (spec.lif, limit)
          | none => [])
      ∧ w'.platform.state.devices = w.platform.state.devices
      ∧ w'.platform.state.forwarding.commits.toNat
        = w.platform.state.forwarding.commits.toNat + 1
      ∧ (plan.clear = true →
          (∀ domain, w'.platform.state.forwarding.active.domain? domain
            = if domain = plan.domain then some plan.mode else none)
          ∧ ∀ lif, w'.platform.state.forwarding.active.lif? lif
            = (lastNaming plan.interfaces lif).map plan.finalState)
      ∧ (plan.clear = false →
          w'.platform.state.forwarding.active.domain? plan.domain = some plan.mode
          ∧ (∀ domain, domain ≠ plan.domain → w'.platform.state.forwarding.active.domain? domain
            = w.platform.state.forwarding.active.domain? domain)
          ∧ (∀ lif spec, lastNaming plan.interfaces lif = some spec →
            w'.platform.state.forwarding.active.lif? lif = some (plan.finalState spec))
          ∧ ∀ lif, lif ∉ plan.interfaces.map (·.lif) →
            w'.platform.state.forwarding.active.lif? lif
              = w.platform.state.forwarding.active.lif? lif) := by
  rw [callSequence_eq] at hfaults
  have hsteps : ∀ call ∈ callsOf plan plan.steps,
      plan.refusal? w.platform.faults call = none := fun call hcall =>
    ForwardingPlan.refusal?_eq_none_iff.mpr
      ⟨hfaults call (by simp [hcall]), ForwardingPlan.objection?_eq_none hmtu call⟩
  obtain ⟨outcome, made, f', w', hrun, hends, hafter⟩ :=
    apply_ends plan id w.over_self feasible_steps
  -- nothing is refused and everything can be written, so that the run finishes
  obtain ⟨rfl, hf'⟩ :=
    hends.of_admitted hout (hfaults _ (by simp)) hsteps (hfaults _ (by simp))
  have hcommit : Call.commit ∈ callsOf plan plan.steps := by
    rw [ForwardingPlan.steps_eq, callsOf_append, callsOf_cons]
    simp [Step.call?]
  have hconfigured := (forwarding_afterSteps (List.append_nil plan.steps).symm
    hf').2 hcommit
  -- all tuning calls are among the calls, so that every interface is as the plan says
  have hfinal : ∀ lif spec, lastNaming plan.interfaces lif = some spec →
      plan.stateAfter (callsOf plan plan.steps) spec = plan.finalState spec := fun lif spec hlast =>
    stateAfter_of_tuned fun call => mem_callsOf_steps
      (List.mem_reverse.mp (List.mem_of_find?_eq_some hlast))
  refine ⟨_, w', Configurator.apply_eq hrun, rfl, ?_, ?_, ?_, fun hclear => ⟨fun domain => ?_,
    fun lif => ?_⟩, fun hclear => ⟨?_, fun domain hne => ?_, fun lif spec hlast => ?_,
    fun lif hlif => ?_⟩⟩
  · show Progress.rateLimits _ = _
    rw [rateLimits_afterSteps]
    cases hlimit : plan.rateLimit with
    | none => simp [ForwardingPlan.limitsOf, hlimit]
    | some limit => simp [ForwardingPlan.limitsOf, hlimit, List.map_eq_flatMap]
  · rw [hafter.platform, Platform.after_devices]
  · rw [hafter.platform, Platform.after_forwarding, hconfigured.commits]
    exact toNat_commits_succ hcommits
  · rw [hafter.platform, Platform.after_forwarding, hconfigured.domains, ForwardingPlan.base,
      if_pos hclear, ForwardingTables.domain?_empty]
  · rw [hafter.platform, Platform.after_forwarding, hconfigured.lifs, ForwardingPlan.base,
      if_pos hclear, ForwardingTables.lif?_empty]
    cases hlast : lastNaming plan.interfaces lif with
    | none => rfl
    | some spec => exact congrArg some (hfinal lif spec hlast)
  · rw [hafter.platform, Platform.after_forwarding, hconfigured.domains, if_pos rfl]
  · rw [hafter.platform, Platform.after_forwarding, hconfigured.domains, if_neg hne,
      ForwardingPlan.base, if_neg (by simp [hclear])]
  · rw [hafter.platform, Platform.after_forwarding, hconfigured.lifs, hlast]
    exact congrArg some (hfinal lif spec hlast)
  · rw [hafter.platform, Platform.after_forwarding, hconfigured.lifs,
      lastNaming_eq_none_iff.mpr hlif, ForwardingPlan.base, if_neg (by simp [hclear])]

/-- A plan that names an interface twice, on a platform that knows another one. -/
theorem apply_effect_of_repeated_lif :
    ∃ (report : ForwardingReport) (w' : World),
      Configurator.fresh.apply
          ⟨⟨3⟩, .l3, false, [.untagged 11 1, .untagged 12 1], some 1500, ⟨2⟩, some 20⟩ id
          (World.start (.ofState ⟨[], ⟨empty.putLif ⟨7⟩ (.bare ⟨4⟩ .untagged), 5⟩⟩) .unlimited)
        = ((.ok report, ⟨.closed⟩), w')
      ∧ report.rateLimits = [(⟨1⟩, 20), (⟨1⟩, 20)]
      ∧ w'.platform.state.forwarding.commits.toNat = 6
      ∧ w'.platform.state.forwarding.active.lif? ⟨1⟩
        = some ⟨⟨12⟩, .untagged, some 3, some ⟨3⟩, some 1500, ⟨2⟩, some 20⟩
      ∧ w'.platform.state.forwarding.active.lif? ⟨7⟩ = some (.bare ⟨4⟩ .untagged) := by
  obtain ⟨report, w', hrun, -, hlimits, -, hcommits, -, hkeep⟩ :=
    apply_effect .fresh ⟨⟨3⟩, .l3, false, [.untagged 11 1, .untagged 12 1], some 1500, ⟨2⟩, some 20⟩
      (World.start (.ofState ⟨[], ⟨empty.putLif ⟨7⟩ (.bare ⟨4⟩ .untagged), 5⟩⟩) .unlimited)
      rfl (by decide) (fun _ _ => rfl) (by decide)
  obtain ⟨-, -, hnamed, hother⟩ := hkeep rfl
  exact ⟨report, w', hrun, hlimits, hcommits, hnamed ⟨1⟩ (.untagged 12 1) (by decide),
    (hother ⟨7⟩ (by decide)).trans (by decide)⟩

end FlowProcessor
