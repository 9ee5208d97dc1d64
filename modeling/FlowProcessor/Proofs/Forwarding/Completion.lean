/-
  FlowProcessor.Proofs.Forwarding.Completion — HOW FAR A PLAN IS CARRIED OUT.

  `Configured plan done f f'` says what a plan has made of a configuration `f` once its calls up to
  and including the commit have succeeded, and of the tuning those among `done`.  Wherever a run
  stops, the configuration is the one it started from or of this form, and which of the two holds
  is told by whether the commit is among the calls that succeeded.

    • `feasible_steps`        — every step of a plan finds what it relies on
    • `forwarding_afterSteps` — the configuration after any part of the steps
-/
import FlowProcessor.Proofs.Forwarding.Progression
import FlowProcessor.Proofs.Forwarding.Schedule

namespace FlowProcessor

/-! ## §1. A plan that is partly carried out. -/

namespace ForwardingPlan

/-- What a plan builds on: the committed tables, or empty ones if it clears. -/
def base (plan : ForwardingPlan) (active : ForwardingTables) : ForwardingTables :=
  if plan.clear then .empty else active

/-- An interface of the plan after those of its tuning calls that are among some calls. -/
def stateAfter (plan : ForwardingPlan) (done : List Call) (spec : LifSpec) : LifState :=
  plan.retuned done spec.lif (plan.stagedState spec)

end ForwardingPlan

/-- The plan is committed, and of its tuning calls those among `done` have succeeded. -/
structure Configured (plan : ForwardingPlan) (done : List Call) (f f' : ForwardingState) :
    Prop where
  commits : f'.commits = f.commits + 1
  domains : ∀ domain, f'.active.domain? domain
    = if domain = plan.domain then some plan.mode else (plan.base f.active).domain? domain
  lifs : ∀ lif, f'.active.lif? lif
    = match lastNaming plan.interfaces lif with
      | some spec => some (plan.stateAfter done spec)
      | none => (plan.base f.active).lif? lif

variable {plan : ForwardingPlan} {readback : Readback} {f f' f'' : ForwardingState}

/-! ## §2. Up to the commit. -/

/-- The checkpoint at which everything is staged. -/
def Checkpoint.staging (plan : ForwardingPlan) (readback : Readback) (f : ForwardingState) :
    Checkpoint :=
  (Checkpoint.opening f).afterSteps plan readback plan.stagingSteps

theorem forwarding_staging : (Checkpoint.staging plan readback f).forwarding = f :=
  (afterSteps_of_staging fun _ h => isStaging_of_mem h).1

/-- The copy once the domain is created, before any interface is staged. -/
theorem staged_head :
    ((Checkpoint.opening f).afterSteps plan readback
        ((if plan.clear then [.clear] else []) ++ [.createDomain])).staged
      = (plan.base f.active).putDomain plan.domain plan.mode := by
  rw [Checkpoint.afterSteps_append, ForwardingPlan.base]
  cases plan.clear <;> rfl

theorem domain?_staging (domain : DomainId) :
    (Checkpoint.staging plan readback f).staged.domain? domain
      = if domain = plan.domain then some plan.mode else (plan.base f.active).domain? domain := by
  rw [Checkpoint.staging, ForwardingPlan.stagingSteps, Checkpoint.afterSteps_append,
    ForwardingTables.domain?, staged_domains_staging, staged_head]
  exact (ForwardingTables.domain?_putDomain _ _ _ domain).trans (by simp only [eq_comm])

theorem lif?_staging (lif : LifId) :
    (Checkpoint.staging plan readback f).staged.lif? lif
      = match lastNaming plan.interfaces lif with
        | some spec => some (plan.stagedState spec)
        | none => (plan.base f.active).lif? lif := by
  rw [Checkpoint.staging, ForwardingPlan.stagingSteps, Checkpoint.afterSteps_append,
    staged_lif?_staging, staged_head]
  rfl

/-- The checkpoint right after the commit. -/
def Checkpoint.committed (plan : ForwardingPlan) (readback : Readback) (f : ForwardingState) :
    Checkpoint :=
  Step.next plan readback (.staging plan readback f) .commit

theorem active_committed :
    (Checkpoint.committed plan readback f).forwarding.active
      = (Checkpoint.staging plan readback f).staged := rfl

/-- The commit makes the staged plan the configuration, as yet untuned. -/
theorem configured_committed :
    Configured plan [] f (Checkpoint.committed plan readback f).forwarding where
  commits := by
    show (Checkpoint.staging plan readback f).forwarding.commits + 1 = f.commits + 1
    rw [forwarding_staging]
  domains domain := by rw [active_committed, domain?_staging]
  lifs lif := by
    rw [active_committed, lif?_staging]
    simp only [ForwardingPlan.stateAfter, ForwardingPlan.retuned_nil]

/-- Every interface of the plan is committed. -/
theorem isSome_lif?_committed {spec : LifSpec} (h : spec ∈ plan.interfaces) :
    ((Checkpoint.committed plan readback f).forwarding.active.lif? spec.lif).isSome := by
  obtain ⟨last, hlast⟩ := Option.isSome_iff_exists.mp (isSome_lastNaming h)
  rw [active_committed, lif?_staging, hlast]
  rfl

/-! ## §3. After the commit. -/

/-- The steps that tune an interface only set what the plan says. -/
theorem tunes_of_mem_tuning {t : ForwardingTables} {lif : LifId} {step : Step}
    (hlif : (t.lif? lif).isSome) (h : step ∈ plan.tuning lif) : step.Tunes plan t := by
  simp only [ForwardingPlan.tuning, List.mem_append] at h
  rcases h with ((h | h) | h) | h
  · obtain ⟨mtu, hmtu, rfl⟩ := List.mem_map.mp h
    exact ⟨Option.mem_toList.mp hmtu, hlif⟩
  · split at h
    · exact absurd h List.not_mem_nil
    · rw [List.mem_singleton.mp h]
      exact ⟨rfl, hlif⟩
  · obtain ⟨limit, hlimit, hstep⟩ := List.mem_flatMap.mp h
    simp only [List.mem_cons, List.not_mem_nil, or_false] at hstep
    rcases hstep with rfl | rfl
    · exact ⟨Option.mem_toList.mp hlimit, hlif⟩
    · exact hlif
  · split at h
    · rw [List.mem_singleton.mp h]
      trivial
    · exact absurd h List.not_mem_nil

theorem tunes_of_mem {step : Step} (h : step ∈ plan.tuningSteps) :
    step.Tunes plan (Checkpoint.committed plan readback f).forwarding.active := by
  obtain ⟨spec, hspec, hstep⟩ := List.mem_flatMap.mp h
  exact tunes_of_mem_tuning (isSome_lif?_committed hspec) hstep

/-- **Every step of a plan finds what it relies on, whatever the configuration.** -/
theorem feasible_steps : Feasible plan readback (.opening f) plan.steps := by
  rw [ForwardingPlan.steps_eq]
  refine feasible_append.mpr ⟨?_, trivial, ?_⟩
  · refine feasible_append.mpr ⟨?_, feasible_staging _ ?_⟩
    · cases plan.clear <;> exact ⟨trivial, by trivial⟩
    · rw [staged_head, ForwardingTables.domain?_putDomain, if_pos rfl]
      rfl
  · -- the commit has made every interface of the plan known
    exact (feasible_and_tuned _ _ fun step h => tunes_of_mem h).1

/-! ## §4. Any part of the steps. -/

/-- The calls that tune. -/
def Call.isTuning : Call → Bool
  | .setMtu _ | .setFrameType _ | .setRateLimit _ => true
  | _ => false

/-- Only the tuning calls among some calls count. -/
theorem retuned_congr {xs ys : List Call}
    (h : ∀ call, call.isTuning = true → (call ∈ xs ↔ call ∈ ys)) (lif : LifId) (l : LifState) :
    plan.retuned xs lif l = plan.retuned ys lif l := by
  simp only [ForwardingPlan.retuned, h (.setMtu lif) rfl, h (.setFrameType lif) rfl,
    h (.setRateLimit lif) rfl]

theorem not_tuning_of_staging {steps : List Step} (h : ∀ step ∈ steps, step.isStaging = true) :
    ∀ call ∈ callsOf plan steps, call.isTuning = false := by
  intro call hmem
  obtain ⟨step, hstep, hcall⟩ := List.mem_filterMap.mp hmem
  have hstaging := h step hstep
  cases step with
  | clear | createDomain | configure | assign | attach => cases hcall; rfl
  | _ => cases hstaging

/-- A call of a tuning step is one of those that tune some interface of the plan. -/
theorem mem_tuningCalls_of_mem {steps : List Step} {call : Call}
    (h : ∀ step ∈ steps, step ∈ plan.tuningSteps) (hcall : call ∈ callsOf plan steps) :
    ∃ spec ∈ plan.interfaces, call ∈ plan.tuningCalls spec.lif := by
  obtain ⟨step, hstep, hmakes⟩ := List.mem_filterMap.mp hcall
  obtain ⟨spec, hspec, htuning⟩ := List.mem_flatMap.mp (h step hstep)
  refine ⟨spec, hspec, ?_⟩
  rw [← callsOf_tuning]
  exact List.mem_filterMap.mpr ⟨step, htuning, hmakes⟩

/-- Interfaces that the plan does not name are not tuned. -/
theorem retuned_of_unnamed {steps : List Step} {lif : LifId}
    (h : ∀ step ∈ steps, step ∈ plan.tuningSteps) (hlif : lastNaming plan.interfaces lif = none)
    (l : LifState) : plan.retuned (callsOf plan steps) lif l = l := by
  have hunnamed : ∀ spec ∈ plan.interfaces, lif ≠ spec.lif := by
    rintro spec hspec rfl
    exact absurd (isSome_lastNaming hspec) (by simp [hlif])
  have hmtu : Call.setMtu lif ∉ callsOf plan steps := fun hmem => by
    obtain ⟨spec, hspec, hcall⟩ := mem_tuningCalls_of_mem h hmem
    exact hunnamed spec hspec (setMtu_mem_tuningCalls.mp hcall).1
  have hframe : Call.setFrameType lif ∉ callsOf plan steps := fun hmem => by
    obtain ⟨spec, hspec, hcall⟩ := mem_tuningCalls_of_mem h hmem
    exact hunnamed spec hspec (setFrameType_mem_tuningCalls.mp hcall).1
  have hlimit : Call.setRateLimit lif ∉ callsOf plan steps := fun hmem => by
    obtain ⟨spec, hspec, hcall⟩ := mem_tuningCalls_of_mem h hmem
    exact hunnamed spec hspec (setRateLimit_mem_tuningCalls.mp hcall).1
  simp only [ForwardingPlan.retuned, if_neg hmtu, if_neg hframe, if_neg hlimit]

/-- Tuning a plan that is committed. -/
theorem Configured.tuned {steps : List Step} (h : Configured plan [] f f')
    (hsteps : ∀ step ∈ steps, step ∈ plan.tuningSteps)
    (htuned : Tuned plan (callsOf plan steps) f' f'') :
    Configured plan (callsOf plan steps) f f'' where
  commits := htuned.commits.trans h.commits
  domains domain := by
    rw [← h.domains domain, ForwardingTables.domain?, htuned.domains, ForwardingTables.domain?]
  lifs lif := by
    rw [htuned.lifs, h.lifs]
    cases hlast : lastNaming plan.interfaces lif with
    | some spec =>
        obtain rfl := lif_of_lastNaming hlast
        simp only [Option.map_some, ForwardingPlan.stateAfter, ForwardingPlan.retuned_nil]
    | none =>
        cases (plan.base f.active).lif? lif with
        | none => rfl
        | some l => simp only [Option.map_some, retuned_of_unnamed hsteps hlast]

/-- Calls that do not tune make no difference. -/
theorem Configured.congr {xs ys : List Call} (h : Configured plan xs f f')
    (hsame : ∀ call, call.isTuning = true → (call ∈ xs ↔ call ∈ ys)) : Configured plan ys f f' where
  commits := h.commits
  domains := h.domains
  lifs lif := by
    rw [h.lifs]
    simp only [ForwardingPlan.stateAfter, retuned_congr hsame]

/-- **Wherever a run stops, the plan is either not committed at all, or committed and tuned by
exactly the tuning calls made.** -/
theorem forwarding_afterSteps {done rest : List Step} (h : plan.steps = done ++ rest)
    (hf' : f' = ((Checkpoint.opening f).afterSteps plan readback done).forwarding) :
    (.commit ∉ callsOf plan done → f' = f)
      ∧ (.commit ∈ callsOf plan done → Configured plan (callsOf plan done) f f') := by
  have hstaging : ∀ step ∈ plan.stagingSteps, step.isStaging = true :=
    fun _ hmem => isStaging_of_mem hmem
  rw [ForwardingPlan.steps_eq] at h
  -- the run stops on one side of the commit or on the other
  rcases List.append_eq_append_iff.mp h with ⟨more, hdone, hrest⟩ | ⟨more, hdone, -⟩
  · cases more with
    | nil =>
        -- the run stops right at the commit
        rw [List.append_nil] at hdone
        subst hdone
        refine ⟨fun _ => ?_, fun hmem => absurd hmem (commit_notMem_of_staging hstaging)⟩
        exact hf'.trans forwarding_staging
    | cons step tunings =>
        obtain ⟨rfl, htunings⟩ := List.cons.inj hrest
        have hmem : ∀ step ∈ tunings, step ∈ plan.tuningSteps := fun step hstep =>
          htunings ▸ List.mem_append_left _ hstep
        have hcalls : callsOf plan done
            = (callsOf plan plan.stagingSteps ++ [.commit]) ++ callsOf plan tunings := by
          rw [hdone, callsOf_append, callsOf_cons]
          simp [Step.call?]
        refine ⟨fun hcommit => absurd (by simp [hcalls]) hcommit, fun _ => ?_⟩
        have htuned := (feasible_and_tuned plan readback
          (c := Checkpoint.committed plan readback f) fun step hstep =>
            tunes_of_mem (hmem step hstep)).2
        rw [hcalls, hf', hdone, Checkpoint.afterSteps_append, Checkpoint.afterSteps_cons]
        refine (configured_committed.tuned hmem htuned).congr fun call htuning => ?_
        have hnot : call ∉ callsOf plan plan.stagingSteps ++ [.commit] := by
          intro hcall
          rcases List.mem_append.mp hcall with hcall | hcall
          · rw [not_tuning_of_staging hstaging call hcall] at htuning
            cases htuning
          · rw [List.mem_singleton.mp hcall] at htuning
            cases htuning
        rw [List.mem_append, or_iff_right hnot]
  · -- nothing but staging has been done
    have hpart : ∀ step ∈ done, step.isStaging = true := fun step hstep =>
      hstaging step (hdone ▸ List.mem_append_left _ hstep)
    refine ⟨fun _ => ?_, fun hmem => absurd hmem (commit_notMem_of_staging hpart)⟩
    exact hf'.trans (afterSteps_of_staging hpart).1

end FlowProcessor
