/-
  FlowProcessor.Proofs.Forwarding.Progression — THE TABLES ALONG A FORWARDING RUN.

  The steps of a plan fall into two parts around the commit.  Those before it work on the copy and
  leave the configuration alone; those after it change single fields of committed interfaces, in
  the configuration and in the copy.  Where a plan names an interface several times, the last
  specification counts.

    • `staged_lif?_staging` — what the copy holds of an interface once all are staged
    • `feasible_staging`     — each of its steps finds what the steps before it have staged
    • `feasible_and_tuned`   — what tuning steps make of the committed interfaces
-/
import FlowProcessor.Proofs.Forwarding.Runs

namespace FlowProcessor

/-! ## §1. The parts of a plan. -/

/-- The last of some specifications that names an interface. -/
def lastNaming (specs : List LifSpec) (lif : LifId) : Option LifSpec :=
  specs.reverse.find? fun spec => spec.lif = lif

theorem lastNaming_cons (spec : LifSpec) (specs : List LifSpec) (lif : LifId) :
    lastNaming (spec :: specs) lif
      = (lastNaming specs lif).or (if spec.lif = lif then some spec else none) := by
  simp only [lastNaming, List.reverse_cons, List.find?_append, List.find?_singleton,
    decide_eq_true_eq]

/-- An interface that some specification names has a last one naming it. -/
theorem isSome_lastNaming {specs : List LifSpec} {spec : LifSpec} (h : spec ∈ specs) :
    (lastNaming specs spec.lif).isSome := by
  rw [lastNaming, List.find?_isSome]
  exact ⟨spec, List.mem_reverse.mpr h, decide_eq_true rfl⟩

theorem lif_of_lastNaming {specs : List LifSpec} {spec : LifSpec} {lif : LifId}
    (h : lastNaming specs lif = some spec) : spec.lif = lif := by
  simpa using List.find?_some h

namespace ForwardingPlan

variable (plan : ForwardingPlan)

/-- The steps before the commit. -/
def stagingSteps : List Step :=
  (if plan.clear then [.clear] else []) ++ [.createDomain] ++ plan.interfaces.flatMap staging

/-- The steps after the commit. -/
def tuningSteps : List Step := plan.interfaces.flatMap fun spec => plan.tuning spec.lif

theorem steps_eq : plan.steps = plan.stagingSteps ++ .commit :: plan.tuningSteps := by
  simp [steps, stagingSteps, tuningSteps]

/-- An interface of the plan as it is staged. -/
def stagedState (spec : LifSpec) : LifState :=
  { LifState.bare spec.port spec.vlan with
    addressSpace := some plan.domain.word, domain := some plan.domain }

/-- An interface after those of its tuning calls that are among some calls. -/
def retuned (done : List Call) (lif : LifId) (l : LifState) : LifState :=
  { l with
    mtu := if .setMtu lif ∈ done then plan.mtu else l.mtu
    frameType := if .setFrameType lif ∈ done then plan.frameType else l.frameType
    rateLimit := if .setRateLimit lif ∈ done then plan.rateLimit else l.rateLimit }

theorem retuned_nil (lif : LifId) (l : LifState) : plan.retuned [] lif l = l := by
  simp [retuned]

theorem retuned_append (xs ys : List Call) (lif : LifId) (l : LifState) :
    plan.retuned (xs ++ ys) lif l = plan.retuned ys lif (plan.retuned xs lif l) := by
  simp only [retuned, List.mem_append]
  -- field by field: whether it is set early or late, it is set to what the plan says
  congr 1 <;> grind

end ForwardingPlan

/-! ## §2. Staging. -/

namespace Step

variable (plan : ForwardingPlan) (readback : Readback) (c : Checkpoint) (step : Step)

@[simp] theorem staged_next :
    (step.next plan readback c).staged = (step.change plan readback c).staged := rfl

@[simp] theorem forwarding_next :
    (step.next plan readback c).forwarding = (step.change plan readback c).forwarding := rfl

@[simp] theorem rateLimits_next :
    (step.next plan readback c).progress.rateLimits
      = (step.change plan readback c).progress.rateLimits := rfl

/-- The steps that work on the copy alone. -/
def isStaging : Step → Bool
  | .clear | .createDomain | .configure _ | .assign _ | .attach _ => true
  | _ => false

end Step

variable {plan : ForwardingPlan} {readback : Readback} {c : Checkpoint}

theorem isStaging_of_mem {step : Step} (h : step ∈ plan.stagingSteps) : step.isStaging = true := by
  simp only [ForwardingPlan.stagingSteps, List.mem_append, List.mem_flatMap] at h
  rcases h with (h | h) | ⟨spec, -, h⟩
  · split at h
    · rw [List.mem_singleton.mp h]; rfl
    · exact absurd h (List.not_mem_nil)
  · rw [List.mem_singleton.mp h]; rfl
  · simp only [ForwardingPlan.staging, List.mem_cons, List.not_mem_nil, or_false] at h
    rcases h with rfl | rfl | rfl <;> rfl

/-- Before the commit nothing but the copy changes. -/
theorem afterSteps_of_staging {steps : List Step} (h : ∀ step ∈ steps, step.isStaging = true) :
    (c.afterSteps plan readback steps).forwarding = c.forwarding
      ∧ (c.afterSteps plan readback steps).progress.rateLimits = c.progress.rateLimits := by
  induction steps generalizing c with
  | nil => exact ⟨rfl, rfl⟩
  | cons step steps ih =>
      have hfirst := h step List.mem_cons_self
      obtain ⟨hforwarding, hlimits⟩ := ih (c := step.next plan readback c)
        fun later hmem => h later (List.mem_cons_of_mem _ hmem)
      rw [Checkpoint.afterSteps_cons, hforwarding, hlimits]
      cases step with
      | clear | createDomain | configure | assign | attach => exact ⟨rfl, rfl⟩
      | _ => cases hfirst

/-- No staging step commits. -/
theorem commit_notMem_of_staging {steps : List Step} (h : ∀ step ∈ steps, step.isStaging = true) :
    Call.commit ∉ callsOf plan steps := by
  intro hmem
  obtain ⟨step, hstep, hcall⟩ := List.mem_filterMap.mp hmem
  have := h step hstep
  cases step <;> simp [Step.call?, Step.isStaging] at hcall this

/-- Staging one interface writes that interface and nothing else. -/
theorem staged_lif?_staging_one (spec : LifSpec) (lif : LifId) :
    (c.afterSteps plan readback (ForwardingPlan.staging spec)).staged.lif? lif
      = if spec.lif = lif then some (plan.stagedState spec) else c.staged.lif? lif := by
  by_cases h : spec.lif = lif <;>
    simp [ForwardingPlan.staging, Step.change, ForwardingPlan.stagedState, h]

theorem staged_domains_staging (specs : List LifSpec) :
    (c.afterSteps plan readback (specs.flatMap ForwardingPlan.staging)).staged.domains
      = c.staged.domains := by
  induction specs generalizing c with
  | nil => rfl
  | cons spec specs ih =>
      rw [List.flatMap_cons, Checkpoint.afterSteps_append, ih]
      rfl

/-- **Once all interfaces are staged, the last specification of each counts.** -/
theorem staged_lif?_staging (specs : List LifSpec) (lif : LifId) :
    (c.afterSteps plan readback (specs.flatMap ForwardingPlan.staging)).staged.lif? lif
      = match lastNaming specs lif with
        | some spec => some (plan.stagedState spec)
        | none => c.staged.lif? lif := by
  induction specs generalizing c with
  | nil => rfl
  | cons spec specs ih =>
      rw [List.flatMap_cons, Checkpoint.afterSteps_append, ih, lastNaming_cons]
      cases lastNaming specs lif with
      -- a later specification takes over from this one
      | some last => rfl
      | none =>
          rw [Option.none_or, staged_lif?_staging_one]
          by_cases h : spec.lif = lif <;> simp [h]

/-- Before the commit, every step finds what the steps before it have staged. -/
theorem feasible_staging (specs : List LifSpec) (h : (c.staged.domain? plan.domain).isSome) :
    Feasible plan readback c (specs.flatMap ForwardingPlan.staging) := by
  induction specs generalizing c with
  | nil => trivial
  | cons spec specs ih =>
      -- the first of the three steps makes the interface known to the other two
      refine feasible_append.mpr ⟨⟨trivial, ?_, ⟨h, ?_⟩, trivial⟩, ih h⟩
      · simp [Step.Ready, Step.change]
      · simp [Step.change]

/-! ## §3. Tuning. -/

/-- A tuning step of the plan, for an interface that some tables hold. -/
def Step.Tunes (plan : ForwardingPlan) (t : ForwardingTables) : Step → Prop
  | .setMtu lif mtu => plan.mtu = some mtu ∧ (t.lif? lif).isSome
  | .setFrameType lif frameType => frameType = plan.frameType ∧ (t.lif? lif).isSome
  | .setRateLimit lif limit => plan.rateLimit = some limit ∧ (t.lif? lif).isSome
  | .checkRateLimit lif _ => (t.lif? lif).isSome
  | .tuned _ => True
  | _ => False

/-- A configuration after those tuning calls of the plan that are among some calls. -/
structure Tuned (plan : ForwardingPlan) (done : List Call) (f f' : ForwardingState) : Prop where
  commits : f'.commits = f.commits
  domains : f'.active.domains = f.active.domains
  lifs : ∀ lif, f'.active.lif? lif = (f.active.lif? lif).map (plan.retuned done lif)

namespace Tuned

variable {f f' f'' : ForwardingState} {xs ys : List Call}

theorem refl : Tuned plan [] f f :=
  ⟨rfl, rfl, fun lif => by
    cases f.active.lif? lif <;> simp [ForwardingPlan.retuned_nil]⟩

theorem trans (h : Tuned plan xs f f') (h' : Tuned plan ys f' f'') :
    Tuned plan (xs ++ ys) f f'' where
  commits := h'.commits.trans h.commits
  domains := h'.domains.trans h.domains
  lifs lif := by
    rw [h'.lifs, h.lifs, Option.map_map]
    congr 1
    funext l
    exact (plan.retuned_append xs ys lif l).symm

/-- Tuning adds no interface and takes none away. -/
theorem isSome_lif? (h : Tuned plan xs f f') (lif : LifId) :
    (f'.active.lif? lif).isSome = (f.active.lif? lif).isSome := by
  rw [h.lifs]
  exact Option.isSome_map

theorem tunes {step : Step} (h : Tuned plan xs f f') (htunes : step.Tunes plan f.active) :
    step.Tunes plan f'.active := by
  cases step with
  | setMtu lif value | setFrameType lif value | setRateLimit lif value =>
      exact ⟨htunes.1, (h.isSome_lif? lif).trans htunes.2⟩
  | checkRateLimit lif limit => exact (h.isSome_lif? lif).trans htunes
  | tuned lif => trivial
  | _ => cases htunes

/-- A change of one field of one interface. -/
theorem of_adjust {lif : LifId} {call : Call} {change : LifState → LifState}
    (hsame : ∀ l, change l = plan.retuned [call] lif l)
    (hother : ∀ other l, lif ≠ other → plan.retuned [call] other l = l) :
    Tuned plan [call] f { f with active := f.active.adjustLif lif change } := by
  refine ⟨rfl, rfl, fun other => ?_⟩
  rw [ForwardingTables.lif?_adjustLif]
  split
  · rename_i heq
    subst heq
    exact congrArg (Option.map · _) (funext hsame)
  · rename_i hne
    cases f.active.lif? other with
    | none => rfl
    | some l => rw [Option.map_some, hother other l hne]

theorem of_step {step : Step} (h : step.Tunes plan c.forwarding.active) :
    Tuned plan (step.call? plan).toList c.forwarding (step.change plan readback c).forwarding := by
  cases step with
  | setMtu lif value | setFrameType lif value | setRateLimit lif value =>
      refine of_adjust (fun l => ?_) fun other l hne => ?_
      · simp [ForwardingPlan.retuned, h.1]
      · simp [ForwardingPlan.retuned, Ne.symm hne]
  | checkRateLimit lif limit =>
      -- what is only read stays as it is
      refine ⟨rfl, rfl, fun other => ?_⟩
      cases hl : c.forwarding.active.lif? other <;>
        simp [Step.change, Checkpoint.noteLimit, hl, Step.call?, ForwardingPlan.retuned]
  | tuned lif => exact refl
  | _ => cases h

end Tuned

theorem Step.ready_of_tunes {step : Step} (h : step.Tunes plan c.forwarding.active) :
    step.Ready plan c := by
  cases step with
  | setMtu lif mtu => exact h
  | setFrameType lif value | setRateLimit lif value => exact h.2
  | checkRateLimit lif limit => exact h
  | tuned lif => trivial
  | _ => cases h

variable (plan readback) in
/-- **Tuning steps are feasible and change what their calls name, and nothing else.** -/
theorem feasible_and_tuned {steps : List Step}
    (h : ∀ step ∈ steps, step.Tunes plan c.forwarding.active) :
    Feasible plan readback c steps ∧
      Tuned plan (callsOf plan steps) c.forwarding
        (c.afterSteps plan readback steps).forwarding := by
  induction steps generalizing c with
  | nil => exact ⟨trivial, .refl⟩
  | cons step steps ih =>
      have hfirst := h step List.mem_cons_self
      have hstep : Tuned plan (step.call? plan).toList c.forwarding
          (step.next plan readback c).forwarding := Tuned.of_step hfirst
      obtain ⟨hfeasible, htuned⟩ := ih (c := step.next plan readback c)
        fun later hmem => hstep.tunes (h later (List.mem_cons_of_mem _ hmem))
      refine ⟨⟨Step.ready_of_tunes hfirst, hfeasible⟩, ?_⟩
      rw [callsOf_cons]
      exact hstep.trans htuned

end FlowProcessor
