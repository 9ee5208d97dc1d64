/-
  FlowProcessor.Proofs.Forwarding.Runs — HOW A FORWARDING RUN CAN END.

  A sequence of steps is feasible if every step finds what it relies on, given that none before it
  was refused.  A feasible sequence is either taken as a whole, or up to the first step that is
  refused or cannot be written about.  Around it a run opens the service and closes it: once if
  something failed, whatever comes of it, and once otherwise.

    • `takeSteps_outcome` — where a sequence of steps stops
    • `apply_ends`        — how a whole run ends
-/
import FlowProcessor.Proofs.Forwarding.Steps

namespace FlowProcessor

/-! ## §1. Sequences of steps. -/

/-- The checkpoint after steps of which none is refused. -/
def Checkpoint.afterSteps (plan : ForwardingPlan) (readback : Readback) (c : Checkpoint)
    (steps : List Step) : Checkpoint :=
  steps.foldl (Step.next plan readback) c

/-- The calls of a sequence of steps. -/
def callsOf (plan : ForwardingPlan) (steps : List Step) : List Call :=
  steps.filterMap (Step.call? plan)

/-- Every step finds what it relies on, given that no step before it is refused. -/
def Feasible (plan : ForwardingPlan) (readback : Readback) : Checkpoint → List Step → Prop
  | _, [] => True
  | c, step :: steps =>
      step.Ready plan c ∧ Feasible plan readback (step.next plan readback c) steps

variable {plan : ForwardingPlan} {readback : Readback} {c : Checkpoint}
variable {w : World} {p : Platform} {calls : List Call} {endless stuck : Prop}

@[simp] theorem Checkpoint.afterSteps_nil : c.afterSteps plan readback [] = c := rfl

@[simp] theorem Checkpoint.afterSteps_cons (step : Step) (steps : List Step) :
    c.afterSteps plan readback (step :: steps)
      = (step.next plan readback c).afterSteps plan readback steps := rfl

@[simp] theorem Checkpoint.afterSteps_append (xs ys : List Step) :
    c.afterSteps plan readback (xs ++ ys)
      = (c.afterSteps plan readback xs).afterSteps plan readback ys :=
  List.foldl_append

@[simp] theorem callsOf_append (xs ys : List Step) :
    callsOf plan (xs ++ ys) = callsOf plan xs ++ callsOf plan ys :=
  List.filterMap_append

theorem callsOf_cons (step : Step) (steps : List Step) :
    callsOf plan (step :: steps) = (step.call? plan).toList ++ callsOf plan steps := by
  cases h : step.call? plan <;> simp [callsOf, h]

theorem feasible_append {xs ys : List Step} :
    Feasible plan readback c (xs ++ ys)
      ↔ Feasible plan readback c xs
        ∧ Feasible plan readback (c.afterSteps plan readback xs) ys := by
  induction xs generalizing c with
  | nil => simp [Feasible]
  | cons step steps ih => simp only [List.cons_append, Feasible, ih, Checkpoint.afterSteps_cons,
      and_assoc]

/-! ## §2. Taking a sequence of steps. -/

/-- How taking a sequence of steps can end: the progress made, the error it stopped at, the calls
made, and the configuration left; `stuck` says whether the output holds something back then. -/
inductive StepsOutcome (plan : ForwardingPlan) (readback : Readback) (faults : FaultTable)
    (endless stuck : Prop) (c : Checkpoint) (steps : List Step) :
    Progress → Option ToolError → List Call → ForwardingState → Prop
  | completed (admitted : ∀ call ∈ callsOf plan steps, plan.refusal? faults call = none) :
      StepsOutcome plan readback faults endless stuck c steps
        (c.afterSteps plan readback steps).progress none (callsOf plan steps)
        (c.afterSteps plan readback steps).forwarding
  | refused {done rest : List Step} {step : Step} {call : Call} {error : PlatformError}
      (split : steps = done ++ step :: rest)
      (admitted : ∀ call ∈ callsOf plan done, plan.refusal? faults call = none)
      (makes : step.call? plan = some call) (refusal : plan.refusal? faults call = some error) :
      StepsOutcome plan readback faults endless stuck c steps
        (c.afterSteps plan readback done).progress (some (step.cause plan error))
        (callsOf plan done ++ [call]) (c.afterSteps plan readback done).forwarding
  | unwritten {done rest : List Step} {step : Step} {made : List Call} (error : FileError)
      (split : steps = done ++ step :: rest)
      (admitted : ∀ call ∈ callsOf plan done, plan.refusal? faults call = none)
      (limited : ¬ endless) (makes : (step.call? plan).isSome)
      (made_part : made <+: (step.call? plan).toList) (sticks : step.isFixed = false → stuck) :
      StepsOutcome plan readback faults endless stuck c steps
        (c.afterSteps plan readback done).progress (some (.output error))
        (callsOf plan done ++ made) (c.afterSteps plan readback done).forwarding

/-- One more step in front of a sequence, which is completed. -/
theorem StepsOutcome.cons {faults : FaultTable} {step : Step} {steps : List Step}
    {progress : Progress} {error? : Option ToolError} {made : List Call} {f : ForwardingState}
    (hstep : ∀ call, step.call? plan = some call → plan.refusal? faults call = none)
    (h : StepsOutcome plan readback faults endless stuck (step.next plan readback c) steps progress error?
      made f) :
    StepsOutcome plan readback faults endless stuck c (step :: steps) progress error?
      ((step.call? plan).toList ++ made) f := by
  -- wherever the later steps stop, the first one stays completed
  have hcons : ∀ done : List Step, (∀ call ∈ callsOf plan done, plan.refusal? faults call = none) →
      ∀ call ∈ callsOf plan (step :: done), plan.refusal? faults call = none := by
    intro done hdone call hmem
    rw [callsOf_cons] at hmem
    rcases List.mem_append.mp hmem with hfirst | hlater
    · exact hstep call (Option.mem_toList.mp hfirst)
    · exact hdone call hlater
  cases h with
  | completed admitted =>
      rw [← callsOf_cons]
      exact .completed (hcons _ admitted)
  | @refused done rest failing call error split admitted makes refusal =>
      rw [← List.append_assoc, ← callsOf_cons]
      exact .refused (show _ = (step :: done) ++ failing :: rest by rw [split]; rfl)
        (hcons _ admitted) makes refusal
  | @unwritten done rest failing made error split admitted limited makes made_part sticks =>
      rw [← List.append_assoc, ← callsOf_cons]
      exact .unwritten error (show _ = (step :: done) ++ failing :: rest by rw [split]; rfl)
        (hcons _ admitted) limited makes made_part sticks

/-- **Feasible steps are taken up to the first one that is refused or cannot be written about.** -/
theorem takeSteps_outcome {steps : List Step} (h : w.Over (p.after calls c.forwarding) endless)
    (hfeasible : Feasible plan readback c steps) :
    ∃ progress error? made f w',
      takeSteps plan readback steps c.progress w = ((progress, error?), w')
      ∧ StepsOutcome plan readback p.faults endless (w'.out.stuck = true) c steps progress error? made f
      ∧ w'.Over (p.after (calls ++ made) f) endless := by
  induction steps generalizing c w calls with
  | nil =>
      refine ⟨_, _, _, _, w, rfl, .completed fun call hmem => ?_, ?_⟩
      · cases hmem
      · simpa [callsOf] using h
  | cons step steps ih =>
      obtain ⟨result, made, f, taken, htake, houtcome, htaken⟩ :=
        Step.take_outcome readback h hfeasible.1
      cases houtcome with
      | completed admitted =>
          -- the later steps start at the checkpoint that the first one reaches
          obtain ⟨progress, error?, later, f, after, hrest, houtcome, hover⟩ :=
            ih htaken hfeasible.2
          refine ⟨progress, error?, _, f, after, ?_, houtcome.cons admitted, ?_⟩
          · rw [takeSteps, htake]
            exact hrest
          · rw [← List.append_assoc]
            exact hover
      | refused makes refusal =>
          refine ⟨_, _, _, _, taken, ?_, .refused (show _ = [] ++ step :: steps from rfl)
            (fun call hmem => ?_) makes refusal, htaken⟩
          · rw [takeSteps, htake]
            rfl
          · cases hmem
      | unwritten error limited makes made_part sticks =>
          refine ⟨_, _, _, _, taken, ?_, .unwritten error (show _ = [] ++ step :: steps from rfl)
            (fun call hmem => ?_) limited makes made_part sticks, htaken⟩
          · rw [takeSteps, htake]
            rfl
          · cases hmem

/-- With an endless output and nothing refused, all steps are taken. -/
theorem StepsOutcome.of_admitted {faults : FaultTable} {steps : List Step} {progress : Progress}
    {error? : Option ToolError} {made : List Call} {f : ForwardingState}
    (h : StepsOutcome plan readback faults endless stuck c steps progress error? made f)
    (hendless : endless)
    (hadmitted : ∀ call ∈ callsOf plan steps, plan.refusal? faults call = none) :
    error? = none ∧ progress = (c.afterSteps plan readback steps).progress
      ∧ made = callsOf plan steps ∧ f = (c.afterSteps plan readback steps).forwarding := by
  cases h with
  | completed admitted => exact ⟨rfl, rfl, rfl, rfl⟩
  | @refused done rest step call error split admitted makes refusal =>
      have hmem : call ∈ callsOf plan steps := by
        rw [split, callsOf_append, callsOf_cons, makes]
        simp
      rw [hadmitted call hmem] at refusal
      cases refusal
  | unwritten error split admitted limited => exact absurd hendless limited

/-- Where all steps are taken, it does not matter what becomes of the output later. -/
theorem StepsOutcome.of_none {faults : FaultTable} {steps : List Step} {progress : Progress}
    {made : List Call} {f : ForwardingState}
    (h : StepsOutcome plan readback faults endless stuck c steps progress none made f)
    (later : Prop) : StepsOutcome plan readback faults endless later c steps progress none made f := by
  cases h with
  | completed admitted => exact .completed admitted

/-! ## §3. Opening and closing. -/

/-- The checkpoint of a run that has opened the service and done nothing else. -/
def Checkpoint.opening (forwarding : ForwardingState) : Checkpoint :=
  ⟨⟨.opened, ⟨forwarding.active⟩, []⟩, forwarding⟩

/-- The error of a run that could not close the service. -/
def closingError (error : PlatformError) : ToolError :=
  .forwarding "closing forwarding configuration subsystem" error

/-- A run that failed closes its handle once, whatever the platform answers. -/
theorem abandon_over (handle : ForwardingHandle) (h : w.Over p endless) :
    (abandon handle w).Over (p.record .closeForwarding) endless := by
  have hnoted : (w.note .abandoning).platform = p := h.platform
  unfold abandon
  cases hfault : p.faults.find? .closeForwarding with
  | none =>
      have hclose := handle.close_of_admitted hfault
      have hserve : ((w.note .abandoning).serve handle.close).1 = .ok () := by
        rw [World.serve_fst, hnoted, hclose]
      rw [← Prod.eta ((w.note .abandoning).serve handle.close), hserve]
      exact ⟨by rw [World.serve_platform, hnoted, hclose], h.unlimited⟩
  | some error =>
      have hclose := handle.close_of_fault hfault
      have hserve : ((w.note .abandoning).serve handle.close).1 = .error error := by
        rw [World.serve_fst, hnoted, hclose]
      rw [← Prod.eta ((w.note .abandoning).serve handle.close), hserve]
      exact ⟨by rw [World.note_platform, World.serve_platform, hnoted, hclose], h.unlimited⟩

/-- Closing writes nothing. -/
theorem out_abandon (handle : ForwardingHandle) (w : World) : (abandon handle w).out = w.out := by
  have hserve : ((w.note .abandoning).serve handle.close).2.out = w.out :=
    World.serve_out _ handle.close
  unfold abandon
  obtain ⟨⟨answer, served⟩, hserved⟩ :
    ∃ served, (w.note .abandoning).serve handle.close = served := ⟨_, rfl⟩
  rw [hserved] at hserve ⊢
  cases answer <;> exact hserve

/-! ## §4. The ends of a run. -/

/-- How a run from a configuration `f` can end: its outcome, the calls made, and the configuration
left. -/
inductive ForwardingPlan.Ends (plan : ForwardingPlan) (readback : Readback) (faults : FaultTable)
    (endless stuck : Prop) (f : ForwardingState) :
    ForwardingOutcome → List Call → ForwardingState → Prop
  /-- The output came to an end before anything was done. -/
  | unannounced (error : FileError) (limited : ¬ endless) :
      Ends plan readback faults endless stuck f ⟨.idle, .error (.output error)⟩ [] f
  /-- The service could not be opened, and there is nothing to close. -/
  | unopened {error : PlatformError} (refusal : faults.find? .openForwarding = some error) :
      Ends plan readback faults endless stuck f ⟨.idle, .error (.unavailable error)⟩ [.openForwarding] f
  /-- A step failed; the service is closed, whatever comes of it. -/
  | stopped {progress : Progress} {error : ToolError} {made : List Call} {f' : ForwardingState}
      (admitted : faults.find? .openForwarding = none)
      (steps : StepsOutcome plan readback faults endless stuck (.opening f) plan.steps progress
        (some error) made f') :
      Ends plan readback faults endless stuck f ⟨progress.stage, .error error⟩
        (.openForwarding :: made ++ [.closeForwarding]) f'
  /-- All steps are done, and the output came to an end. -/
  | unfinished {progress : Progress} {made : List Call} {f' : ForwardingState} (error : FileError)
      (admitted : faults.find? .openForwarding = none)
      (steps : StepsOutcome plan readback faults endless stuck (.opening f) plan.steps progress none
        made f')
      (limited : ¬ endless) :
      Ends plan readback faults endless stuck f ⟨progress.stage, .error (.output error)⟩
        (.openForwarding :: made ++ [.closeForwarding]) f'
  /-- All steps are done, and the service could not be closed; that is not tried again. -/
  | unclosed {progress : Progress} {error : PlatformError} {made : List Call}
      {f' : ForwardingState} (admitted : faults.find? .openForwarding = none)
      (steps : StepsOutcome plan readback faults endless stuck (.opening f) plan.steps progress none
        made f')
      (refusal : faults.find? .closeForwarding = some error) :
      Ends plan readback faults endless stuck f ⟨progress.stage, .error (closingError error)⟩
        (.openForwarding :: made ++ [.closeForwarding]) f'
  | finished {progress : Progress} {made : List Call} {f' : ForwardingState}
      (admitted : faults.find? .openForwarding = none)
      (steps : StepsOutcome plan readback faults endless stuck (.opening f) plan.steps progress none
        made f')
      (closes : faults.find? .closeForwarding = none) :
      Ends plan readback faults endless stuck f
        ⟨.closed, .ok ⟨plan.interfaces.length, progress.rateLimits⟩⟩
        (.openForwarding :: made ++ [.closeForwarding]) f'

/-- Closing makes one call, after those made so far. -/
theorem over_closed {made : List Call} {f : ForwardingState}
    (h : w.Over ((p.after ([.openForwarding] ++ made) f).record .closeForwarding) endless) :
    w.Over (p.after (.openForwarding :: made ++ [.closeForwarding]) f) endless := by
  rw [Platform.record_eq_after, Platform.after_after] at h
  exact h

/-- What a run does with an open handle. -/
theorem applyWith_ends
    (h : w.Over (p.after [.openForwarding] p.state.forwarding) endless)
    (hopen : p.faults.find? .openForwarding = none)
    (hfeasible : Feasible plan readback (.opening p.state.forwarding) plan.steps) :
    ∃ outcome made f w',
      plan.applyWith readback ⟨p.state.forwarding.active⟩ w = (outcome, w')
      ∧ plan.Ends readback p.faults endless (w'.out.stuck = true) p.state.forwarding outcome made f
      ∧ w'.Over (p.after made f) endless := by
  obtain ⟨progress, error?, made, f, taken, htakes, houtcome, htaken⟩ :=
    takeSteps_outcome (c := .opening p.state.forwarding) h hfeasible
  unfold ForwardingPlan.applyWith
  rw [show (⟨.opened, ⟨p.state.forwarding.active⟩, []⟩ : Progress)
    = (Checkpoint.opening p.state.forwarding).progress from rfl, htakes]
  cases error? with
  | some error =>
      -- the handle is still open, and closed on the way out
      rw [← out_abandon progress.handle taken] at houtcome
      exact ⟨_, _, f, _, rfl, .stopped hopen houtcome, over_closed (abandon_over _ htaken)⟩
  | none =>
      obtain ⟨written, hwritten, hwrite | ⟨hlimited, -, error, hwrite⟩⟩ :=
        Run.writeLine_over true "Close forwarding configuration subsystem" htaken
      · simp only [hwrite]
        cases hclose : p.faults.find? .closeForwarding with
        | some error =>
            obtain ⟨closed, hcall, hover⟩ := Run.call_of_error
              (.forwarding "closing forwarding configuration subsystem") hwritten
              (progress.handle.close_of_fault hclose)
            rw [hcall]
            exact ⟨_, _, f, closed, rfl, .unclosed hopen (houtcome.of_none _) hclose,
              over_closed hover⟩
        | none =>
            obtain ⟨closed, hcall, hover⟩ := Run.call_of_ok
              (.forwarding "closing forwarding configuration subsystem") hwritten
              (progress.handle.close_of_admitted hclose)
            rw [hcall]
            -- the note about the configured domain leaves the platform alone
            refine ⟨_, _, f, _, rfl, .finished hopen (houtcome.of_none _) hclose, ?_⟩
            exact ⟨(over_closed hover).platform, hover.unlimited⟩
      · -- closing was not even tried when the output came to its end
        simp only [hwrite]
        exact ⟨_, _, f, _, rfl, .unfinished error hopen (houtcome.of_none _) hlimited,
          over_closed (abandon_over _ hwritten)⟩

/-- What a run does inside of its span. -/
theorem carryOut_ends (h : w.Over p endless)
    (hfeasible : Feasible plan readback (.opening p.state.forwarding) plan.steps) :
    ∃ outcome made f w', plan.carryOut readback w = (outcome, w')
      ∧ plan.Ends readback p.faults endless (w'.out.stuck = true) p.state.forwarding outcome made f
      ∧ w'.Over (p.after made f) endless := by
  unfold ForwardingPlan.carryOut
  obtain ⟨written, hwritten, hwrite | ⟨hlimited, -, error, hwrite⟩⟩ :=
    Run.writeLine_over true "Open forwarding configuration subsystem" h
  · have hservice : openService w = Run.call (·.openForwarding) .unavailable written :=
      Run.bind_of_ok hwrite
    rw [hservice]
    cases hopen : p.faults.find? .openForwarding with
    | some error =>
        obtain ⟨called, hcall, hover⟩ := Run.call_of_error .unavailable hwritten
          (Platform.openForwarding_of_fault hopen)
        rw [hcall]
        exact ⟨_, _, _, called, rfl, .unopened hopen, hover⟩
    | none =>
        obtain ⟨called, hcall, hover⟩ := Run.call_of_ok .unavailable hwritten
          (Platform.openForwarding_of_admitted hopen)
        rw [hcall]
        exact applyWith_ends hover hopen hfeasible
  · have hservice : openService w = (.error (.output error), written) := Run.bind_of_error hwrite
    rw [hservice]
    exact ⟨_, [], _, written, rfl, .unannounced error hlimited, by simpa using hwritten⟩

variable (plan readback) in
/-- **A run whose steps are feasible has one of the ends.** -/
theorem apply_ends (h : w.Over p endless)
    (hfeasible : Feasible plan readback (.opening p.state.forwarding) plan.steps) :
    ∃ outcome made f w', plan.apply readback w = (outcome, w')
      ∧ plan.Ends readback p.faults endless (w'.out.stuck = true) p.state.forwarding outcome made f
      ∧ w'.Over (p.after made f) endless := by
  have hspanned : World.Over { w with span := some (.apply plan.domain plan.mode) } p endless :=
    ⟨h.platform, h.unlimited⟩
  obtain ⟨outcome, made, f, inside, hcarry, hends, hover⟩ := carryOut_ends hspanned hfeasible
  refine ⟨outcome, made, f, { inside with span := w.span }, ?_, hends, hover.platform,
    hover.unlimited⟩
  rw [ForwardingPlan.apply, hcarry]

/-- With an endless output and nothing refused, a run finishes. -/
theorem ForwardingPlan.Ends.of_admitted {faults : FaultTable} {f f' : ForwardingState}
    {outcome : ForwardingOutcome} {made : List Call}
    (h : plan.Ends readback faults endless stuck f outcome made f') (hendless : endless)
    (hopen : faults.find? .openForwarding = none)
    (hadmitted : ∀ call ∈ callsOf plan plan.steps, plan.refusal? faults call = none)
    (hclose : faults.find? .closeForwarding = none) :
    outcome = ⟨.closed, .ok ⟨plan.interfaces.length,
        ((Checkpoint.opening f).afterSteps plan readback plan.steps).progress.rateLimits⟩⟩
      ∧ f' = ((Checkpoint.opening f).afterSteps plan readback plan.steps).forwarding := by
  cases h with
  | unannounced error limited => exact absurd hendless limited
  | unopened refusal => rw [hopen] at refusal; cases refusal
  | stopped admitted steps => cases (steps.of_admitted hendless hadmitted).1
  | unfinished error admitted steps limited => exact absurd hendless limited
  | unclosed admitted steps refusal => rw [hclose] at refusal; cases refusal
  | finished admitted steps closes =>
      obtain ⟨-, rfl, -, rfl⟩ := steps.of_admitted hendless hadmitted
      exact ⟨rfl, rfl⟩

end FlowProcessor
