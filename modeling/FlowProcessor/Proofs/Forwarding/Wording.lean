/-
  FlowProcessor.Proofs.Forwarding.Wording — WHAT A FORWARDING RUN WRITES.

  A run announces its steps, and tells the rate limits that it reads back.  What a run that
  succeeds has written is therefore known from its plan and from the rate limits of its report:
  nothing in it depends on the platform otherwise, or on what was there before.

    • `Step.said`       — what a step writes, given what it reads back
    • `perform_said`, `take_said` — a step that succeeds writes this
    • `takeSteps_said`  — and so do steps in a row, each with its part of what is read
    • `apply_said`      — what a whole run writes
-/
import FlowProcessor.ForwardingRun
import FlowProcessor.Proofs.Worlds

namespace FlowProcessor

/-! ## §1. Texts. -/

/-- The line with which a run begins. -/
def openingLine : String := "Open forwarding configuration subsystem" ++ "\n"

/-- The line with which a run that has succeeded ends. -/
def closingLine : String := "Close forwarding configuration subsystem" ++ "\n"

/-- The line about a rate limit that was read back. -/
def limitLine (read : LifId × UInt32) : String :=
  "L3 exception rate limit for lif" ++ read.1.text ++ " is " ++ Numeral.decimal read.2 ++ "\n"

namespace Step

/-- How many rate limits a step reads back. -/
def reads : Step → Nat
  | .checkRateLimit _ _ => 1
  | _ => 0

/-- What a step writes: its announcement, and what it has read back. -/
def said (plan : ForwardingPlan) (step : Step) (read : List (LifId × UInt32)) : String :=
  (step.announcement plan).elim "" (· ++ "\n") ++ String.join (read.map limitLine)

end Step

namespace ForwardingPlan

/-- What steps write, the rate limits being those that they read back, in order. -/
def saidBy (plan : ForwardingPlan) : List Step → List (LifId × UInt32) → String
  | [], _ => ""
  | step :: steps, limits =>
      step.said plan (limits.take step.reads) ++ plan.saidBy steps (limits.drop step.reads)

/-- What a run writes that reports such rate limits. -/
def said (plan : ForwardingPlan) (limits : List (LifId × UInt32)) : String :=
  openingLine ++ plan.saidBy plan.steps limits ++ closingLine

end ForwardingPlan

/-! ## §2. Steps. -/

variable {plan : ForwardingPlan} {readback : Readback} {progress progress' : Progress}
variable {w w' : World}

theorem Run.took_of_writeLine {fixed : Bool} {line : String}
    (h : Run.writeLine fixed line w = (.ok (), w')) : w.out.Took (line ++ "\n") w'.out := by
  unfold Run.writeLine Run.put at h
  split at h
  · rename_i out hput
    obtain ⟨-, rfl⟩ := Prod.mk.inj h
    exact Sink.took_of_put hput
  · cases h

/-- A call writes nothing. -/
theorem Run.out_of_call {α : Type} {service : Platform → Except PlatformError α × Platform}
    {cause : PlatformError → ToolError} {a : α} (h : Run.call service cause w = (.ok a, w')) :
    w'.out = w.out := by
  have hserve := w.serve_out service
  unfold Run.call at h
  split at h
  · rename_i served hserved
    obtain ⟨-, rfl⟩ := Prod.mk.inj h
    rw [hserved] at hserve
    exact hserve
  · cases h

namespace Step

/-- A step that has performed its call has written what it has read back. -/
theorem perform_said {step : Step}
    (h : step.perform plan readback progress w = (.ok progress', w')) :
    ∃ read, read.length = step.reads ∧ progress'.rateLimits = progress.rateLimits ++ read
      ∧ w.out.Took (String.join (read.map limitLine)) w'.out := by
  have hsilent : ∀ out : Sink, out.Took (String.join (List.map limitLine [])) out := .nothing
  unfold perform at h
  cases hop : step.op? plan with
  | some op =>
      rw [hop] at h
      obtain ⟨handle, called, hcall, hrest⟩ := Run.bind_eq_ok h
      obtain ⟨hprogress, rfl⟩ := Prod.mk.inj hrest
      obtain rfl := Except.ok.inj hprogress
      refine ⟨[], ?_, (List.append_nil _).symm, ?_⟩
      · cases step with
        | checkRateLimit => cases hop
        | _ => rfl
      · rw [Run.out_of_call hcall]
        exact hsilent w.out
  | none =>
      rw [hop] at h
      cases step with
      | checkRateLimit lif limit =>
          obtain ⟨stored, called, hcall, hlater⟩ := Run.bind_eq_ok h
          obtain ⟨_, written, hwrite, hlast⟩ := Run.bind_eq_ok hlater
          -- a limit that differs goes to the log, not to the output
          obtain ⟨rfl, hout⟩ : { progress with
                rateLimits := progress.rateLimits ++ [(lif, readback stored)] } = progress'
              ∧ written.out = w'.out := by
            dsimp only at hlast
            split at hlast
            all_goals
              obtain ⟨hprogress, rfl⟩ := Prod.mk.inj hlast
              exact ⟨Except.ok.inj hprogress, rfl⟩
          refine ⟨[(lif, readback stored)], rfl, rfl, ?_⟩
          have htook : called.out.Took (limitLine (lif, readback stored)) written.out :=
            Run.took_of_writeLine hwrite
          rw [List.map_singleton, String.join_cons, String.join_nil, String.append_empty, ← hout,
            ← Run.out_of_call hcall]
          exact htook
      | tuned lif =>
          obtain ⟨hprogress, rfl⟩ := Prod.mk.inj h
          obtain rfl := Except.ok.inj hprogress
          exact ⟨[], rfl, (List.append_nil _).symm, hsilent w.out⟩
      | _ => cases hop

/-- A step that succeeds has been announced and then performed. -/
theorem take_eq_ok {step : Step} (h : step.take plan readback progress w = (.ok progress', w')) :
    ∃ announced performed,
      w.out.Took ((step.announcement plan).elim "" (· ++ "\n")) announced.out
        ∧ step.perform plan readback progress announced = (.ok performed, w')
        ∧ progress'.rateLimits = performed.rateLimits := by
  unfold take at h
  cases hline : step.announcement plan with
  | none =>
      rw [hline] at h
      obtain ⟨_, announced, hannounce, hlater⟩ := Run.bind_eq_ok h
      obtain ⟨performed, after, hperform, hend⟩ := Run.bind_eq_ok hlater
      obtain ⟨hprogress, rfl⟩ := Prod.mk.inj hend
      obtain rfl := Except.ok.inj hprogress
      obtain ⟨-, rfl⟩ := Prod.mk.inj hannounce
      exact ⟨w, performed, .nothing _, hperform, rfl⟩
  | some line =>
      rw [hline] at h
      obtain ⟨_, announced, hannounce, hlater⟩ := Run.bind_eq_ok h
      obtain ⟨performed, after, hperform, hend⟩ := Run.bind_eq_ok hlater
      obtain ⟨hprogress, rfl⟩ := Prod.mk.inj hend
      obtain rfl := Except.ok.inj hprogress
      exact ⟨announced, performed, Run.took_of_writeLine hannounce, hperform, rfl⟩

/-- **A step that succeeds has written its announcement and what it has read back.** -/
theorem take_said {step : Step} (h : step.take plan readback progress w = (.ok progress', w')) :
    ∃ read, read.length = step.reads ∧ progress'.rateLimits = progress.rateLimits ++ read
      ∧ w.out.Took (step.said plan read) w'.out := by
  obtain ⟨announced, performed, hannounced, hperform, hprogress⟩ := take_eq_ok h
  obtain ⟨read, hlength, hlimits, htook⟩ := perform_said hperform
  exact ⟨read, hlength, hprogress.trans hlimits, hannounced.trans htook⟩

end Step

/-! ## §3. Runs. -/

/-- **What steps have written depends on what they have read back, each on its own part.** -/
theorem takeSteps_said {steps : List Step}
    (h : takeSteps plan readback steps progress w = ((progress', none), w')) :
    ∃ read, progress'.rateLimits = progress.rateLimits ++ read
      ∧ w.out.Took (plan.saidBy steps read) w'.out := by
  induction steps generalizing progress w with
  | nil =>
      obtain ⟨hprogress, rfl⟩ := Prod.mk.inj h
      obtain ⟨rfl, -⟩ := Prod.mk.inj hprogress
      exact ⟨[], (List.append_nil _).symm, .nothing _⟩
  | cons step steps ih =>
      obtain ⟨⟨result, taken⟩, htake⟩ : ∃ ran,
          step.take plan readback progress w = ran := ⟨_, rfl⟩
      rw [takeSteps, htake] at h
      cases result with
      | error error => cases h
      | ok next =>
          obtain ⟨first, hlength, hfirst, htook⟩ := Step.take_said htake
          obtain ⟨later, hlater, htook'⟩ := ih h
          refine ⟨first ++ later, ?_, ?_⟩
          · rw [hlater, hfirst, List.append_assoc]
          · -- what the first step has read is as much as it reads
            rw [ForwardingPlan.saidBy, List.take_left' hlength, List.drop_left' hlength]
            exact htook.trans htook'

variable {stage : Stage} {report : ForwardingReport}

theorem openService_said {handle : ForwardingHandle} (h : openService w = (.ok handle, w')) :
    w.out.Took openingLine w'.out := by
  obtain ⟨_, announced, hannounce, hcall⟩ := Run.bind_eq_ok h
  rw [Run.out_of_call hcall]
  exact Run.took_of_writeLine hannounce

/-- What is written with an open handle. -/
theorem applyWith_said {handle : ForwardingHandle}
    (h : plan.applyWith readback handle w = (⟨stage, .ok report⟩, w')) :
    w.out.Took (plan.saidBy plan.steps report.rateLimits ++ closingLine) w'.out := by
  unfold ForwardingPlan.applyWith at h
  split at h
  · cases h
  · rename_i progress taken htakes
    obtain ⟨read, hread, htook⟩ := takeSteps_said htakes
    split at h
    · cases h
    · rename_i written hwrite
      split at h
      · cases h
      · rename_i closed hclose
        obtain ⟨houtcome, rfl⟩ := Prod.mk.inj h
        obtain ⟨-, hreport⟩ := ForwardingOutcome.mk.inj houtcome
        obtain rfl := Except.ok.inj hreport
        have hend : taken.out.Took closingLine closed.out := by
          rw [Run.out_of_call hclose]
          exact Run.took_of_writeLine hwrite
        show w.out.Took (plan.saidBy plan.steps progress.rateLimits ++ closingLine) closed.out
        rw [hread, List.nil_append]
        exact htook.trans hend

/-- **A run that succeeds has written what its report tells, and nothing of it is held back.** -/
theorem apply_said (h : plan.apply readback w = (⟨stage, .ok report⟩, w')) :
    w.out.Took (plan.said report.rateLimits) w'.out := by
  unfold ForwardingPlan.apply at h
  obtain ⟨⟨outcome, inside⟩, hcarry⟩ : ∃ ran,
      plan.carryOut readback { w with span := some (.apply plan.domain plan.mode) } = ran :=
    ⟨_, rfl⟩
  rw [hcarry] at h
  obtain ⟨rfl, rfl⟩ := Prod.mk.inj h
  show w.out.Took _ inside.out
  unfold ForwardingPlan.carryOut at hcarry
  split at hcarry
  · cases hcarry
  · rename_i handle opened hopen
    rw [ForwardingPlan.said, String.append_assoc]
    exact (openService_said hopen).trans (applyWith_said hcarry)

end FlowProcessor
