/-
  FlowProcessor.Proofs.Groups.Continuation — GOING ON LATER.

  An action looks at the state of the platform and at its faults, and at nothing that was called,
  logged or printed before.  So a run that has come to its end can be continued in another world,
  if that one has the state it has left: what follows goes the same way, and prints the same.  Only
  an output that comes to its end can make a difference, since what was printed before has used it.

    • `Platform.Alike` — platforms that no action can tell apart
    • `Run.Forgets`   — a run that goes the same way on both, closed under bind, call and span
    • `apply_forgets` — all actions are such runs
    • `sequenceFrom_append` — a sequence is continued where its beginning has ended
    • `run_continues` — the same, in another world, after a device was selected
    • `run_in_two`    — two runs, the second on the state of the first, make one run of all actions
-/
import FlowProcessor.Proofs.Groups.Runs

namespace FlowProcessor

/-! ## §1. Platforms that are alike. -/

/-- The platforms answer every call in the same way, now and later. -/
structure Platform.Alike (p q : Platform) : Prop where
  state : p.state = q.state
  faults : p.faults = q.faults

theorem Platform.Alike.symm {p q : Platform} (h : p.Alike q) : q.Alike p :=
  ⟨h.state.symm, h.faults.symm⟩

theorem Platform.Alike.trans {p q r : Platform} (h : p.Alike q) (h' : q.Alike r) : p.Alike r :=
  ⟨h.state.trans h'.state, h.faults.trans h'.faults⟩

/-- Calls that are made of both platforms answer the same and leave them alike. -/
theorem Platform.Alike.perform {α : Type} {p q : Platform} (h : p.Alike q) (call : Call)
    (service : Service PlatformState α) :
    (p.perform call service).1 = (q.perform call service).1
      ∧ (p.perform call service).2.Alike (q.perform call service).2 := by
  unfold Platform.perform Platform.attend
  -- the answer is that of a fault or of the service, which only has the state to look at
  rw [← h.state, ← h.faults]
  cases p.faults.find? call with
  | some error => exact ⟨rfl, h.state, h.faults⟩
  | none => exact ⟨rfl, rfl, h.faults⟩

/-- From two worlds, others were reached whose platforms are alike, and on the way the same was
printed. -/
structure World.InStep (w v w' v' : World) : Prop where
  alike : w'.platform.Alike v'.platform
  printed : ∃ text, w'.out.text = w.out.text ++ text ∧ v'.out.text = v.out.text ++ text

section InStep

variable {w v w' v' w'' v'' : World}

theorem Platform.Alike.inStep (h : w.platform.Alike v.platform) : w.InStep v w v :=
  ⟨h, "", String.append_empty.symm, String.append_empty.symm⟩

theorem World.InStep.trans (h : w.InStep v w' v') (h' : w'.InStep v' w'' v'') :
    w.InStep v w'' v'' := by
  obtain ⟨text, hw, hv⟩ := h.printed
  obtain ⟨more, hw', hv'⟩ := h'.printed
  refine ⟨h'.alike, text ++ more, ?_, ?_⟩
  · rw [hw', hw, String.append_assoc]
  · rw [hv', hv, String.append_assoc]

/-- It does not matter what is logged at the end. -/
theorem World.InStep.noted (h : w.InStep v w' v') (event event' : Option Event) :
    w.InStep v (event.elim w' w'.note) (event'.elim v' v'.note) := by
  cases event <;> cases event'
  all_goals exact ⟨h.alike, h.printed⟩

end InStep

/-! ## §2. Runs that forget. -/

/-- The output came to its end. -/
def CutOff {α : Type} (result : Except ToolError α) : Prop := ∃ error, result = .error (.output error)

/-- What has succeeded was not cut off. -/
theorem not_cutOff_ok {α : Type} (a : α) : ¬ CutOff (.ok a) := by
  rintro ⟨error, herror⟩
  cases herror

/-- What two runs have come to, each from its own world: the output of one of them came to its end,
or they have gone the same way. -/
inductive SameWay {α : Type} (w v : World) : (ran ran' : Except ToolError α × World) → Prop
  | left {ran ran' : Except ToolError α × World} (cut : CutOff ran.1) : SameWay w v ran ran'
  | right {ran ran' : Except ToolError α × World} (cut : CutOff ran'.1) : SameWay w v ran ran'
  | both {result : Except ToolError α} {w' v' : World} (step : w.InStep v w' v') :
      SameWay w v (result, w') (result, v')

/-- Where neither output came to its end, the two have gone the same way. -/
theorem SameWay.of_whole {α : Type} {w v : World} {ran ran' : Except ToolError α × World}
    (h : SameWay w v ran ran') (hran : ¬ CutOff ran.1) (hran' : ¬ CutOff ran'.1) :
    ran.1 = ran'.1 ∧ w.InStep v ran.2 ran'.2 := by
  cases h with
  | left cut => exact absurd cut hran
  | right cut => exact absurd cut hran'
  | both step => exact ⟨rfl, step⟩

/-- What goes the same way after a common step does so from before it. -/
theorem SameWay.after {α : Type} {w v w' v' : World} {ran ran' : Except ToolError α × World}
    (h : SameWay w' v' ran ran') (step : w.InStep v w' v') : SameWay w v ran ran' := by
  cases h with
  | left cut => exact .left cut
  | right cut => exact .right cut
  | both later => exact .both (step.trans later)

/-- Nor does it matter to the results what is logged at the end. -/
theorem SameWay.noted {α : Type} {w v : World} {ran ran' : Except ToolError α × World}
    (h : SameWay w v ran ran') (event event' : Option Event) :
    SameWay w v (ran.1, event.elim ran.2 ran.2.note) (ran'.1, event'.elim ran'.2 ran'.2.note) := by
  cases h with
  | left cut => exact .left cut
  | right cut => exact .right cut
  | both step => exact .both (step.noted event event')

namespace Run

variable {α β : Type}

/-- The run does not look at what was called, logged or printed before. -/
def Forgets (run : Run α) : Prop :=
  ∀ w v : World, w.platform.Alike v.platform → SameWay w v (run w) (run v)

theorem forgets_pure (a : α) : (Run.pure a).Forgets := fun _ _ h => .both h.inStep

theorem forgets_log (event : Event) : (Run.log event).Forgets :=
  fun _ _ h => .both (h.inStep.noted (some event) (some event))

/-- Where the first part was cut off, so was the whole. -/
theorem cutOff_bind {run : Run α} {next : α → Run β} {w : World} (h : CutOff (run w).1) :
    CutOff ((run >>= next) w).1 := by
  obtain ⟨error, herror⟩ := h
  have hrun : run w = (.error (.output error), (run w).2) := by rw [← herror]
  exact ⟨error, by rw [Run.bind_of_error hrun]⟩

theorem Forgets.bind {run : Run α} {next : α → Run β} (h : run.Forgets)
    (hnext : ∀ a, (next a).Forgets) : (run >>= next).Forgets := by
  intro w v halike
  obtain ⟨ran, hw⟩ : ∃ ran, run w = ran := ⟨_, rfl⟩
  obtain ⟨ran', hv⟩ : ∃ ran, run v = ran := ⟨_, rfl⟩
  have hfirst := h w v halike
  rw [hw, hv] at hfirst
  cases hfirst with
  | left cut => exact .left (cutOff_bind (by rw [hw]; exact cut))
  | right cut => exact .right (cutOff_bind (by rw [hv]; exact cut))
  | @both result w' v' step =>
      cases result with
      | error error =>
          rw [Run.bind_of_error hw, Run.bind_of_error hv]
          exact .both step
      | ok a =>
          rw [Run.bind_of_ok hw, Run.bind_of_ok hv]
          -- the rest begins in the worlds that the first part has left
          exact (hnext a w' v' step.alike).after step

/-- A call forgets if its service does. -/
theorem forgets_call {service : Platform → Except PlatformError α × Platform}
    {cause : PlatformError → ToolError}
    (h : ∀ p q : Platform, p.Alike q →
      (service p).1 = (service q).1 ∧ (service p).2.Alike (service q).2) :
    (Run.call service cause).Forgets := by
  intro w v halike
  obtain ⟨hanswer, hplatform⟩ := h w.platform v.platform halike
  have hworlds : w.InStep v (w.serve service).2 (v.serve service).2 :=
    ⟨hplatform, halike.inStep.printed⟩
  rw [← World.serve_fst, ← World.serve_fst] at hanswer
  unfold Run.call
  obtain ⟨⟨answer, w'⟩, hw⟩ : ∃ served, w.serve service = served := ⟨_, rfl⟩
  obtain ⟨⟨answer', v'⟩, hv⟩ : ∃ served, v.serve service = served := ⟨_, rfl⟩
  rw [hw, hv] at hanswer hworlds
  obtain rfl : answer = answer' := hanswer
  rw [hw, hv]
  cases answer <;> exact .both hworlds

theorem forgets_write (text : String) : (Run.write text).Forgets := by
  intro w v halike
  obtain ⟨⟨result, out⟩, hw⟩ : ∃ written, w.out.write text = written := ⟨_, rfl⟩
  obtain ⟨⟨result', out'⟩, hv⟩ : ∃ written, v.out.write text = written := ⟨_, rfl⟩
  cases result with
  | error error => exact .left ⟨error, by rw [Run.write_of_error hw]⟩
  | ok u =>
      cases result' with
      | error error => exact .right ⟨error, by rw [Run.write_of_error hv]⟩
      | ok u =>
          rw [Run.write_of_ok hw, Run.write_of_ok hv]
          exact .both ⟨halike, text, (Sink.took_of_write hw).text, (Sink.took_of_write hv).text⟩

theorem Forgets.within {run : Run α} (h : run.Forgets) (span : Span) :
    (Run.within span run).Forgets := by
  intro w v halike
  obtain ⟨⟨result, w'⟩, hw⟩ : ∃ ran, run { w with span := some span } = ran := ⟨_, rfl⟩
  obtain ⟨⟨result', v'⟩, hv⟩ : ∃ ran, run { v with span := some span } = ran := ⟨_, rfl⟩
  have hinside := h { w with span := some span } { v with span := some span } halike
  rw [Run.within_eq hw, Run.within_eq hv]
  rw [hw, hv] at hinside
  cases hinside with
  | left cut => exact .left cut
  | right cut => exact .right cut
  | both step => exact .both ⟨step.alike, step.printed⟩

end Run

/-- **No action looks at what was done before, but for the state that it has left.** -/
theorem GroupCommand.apply_forgets (device : DeviceId) (command : GroupCommand) :
    (command.apply device).Forgets := by
  cases command with
  | select next => exact (Run.forgets_log _).bind fun _ => Run.forgets_pure _
  | clear =>
      have hcall : ∀ cause, (Run.call (·.clearGroups device) cause).Forgets :=
        fun cause => Run.forgets_call fun p q h => h.perform _ _
      have hclear : (GroupRun.clear device).Forgets :=
        ((hcall _).bind fun _ => Run.forgets_log _).within _
      exact hclear.bind fun _ => Run.forgets_pure _
  | setMask group dests | setList group dests =>
      have hset : (GroupRun.set device group dests).Forgets :=
        ((Run.forgets_call fun p q h => h.perform _ _).bind fun _ => Run.forgets_log _).within _
      exact hset.bind fun _ => Run.forgets_pure _
  | print =>
      have hlisting : (GroupRun.listing device).Forgets :=
        (Run.forgets_call fun p q h => h.perform _ _).bind fun _ => Run.forgets_pure _
      exact hlisting.bind fun _ => (Run.forgets_write _).bind fun _ => Run.forgets_pure _

/-! ## §3. Sequences in two parts. -/

namespace GroupRun

variable {device current start target : DeviceId} {commands more : List GroupCommand}
variable {position : Nat} {w v u w' : World}

/-- Whether a sequence has failed and with which error, and the world it has left. -/
def ending (ran : GroupOutcome × World) : Except ToolError Unit × World :=
  (ran.1.failure.elim (.ok ()) fun failure => .error failure.error, ran.2)

/-- The same for a run. -/
def runEnding (ran : (DeviceId × Except ToolError Nat) × World) : Except ToolError Unit × World :=
  (ran.1.2.map fun _ => (), ran.2)

theorem cutOff_runEnding {ran : (DeviceId × Except ToolError Nat) × World}
    (h : CutOff (runEnding ran).1) : CutOff ran.1.2 := by
  obtain ⟨⟨current, result⟩, w⟩ := ran
  obtain ⟨error, herror⟩ := h
  cases result with
  | ok count => cases herror
  | error failure => exact ⟨error, congrArg _ (Except.error.inj herror)⟩

/-- A sequence goes the same way on platforms that are alike, whatever position it has in a longer
one. -/
theorem sequenceFrom_alike (position other : Nat) (device : DeviceId)
    (commands : List GroupCommand) (h : w.platform.Alike v.platform) :
    SameWay w v (ending (sequenceFrom position device commands w))
      (ending (sequenceFrom other device commands v)) := by
  -- the rest goes on in the worlds that the first action leaves, which are alike again
  induction commands generalizing position other device w v with
  | nil => exact .both h.inStep
  | cons command commands ih =>
      have hfirst := command.apply_forgets device w v h
      obtain ⟨⟨result, w'⟩, hw⟩ : ∃ applied, command.apply device w = applied := ⟨_, rfl⟩
      obtain ⟨⟨result', v'⟩, hv⟩ : ∃ applied, command.apply device v = applied := ⟨_, rfl⟩
      rw [hw, hv] at hfirst
      cases hfirst with
      | left cut =>
          obtain ⟨error, rfl⟩ := cut
          exact .left ⟨error, by rw [sequenceFrom, hw]; rfl⟩
      | right cut =>
          obtain ⟨error, rfl⟩ := cut
          exact .right ⟨error, by rw [sequenceFrom, hv]; rfl⟩
      | both step =>
          cases result with
          | error error =>
              rw [sequenceFrom, hw, sequenceFrom, hv]
              exact .both step
          | ok next =>
              rw [sequenceFrom_cons_of_ok hw, sequenceFrom_cons_of_ok hv]
              exact (ih (position + 1) (other + 1) next step.alike).after step

/-- A sequence is continued from the device and the world where its beginning has ended. -/
theorem sequenceFrom_append (h : sequenceFrom position device commands w = (⟨current, none⟩, w')) :
    sequenceFrom position device (commands ++ more) w
      = sequenceFrom (position + commands.length) current more w' := by
  induction commands generalizing position device w with
  | nil =>
      obtain ⟨hdevice, rfl⟩ := Prod.mk.inj h
      obtain ⟨rfl, -⟩ := GroupOutcome.mk.inj hdevice
      rfl
  | cons command commands ih =>
      obtain ⟨⟨result, after⟩, happly⟩ : ∃ applied, command.apply device w = applied := ⟨_, rfl⟩
      cases result with
      | error error =>
          -- the beginning would have failed
          rw [sequenceFrom, happly] at h
          cases (GroupOutcome.mk.inj (Prod.mk.inj h).1).2
      | ok next =>
          rw [sequenceFrom_cons_of_ok happly] at h
          rw [List.cons_append, sequenceFrom_cons_of_ok happly, ih h, List.length_cons]
          congr 1
          omega

/-- A sequence whose beginning has failed goes no further. -/
theorem sequenceFrom_append_of_failure {failure : GroupFailure}
    (h : sequenceFrom position device commands w = (⟨current, some failure⟩, w')) :
    sequenceFrom position device (commands ++ more) w = (⟨current, some failure⟩, w') := by
  induction commands generalizing position device w with
  | nil => cases (GroupOutcome.mk.inj (Prod.mk.inj h).1).2
  | cons command commands ih =>
      obtain ⟨⟨result, after⟩, happly⟩ : ∃ applied, command.apply device w = applied := ⟨_, rfl⟩
      cases result with
      | error error =>
          rw [sequenceFrom, happly] at h
          rw [List.cons_append, sequenceFrom, happly]
          exact h
      | ok next =>
          rw [sequenceFrom_cons_of_ok happly] at h
          rw [List.cons_append, sequenceFrom_cons_of_ok happly]
          exact ih h

/-- Which device is current does not matter to a selection. -/
theorem sequenceFrom_select (device start : DeviceId) :
    sequenceFrom position device (.select target :: more) w
      = sequenceFrom position start (.select target :: more) w := rfl

/-- A run ends as its sequence does, with a last word in the log. -/
theorem runEnding_run (device : DeviceId) (commands : List GroupCommand) (w : World) :
    ∃ event? : Option Event, runEnding (run device commands w)
      = ((ending (sequence device commands w)).1,
        event?.elim (ending (sequence device commands w)).2
          (ending (sequence device commands w)).2.note) := by
  refine ⟨closing? commands (sequence device commands w).1.failure, ?_⟩
  unfold run runEnding ending
  dsimp only
  cases (sequence device commands w).1.failure <;> rfl

/-- What a run has left can be taken up by another one that begins with its state. -/
theorem alike_start_of_run {s : PlatformState} {count : Nat} {out : Sink}
    (h : run device commands (World.start (.ofState s) out) = ((current, .ok count), w')) :
    w'.platform.Alike (.ofState w'.platform.state) := by
  cases run_concludes h with
  | completed achieved => exact ⟨rfl, achieved.faults⟩

/-- **After actions that were all carried out, others that begin with a selection can as well be run
in another world, if its platform is like the one that was left.  Unless an output comes to its end,
a run of all actions goes the same way as those of the first and then as those of the second.** -/
theorem run_continues {count : Nat} (h : run device commands w = ((current, .ok count), w'))
    (hsame : w.platform.Alike u.platform) (halike : w'.platform.Alike v.platform)
    (start target : DeviceId) (more : List GroupCommand) :
    CutOff (runEnding (run device (commands ++ .select target :: more) u)).1
      ∨ ∃ u', w.InStep u w' u' ∧ SameWay u' v
        (runEnding (run device (commands ++ .select target :: more) u))
        (runEnding (run start (.select target :: more) v)) := by
  obtain ⟨event, hwhole⟩ := runEnding_run device (commands ++ .select target :: more) u
  obtain ⟨event', hsecond⟩ := runEnding_run start (.select target :: more) v
  rw [hwhole, hsecond]
  obtain ⟨⟨⟨ended, failure⟩, between⟩, hsequence⟩ : ∃ ran, sequence device commands w = ran :=
    ⟨_, rfl⟩
  obtain ⟨⟨⟨ended', failure'⟩, u'⟩, hbeginning⟩ : ∃ ran, sequence device commands u = ran :=
    ⟨_, rfl⟩
  unfold run at h
  rw [hsequence] at h
  cases failure with
  | some failure => cases h
  | none =>
      obtain ⟨-, rfl⟩ := Prod.mk.inj h
      have hfirst : SameWay w u (ending (sequence device commands w))
          (ending (sequence device commands u)) := sequenceFrom_alike 0 0 device commands hsame
      rw [hsequence, hbeginning] at hfirst
      cases failure' with
      | some failure =>
          -- what succeeds in one world can only be cut off in the other
          left
          have hstopped : sequence device (commands ++ .select target :: more) u
              = (⟨ended', some failure⟩, u') := sequenceFrom_append_of_failure hbeginning
          rw [hstopped]
          cases hfirst with
          | left cut => exact absurd cut (not_cutOff_ok ())
          | right cut => exact cut
      | none =>
          right
          have hcontinued : sequence device (commands ++ .select target :: more) u
              = sequenceFrom (0 + commands.length) ended' (.select target :: more) u' :=
            sequenceFrom_append hbeginning
          rw [sequenceFrom_select ended' start] at hcontinued
          rw [hcontinued]
          cases hfirst with
          | left cut => exact absurd cut (not_cutOff_ok ())
          | right cut => exact absurd cut (not_cutOff_ok ())
          | both step =>
              -- the last word of the first run is all that its log has in between
              refine ⟨u', ⟨step.alike, step.printed⟩, SameWay.noted ?_ event event'⟩
              exact sequenceFrom_alike _ 0 start _ (step.alike.symm.trans halike)

/-- **Unless an output comes to its end, a second run that begins with the state of the first ends as
a run of all actions does and leaves the same state, and the two have printed what that one has.** -/
theorem run_in_two {s : PlatformState} {room room' room'' : Option Nat} {current' current'' : DeviceId}
    {count : Nat} {result' result'' : Except ToolError Nat}
    (hfirst : run .first commands (World.start (.ofState s) (.ofRoom room))
      = ((current, .ok count), w))
    (hsecond : run .first (.select target :: more)
      (World.start (.ofState w.platform.state) (.ofRoom room')) = ((current', result'), v))
    (hboth : run .first (commands ++ .select target :: more)
      (World.start (.ofState s) (.ofRoom room'')) = ((current'', result''), u))
    (hwhole' : ¬ CutOff result') (hwhole'' : ¬ CutOff result'') :
    (result''.map fun _ => ()) = (result'.map fun _ => ())
      ∧ u.platform.state = v.platform.state ∧ w.out.text ++ v.out.text = u.out.text := by
  have hgoes := run_continues (u := World.start (.ofState s) (.ofRoom room''))
    (v := World.start (.ofState w.platform.state) (.ofRoom room')) hfirst ⟨rfl, rfl⟩
    (alike_start_of_run hfirst) .first target more
  rw [hsecond, hboth] at hgoes
  rcases hgoes with hcut | ⟨between, hbeginning, hrest⟩
  · exact absurd (cutOff_runEnding hcut) hwhole''
  · obtain ⟨hresult, hstep⟩ : (result''.map fun _ => ()) = (result'.map fun _ => ())
        ∧ between.InStep (World.start (.ofState w.platform.state) (.ofRoom room')) u v :=
      hrest.of_whole (fun hcut => hwhole'' (cutOff_runEnding hcut))
        fun hcut => hwhole' (cutOff_runEnding hcut)
    refine ⟨hresult, hstep.alike.state, ?_⟩
    -- all three outputs were empty at the beginning
    obtain ⟨text, hw, hbetween⟩ := hbeginning.printed
    obtain ⟨rest, hu, hv⟩ := hstep.printed
    rw [hv, hu, hw, hbetween]
    show "" ++ text ++ ("" ++ rest) = "" ++ text ++ rest
    rw [String.empty_append, String.empty_append]

end GroupRun

end FlowProcessor
