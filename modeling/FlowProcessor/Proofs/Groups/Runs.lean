/-
  FlowProcessor.Proofs.Groups.Runs — RUNS OF LOAD-BALANCE ACTIONS.

  A run that succeeds has carried out every action: what it comes to can be told from the actions
  and the state before.  A run is not atomic: it fails at the first action that is blocked, with
  the error of that one call, and everything before it stays as if it had been asked for alone.

    • `run_concludes` — a run carries out its sequence, or stops at an action that fails
    • `run_effect`    — what a run that succeeds has done
    • `Blocked`       — an action whose call is bound to be refused
    • `run_stops_at_blocked` — when a run fails, and what one that fails has done
-/
import FlowProcessor.Proofs.Groups.Sequences

namespace FlowProcessor

variable {device current : DeviceId} {commands : List GroupCommand} {w w' ended : World}

/-! ## §1. The end of a run. -/

namespace GroupRun

theorem run_of_completed (h : sequence device commands w = (⟨current, none⟩, ended)) :
    run device commands w
      = ((current, .ok commands.length), ended.note (.applied commands.length)) := by
  unfold run
  rw [h]
  rfl

/-- A warning is the last word of a run that is stopped after a write. -/
theorem run_of_stopped {done rest : List GroupCommand} {command : GroupCommand} {error : ToolError}
    (h : sequence device commands w = (⟨current, some ⟨0 + done.length, command, error⟩⟩, ended))
    (hsplit : commands = done ++ command :: rest) :
    run device commands w
      = ((current, .error error),
        if done.any (·.isWrite) then
          ended.note (.stopped (done.length + 1) commands.length command)
        else ended) := by
  have hdone : commands.take done.length = done := by
    rw [hsplit, List.take_left]
  unfold run
  rw [h]
  simp only [closing?, Nat.zero_add]
  rw [hdone]
  cases hwrote : done.any (·.isWrite) <;> rfl

/-- What a run answers, beside the device that is current then, and the world it leaves. -/
inductive Concludes (device : DeviceId) (commands : List GroupCommand) (w : World) :
    (DeviceId × Except ToolError Nat) × World → Prop
  | completed {ended : World} (achieved : Achieved device commands w ended) :
      Concludes device commands w
        ((deviceAfter device commands, .ok commands.length), ended.note (.applied commands.length))
  /-- The actions before the failing one are what a run of them alone carries out. -/
  | stopped {done rest : List GroupCommand} {command : GroupCommand} {error : ToolError}
      {between ended : World} (split : commands = done ++ command :: rest)
      (alone : run device done w
        = ((deviceAfter device done, .ok done.length), between.note (.applied done.length)))
      (achieved : Achieved device done w between)
      (failed : command.Outcome (deviceAfter device done) between (.error error) ended) :
      Concludes device commands w
        ((deviceAfter device done, .error error),
          if done.any (·.isWrite) then
            ended.note (.stopped (done.length + 1) commands.length command)
          else ended)

theorem run_concludes {ran : (DeviceId × Except ToolError Nat) × World}
    (h : run device commands w = ran) : Concludes device commands w ran := by
  subst h
  have hends := sequenceFrom_ends 0 device commands w
  obtain ⟨⟨outcome, ended⟩, hsequence⟩ : ∃ ran, sequence device commands w = ran := ⟨_, rfl⟩
  change Ends 0 device commands w (sequence device commands w).1 (sequence device commands w).2
    at hends
  rw [hsequence] at hends
  cases hends with
  | completed achieved =>
      rw [run_of_completed hsequence]
      exact .completed achieved
  | stopped split alone achieved failed =>
      rw [run_of_stopped hsequence split]
      exact .stopped split (run_of_completed alone) achieved failed

end GroupRun

/-! ## §2. Runs that succeed. -/

/-- **A run that succeeds leaves in every group the mask written last, or else the one before; it
makes one call for each action but the selections, prints the masks as they are at that moment, and
changes nothing else.** -/
theorem run_effect {count : Nat}
    (h : GroupRun.run device commands w = ((current, .ok count), w')) :
    (∀ target group, (w'.platform.state.groupsOf target).get group
      = GroupRun.maskAfter w.platform.state device commands target group)
    ∧ w.platform.state.SameButGroups w'.platform.state
    ∧ count = commands.length
    ∧ current = GroupRun.deviceAfter device commands
    ∧ w'.platform.calls = w.platform.calls ++ GroupRun.callsMade device commands
    ∧ w'.out.text = w.out.text ++ String.join
      ((GroupRun.listings w.platform.state device commands).map GroupListing.text) := by
  -- a run that was stopped would have failed
  cases GroupRun.run_concludes h with
  | completed achieved =>
      refine ⟨?_, ?_, rfl, rfl, ?_, ?_⟩
      · intro target group
        rw [World.note_platform]
        exact achieved.masks target group
      · rw [World.note_platform]
        exact achieved.same
      · rw [World.note_platform]
        exact achieved.calls
      · rw [World.note_out]
        exact achieved.printed.text

/-- Device 0 is written and left, device 2 is cleared after a write and written again. -/
theorem run_effect_of_selections :
    ∃ w', GroupRun.run 0
        [.setMask 0 ⟨1⟩, .select 2, .setMask 0 ⟨0xffff⟩, .clear, .setList 3 ⟨5⟩, .print, .select 1]
        (World.start .initial .unlimited) = ((1, .ok 7), w')
      ∧ (w'.platform.state.groupsOf 0).get 0 = ⟨1⟩
      ∧ (w'.platform.state.groupsOf 2).get 0 = .empty
      ∧ (w'.platform.state.groupsOf 2).get 3 = ⟨5⟩
      ∧ w'.platform.calls = [.writeGroup 0 0, .writeGroup 2 0, .writeAllGroups 2, .writeGroup 2 3,
        .readGroups 2]
      ∧ w'.out.text = (GroupListing.mk 2 (GroupTable.empty.set 3 ⟨5⟩)).text := by
  obtain ⟨w', hrun⟩ : ∃ w', GroupRun.run 0
      [.setMask 0 ⟨1⟩, .select 2, .setMask 0 ⟨0xffff⟩, .clear, .setList 3 ⟨5⟩, .print, .select 1]
      (World.start .initial .unlimited) = ((1, .ok 7), w') := ⟨_, rfl⟩
  obtain ⟨hmasks, -, -, -, hcalls, htext⟩ := run_effect hrun
  refine ⟨w', hrun, ?_, ?_, ?_, ?_, ?_⟩
  · rw [hmasks]
    decide
  · rw [hmasks]
    decide
  · rw [hmasks]
    decide
  · rw [hcalls]
    decide
  · have hlistings : GroupRun.listings PlatformState.initial 0
        [.setMask 0 ⟨1⟩, .select 2, .setMask 0 ⟨0xffff⟩, .clear, .setList 3 ⟨5⟩, .print, .select 1]
        = [GroupListing.mk 2 (GroupTable.empty.set 3 ⟨5⟩)] := by decide
    rw [htext]
    show "" ++ String.join ((GroupRun.listings PlatformState.initial 0 _).map _) = _
    rw [hlistings]
    simp [String.join]

/-! ## §3. Actions that are blocked. -/

namespace GroupRun

/-- An action directed at an absent device, or one with a fault registered for its call. -/
def Blocked (p : Platform) (step : DeviceId × GroupCommand) : Prop :=
  ∃ call, step.2.call? step.1 = some call
    ∧ (p.state.device? step.1 = none ∨ (p.faults.find? call).isSome)

variable {p : Platform} {step : DeviceId × GroupCommand} {call : Call}

/-- A blocked action is refused with the error of the fault, or else for the absence. -/
theorem refusal?_of_blocked (hblocked : Blocked p step) (hcall : step.2.call? step.1 = some call) :
    step.2.refusal? p step.1 = some ((p.faults.find? call).getD (.noDevice step.1)) := by
  obtain ⟨made, hmade, hwhy⟩ := hblocked
  obtain rfl : made = call := Option.some.inj (hmade.symm.trans hcall)
  unfold GroupCommand.refusal? Platform.deviceRefusal?
  rw [hcall, Option.bind_some]
  cases hfault : p.faults.find? made with
  | some fault => rfl
  | none =>
      have habsent : p.state.device? step.1 = none := by
        rcases hwhy with habsent | hsome
        · exact habsent
        · rw [hfault] at hsome
          cases hsome
      rw [habsent]
      rfl

theorem blocked_iff : Blocked p step ↔ (step.2.refusal? p step.1).isSome := by
  constructor
  · rintro ⟨call, hcall, hwhy⟩
    rw [refusal?_of_blocked ⟨call, hcall, hwhy⟩ hcall]
    rfl
  · intro hrefused
    obtain ⟨error, herror⟩ := Option.isSome_iff_exists.mp hrefused
    obtain ⟨call, hcall, hrefusal⟩ := Option.bind_eq_some_iff.mp herror
    refine ⟨call, hcall, ?_⟩
    unfold Platform.deviceRefusal? at hrefusal
    cases hfault : p.faults.find? call with
    | some fault => exact .inr rfl
    | none =>
        cases hdevice : p.state.device? step.1 with
        | none => exact .inl rfl
        | some d =>
            rw [hfault, hdevice] at hrefusal
            cases hrefusal

instance : Decidable (Blocked p step) := decidable_of_iff _ blocked_iff.symm

theorem blocked_of_refusal? {command : GroupCommand} {error : PlatformError}
    (h : command.refusal? p device = some error) : Blocked p (device, command) :=
  blocked_iff.mpr (Option.isSome_of_eq_some h)

/-- Nothing is blocked in a sequence that is carried out. -/
theorem Achieved.not_blocked (h : Achieved device commands w ended) :
    ∀ step ∈ addressed device commands, ¬ Blocked w.platform step := by
  intro step hstep hblocked
  rw [blocked_iff, h.admitted step hstep] at hblocked
  cases hblocked

/-- The action after some others is directed at the device that is current after these. -/
theorem mem_addressed {done rest : List GroupCommand} {command : GroupCommand}
    (hsplit : commands = done ++ command :: rest) :
    (deviceAfter device done, command) ∈ addressed device commands := by
  rw [hsplit, addressed_append, addressed_cons]
  exact List.mem_append_right _ List.mem_cons_self

variable {done rest done' rest' : List GroupCommand} {command command' : GroupCommand}

/-- Nothing is blocked before the first action that is. -/
theorem length_le_of_first (hsplit : commands = done ++ command :: rest)
    (hsplit' : commands = done' ++ command' :: rest')
    (hfirst' : ∀ step ∈ addressed device done', ¬ Blocked p step)
    (hblocked : Blocked p (deviceAfter device done, command)) : done'.length ≤ done.length := by
  by_cases hle : done'.length ≤ done.length
  · exact hle
  · -- the blocked action would be among those that are not
    have hprefix : done ++ [command] <+: commands := ⟨rest, by rw [hsplit, List.append_assoc]; rfl⟩
    have hprefix' : done' <+: commands := ⟨command' :: rest', hsplit'.symm⟩
    have hlength : (done ++ [command]).length ≤ done'.length := by
      rw [List.length_append, List.length_singleton]
      omega
    obtain ⟨more, hmore⟩ := List.prefix_of_prefix_length_le hprefix hprefix' hlength
    rw [List.append_assoc] at hmore
    exact absurd hblocked (hfirst' _ (mem_addressed hmore.symm))

/-- There is one first blocked action at most. -/
theorem first_blocked_unique (hsplit : commands = done ++ command :: rest)
    (hsplit' : commands = done' ++ command' :: rest')
    (hfirst : ∀ step ∈ addressed device done, ¬ Blocked p step)
    (hfirst' : ∀ step ∈ addressed device done', ¬ Blocked p step)
    (hblocked : Blocked p (deviceAfter device done, command))
    (hblocked' : Blocked p (deviceAfter device done', command')) :
    done' = done ∧ command' = command := by
  have hlength : done'.length = done.length :=
    Nat.le_antisymm (length_le_of_first hsplit hsplit' hfirst' hblocked)
      (length_le_of_first hsplit' hsplit hfirst hblocked')
  obtain ⟨hdone, hrest⟩ := List.append_inj (hsplit'.symm.trans hsplit) hlength
  exact ⟨hdone, (List.cons.inj hrest).1⟩

end GroupRun

/-! ## §4. Warnings. -/

/-- The warnings of a log. -/
def warnings (log : List LogEntry) : List LogEntry := log.filter (·.event.severity = .warn)

@[simp] theorem warnings_append (log more : List LogEntry) :
    warnings (log ++ more) = warnings log ++ warnings more := List.filter_append ..

/-- Nothing that is carried out gives a warning. -/
theorem GroupRun.Achieved.warnings_log (h : Achieved device commands w ended) :
    warnings ended.log = warnings w.log := by
  have hnone : warnings ((addressed device commands).flatMap
      fun step => step.2.entries w.span step.1) = [] := by
    refine List.filter_eq_nil_iff.mpr fun entry hentry => ?_
    obtain ⟨step, -, hstep⟩ := List.mem_flatMap.mp hentry
    simpa using GroupCommand.severity_of_mem_entries hstep
  rw [h.log, warnings_append, hnone, List.append_nil]

/-- Nor does the call of an action that is refused. -/
theorem GroupCommand.warnings_stopped (command : GroupCommand) (device : DeviceId) (w : World)
    (call : Call) : warnings (command.stopped device w call).log = warnings w.log := by
  show warnings (w.log ++ [⟨command.span w.span device, .called call⟩]) = _
  rw [warnings_append]
  exact List.append_nil _

/-! ## §5. Runs that are stopped. -/

namespace GroupRun

section Stopped

variable {result : Except ToolError Nat}
variable (hrun : run device commands w = ((current, result), w'))
include hrun

/-- An output without end never makes a run fail. -/
theorem not_unwritten_of_endless (hendless : w.out.room = none) (error : FileError) :
    result ≠ .error (.output error) := by
  cases run_concludes hrun with
  | completed achieved =>
      intro herror
      cases herror
  | stopped split alone achieved failed =>
      cases failed with
      | refused action makes refusal =>
          intro herror
          cases herror
      | unwritten admitted unwritable =>
          rw [Sink.write_of_endless (achieved.endless hendless)] at unwritable
          cases unwritable

variable (hwritten : ∀ error, result ≠ .error (.output error))
include hwritten

/-- Where everything that is printed is taken, nothing is held back. -/
theorem stuck_of_written : w'.out.stuck = w.out.stuck := by
  cases run_concludes hrun with
  | completed achieved => exact achieved.printed.stuck
  | stopped split alone achieved failed =>
      cases failed with
      | refused action makes refusal =>
          -- the action that is refused prints nothing, and a warning goes to the log
          split <;> exact achieved.printed.stuck
      | unwritten admitted unwritable => exact absurd rfl (hwritten _)

theorem fails_iff_blocked :
    (∃ failure, result = .error failure)
      ↔ ∃ step ∈ addressed device commands, Blocked w.platform step := by
  cases run_concludes hrun with
  | completed achieved =>
      constructor
      · rintro ⟨failure, hfailure⟩
        cases hfailure
      · rintro ⟨step, hstep, hblocked⟩
        exact absurd hblocked (achieved.not_blocked step hstep)
  | stopped split alone achieved failed =>
      cases failed with
      | refused action makes refusal =>
          -- what is blocked there was blocked in the world before the run
          rw [refusal?_eq achieved.same achieved.faults] at refusal
          have hblocked := blocked_of_refusal? refusal
          exact ⟨fun _ => ⟨_, mem_addressed split, hblocked⟩, fun _ => ⟨_, rfl⟩⟩
      | unwritten admitted unwritable => exact absurd rfl (hwritten _)

variable {done rest : List GroupCommand} {command : GroupCommand} {call : Call}

/-- A run stops at the first blocked action, where a run of the actions before it comes to its
end. -/
theorem stops_at_first (hsplit : commands = done ++ command :: rest)
    (hfirst : ∀ step ∈ addressed device done, ¬ Blocked w.platform step)
    (hblocked : Blocked w.platform (deviceAfter device done, command))
    (hcall : command.call? (deviceAfter device done) = some call) :
    ∃ between action,
      run device done w = ((deviceAfter device done, .ok done.length), between)
      ∧ between.platform.calls = w.platform.calls ++ callsMade device done
      ∧ w'.platform = between.platform.record call
      ∧ w'.out = between.out
      ∧ current = deviceAfter device done
      ∧ result = .error (.device action current
        ((w.platform.faults.find? call).getD (.noDevice current)))
      ∧ warnings w'.log = warnings w.log
        ++ if done.any (·.isWrite) then
          [⟨w.span, .stopped (done.length + 1) commands.length command⟩]
        else [] := by
  cases run_concludes hrun with
  | completed achieved => exact absurd hblocked (achieved.not_blocked _ (mem_addressed hsplit))
  | stopped split alone achieved failed =>
      cases failed with
      | unwritten admitted unwritable => exact absurd rfl (hwritten _)
      | refused action makes refusal =>
          rw [refusal?_eq achieved.same achieved.faults] at refusal
          -- the action that failed is blocked, and the first one that is
          obtain ⟨rfl, rfl⟩ := first_blocked_unique hsplit split hfirst achieved.not_blocked
            hblocked (blocked_of_refusal? refusal)
          obtain rfl := Option.some.inj (makes.symm.trans hcall)
          have herror := refusal?_of_blocked hblocked hcall
          obtain rfl := Option.some.inj (refusal.symm.trans herror)
          refine ⟨_, action, alone, achieved.calls, ?_, ?_, rfl, rfl, ?_⟩
          · split <;> rfl
          · split <;> rfl
          · rw [← achieved.warnings_log, ← achieved.span]
            split
            · show warnings (_ ++ [_]) = _
              rw [warnings_append, GroupCommand.warnings_stopped]
              rfl
            · rw [GroupCommand.warnings_stopped, List.append_nil]

end Stopped

end GroupRun

/-- **A run fails exactly if some action is blocked, unless it is the output that comes to an end.
It stops at the first such action, after everything that a run of the actions before it does.** -/
theorem run_stops_at_blocked (device : DeviceId) (commands : List GroupCommand) (w : World) :
    ∃ current result w', GroupRun.run device commands w = ((current, result), w')
      ∧ (w.out.room = none → ∀ error, result ≠ .error (.output error))
      ∧ ((∀ error, result ≠ .error (.output error)) →
        ((∃ failure, result = .error failure)
          ↔ ∃ step ∈ GroupRun.addressed device commands, GroupRun.Blocked w.platform step)
        ∧ ∀ done command rest call, commands = done ++ command :: rest →
          (∀ step ∈ GroupRun.addressed device done, ¬ GroupRun.Blocked w.platform step) →
          GroupRun.Blocked w.platform (GroupRun.deviceAfter device done, command) →
          command.call? (GroupRun.deviceAfter device done) = some call →
          ∃ between action,
            GroupRun.run device done w
              = ((GroupRun.deviceAfter device done, .ok done.length), between)
            ∧ between.platform.calls = w.platform.calls ++ GroupRun.callsMade device done
            ∧ w'.platform = between.platform.record call
            ∧ w'.out = between.out
            ∧ current = GroupRun.deviceAfter device done
            ∧ result = .error (.device action current
              ((w.platform.faults.find? call).getD (.noDevice current)))
            ∧ ((∃ earlier ∈ done, earlier = .clear
                ∨ (∃ group dests, earlier = .setMask group dests)
                ∨ ∃ group dests, earlier = .setList group dests) →
              warnings w'.log = warnings w.log
                ++ [⟨w.span, .stopped (done.length + 1) commands.length command⟩])
            ∧ ((∀ earlier ∈ done, (∃ next, earlier = .select next) ∨ earlier = .print) →
              warnings w'.log = warnings w.log)) := by
  obtain ⟨⟨⟨current, result⟩, w'⟩, hrun⟩ : ∃ ran, GroupRun.run device commands w = ran := ⟨_, rfl⟩
  refine ⟨current, result, w', hrun, GroupRun.not_unwritten_of_endless hrun, fun hwritten => ?_⟩
  refine ⟨GroupRun.fails_iff_blocked hrun hwritten, ?_⟩
  intro done command rest call hsplit hfirst hblocked hcall
  obtain ⟨between, action, alone, hcalls, hplatform, hout, hdevice, hresult, hwarnings⟩ :=
    GroupRun.stops_at_first hrun hwritten hsplit hfirst hblocked hcall
  refine ⟨between, action, alone, hcalls, hplatform, hout, hdevice, hresult, ?_, ?_⟩
  · rintro ⟨earlier, hmem, hwrites⟩
    rw [hwarnings, if_pos (List.any_eq_true.mpr ⟨earlier, hmem, earlier.isWrite_iff.mpr hwrites⟩)]
  · intro hreads
    have hnone : done.any (·.isWrite) = false :=
      List.any_eq_false.mpr fun earlier hmem => earlier.not_isWrite_iff.mpr (hreads earlier hmem)
    rw [hwarnings, hnone]
    exact List.append_nil _

/-- Device 3 is not installed; the write to device 0 stays and is warned about. -/
theorem run_stops_at_blocked_of_absent_device :
    ∃ current result w',
      GroupRun.run 0 [.setMask 0 ⟨1⟩, .select 3, .clear, .select 1, .setMask 2 ⟨6⟩]
        (World.start (Platform.initial.setPresent 3 false) .unlimited) = ((current, result), w')
      ∧ current = 3
      ∧ (∃ action, result = .error (.device action 3 (.noDevice 3)))
      ∧ w'.platform.calls = [.writeGroup 0 0, .writeAllGroups 3]
      ∧ warnings w'.log = [⟨none, .stopped 3 5 .clear⟩] := by
  obtain ⟨current, result, w', hrun, hendless, hstops⟩ :=
    run_stops_at_blocked 0 [.setMask 0 ⟨1⟩, .select 3, .clear, .select 1, .setMask 2 ⟨6⟩]
      (World.start (Platform.initial.setPresent 3 false) .unlimited)
  obtain ⟨between, action, -, hcalls, hplatform, -, hcurrent, hresult, hwarnings, -⟩ :=
    (hstops (hendless rfl)).2 [.setMask 0 ⟨1⟩, .select 3] .clear [.select 1, .setMask 2 ⟨6⟩]
      (.writeAllGroups 3) rfl (by decide) (by decide) rfl
  subst hcurrent
  have hwarned := hwarnings ⟨_, .head _, .inr (.inl ⟨0, ⟨1⟩, rfl⟩)⟩
  refine ⟨_, result, w', hrun, rfl, ⟨action, hresult⟩, ?_, hwarned⟩
  rw [hplatform]
  show between.platform.calls ++ [_] = _
  rw [hcalls]
  rfl

end FlowProcessor
