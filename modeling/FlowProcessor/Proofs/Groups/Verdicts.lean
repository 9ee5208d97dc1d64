/-
  FlowProcessor.Proofs.Groups.Verdicts — WHAT AN ACTION IS ANSWERED.

  An action is refused, or its listing does not fit the output, or it is carried out.  Which of
  these it is, with which error, and what the state is afterwards, depends on the faults, on the
  devices that are installed, on the masks that are printed and on the output, and on nothing else.

    • `Run.FailsWith`         — how a run can fail, closed under bind, call and span
    • `GroupCommand.verdict`  — the answer to an action, and the output after it
    • `apply_verdict`         — applying an action gives this answer
    • `verdict_of_apply`      — which is read off an action that was applied
    • `mask?_stateAfter`      — the masks afterwards, whether or not it is refused
-/
import FlowProcessor.Proofs.Groups.Sequences

namespace FlowProcessor

/-! ## §1. How a run can fail. -/

namespace Run

variable {α β : Type} {E : ToolError → Prop}

/-- The run fails with such errors only. -/
def FailsWith (run : Run α) (E : ToolError → Prop) : Prop :=
  ∀ w error w', run w = (.error error, w') → E error

theorem failsWith_pure (a : α) : (Run.pure a).FailsWith E := by
  intro w error w' h
  cases h

theorem failsWith_log (event : Event) : (Run.log event).FailsWith E := by
  intro w error w' h
  cases h

theorem failsWith_write (text : String) (h : ∀ error, E (.output error)) :
    (Run.write text).FailsWith E := by
  intro w error w' hrun
  unfold Run.write Run.put at hrun
  split at hrun
  · cases hrun
  · obtain ⟨herror, -⟩ := Prod.mk.inj hrun
    obtain rfl := Except.error.inj herror
    exact h _

theorem failsWith_call {service : Platform → Except PlatformError α × Platform}
    {cause : PlatformError → ToolError} (h : ∀ error, E (cause error)) :
    (Run.call service cause).FailsWith E := by
  intro w error w' hrun
  unfold Run.call at hrun
  split at hrun
  · cases hrun
  · obtain ⟨herror, -⟩ := Prod.mk.inj hrun
    obtain rfl := Except.error.inj herror
    exact h _

theorem FailsWith.bind {run : Run α} {next : α → Run β} (h : run.FailsWith E)
    (hnext : ∀ a, (next a).FailsWith E) : (run >>= next).FailsWith E := by
  intro w error w' hbind
  obtain ⟨⟨result, between⟩, hrun⟩ : ∃ ran, run w = ran := ⟨_, rfl⟩
  cases result with
  | ok a =>
      rw [Run.bind_of_ok hrun] at hbind
      exact hnext a _ _ _ hbind
  | error error' =>
      rw [Run.bind_of_error hrun] at hbind
      obtain ⟨herror, -⟩ := Prod.mk.inj hbind
      obtain rfl := Except.error.inj herror
      exact h _ _ _ hrun

theorem FailsWith.within {run : Run α} (h : run.FailsWith E) (span : Span) :
    (Run.within span run).FailsWith E := by
  intro w error w' hwithin
  obtain ⟨⟨result, after⟩, hrun⟩ : ∃ ran, run { w with span := some span } = ran := ⟨_, rfl⟩
  rw [Run.within_eq hrun] at hwithin
  obtain ⟨rfl, -⟩ := Prod.mk.inj hwithin
  exact h _ _ _ hrun

end Run

/-! ## §2. The answer to an action. -/

namespace GroupCommand

/-- What the error of a refused action says was being done; a selection is never refused. -/
def deed : GroupCommand → String
  | .clear => "clearing load balance group destinations"
  | .setMask group dests | .setList group dests =>
      "setting load balance group " ++ idText group ++ " to destinations " ++ dests.text
  | .print => "retrieving load balance group destinations"
  | .select _ => ""

/-- The answer to an action that is not the next device, and the output after it. -/
def verdict (p : Platform) (device : DeviceId) (out : Sink) (command : GroupCommand) :
    Except ToolError Unit × Sink :=
  match command.refusal? p device with
  | some error => (.error (.device command.deed device error), out)
  | none =>
      match out.write (command.output p.state device) with
      | (.ok (), out) => (.ok (), out)
      | (.error error, out) => (.error (.output error), out)

/-- The state after an action, carried out or not. -/
def stateAfter (p : Platform) (device : DeviceId) (command : GroupCommand) : PlatformState :=
  if (command.refusal? p device).isSome then p.state else command.effect p.state device

/-- An action fails by its own call, which it names, or by the output. -/
inductive Failure (device : DeviceId) (command : GroupCommand) : ToolError → Prop
  | call (cause : PlatformError) : Failure device command (.device command.deed device cause)
  | output (cause : FileError) : Failure device command (.output cause)

theorem apply_failsWith (device : DeviceId) (command : GroupCommand) :
    (command.apply device).FailsWith (command.Failure device) := by
  cases command with
  | select next => exact (Run.failsWith_log _).bind fun _ => Run.failsWith_pure _
  | clear =>
      have hclear : (GroupRun.clear device).FailsWith (GroupCommand.clear.Failure device) :=
        ((Run.failsWith_call .call).bind fun _ => Run.failsWith_log _).within _
      exact hclear.bind fun _ => Run.failsWith_pure _
  | setMask group dests =>
      have hset : (GroupRun.set device group dests).FailsWith
          ((GroupCommand.setMask group dests).Failure device) :=
        ((Run.failsWith_call .call).bind fun _ => Run.failsWith_log _).within _
      exact hset.bind fun _ => Run.failsWith_pure _
  | setList group dests =>
      have hset : (GroupRun.set device group dests).FailsWith
          ((GroupCommand.setList group dests).Failure device) :=
        ((Run.failsWith_call .call).bind fun _ => Run.failsWith_log _).within _
      exact hset.bind fun _ => Run.failsWith_pure _
  | print =>
      have hlisting : (GroupRun.listing device).FailsWith (GroupCommand.print.Failure device) :=
        (Run.failsWith_call .call).bind fun _ => Run.failsWith_pure _
      exact hlisting.bind fun _ =>
        (Run.failsWith_write _ .output).bind fun _ => Run.failsWith_pure _

/-- **Applying an action gives its verdict.** -/
theorem apply_verdict (device : DeviceId) (command : GroupCommand) (w : World) :
    (command.apply device w).1
        = (command.verdict w.platform device w.out).1.map (fun _ => command.next device)
      ∧ (command.apply device w).2.out = (command.verdict w.platform device w.out).2
      ∧ (command.apply device w).2.platform.state = command.stateAfter w.platform device
      ∧ (command.apply device w).2.platform.faults = w.platform.faults := by
  have houtcome := apply_outcome device command w
  have hfails := command.apply_failsWith device w
  unfold verdict stateAfter
  obtain ⟨⟨result, w'⟩, happly⟩ : ∃ applied, command.apply device w = applied := ⟨_, rfl⟩
  rw [happly] at houtcome ⊢
  cases houtcome with
  | carriedOut admitted written =>
      rw [admitted, written]
      exact ⟨rfl, rfl, rfl, rfl⟩
  | refused action makes refusal =>
      rw [refusal]
      -- the error names what was being done, which is told by the action alone
      cases hfails _ _ happly with
      | call cause => exact ⟨rfl, rfl, rfl, rfl⟩
  | unwritten admitted failed =>
      rw [admitted, failed]
      exact ⟨rfl, rfl, rfl, rfl⟩

variable {p q : Platform} {device : DeviceId} {command : GroupCommand} {out out' : Sink}

/-- The verdict is read off an action that was applied, and so is the next device. -/
theorem verdict_of_apply {w w' : World} {result : Except ToolError DeviceId}
    (h : command.apply device w = (result, w')) :
    command.verdict w.platform device w.out = (result.map fun _ => (), w'.out)
      ∧ ∀ next, result = .ok next → next = command.next device := by
  obtain ⟨hresult, hout, -, -⟩ := command.apply_verdict device w
  obtain ⟨⟨answer, out⟩, hverdict⟩ :
      ∃ answered, command.verdict w.platform device w.out = answered := ⟨_, rfl⟩
  rw [h, hverdict] at hresult hout
  rw [hverdict]
  obtain rfl : result = answer.map fun _ => command.next device := hresult
  obtain rfl : w'.out = out := hout
  cases answer with
  | ok u => exact ⟨rfl, fun next hnext => (Except.ok.inj hnext).symm⟩
  | error error => exact ⟨rfl, fun next hnext => nomatch hnext⟩

theorem sameButGroups_stateAfter (p : Platform) (device : DeviceId) (command : GroupCommand) :
    p.state.SameButGroups (command.stateAfter p device) := by
  unfold stateAfter
  split
  · exact .refl _
  · exact command.sameButGroups_effect _ _

/-- In every slot an action leaves the masks it is to write there, unless it is refused, and else
those before. -/
theorem mask?_stateAfter (p : Platform) (device : DeviceId) (command : GroupCommand) (slot : Nat)
    (group : GroupId) :
    (command.stateAfter p device).mask? slot group
      = (p.state.mask? slot group).map fun mask =>
          if (command.refusal? p device).isSome then mask
          else (command.writtenAt? device slot group).getD mask := by
  unfold stateAfter
  split
  · exact Option.map_id'.symm
  · exact command.mask?_effect _ _ _ _

/-- Two platforms answer an action alike if they refuse it alike and have the same to print. -/
theorem verdict_congr (hrefusal : command.refusal? p device = command.refusal? q device)
    (houtput : command.output p.state device = command.output q.state device) :
    command.verdict p device out = command.verdict q device out := by
  unfold verdict
  rw [hrefusal, houtput]

/-- Where outputs do not come to an end, it does not matter what is printed. -/
theorem verdict_of_endless (hrefusal : command.refusal? p device = command.refusal? q device)
    (hout : out.room = none) (hout' : out'.room = none) :
    (command.verdict p device out).1 = (command.verdict q device out').1
      ∧ (command.verdict p device out).2.room = none
      ∧ (command.verdict q device out').2.room = none := by
  unfold verdict
  rw [hrefusal, Sink.write_of_endless hout, Sink.write_of_endless hout']
  cases command.refusal? q device with
  | none => exact ⟨rfl, hout, hout'⟩
  | some error => exact ⟨rfl, hout, hout'⟩

end GroupCommand

end FlowProcessor
