/-
  FlowProcessor.Proofs.Groups.Commands — WHAT ONE ACTION DOES.

  An action makes at most one call.  The call is refused, which is all that happens, or the action
  is carried out as a whole, or a listing was read and could not be written.  Which of these it is,
  and what becomes of the world, is told without the computation that does it.

    • `GroupCommand.refusal?` — the error an action is refused with, if it is
    • `GroupCommand.after`    — the world after an action that is carried out
    • `apply_outcome`         — applying an action has one of the three outcomes
    • `mask?_effect`, `mask_effect` — the masks that an action writes, and those it leaves alone
-/
import FlowProcessor.GroupRun
import FlowProcessor.Proofs.Platform.Devices
import FlowProcessor.Proofs.Worlds

namespace FlowProcessor

/-! ## §1. What an action asks for. -/

namespace GroupCommand

/-- The device that an action selects. -/
def selected? : GroupCommand → Option DeviceId
  | .select device => some device
  | _ => none

/-- The device that is current after an action. -/
def next (device : DeviceId) (command : GroupCommand) : DeviceId := command.selected?.getD device

/-- The call that an action makes. -/
def call? (device : DeviceId) : GroupCommand → Option Call
  | .select _ => none
  | .clear => some (.writeAllGroups device)
  | .setMask group _ | .setList group _ => some (.writeGroup device group)
  | .print => some (.readGroups device)

/-- An action that changes a device clears all groups or sets one, in one notation or the other. -/
theorem isWrite_iff {command : GroupCommand} :
    command.isWrite = true ↔ command = .clear
      ∨ (∃ group dests, command = .setMask group dests)
      ∨ ∃ group dests, command = .setList group dests := by
  cases command <;> simp [isWrite]

theorem not_isWrite_iff {command : GroupCommand} :
    ¬command.isWrite = true ↔ (∃ device, command = .select device) ∨ command = .print := by
  cases command <;> simp [isWrite]

/-- The mask that an action writes to a group: none at all to every group, or its destinations to
the one group it names. -/
def written? (group : GroupId) : GroupCommand → Option DestSet
  | .clear => some .empty
  | .setMask target dests | .setList target dests => if target = group then some dests else none
  | .select _ | .print => none

/-- The error that an action is refused with. -/
def refusal? (p : Platform) (device : DeviceId) (command : GroupCommand) : Option PlatformError :=
  (command.call? device).bind fun call => p.deviceRefusal? call device

/-- What an action writes to the output. -/
def output (s : PlatformState) (device : DeviceId) : GroupCommand → String
  | .print => (GroupListing.mk device (s.groupsOf device)).text
  | _ => ""

/-- Only a listing is written. -/
theorem output_of_ne_print {s : PlatformState} {device : DeviceId}
    {command : GroupCommand} (h : command ≠ .print) : command.output s device = "" := by
  cases command with
  | print => exact absurd rfl h
  | _ => rfl

/-- The state after an action that is not refused. -/
def effect (s : PlatformState) (device : DeviceId) : GroupCommand → PlatformState
  | .clear => s.modifyDevice device fun d => { d with groups := .empty }
  | .setMask group dests | .setList group dests =>
      s.modifyDevice device fun d => { d with groups := d.groups.set group.val dests group.isLt }
  | .select _ | .print => s

/-! ## §2. What an action logs. -/

/-- The span that the events of an action are in. -/
def span (outer : Option Span) (device : DeviceId) : GroupCommand → Option Span
  | .clear => some (.clearAll device)
  | .setMask group dests | .setList group dests => some (.setGroup device group dests)
  | .select _ | .print => outer

/-- The event that an action ends with. -/
def notice? (device : DeviceId) : GroupCommand → Option Event
  | .select next => some (.selected next)
  | .clear => some (.groupsCleared device)
  | .setMask group dests | .setList group dests => some (.groupSet device group dests)
  | .print => none

/-- The log entries of an action that is carried out. -/
def entries (outer : Option Span) (device : DeviceId) (command : GroupCommand) : List LogEntry :=
  ((command.call? device).toList.map Event.called ++ (command.notice? device).toList).map
    fun event => ⟨command.span outer device, event⟩

/-- Nothing that an action logs is a warning. -/
theorem severity_of_mem_entries {outer : Option Span} {device : DeviceId} {command : GroupCommand}
    {entry : LogEntry} (h : entry ∈ command.entries outer device) :
    entry.event.severity ≠ .warn := by
  unfold entries at h
  obtain ⟨event, hevent, rfl⟩ := List.mem_map.mp h
  rcases List.mem_append.mp hevent with hcall | hnotice
  · obtain ⟨call, -, rfl⟩ := List.mem_map.mp hcall
    simp [Event.severity]
  · cases command with
    | print => cases hnotice
    | _ =>
        obtain rfl := List.mem_singleton.mp hnotice
        simp [Event.severity]

/-! ## §3. How an action can end. -/

/-- The world after an action that is carried out, with the output as it is then. -/
def after (device : DeviceId) (w : World) (out : Sink) (command : GroupCommand) : World where
  platform :=
    { state := command.effect w.platform.state device
      calls := w.platform.calls ++ (command.call? device).toList
      faults := w.platform.faults }
  out := out
  log := w.log ++ command.entries w.span device
  span := w.span

/-- The world after an action whose call is refused. -/
def stopped (device : DeviceId) (w : World) (call : Call) (command : GroupCommand) : World :=
  { w with
    platform := w.platform.record call
    log := w.log ++ [⟨command.span w.span device, .called call⟩] }

/-- What applying an action answers, and the world it leaves. -/
inductive Outcome (device : DeviceId) (command : GroupCommand) (w : World) :
    Except ToolError DeviceId → World → Prop
  | carriedOut {out : Sink} (admitted : command.refusal? w.platform device = none)
      (written : w.out.write (command.output w.platform.state device) = (.ok (), out)) :
      Outcome device command w (.ok (command.next device)) (command.after device w out)
  | refused {call : Call} {error : PlatformError} (action : String)
      (makes : command.call? device = some call)
      (refusal : command.refusal? w.platform device = some error) :
      Outcome device command w (.error (.device action device error))
        (command.stopped device w call)
  /-- A listing was read, and the output came to an end. -/
  | unwritten {out : Sink} {error : FileError}
      (admitted : command.refusal? w.platform device = none)
      (failed : w.out.write (command.output w.platform.state device) = (.error error, out)) :
      Outcome device command w (.error (.output error)) (command.after device w out)

end GroupCommand

/-! ## §4. Applying an action. -/

variable {w : World} {device : DeviceId}

/-- A call in a span of its own, and an event after it if the call succeeds. -/
def GroupRun.report (sp : Span) (service : Platform → Except PlatformError Unit × Platform)
    (cause : PlatformError → ToolError) (event : Event) : Run Unit :=
  Run.within sp (Run.call service cause >>= fun _ => Run.log event)

section Report

variable {sp : Span} {service : Platform → Except PlatformError Unit × Platform}
variable {cause : PlatformError → ToolError} {event : Event} {q : Platform} {call : Call}

theorem report_of_ok (hservice : service w.platform = (.ok (), q))
    (hcalls : q.calls = w.platform.calls ++ [call]) :
    GroupRun.report sp service cause event w = (.ok (), { w with
      platform := q
      log := w.log ++ [⟨some sp, .called call⟩, ⟨some sp, event⟩] }) := by
  have hcall : Run.call service cause { w with span := some sp }
      = (.ok (), World.afterCall { w with span := some sp } q call) :=
    Run.call_eq_afterCall cause hservice hcalls
  have hrun : (Run.call service cause >>= fun _ => Run.log event) { w with span := some sp }
      = (.ok (), (World.afterCall { w with span := some sp } q call).note event) :=
    Run.bind_of_ok hcall
  refine (Run.within_eq hrun).trans ?_
  simp [World.note, World.afterCall]

theorem report_of_error {error : PlatformError} (hservice : service w.platform = (.error error, q))
    (hcalls : q.calls = w.platform.calls ++ [call]) :
    GroupRun.report sp service cause event w = (.error (cause error), { w with
      platform := q
      log := w.log ++ [⟨some sp, .called call⟩] }) := by
  have hcall : Run.call service cause { w with span := some sp }
      = (.error (cause error), World.afterCall { w with span := some sp } q call) :=
    Run.call_eq_afterCall_of_error cause hservice hcalls
  have hrun : (Run.call service cause >>= fun _ => Run.log event) { w with span := some sp }
      = (.error (cause error), World.afterCall { w with span := some sp } q call) :=
    Run.bind_of_error hcall
  exact Run.within_eq hrun

end Report

/-- An action that writes to a device is carried out or refused. -/
theorem outcome_of_write {command : GroupCommand} {call : Call} {sp : Span} {event : Event}
    {action : String} {change : DeviceState → DeviceState}
    (hcall : command.call? device = some call) (hspan : command.span w.span device = some sp)
    (hnotice : command.notice? device = some event)
    (heffect : command.effect w.platform.state device = w.platform.state.modifyDevice device change)
    (hsame : command.next device = device) (hsilent : command.output w.platform.state device = "")
    (happly : command.apply device
      = GroupRun.report sp
          (·.perform call (.check (·.installed device) >>= fun _ =>
            .change (·.modifyDevice device change)))
          (.device action device) event >>= fun _ => Run.pure device) :
    command.Outcome device w (command.apply device w).1 (command.apply device w).2 := by
  rw [happly]
  cases hrefusal : w.platform.deviceRefusal? call device with
  | some error =>
      have hservice := Platform.perform_of_deviceRefusal
        (fun _ => .change (·.modifyDevice device change)) hrefusal
      rw [Run.bind_of_error (report_of_error hservice rfl)]
      have hrefused : command.Outcome device w _ (command.stopped device w call) :=
        .refused action hcall (by rw [GroupCommand.refusal?, hcall]; exact hrefusal)
      rw [GroupCommand.stopped, hspan] at hrefused
      exact hrefused
  | none =>
      obtain ⟨d, -, hservice⟩ := Platform.perform_of_installed
        (fun _ => .change (·.modifyDevice device change)) hrefusal
      rw [Run.bind_of_ok (report_of_ok hservice rfl)]
      have hdone : command.Outcome device w (.ok (command.next device))
          (command.after device w w.out) :=
        .carriedOut (by rw [GroupCommand.refusal?, hcall]; exact hrefusal)
          (by rw [hsilent]; exact w.out.write_empty)
      rw [hsame, GroupCommand.after, heffect, GroupCommand.entries, hcall, hspan, hnotice] at hdone
      exact hdone

/-- Printing reads the groups and writes the listing. -/
theorem outcome_of_print :
    GroupCommand.print.Outcome device w (GroupCommand.print.apply device w).1
      (GroupCommand.print.apply device w).2 := by
  have happly : GroupCommand.print.apply device
      = GroupRun.listing device >>= fun listing =>
        Run.write listing.text >>= fun _ => Run.pure device := rfl
  rw [happly]
  cases hrefusal : w.platform.deviceRefusal? (.readGroups device) device with
  | some error =>
      have hservice : w.platform.readGroups device
          = (.error error, w.platform.record (.readGroups device)) :=
        Platform.perform_of_deviceRefusal (fun d => Service.pure d.groups) hrefusal
      have hlisting : GroupRun.listing device w = (.error (.device _ device error),
          w.afterCall (w.platform.record (.readGroups device)) (.readGroups device)) :=
        Run.bind_of_error (Run.call_eq_afterCall_of_error _ hservice rfl)
      rw [Run.bind_of_error hlisting]
      exact .refused _ rfl hrefusal
  | none =>
      obtain ⟨d, hdevice, hservice⟩ :=
        Platform.perform_of_installed (fun d => Service.pure d.groups) hrefusal
      change w.platform.readGroups device
        = (.ok d.groups, w.platform.record (.readGroups device)) at hservice
      have hlisting : GroupRun.listing device w = (.ok ⟨device, d.groups⟩,
          w.afterCall (w.platform.record (.readGroups device)) (.readGroups device)) :=
        Run.bind_of_ok (Run.call_eq_afterCall _ hservice rfl)
      rw [Run.bind_of_ok hlisting]
      have htext : GroupCommand.print.output w.platform.state device
          = (GroupListing.mk device d.groups).text := by
        show (GroupListing.mk device (w.platform.state.groupsOf device)).text = _
        rw [PlatformState.groupsOf_of_device? hdevice]
      obtain ⟨⟨result, out⟩, hwrite⟩ :
          ∃ written, w.out.write (GroupListing.mk device d.groups).text = written := ⟨_, rfl⟩
      cases result with
      | ok u =>
          have hrun : Run.write (GroupListing.mk device d.groups).text
              (w.afterCall (w.platform.record (.readGroups device)) (.readGroups device))
                = (.ok (), GroupCommand.print.after device w out) := Run.write_of_ok hwrite
          rw [Run.bind_of_ok hrun]
          exact .carriedOut hrefusal (by rw [htext]; exact hwrite)
      | error error =>
          -- the groups were read all the same
          have hrun : Run.write (GroupListing.mk device d.groups).text
              (w.afterCall (w.platform.record (.readGroups device)) (.readGroups device))
                = (.error (.output error), GroupCommand.print.after device w out) :=
            Run.write_of_error hwrite
          rw [Run.bind_of_error hrun]
          exact .unwritten hrefusal (by rw [htext]; exact hwrite)

/-- **Applying an action has one of the three outcomes.** -/
theorem apply_outcome (device : DeviceId) (command : GroupCommand) (w : World) :
    command.Outcome device w (command.apply device w).1 (command.apply device w).2 := by
  cases command with
  | select next =>
      have hdone : (GroupCommand.select next).Outcome device w (.ok next)
          ((GroupCommand.select next).after device w w.out) :=
        .carriedOut rfl w.out.write_empty
      simp only [GroupCommand.after, GroupCommand.call?, Option.toList_none, List.append_nil]
        at hdone
      exact hdone
  | clear => exact outcome_of_write rfl rfl rfl rfl rfl rfl rfl
  | setMask group dests | setList group dests =>
      exact outcome_of_write rfl rfl rfl rfl rfl rfl rfl
  | print => exact outcome_of_print

namespace GroupCommand

variable {command : GroupCommand} {out : Sink}

/-- An action that is not refused, and whose output is taken, is carried out. -/
theorem apply_of_written (hadmitted : command.refusal? w.platform device = none)
    (hwrite : w.out.write (command.output w.platform.state device) = (.ok (), out)) :
    command.apply device w = (.ok (command.next device), command.after device w out) := by
  have houtcome := apply_outcome device command w
  obtain ⟨⟨result, w'⟩, happly⟩ : ∃ applied, command.apply device w = applied := ⟨_, rfl⟩
  rw [happly] at houtcome ⊢
  cases houtcome with
  | carriedOut admitted written =>
      obtain ⟨-, rfl⟩ := Prod.mk.inj (hwrite.symm.trans written)
      rfl
  | refused action makes refusal => cases hadmitted.symm.trans refusal
  | unwritten admitted unwritable => cases hwrite.symm.trans unwritable

/-- One whose output is not taken fails with that. -/
theorem apply_of_unwritten {error : FileError} (hadmitted : command.refusal? w.platform device = none)
    (hwrite : w.out.write (command.output w.platform.state device) = (.error error, out)) :
    command.apply device w = (.error (.output error), command.after device w out) := by
  have houtcome := apply_outcome device command w
  obtain ⟨⟨result, w'⟩, happly⟩ : ∃ applied, command.apply device w = applied := ⟨_, rfl⟩
  rw [happly] at houtcome ⊢
  cases houtcome with
  | carriedOut admitted written => cases hwrite.symm.trans written
  | refused action makes refusal => cases hadmitted.symm.trans refusal
  | unwritten admitted unwritable =>
      obtain ⟨herror, rfl⟩ := Prod.mk.inj (hwrite.symm.trans unwritable)
      obtain rfl := Except.error.inj herror
      rfl

end GroupCommand

/-! ## §5. Masks. -/

namespace GroupCommand

variable (command : GroupCommand)

/-- An action changes nothing but group masks. -/
theorem sameButGroups_effect (s : PlatformState) (device : DeviceId) :
    s.SameButGroups (command.effect s device) := by
  cases command with
  | select next | print => exact .refl s
  | clear | setMask group dests | setList group dests =>
      exact PlatformState.sameButGroups_modifyDevice fun d => rfl

/-- The device that an admitted write addresses is listed. -/
theorem listed_of_admitted {p : Platform} {device : DeviceId} {call : Call}
    (hadmitted : command.refusal? p device = none) (hcall : command.call? device = some call) :
    ∃ d, p.state.devices[device.val]? = some d := by
  rw [refusal?, hcall] at hadmitted
  have hpresent := (Option.or_eq_none_iff.mp hadmitted).2
  cases hdevice : p.state.device? device with
  | none =>
      rw [hdevice] at hpresent
      cases hpresent
  | some d => exact ⟨d, (PlatformState.listed_of_device? hdevice).1⟩

/-- The mask that an action writes to a group in a slot. -/
def writtenAt? (device : DeviceId) (slot : Nat) (group : GroupId) (command : GroupCommand) :
    Option DestSet :=
  if device.val = slot then command.written? group else none

/-- **In every slot an action leaves the masks it is to write there, if the slot is listed, and
else those before.** -/
theorem mask?_effect (s : PlatformState) (device : DeviceId) (slot : Nat) (group : GroupId) :
    (command.effect s device).mask? slot group
      = (s.mask? slot group).map fun mask =>
          (command.writtenAt? device slot group).getD mask := by
  have hwrite : ∀ f : DeviceState → DeviceState,
      (∀ d, (f d).groups.get group = (command.written? group).getD (d.groups.get group)) →
      (s.modifyDevice device f).mask? slot group
        = (s.mask? slot group).map fun mask =>
            (command.writtenAt? device slot group).getD mask := by
    intro f hf
    rw [PlatformState.mask?_modifyDevice]
    unfold writtenAt? PlatformState.mask?
    by_cases hslot : device.val = slot
    · rw [if_pos hslot, if_pos hslot, Option.map_map]
      exact congrArg (Option.map · _) (funext hf)
    · rw [if_neg hslot, if_neg hslot]
      exact Option.map_id'.symm
  cases command with
  | select next | print =>
      have hnothing : ∀ mask : DestSet,
          (if device.val = slot then none else none : Option DestSet).getD mask = mask := by
        intro mask
        rw [ite_self]
        rfl
      show s.mask? slot group = (s.mask? slot group).map fun mask =>
        (if device.val = slot then none else none : Option DestSet).getD mask
      rw [funext hnothing]
      exact Option.map_id'.symm
  | clear =>
      refine hwrite _ fun d => ?_
      show (Vector.replicate groupCount IdSet.empty)[group.val] = IdSet.empty
      exact Vector.getElem_replicate _
  | setMask named dests | setList named dests =>
      refine hwrite _ fun d => ?_
      show (d.groups.set named.val dests named.isLt)[group.val]
        = (if named = group then some dests else none).getD d.groups[group.val]
      rw [Vector.getElem_set]
      by_cases hnamed : named = group
      · subst hnamed
        simp
      · have hne : named.val ≠ group.val := fun heq => hnamed (Fin.ext heq)
        rw [if_neg hne, if_neg hnamed]
        rfl

/-- **An action that is not refused writes to its device the masks it is to write, and to no other
group and no other device.** -/
theorem mask_effect {p : Platform} {device : DeviceId}
    (hadmitted : command.refusal? p device = none) (target : DeviceId) (group : GroupId) :
    ((command.effect p.state device).groupsOf target).get group
      = (if device = target then command.written? group else none).getD
          ((p.state.groupsOf target).get group) := by
  have hslot : command.writtenAt? device target.val group
      = if device = target then command.written? group else none := by
    simp only [writtenAt?, Fin.val_inj]
  rw [PlatformState.groupsOf_get, PlatformState.groupsOf_get, mask?_effect, hslot]
  cases hmask : p.state.mask? target.val group with
  | some mask => rfl
  | none =>
      -- nothing is written where nothing is listed
      by_cases hsame : device = target
      · subst hsame
        have hunlisted : ∀ call, command.call? device ≠ some call := by
          intro call hcall
          obtain ⟨d, hlisted⟩ := command.listed_of_admitted hadmitted hcall
          rw [PlatformState.mask?, hlisted] at hmask
          cases hmask
        cases command with
        | select | print =>
            rw [if_pos rfl]
            rfl
        | clear | setMask | setList => exact absurd rfl (hunlisted _)
      · rw [if_neg hsame]
        rfl

end GroupCommand

end FlowProcessor
