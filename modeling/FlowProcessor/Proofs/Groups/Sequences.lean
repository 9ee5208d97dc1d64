/-
  FlowProcessor.Proofs.Groups.Sequences — ACTIONS IN A ROW.

  Every action of a sequence is directed at the device that was selected last before it.  What a
  sequence makes of the group masks is told from the sequence alone: a mask is the one that the
  last action directed at its device wrote to its group.  A listing shows the masks as the actions
  before it have left them.

    • `addressed`, `maskAfter`, `listings` — what a sequence comes to, without running it
    • `Achieved`            — a world in which a sequence has been carried out
    • `sequenceFrom_ends`   — a run achieves its sequence, or the part before the action it stops at
-/
import FlowProcessor.Proofs.Groups.Commands

namespace FlowProcessor

namespace GroupRun

/-! ## §1. What a sequence comes to. -/

/-- The device that is current after some actions: the one selected last, or else the given one. -/
def deviceAfter (device : DeviceId) (commands : List GroupCommand) : DeviceId :=
  (commands.reverse.findSome? GroupCommand.selected?).getD device

/-- Every action with the device it is directed at, the one current after the actions before it. -/
def addressed (device : DeviceId) (commands : List GroupCommand) : List (DeviceId × GroupCommand) :=
  commands.mapIdx fun i command => (deviceAfter device (commands.take i), command)

/-- The calls of a sequence. -/
def callsMade (device : DeviceId) (commands : List GroupCommand) : List Call :=
  (addressed device commands).filterMap fun step => step.2.call? step.1

/-- What a directed action writes to a group of a device. -/
def writtenTo (target : DeviceId) (group : GroupId) (step : DeviceId × GroupCommand) :
    Option DestSet :=
  if step.1 = target then step.2.written? group else none

/-- The mask that the last action to write a group of a device writes there. -/
def lastWritten (device : DeviceId) (commands : List GroupCommand) (target : DeviceId)
    (group : GroupId) : Option DestSet :=
  (addressed device commands).reverse.findSome? (writtenTo target group)

/-- The mask of a group after some actions: the one written last, or else the one before. -/
def maskAfter (s : PlatformState) (device : DeviceId) (commands : List GroupCommand)
    (target : DeviceId) (group : GroupId) : DestSet :=
  (lastWritten device commands target group).getD ((s.groupsOf target).get group)

/-- The listing that is printed after some actions: the current device and its masks. -/
def listingAfter (s : PlatformState) (device : DeviceId) (commands : List GroupCommand) :
    GroupListing :=
  ⟨deviceAfter device commands,
    Vector.ofFn (maskAfter s device commands (deviceAfter device commands))⟩

/-- The listings of a sequence, one for each time it prints. -/
def listings (s : PlatformState) (device : DeviceId) (commands : List GroupCommand) :
    List GroupListing :=
  (commands.mapIdx fun i command =>
    if command = .print then some (listingAfter s device (commands.take i)) else none).filterMap id

/-! ## §2. The first action and the others. -/

variable {device : DeviceId} {command : GroupCommand} {commands : List GroupCommand}

@[simp] theorem deviceAfter_nil : deviceAfter device [] = device := rfl

@[simp] theorem deviceAfter_cons :
    deviceAfter device (command :: commands) = deviceAfter (command.next device) commands := by
  unfold deviceAfter GroupCommand.next
  rw [List.reverse_cons, List.findSome?_append, Option.getD_or]
  cases hselected : command.selected? <;> simp [hselected]

@[simp] theorem addressed_cons :
    addressed device (command :: commands)
      = (device, command) :: addressed (command.next device) commands := by
  unfold addressed
  rw [List.mapIdx_cons]
  simp only [List.take_zero, deviceAfter_nil, List.take_succ_cons, deviceAfter_cons]

theorem addressed_append (more : List GroupCommand) :
    addressed device (commands ++ more)
      = addressed device commands ++ addressed (deviceAfter device commands) more := by
  induction commands generalizing device with
  | nil => rfl
  | cons command commands ih =>
      rw [List.cons_append, addressed_cons, ih, addressed_cons, deviceAfter_cons, List.cons_append]

theorem callsMade_cons :
    callsMade device (command :: commands)
      = (command.call? device).toList ++ callsMade (command.next device) commands := by
  unfold callsMade
  rw [addressed_cons]
  cases hcall : command.call? device <;> simp [hcall]

theorem lastWritten_cons (target : DeviceId) (group : GroupId) :
    lastWritten device (command :: commands) target group
      = (lastWritten (command.next device) commands target group).or
          (writtenTo target group (device, command)) := by
  unfold lastWritten
  rw [addressed_cons, List.reverse_cons, List.findSome?_append]
  cases hwritten : writtenTo target group (device, command) <;> simp [hwritten]

variable {p : Platform}

/-- The masks after a sequence are those its other actions make of what the first has left. -/
theorem maskAfter_cons (hadmitted : command.refusal? p device = none) (target : DeviceId)
    (group : GroupId) :
    maskAfter p.state device (command :: commands) target group
      = maskAfter (command.effect p.state device) (command.next device) commands target group := by
  unfold maskAfter
  rw [lastWritten_cons, Option.getD_or, command.mask_effect hadmitted target group]
  rfl

theorem listingAfter_nil (s : PlatformState) :
    listingAfter s device [] = ⟨device, s.groupsOf device⟩ := by
  have hmasks : Vector.ofFn (maskAfter s device [] device) = s.groupsOf device := by
    refine Vector.ext fun i hi => ?_
    rw [Vector.getElem_ofFn]
    rfl
  unfold listingAfter
  rw [deviceAfter_nil, hmasks]

theorem listingAfter_cons (hadmitted : command.refusal? p device = none) :
    listingAfter p.state device (command :: commands)
      = listingAfter (command.effect p.state device) (command.next device) commands := by
  have hmasks : ∀ target, maskAfter p.state device (command :: commands) target
      = maskAfter (command.effect p.state device) (command.next device) commands target :=
    fun target => funext fun group => maskAfter_cons hadmitted target group
  unfold listingAfter
  rw [deviceAfter_cons, hmasks]

theorem listings_cons (hadmitted : command.refusal? p device = none) :
    listings p.state device (command :: commands)
      = (if command = .print then [⟨device, p.state.groupsOf device⟩] else [])
        ++ listings (command.effect p.state device) (command.next device) commands := by
  unfold listings
  rw [List.mapIdx_cons]
  simp only [List.take_zero, List.take_succ_cons, listingAfter_cons hadmitted, listingAfter_nil]
  by_cases hprint : command = .print <;> simp [hprint]

/-- What an action writes is the listing it prints, if it prints one. -/
theorem output_eq_join (s : PlatformState) :
    command.output s device
      = String.join ((if command = .print then [GroupListing.mk device (s.groupsOf device)]
          else []).map GroupListing.text) := by
  cases command with
  | print => simp [GroupCommand.output, String.join]
  | _ => rfl

/-! ## §3. Sequences that are carried out. -/

/-- A sequence has been carried out on a world. -/
structure Achieved (device : DeviceId) (commands : List GroupCommand) (w w' : World) : Prop where
  admitted : ∀ step ∈ addressed device commands, step.2.refusal? w.platform step.1 = none
  masks : ∀ target group, (w'.platform.state.groupsOf target).get group
    = maskAfter w.platform.state device commands target group
  same : w.platform.state.SameButGroups w'.platform.state
  faults : w'.platform.faults = w.platform.faults
  calls : w'.platform.calls = w.platform.calls ++ callsMade device commands
  printed : w.out.Took
    (String.join ((listings w.platform.state device commands).map GroupListing.text)) w'.out
  endless : w.out.room = none → w'.out.room = none
  span : w'.span = w.span
  log : w'.log = w.log
    ++ (addressed device commands).flatMap fun step => step.2.entries w.span step.1

/-- Whether an action is refused is not changed by any action. -/
theorem refusal?_eq {q : Platform} (hsame : p.state.SameButGroups q.state)
    (hfaults : q.faults = p.faults) (device : DeviceId) (command : GroupCommand) :
    command.refusal? q device = command.refusal? p device := by
  unfold GroupCommand.refusal? Platform.deviceRefusal?
  rw [hfaults]
  simp only [hsame.isSome_device?]

variable {w w' : World} {out : Sink}

theorem Achieved.nil (w : World) : Achieved device [] w w where
  admitted step hstep := by cases hstep
  masks target group := rfl
  same := .refl _
  faults := rfl
  calls := (List.append_nil _).symm
  printed := .nothing _
  endless hendless := hendless
  span := rfl
  log := (List.append_nil _).symm

/-- One more action in front of a sequence, which is carried out. -/
theorem Achieved.cons (hadmitted : command.refusal? w.platform device = none)
    (hwritten : w.out.write (command.output w.platform.state device) = (.ok (), out))
    (h : Achieved (command.next device) commands (command.after device w out) w') :
    Achieved device (command :: commands) w w' := by
  have hsame : w.platform.state.SameButGroups (command.after device w out).platform.state :=
    command.sameButGroups_effect w.platform.state device
  refine ⟨?_, ?_, hsame.trans h.same, h.faults, ?_, ?_, ?_, h.span, ?_⟩
  · intro step hstep
    rw [addressed_cons] at hstep
    rcases List.mem_cons.mp hstep with rfl | hlater
    · exact hadmitted
    · -- the later actions are admitted after the first one, and so they were before
      rw [← refusal?_eq hsame rfl]
      exact h.admitted step hlater
  · intro target group
    rw [h.masks, maskAfter_cons hadmitted]
    rfl
  · rw [h.calls, callsMade_cons, ← List.append_assoc]
    rfl
  · rw [listings_cons hadmitted, List.map_append, String.join_append, ← output_eq_join]
    exact (Sink.took_of_write hwritten).trans h.printed
  · intro hendless
    refine h.endless ?_
    rw [Sink.write_of_endless hendless] at hwritten
    obtain ⟨-, rfl⟩ := Prod.mk.inj hwritten
    exact hendless
  · rw [h.log, addressed_cons, List.flatMap_cons, ← List.append_assoc]
    rfl

/-! ## §4. Runs. -/

/-- How a run of a sequence ends, the first action being at a given position. -/
inductive Ends (position : Nat) (device : DeviceId) (commands : List GroupCommand) (w : World) :
    GroupOutcome → World → Prop
  | completed {w' : World} (achieved : Achieved device commands w w') :
      Ends position device commands w ⟨deviceAfter device commands, none⟩ w'
  /-- The actions before the failing one are carried out, as they are when run alone. -/
  | stopped {done rest : List GroupCommand} {command : GroupCommand} {error : ToolError}
      {between w' : World} (split : commands = done ++ command :: rest)
      (alone : sequenceFrom position device done w = (⟨deviceAfter device done, none⟩, between))
      (achieved : Achieved device done w between)
      (failed : command.Outcome (deviceAfter device done) between (.error error) w') :
      Ends position device commands w
        ⟨deviceAfter device done, some ⟨position + done.length, command, error⟩⟩ w'

variable {position : Nat}

theorem sequenceFrom_cons_of_ok {next : DeviceId} (h : command.apply device w = (.ok next, w')) :
    sequenceFrom position device (command :: commands) w
      = sequenceFrom (position + 1) next commands w' := by
  rw [sequenceFrom, h]

/-- One more action in front of a run, which is carried out: the run ends where it would have ended
without it. -/
theorem Ends.cons {outcome : GroupOutcome}
    (happly : command.apply device w = (.ok (command.next device), command.after device w out))
    (hadmitted : command.refusal? w.platform device = none)
    (hwritten : w.out.write (command.output w.platform.state device) = (.ok (), out))
    (h : Ends (position + 1) (command.next device) commands (command.after device w out) outcome
      w') :
    Ends position device (command :: commands) w outcome w' := by
  cases h with
  | completed achieved =>
      rw [← deviceAfter_cons]
      exact .completed (achieved.cons hadmitted hwritten)
  | @stopped done rest failing error between _ split alone achieved failed =>
      rw [← deviceAfter_cons] at alone failed
      have hsplit : command :: commands = (command :: done) ++ failing :: rest := by
        rw [split]
        rfl
      have halone : sequenceFrom position device (command :: done) w
          = (⟨deviceAfter device (command :: done), none⟩, between) :=
        (sequenceFrom_cons_of_ok happly).trans alone
      -- the failing action is one further from the first one than in the rest
      have hposition : position + 1 + done.length = position + (command :: done).length := by
        rw [List.length_cons]
        omega
      rw [hposition, ← deviceAfter_cons]
      exact .stopped hsplit halone (achieved.cons hadmitted hwritten) failed

/-- **A run carries out its sequence, or the part of it before the action that it stops at.** -/
theorem sequenceFrom_ends (position : Nat) (device : DeviceId) (commands : List GroupCommand)
    (w : World) :
    Ends position device commands w (sequenceFrom position device commands w).1
      (sequenceFrom position device commands w).2 := by
  -- the rest runs from the device and the world that the first action leaves
  induction commands generalizing position device w with
  | nil => exact .completed (.nil w)
  | cons command commands ih =>
      obtain ⟨⟨result, after⟩, happly⟩ : ∃ applied, command.apply device w = applied := ⟨_, rfl⟩
      have houtcome := apply_outcome device command w
      rw [happly] at houtcome
      cases result with
      | error error =>
          -- nothing is carried out before the first action
          rw [sequenceFrom, happly]
          exact .stopped (show _ = [] ++ command :: commands from rfl) rfl (.nil w) houtcome
      | ok next =>
          cases houtcome with
          | carriedOut admitted written =>
              rw [sequenceFrom_cons_of_ok happly]
              exact .cons happly admitted written (ih _ _ _)

end GroupRun

end FlowProcessor
