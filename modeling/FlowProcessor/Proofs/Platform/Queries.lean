/-
  FlowProcessor.Proofs.Platform.Queries — CALLS THAT ONLY READ.

  Reading masks, opening a session or a cursor and reading a rule leave a platform as it is, but
  for the log.  What they answer is told from the state alone; a cursor carries the rules of the
  moment at which it was opened.

    • `perform_snd_of_read` — a call that reads is logged, and that is all
    • `openCursor_eq_ok`    — a cursor visits the rules of the table, each as often as it is there
    • `next_of_fault`, `next_of_left`, `next_of_end` — the three outcomes of a read
    • `read_eq_ok`          — a read answers the rule at the position, and moves on
-/
import FlowProcessor.Platform.Groups
import FlowProcessor.Platform.Rules
import FlowProcessor.Proofs.Platform.Devices

namespace FlowProcessor

variable {p q : Platform} {device : DeviceId}

/-! ## §1. Calls that address a device. -/

/-- The rule table in a slot, installed or not; there is none where nothing is listed. -/
def PlatformState.rulesOf (s : PlatformState) (device : DeviceId) : List Rule :=
  (s.devices[device.val]?.map (·.rules)).getD []

theorem PlatformState.rulesOf_of_device? {s : PlatformState} {d : DeviceState}
    (h : s.device? device = some d) : s.rulesOf device = d.rules := by
  unfold rulesOf
  rw [(listed_of_device? h).1]
  rfl

namespace Platform

section Reads

variable {α : Type} {call : Call} {f : DeviceState → α}

theorem perform_snd_of_read :
    (p.perform call (.check (·.installed device) >>= fun d => Service.pure (f d))).2
      = p.record call :=
  perform_snd_of_looks ((Service.looks_check _).bind fun d => Service.looks_pure (f d))

theorem eq_of_perform_read {answer : α}
    (h : p.perform call (.check (·.installed device) >>= fun d => Service.pure (f d))
      = (.ok answer, q)) :
    ∃ d, p.state.device? device = some d ∧ answer = f d := by
  cases hrefusal : p.deviceRefusal? call device with
  | some error =>
      rw [perform_of_deviceRefusal _ hrefusal] at h
      cases h
  | none =>
      obtain ⟨d, hdevice, hservice⟩ :=
        perform_of_installed (fun d => Service.pure (f d)) hrefusal
      rw [hservice] at h
      cases h
      exact ⟨d, hdevice, rfl⟩

end Reads

theorem readGroups_eq_ok {groups : GroupTable} (h : p.readGroups device = (.ok groups, q)) :
    groups = p.state.groupsOf device := by
  obtain ⟨d, hdevice, rfl⟩ := eq_of_perform_read h
  exact (PlatformState.groupsOf_of_device? hdevice).symm

theorem openRules_eq_ok {session : RuleSession} (h : p.openRules device = (.ok session, q)) :
    session = ⟨device⟩ := by
  obtain ⟨d, -, rfl⟩ := eq_of_perform_read h
  rfl

end Platform

/-! ## §2. Cursors. -/

theorem CursorOrder.arrange_perm (order : CursorOrder) (rules : List Rule) :
    (order.arrange rules).Perm rules := by
  cases order with
  | priority => exact List.mergeSort_perm rules _
  | insertion => exact .refl rules

theorem RuleSession.openCursor_eq_ok {session : RuleSession} {order : CursorOrder}
    {cursor : RuleCursor} (h : session.openCursor order p = (.ok cursor, q)) :
    cursor.position = 0 ∧ cursor.rules.Perm (p.state.rulesOf session.device) := by
  obtain ⟨d, hdevice, rfl⟩ := Platform.eq_of_perform_read h
  rw [PlatformState.rulesOf_of_device? hdevice]
  exact ⟨rfl, order.arrange_perm d.rules⟩

namespace RuleCursor

variable {cursor : RuleCursor}

/-- Where there is a rule left, it is answered, and the cursor moves on. -/
theorem advance_of_left {rule : Rule} (h : cursor.rules[cursor.position]? = some rule) :
    advance cursor = (.ok (some rule), { cursor with position := cursor.position + 1 }) := by
  have hlook : Service.check (fun c : RuleCursor => .ok c.rules[c.position]?) cursor
      = (.ok (some rule), cursor) := Service.check_eq (congrArg Except.ok h)
  exact Service.bind_of_ok hlook

theorem advance_of_end (h : cursor.rules[cursor.position]? = none) :
    advance cursor = (.ok none, cursor) := by
  have hlook : Service.check (fun c : RuleCursor => .ok c.rules[c.position]?) cursor
      = (.ok none, cursor) := Service.check_eq (congrArg Except.ok h)
  exact Service.bind_of_ok hlook

theorem next_of_fault {error : PlatformError}
    (h : p.faults.find? (.readRule cursor.device cursor.position) = some error) :
    cursor.next p = ((.error error, cursor), p.record (.readRule cursor.device cursor.position)) :=
  Platform.attend_of_fault h

theorem next_of_left {rule : Rule}
    (hadmitted : p.faults.find? (.readRule cursor.device cursor.position) = none)
    (hleft : cursor.rules[cursor.position]? = some rule) :
    cursor.next p = ((.ok (some rule), { cursor with position := cursor.position + 1 }),
      p.record (.readRule cursor.device cursor.position)) := by
  refine (Platform.attend_of_served hadmitted rfl).trans ?_
  rw [advance_of_left hleft]
  rfl

theorem next_of_end
    (hadmitted : p.faults.find? (.readRule cursor.device cursor.position) = none)
    (hend : cursor.rules[cursor.position]? = none) :
    cursor.next p
      = ((.ok none, cursor), p.record (.readRule cursor.device cursor.position)) := by
  refine (Platform.attend_of_served hadmitted rfl).trans ?_
  rw [advance_of_end hend]
  rfl

/-- A read is logged, whatever comes of it, and that is all that happens to the platform. -/
theorem next_snd (cursor : RuleCursor) :
    (cursor.next p).2 = p.record (.readRule cursor.device cursor.position) := by
  cases hfault : p.faults.find? (.readRule cursor.device cursor.position) with
  | some error => rw [next_of_fault hfault]
  | none =>
      cases hleft : cursor.rules[cursor.position]? with
      | none => rw [next_of_end hfault hleft]
      | some rule => rw [next_of_left hfault hleft]

/-- What is read is told by the cursor and its fault, and not by the platform otherwise. -/
theorem next_fst_congr (hfaults : q.faults = p.faults) : (cursor.next q).1 = (cursor.next p).1 := by
  unfold next Platform.attend
  rw [hfaults]
  split <;> rfl

/-- A reader that gives up drops the cursor of a read that was refused. -/
theorem read_eq (cursor : RuleCursor) (p : Platform) :
    cursor.read p
      = ((cursor.next p).1.1.map fun rule => (rule, (cursor.next p).1.2), (cursor.next p).2) := by
  obtain ⟨⟨⟨answer, left⟩, after⟩, hnext⟩ : ∃ read, cursor.next p = read := ⟨_, rfl⟩
  rw [read, hnext]
  cases answer <;> rfl

theorem read_snd (cursor : RuleCursor) :
    (cursor.read p).2 = p.record (.readRule cursor.device cursor.position) := by
  rw [read_eq, next_snd]

/-- A read answers the next rule and goes one further, or it answers that there is none left. -/
theorem read_eq_ok {left : RuleCursor} {rule : Option Rule}
    (h : cursor.read p = (.ok (rule, left), q)) :
    rule = cursor.rules[cursor.position]?
      ∧ (rule.isSome → left = { cursor with position := cursor.position + 1 }) := by
  rw [read_eq] at h
  cases hfault : p.faults.find? (.readRule cursor.device cursor.position) with
  | some error =>
      rw [next_of_fault hfault] at h
      cases h
  | none =>
      cases hleft : cursor.rules[cursor.position]? with
      | none =>
          rw [next_of_end hfault hleft] at h
          cases h
          exact ⟨rfl, fun hsome => by cases hsome⟩
      | some found =>
          rw [next_of_left hfault hleft] at h
          cases h
          exact ⟨rfl, fun _ => rfl⟩

end RuleCursor

end FlowProcessor
