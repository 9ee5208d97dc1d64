/-
  FlowProcessor.Proofs.Platform.Cursors — WHAT A CURSOR DELIVERS.

  A cursor walks the rules that its device had when the cursor was opened.  Its reads that succeed
  deliver them one after the other, whatever happens in between to the device, to its rules or to
  the faults.  A read that is refused delivers nothing, and the next one that is not delivers what
  it would have.  So at any time the position of a cursor is the number of rules it has delivered.

    • `CursorOrder.Visits`     — a list is a table in the order of a cursor
    • `visits_iff`             — there is one such list, the one a cursor is opened with
    • `Workspace.delivered`    — the rules that a cursor delivers along a history
    • `Delivering`             — where a cursor stands that has delivered some rules
    • `NextRule`               — what a further read is answered
    • `Delivering.undergo`, `Delivering.history` — one occurrence, and any history
    • `cursor_reads_snapshot`  — from the opening of a cursor on
-/
import FlowProcessor.Proofs.Platform.Occurrences
import FlowProcessor.Proofs.Platform.Queries

namespace FlowProcessor

/-! ## §1. The order of a cursor. -/

/-- The rules of a table in the order of a cursor: as they are in the table, or all of them by
ascending priority, with those of one priority as they are in the table. -/
inductive CursorOrder.Visits (table : List Rule) : CursorOrder → List Rule → Prop
  | insertion : Visits table .insertion table
  | priority {visited : List Rule} (same : visited.Perm table)
      (ascending : visited.Pairwise fun a b => a.priority ≤ b.priority)
      (stable : ∀ priority, visited.filter (·.priority = priority)
        = table.filter (·.priority = priority)) :
      Visits table .priority visited

section Order

variable {table visited other : List Rule} {order : CursorOrder}

theorem Rule.priority_trans (a b c : Rule) (hab : decide (a.priority ≤ b.priority) = true)
    (hbc : decide (b.priority ≤ c.priority) = true) : decide (a.priority ≤ c.priority) = true :=
  decide_eq_true (UInt32.le_trans (of_decide_eq_true hab) (of_decide_eq_true hbc))

theorem Rule.priority_total (a b : Rule) :
    (decide (a.priority ≤ b.priority) || decide (b.priority ≤ a.priority)) = true := by
  simpa using UInt32.le_total a.priority b.priority

/-- Rules of one priority stay in their order when a table is sorted. -/
theorem filter_mergeSort (table : List Rule) (priority : UInt32) :
    (table.mergeSort fun a b => a.priority ≤ b.priority).filter (·.priority = priority)
      = table.filter (·.priority = priority) := by
  have hequal : (table.filter (·.priority = priority)).Pairwise
      fun a b => decide (a.priority ≤ b.priority) = true := by
    refine List.pairwise_of_forall_mem_list fun a ha b hb => decide_eq_true ?_
    rw [of_decide_eq_true (List.mem_filter.mp ha).2, of_decide_eq_true (List.mem_filter.mp hb).2]
    exact UInt32.le_refl priority
  -- they are a part of the sorted table in this order, and there are no others in it
  have hpart := (List.sublist_mergeSort Rule.priority_trans Rule.priority_total hequal
    List.filter_sublist).filter (·.priority = priority)
  rw [List.filter_filter] at hpart
  simp only [Bool.and_self] at hpart
  exact (hpart.eq_of_length ((List.mergeSort_perm table _).filter _).length_eq.symm).symm

/-- A cursor is opened with such a list. -/
theorem CursorOrder.visits_arrange (order : CursorOrder) (table : List Rule) :
    order.Visits table (order.arrange table) := by
  cases order with
  | insertion => exact .insertion
  | priority =>
      have hsorted := List.pairwise_mergeSort Rule.priority_trans Rule.priority_total table
      exact .priority (List.mergeSort_perm table _) (hsorted.imp of_decide_eq_true)
        (filter_mergeSort table)

/-- The first of some rules in ascending order has the least priority. -/
theorem priority_head_le {first rule : Rule} {rest : List Rule}
    (hsorted : (first :: rest).Pairwise fun a b => a.priority ≤ b.priority)
    (hrule : rule ∈ first :: rest) : first.priority ≤ rule.priority := by
  rcases List.mem_cons.mp hrule with rfl | hlater
  · exact UInt32.le_refl _
  · exact List.rel_of_pairwise_cons hsorted hlater

/-- Rules in ascending order are told by those of each priority. -/
theorem eq_of_filter_eq (hperm : visited.Perm other)
    (hvisited : visited.Pairwise fun a b => a.priority ≤ b.priority)
    (hother : other.Pairwise fun a b => a.priority ≤ b.priority)
    (hstable : ∀ priority, visited.filter (·.priority = priority)
      = other.filter (·.priority = priority)) : visited = other := by
  induction visited generalizing other with
  | nil => exact (List.nil_perm.mp hperm).symm
  | cons first rest ih =>
      cases other with
      | nil => exact List.perm_nil.mp hperm
      | cons first' rest' =>
          -- both lists begin with a rule of the least priority, which is the first one of it
          have hpriority : first.priority = first'.priority := UInt32.le_antisymm
            (priority_head_le hvisited (hperm.mem_iff.mpr List.mem_cons_self))
            (priority_head_le hother (hperm.mem_iff.mp List.mem_cons_self))
          have hfirsts := hstable first.priority
          rw [List.filter_cons_of_pos (by simp), List.filter_cons_of_pos (by simp [hpriority])]
            at hfirsts
          obtain ⟨rfl, -⟩ := List.cons.inj hfirsts
          refine congrArg (first :: ·) (ih hperm.cons_inv hvisited.of_cons hother.of_cons ?_)
          intro priority
          have hsame := hstable priority
          rw [List.filter_cons, List.filter_cons] at hsame
          split at hsame
          · exact (List.cons.inj hsame).2
          · exact hsame

/-- **The order of a cursor leaves no choice.** -/
theorem CursorOrder.visits_iff : order.Visits table visited ↔ visited = order.arrange table := by
  constructor
  · intro h
    have harranged := order.visits_arrange table
    cases h with
    | insertion => rfl
    | priority same ascending stable =>
        cases harranged with
        | priority same' ascending' stable' =>
            exact eq_of_filter_eq (same.trans same'.symm) ascending ascending'
              fun priority => (stable priority).trans (stable' priority).symm
  · rintro rfl
    exact order.visits_arrange table

end Order

/-! ## §2. Single reads. -/

/-- What a read is answered by a cursor that has delivered some rules, given the fault that is
registered for it. -/
inductive NextRule (snapshot delivered : List Rule) (fault : Option PlatformError) : Answer → Prop
  | refused {error : PlatformError} (faulted : fault = some error) :
      NextRule snapshot delivered fault (.refused error)
  | next {rule : Rule} {rest : List Rule} (admitted : fault = none)
      (left : snapshot = delivered ++ rule :: rest) :
      NextRule snapshot delivered fault (.rule (some rule))
  /-- All rules have been delivered. -/
  | exhausted (admitted : fault = none) (complete : snapshot = delivered) :
      NextRule snapshot delivered fault (.rule none)

namespace NextRule

variable {snapshot delivered rest : List Rule} {fault : Option PlatformError} {answer : Answer}

theorem eq_refused {error : PlatformError} (h : NextRule snapshot delivered fault answer)
    (hfault : fault = some error) : answer = .refused error := by
  subst hfault
  cases h with
  | refused faulted => rw [Option.some.inj faulted]
  | next admitted | exhausted admitted => cases admitted

theorem eq_next {rule : Rule} (h : NextRule snapshot delivered fault answer)
    (hadmitted : fault = none) (hleft : snapshot = delivered ++ rule :: rest) :
    answer = .rule (some rule) := by
  subst hadmitted hleft
  cases h with
  | refused faulted => cases faulted
  | next admitted left => rw [(List.cons.inj (List.append_cancel_left left)).1]
  | exhausted admitted complete => cases List.append_right_eq_self.mp complete

theorem eq_exhausted (h : NextRule snapshot delivered fault answer) (hadmitted : fault = none)
    (hcomplete : snapshot = delivered) : answer = .rule none := by
  subst hadmitted hcomplete
  cases h with
  | refused faulted => cases faulted
  | next admitted left => cases List.self_eq_append_right.mp left
  | exhausted => rfl

end NextRule

/-- The rule that an answer delivers, if it delivers one. -/
def Answer.rules : Answer → List Rule
  | .rule found => found.toList
  | _ => []

/-- A cursor of this name is open that has delivered some rules of its snapshot, and is to go on
with those after them. -/
structure Delivering (name : CursorName) (device : DeviceId) (snapshot delivered : List Rule)
    (w : Workspace) : Prop where
  cursor : w.cursor? name = some ⟨device, snapshot, delivered.length⟩
  part : delivered <+: snapshot

namespace Delivering

variable {name : CursorName} {device : DeviceId} {snapshot delivered : List Rule} {w : Workspace}

/-- **A read is answered by its fault, or by the next rule, or at the end by none.** -/
theorem read (h : Delivering name device snapshot delivered w) :
    ∃ answer w', w.ask (.readRule name) = (answer, w')
      ∧ w'.platform = w.platform.record (.readRule device delivered.length)
      ∧ NextRule snapshot delivered
        (w.platform.faults.find? (.readRule device delivered.length)) answer
      ∧ Delivering name device snapshot (delivered ++ answer.rules) w' := by
  have hstays : ∀ answer : Answer, answer.rules = [] → ∀ w' : Workspace,
      w'.cursor? name = w.cursor? name →
      Delivering name device snapshot (delivered ++ answer.rules) w' := by
    intro answer hnothing w' hsame
    rw [hnothing, List.append_nil]
    exact ⟨hsame.trans h.cursor, h.part⟩
  rw [Workspace.ask_readRule h.cursor]
  cases hfault : w.platform.faults.find? (.readRule device delivered.length) with
  | some error =>
      rw [RuleCursor.next_of_fault hfault]
      exact ⟨_, _, rfl, rfl, .refused rfl, hstays _ rfl _ ((if_pos rfl).trans h.cursor.symm)⟩
  | none =>
      obtain ⟨rest, hrest⟩ := h.part
      cases rest with
      | nil =>
          rw [List.append_nil] at hrest
          have hend : snapshot[delivered.length]? = none := by
            rw [← hrest]
            exact List.getElem?_eq_none (Nat.le_refl _)
          rw [RuleCursor.next_of_end hfault hend]
          exact ⟨_, _, rfl, rfl, .exhausted rfl hrest.symm,
            hstays _ rfl _ ((if_pos rfl).trans h.cursor.symm)⟩
      | cons rule rest =>
          have hleft : snapshot[delivered.length]? = some rule := by
            rw [← hrest, List.getElem?_append_right (Nat.le_refl _), Nat.sub_self]
            rfl
          rw [RuleCursor.next_of_left hfault hleft]
          refine ⟨_, _, rfl, rfl, .next rfl hrest.symm, ?_, rest, ?_⟩
          · rw [List.length_append]
            exact if_pos rfl
          · rw [List.append_assoc]
            exact hrest

end Delivering

/-! ## §3. Histories. -/

/-- A cursor of this name is asked for, in place of the one there is. -/
def Occurrence.reopens (name : CursorName) : Occurrence → Bool
  | .asked (.openCursor _ cursor _) => cursor = name
  | _ => false

namespace Workspace

/-- The rule that an occurrence delivers through a cursor, if it delivers one. -/
def deliveredBy (name : CursorName) (w : Workspace) : Occurrence → List Rule
  | .asked (.readRule cursor) =>
      if cursor = name then (w.ask (.readRule cursor)).1.rules else []
  | _ => []

/-- The rules that a cursor delivers along a history, in order. -/
def delivered (name : CursorName) : Workspace → List Occurrence → List Rule
  | _, [] => []
  | w, occurrence :: occurrences =>
      w.deliveredBy name occurrence ++ delivered name (w.undergo occurrence) occurrences

variable {name : CursorName} {w : Workspace} {occurrence : Occurrence}

theorem delivered_append (occurrences more : List Occurrence) :
    delivered name w (occurrences ++ more)
      = delivered name w occurrences ++ delivered name (w.history occurrences) more := by
  induction occurrences generalizing w with
  | nil => rfl
  | cons occurrence occurrences ih =>
      rw [List.cons_append, delivered, ih, delivered, List.append_assoc]
      rfl

/-- What a service answers matters to no cursor that is not kept anew. -/
theorem cursor?_conclude {α : Type} {accept : α → Workspace → Answer × Workspace}
    (haccept : ∀ a w, (accept a w).2.cursor? name = w.cursor? name)
    (outcome : Except PlatformError α × Platform) :
    (w.conclude accept outcome).2.cursor? name = w.cursor? name := by
  obtain ⟨result, p⟩ := outcome
  cases result with
  | error error => rfl
  | ok a => exact haccept a _

theorem cursor?_keepCursor_of_ne {other : CursorName} {cursor : RuleCursor} (h : other ≠ name) :
    (w.keepCursor other cursor).cursor? name = w.cursor? name :=
  if_neg h.symm

/-- **Only its own reads, and opening it anew, move a cursor.** -/
theorem cursor?_undergo (hreads : occurrence ≠ .asked (.readRule name))
    (hopens : occurrence.reopens name = false) :
    (w.undergo occurrence).cursor? name = w.cursor? name := by
  cases occurrence with
  | asked request =>
      show (w.ask request).2.cursor? name = _
      cases request with
      | readGroups | writeGroup | writeAllGroups | clearGroups | openRules =>
          exact cursor?_conclude (fun _ _ => rfl) _
      | openCursor session cursor order =>
          have hne : cursor ≠ name := of_decide_eq_false hopens
          rw [ask]
          cases w.session? session with
          | none => rfl
          | some session => exact cursor?_conclude (fun _ _ => cursor?_keepCursor_of_ne hne) _
      | readRule cursor =>
          have hne : cursor ≠ name := fun heq => hreads (by rw [heq])
          cases hopen : w.cursor? cursor with
          | none => simp only [ask, hopen]
          | some opened =>
              rw [ask_readRule hopen]
              exact cursor?_keepCursor_of_ne hne
      | forwarding action => rfl
  | dropped session =>
      show (w.drop session).cursor? name = _
      unfold drop
      split <;> rfl
  | presenceSet | ruleAdded | faultInjected | faultsCleared | callsCleared | commandsRun | searched
  | planApplied => rfl

end Workspace

namespace Delivering

open Workspace (delivered deliveredBy)

variable {name : CursorName} {device : DeviceId} {snapshot done : List Rule} {w : Workspace}

/-- **Whatever occurs, a cursor goes on from the rules it has delivered.** -/
theorem undergo (h : Delivering name device snapshot done w) {occurrence : Occurrence}
    (hopens : occurrence.reopens name = false) :
    Delivering name device snapshot (done ++ w.deliveredBy name occurrence)
      (w.undergo occurrence) := by
  by_cases hreads : occurrence = .asked (.readRule name)
  · subst hreads
    obtain ⟨answer, w', hask, -, -, hnext⟩ := h.read
    have hby : w.deliveredBy name (.asked (.readRule name)) = answer.rules := by
      rw [deliveredBy, if_pos rfl, hask]
    have hundergo : w.undergo (.asked (.readRule name)) = w' := congrArg Prod.snd hask
    rw [hby, hundergo]
    exact hnext
  · have hby : w.deliveredBy name occurrence = [] := by
      unfold deliveredBy
      split
      · rename_i cursor
        exact if_neg fun heq => hreads (by rw [heq])
      · rfl
    rw [hby, List.append_nil]
    exact ⟨(Workspace.cursor?_undergo hreads hopens).trans h.cursor, h.part⟩

/-- **So it does along any history in which it is not opened anew.** -/
theorem history (h : Delivering name device snapshot done w) {occurrences : List Occurrence}
    (hopens : ∀ occurrence ∈ occurrences, occurrence.reopens name = false) :
    Delivering name device snapshot (done ++ delivered name w occurrences)
      (w.history occurrences) := by
  induction occurrences generalizing w done with
  | nil =>
      rw [delivered, List.append_nil]
      exact h
  | cons occurrence occurrences ih =>
      obtain ⟨hfirst, hrest⟩ := List.forall_mem_cons.mp hopens
      rw [delivered, ← List.append_assoc]
      exact ih (h.undergo hfirst) hrest

/-- A cursor that was just opened has delivered nothing of the rules of its device. -/
theorem of_opened {w₀ : Workspace} {session : SessionName} {order : CursorOrder}
    (h : w₀.ask (.openCursor session name order) = (.accepted, w)) :
    ∃ device d snapshot, w₀.session? session = some ⟨device⟩
      ∧ w₀.platform.state.device? device = some d ∧ order.Visits d.rules snapshot
      ∧ Delivering name device snapshot [] w := by
  rw [Workspace.ask] at h
  cases hsession : w₀.session? session with
  | none =>
      rw [hsession] at h
      cases h
  | some session =>
      rw [hsession] at h
      dsimp only at h
      obtain ⟨⟨result, p⟩, hrun⟩ : ∃ ran, session.openCursor order w₀.platform = ran := ⟨_, rfl⟩
      rw [hrun] at h
      cases result with
      | error error => cases h
      | ok cursor =>
          obtain ⟨d, hdevice, rfl⟩ := Platform.eq_of_perform_read hrun
          obtain rfl := (Prod.mk.inj h).2
          exact ⟨session.device, d, _, rfl, hdevice, order.visits_arrange d.rules,
            if_pos rfl, List.nil_prefix⟩

end Delivering

/-! ## §4. From the opening on. -/

open Workspace (delivered)

/-- **A cursor delivers the rules that its device had when it was opened, in the order that was
asked for, each of them once.  Whatever happens after that, what was delivered is the beginning of
these rules, and one further read logs its call with the number of rules delivered so far.  It is
answered with the fault that is registered for this call, and then delivers nothing; or else with
the first rule that was not delivered; or, if there is none left, with none.** -/
theorem cursor_reads_snapshot (w₀ w : Workspace) (session : SessionName) (name : CursorName)
    (order : CursorOrder) (hopen : w₀.ask (.openCursor session name order) = (.accepted, w)) :
    ∃ device d snapshot, w₀.session? session = some ⟨device⟩
      ∧ w₀.platform.state.device? device = some d ∧ order.Visits d.rules snapshot
      ∧ ∀ occurrences : List Occurrence,
        (∀ occurrence ∈ occurrences, occurrence.reopens name = false) →
        delivered name w occurrences <+: snapshot
        ∧ ∃ answer w', (w.history occurrences).ask (.readRule name) = (answer, w')
          ∧ w'.platform = (w.history occurrences).platform.record
            (.readRule device (delivered name w occurrences).length)
          ∧ NextRule snapshot (delivered name w occurrences)
            ((w.history occurrences).platform.faults.find?
              (.readRule device (delivered name w occurrences).length)) answer
          ∧ delivered name w (occurrences ++ [.asked (.readRule name)])
            = delivered name w occurrences ++ answer.rules := by
  obtain ⟨device, d, snapshot, hsession, hdevice, hvisits, hopened⟩ := Delivering.of_opened hopen
  refine ⟨device, d, snapshot, hsession, hdevice, hvisits, fun occurrences hopens => ?_⟩
  have hnow : Delivering name device snapshot (delivered name w occurrences)
      (w.history occurrences) := hopened.history hopens
  obtain ⟨answer, w', hask, hplatform, hnext, -⟩ := hnow.read
  refine ⟨hnow.part, answer, w', hask, hplatform, hnext, ?_⟩
  rw [Workspace.delivered_append]
  refine congrArg (delivered name w occurrences ++ ·) ?_
  show (if name = name then _ else _) ++ [] = _
  rw [if_pos rfl, hask, List.append_nil]

/-- A rule for group 0. -/
def Rule.sample (name : String) (priority : UInt32) : Rule := ⟨name, priority, ⟨1⟩, ⟨⟨5⟩, true⟩⟩

/-- A session on a device that has three rules, two of them of one priority. -/
def Workspace.sampled (device : DeviceId) : Workspace :=
  (Workspace.idle (.ofState (PlatformState.initial.modifyDevice device fun d =>
    { d with rules := [.sample "late" 30, .sample "early" 10, .sample "next" 10] }))).keepSession
      "session" ⟨device⟩

/-- After one rule a read is refused.  The device is given a rule and removed, the fault is cleared,
and the rule that was not delivered comes next; after the last one there is none. -/
theorem cursor_reads_snapshot_over_fault :
    ∃ w, (Workspace.sampled 0).ask (.openCursor "session" "cursor" .priority) = (.accepted, w)
      ∧ ((w.history [.asked (.readRule "cursor"), .faultInjected (.readRule 0 1) (.noDevice 3)]).ask
          (.readRule "cursor")).1 = .refused (.noDevice 3)
      ∧ ((w.history [.asked (.readRule "cursor"), .faultInjected (.readRule 0 1) (.noDevice 3),
          .asked (.readRule "cursor"), .ruleAdded 0 (.sample "first" 1), .presenceSet 0 false,
          .faultsCleared]).ask (.readRule "cursor")).1 = .rule (some (.sample "next" 10))
      ∧ ((w.history [.asked (.readRule "cursor"), .ruleAdded 0 (.sample "last" 40),
          .asked (.readRule "cursor"), .asked (.readRule "cursor")]).ask (.readRule "cursor")).1
        = .rule none := by
  have hopen : (Workspace.sampled 0).ask (.openCursor "session" "cursor" .priority)
      = (.accepted, ((Workspace.sampled 0).ask (.openCursor "session" "cursor" .priority)).2) := rfl
  obtain ⟨device, d, snapshot, hsession, hdevice, hvisits, hreads⟩ :=
    cursor_reads_snapshot _ _ "session" "cursor" .priority hopen
  obtain rfl : (0 : DeviceId) = device := congrArg RuleSession.device (Option.some.inj hsession)
  obtain rfl := Option.some.inj hdevice
  have hsnapshot : snapshot = [.sample "early" 10, .sample "next" 10, .sample "late" 30] :=
    (CursorOrder.visits_iff.mp hvisits).trans (by cbv)
  refine ⟨_, hopen, ?refused, ?next, ?exhausted⟩
  case refused =>
    obtain ⟨-, answer, w', hask, -, hnext, -⟩ :=
      hreads [.asked (.readRule "cursor"), .faultInjected (.readRule 0 1) (.noDevice 3)] (by decide)
    rw [hask]
    exact hnext.eq_refused (by cbv)
  case next =>
    obtain ⟨-, answer, w', hask, -, hnext, -⟩ :=
      hreads [.asked (.readRule "cursor"), .faultInjected (.readRule 0 1) (.noDevice 3),
        .asked (.readRule "cursor"), .ruleAdded 0 (.sample "first" 1), .presenceSet 0 false,
        .faultsCleared] (by decide)
    rw [hask]
    exact hnext.eq_next (by cbv)
      (hsnapshot.trans (show _ = _ ++ _ :: [.sample "late" 30] by cbv))
  case exhausted =>
    obtain ⟨-, answer, w', hask, -, hnext, -⟩ :=
      hreads [.asked (.readRule "cursor"), .ruleAdded 0 (.sample "last" 40),
        .asked (.readRule "cursor"), .asked (.readRule "cursor")] (by decide)
    rw [hask]
    exact hnext.eq_exhausted (by cbv) (hsnapshot.trans (by cbv))

end FlowProcessor
