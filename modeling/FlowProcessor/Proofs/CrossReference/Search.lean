/-
  FlowProcessor.Proofs.CrossReference.Search — WHAT THE SEARCH FINDS.

  A search reads masks and rules and writes nothing, whatever comes of it.  One that succeeds has
  counted every rule of every device it had to look at, in the order of a cursor, and its report
  is the one that the state before asks for.

    • `search_keeps`   — a search leaves everything but the log alone
    • `scan_counted`   — a scan counts the rules from its position to the end
    • `search_isExact` — the report of a search that succeeds is exact
    • `search_exact`   — the same in full, with what follows from it
-/
import Mathlib
import FlowProcessor.Proofs.CrossReference.Findings
import FlowProcessor.Proofs.Worlds

namespace FlowProcessor

namespace CrossReference

variable {queue : String} {dest : DestId} {device : DeviceId} {devices : List DeviceId}
variable {group : GroupId} {finding found : DeviceFinding} {w w' : World}

/-! ## §1. A search writes nothing. -/

theorem logRule_keeps (group : GroupId) (rule : Rule) : (logRule group rule).Keeps := by
  unfold logRule
  split
  · exact Run.keeps_log _
  · exact Run.keeps_pure ()

theorem scan_keeps (fuel : Nat) (cursor : RuleCursor) (finding : DeviceFinding) :
    (scan group fuel cursor finding).Keeps := by
  induction fuel generalizing cursor finding with
  | zero => exact Run.keeps_pure finding
  | succ fuel ih =>
      refine .bind (Run.keeps_call fun p => ⟨_, cursor.read_snd⟩) fun answer => ?_
      obtain ⟨rule, next⟩ := answer
      cases rule with
      | none => exact Run.keeps_pure finding
      | some rule => exact .bind (logRule_keeps group rule) fun _ => ih next _

theorem closing_keeps {α : Type} {run : Run α} (session : RuleSession) (h : run.Keeps) :
    (closing session run).Keeps := by
  intro w
  have hrun := h w
  exact ⟨hrun.state, hrun.faults, hrun.out⟩

theorem openRules_keeps (device : DeviceId) (cause : PlatformError → ToolError) :
    (Run.call (·.openRules device) cause).Keeps :=
  Run.keeps_call fun _ => ⟨_, Platform.perform_snd_of_read⟩

theorem searchRules_keeps (queue : String) (group : GroupId) (finding : DeviceFinding) :
    (searchRules queue group finding).Keeps := by
  refine .bind (openRules_keeps _ _) fun session => closing_keeps session ?_
  refine .bind (Run.keeps_log _) fun _ => ?_
  exact .bind (Run.keeps_call fun p => ⟨_, Platform.perform_snd_of_read⟩) fun cursor =>
    scan_keeps _ cursor finding

theorem readGroups_keeps (device : DeviceId) (cause : PlatformError → ToolError) :
    (Run.call (·.readGroups device) cause).Keeps :=
  Run.keeps_call fun _ => ⟨_, Platform.perform_snd_of_read⟩

theorem searchDevice_keeps (queue : String) (dest : DestId) (device : DeviceId) :
    (searchDevice queue dest device).Keeps := by
  refine .within (.bind (readGroups_keeps device _) fun groups => ?_) _
  cases holders groups dest with
  | nil => exact .bind (Run.keeps_log _) fun _ => Run.keeps_pure _
  | cons group others =>
      dsimp only
      split
      · exact .bind (Run.keeps_pure ()) fun _ => searchRules_keeps queue group _
      · exact .bind (Run.keeps_log _) fun _ => searchRules_keeps queue group _

theorem searchAll_keeps (queue : String) (dest : DestId) (devices : List DeviceId) :
    (searchAll queue dest devices).Keeps := by
  induction devices with
  | nil => exact Run.keeps_pure []
  | cons device devices ih =>
      exact .bind (searchDevice_keeps queue dest device) fun finding =>
        .bind ih fun findings => Run.keeps_pure (finding :: findings)

/-- A search leaves everything but the log alone, whatever comes of it. -/
theorem search_keeps (queue : String) (dest : DestId) (devices : List DeviceId) :
    (search queue dest devices).Keeps :=
  .bind (searchAll_keeps queue dest devices) fun _ =>
    .bind (Run.keeps_log _) fun _ => Run.keeps_pure _

/-! ## §2. Rules. -/

/-- A scan with enough fuel counts the rules from its position to the end. -/
theorem scan_counted {fuel : Nat} {cursor : RuleCursor}
    (hfuel : cursor.rules.length - cursor.position < fuel)
    (h : scan group fuel cursor finding w = (.ok found, w')) :
    finding.Counted group (cursor.rules.drop cursor.position) found := by
  -- each read uses up one unit of fuel and takes the cursor one rule further
  induction fuel generalizing cursor finding w with
  | zero => exact absurd hfuel (Nat.not_lt_zero _)
  | succ fuel ih =>
      obtain ⟨⟨rule, next⟩, between, hread, hrest⟩ := Run.bind_eq_ok h
      obtain ⟨hrule, hnext⟩ := RuleCursor.read_eq_ok (Run.call_eq_ok hread)
      cases rule with
      | none =>
          have hend : cursor.rules.length ≤ cursor.position :=
            List.getElem?_eq_none_iff.mp hrule.symm
          cases hrest
          rw [List.drop_eq_nil_of_le hend]
          exact .nil group _
      | some rule =>
          obtain ⟨-, logged, -, hscan⟩ := Run.bind_eq_ok hrest
          obtain rfl := hnext rfl
          obtain ⟨hlt, hget⟩ := List.getElem?_eq_some_iff.mp hrule.symm
          have hless : cursor.rules.length - (cursor.position + 1) < fuel := by omega
          have htail := ih hless hscan
          rw [List.drop_eq_getElem_cons hlt, hget]
          exact htail.cons

theorem closing_eq_ok {α : Type} {session : RuleSession} {run : Run α} {a : α}
    (h : closing session run w = (.ok a, w')) : ∃ between, run w = (.ok a, between) := by
  obtain ⟨⟨result, between⟩, hrun⟩ : ∃ ran, run w = ran := ⟨_, rfl⟩
  rw [closing, hrun] at h
  obtain ⟨rfl, -⟩ := Prod.mk.inj h
  exact ⟨between, hrun⟩

/-- The search of the rules counts them all, by whatever way the cursor goes. -/
theorem searchRules_counted (h : searchRules queue group finding w = (.ok found, w')) :
    finding.Counted group (w.platform.state.rulesOf finding.device) found := by
  obtain ⟨session, opened, hopen, hclosing⟩ := Run.bind_eq_ok h
  obtain rfl := Platform.openRules_eq_ok (Run.call_eq_ok hopen)
  obtain ⟨between, hrun⟩ := closing_eq_ok hclosing
  obtain ⟨_, logged, hlog, htable⟩ := Run.bind_eq_ok hrun
  obtain ⟨cursor, walking, hcursor, hscan⟩ := Run.bind_eq_ok htable
  obtain ⟨hposition, hperm⟩ := RuleSession.openCursor_eq_ok (Run.call_eq_ok hcursor)
  -- neither opening the session nor logging has changed the rules
  have hstate : logged.platform.state = w.platform.state :=
    ((Run.keeps_log _).unchanged hlog).state.trans ((openRules_keeps _ _).unchanged hopen).state
  have hcounted := scan_counted (by omega) hscan
  rw [hposition, List.drop_zero] at hcounted
  rw [← hstate]
  exact hcounted.perm hperm

/-! ## §3. Devices. -/

/-- What is found on a device is exact. -/
theorem searchDevice_exact (h : searchDevice queue dest device w = (.ok finding, w')) :
    finding.device = device ∧ finding.Exact w.platform.state dest := by
  obtain ⟨after, hrun⟩ := Run.within_eq_ok h
  obtain ⟨groups, between, hread, hrest⟩ := Run.bind_eq_ok hrun
  have hgroups : groups = w.platform.state.groupsOf device :=
    Platform.readGroups_eq_ok (Run.call_eq_ok hread)
  have hstate : between.platform.state = w.platform.state :=
    ((readGroups_keeps _ _).unchanged hread).state
  cases hholders : holders groups dest with
  | nil =>
      rw [hholders] at hrest
      obtain ⟨-, logged, -, hpure⟩ := Run.bind_eq_ok hrest
      cases hpure
      rw [hgroups] at hholders
      exact ⟨rfl, DeviceFinding.exact_of_none hholders⟩
  | cons group others =>
      rw [hholders] at hrest
      -- whether there is a warning makes no difference to the rules
      obtain ⟨logged, hlogged, hrules⟩ : ∃ logged : World,
          logged.platform.state = between.platform.state
            ∧ searchRules queue group ⟨device, some group, others, .empty, 0⟩ logged
              = (.ok finding, after) := by
        dsimp only at hrest
        split at hrest
        · obtain ⟨_, logged, hlog, hrules⟩ := Run.bind_eq_ok hrest
          exact ⟨logged, ((Run.keeps_pure ()).unchanged hlog).state, hrules⟩
        · obtain ⟨_, logged, hlog, hrules⟩ := Run.bind_eq_ok hrest
          exact ⟨logged, ((Run.keeps_log _).unchanged hlog).state, hrules⟩
      have hcounted := searchRules_counted hrules
      rw [hlogged, hstate] at hcounted
      rw [hgroups] at hholders
      exact ⟨hcounted.device, DeviceFinding.exact_of_counted hholders hcounted⟩

theorem searchAll_exact {findings : List DeviceFinding}
    (h : searchAll queue dest devices w = (.ok findings, w')) :
    findings.map (·.device) = devices
      ∧ ∀ finding ∈ findings, finding.Exact w.platform.state dest := by
  induction devices generalizing findings w w' with
  | nil =>
      cases h
      exact ⟨rfl, fun finding hfinding => by cases hfinding⟩
  | cons device devices ih =>
      obtain ⟨finding, between, hdevice, hrest⟩ := Run.bind_eq_ok h
      obtain ⟨findings', after, hdevices, hpure⟩ := Run.bind_eq_ok hrest
      cases hpure
      -- the other devices are searched in the same state as the first one
      have hstate := ((searchDevice_keeps queue dest device).unchanged hdevice).state
      obtain ⟨hsame, hexact⟩ := searchDevice_exact hdevice
      obtain ⟨hothers, hexacts⟩ := ih hdevices
      rw [hstate] at hexacts
      refine ⟨?_, List.forall_mem_cons.mpr ⟨hexact, hexacts⟩⟩
      rw [List.map_cons, hsame, hothers]

/-- The report of a search that succeeds is exact. -/
theorem search_isExact {report : CrossReference}
    (h : search queue dest devices w = (.ok report, w')) :
    report.Exact w.platform.state dest devices := by
  obtain ⟨findings, between, hall, hrest⟩ := Run.bind_eq_ok h
  obtain ⟨-, logged, -, hpure⟩ := Run.bind_eq_ok hrest
  cases hpure
  obtain ⟨hdevices, hexact⟩ := searchAll_exact hall
  exact ⟨rfl, hdevices, hexact⟩

end CrossReference

/-! ## §4. Searches from the outside. -/

/-- **A search that succeeds has an exact finding for each device, in the order asked for; shows
the interfaces of all of them in strictly ascending order; says whether a device holds the
destination twice; and changes nothing.  The order, the priorities and the repetition of rules do
not change what is found, nor do the order and the repetition of devices.** -/
theorem search_exact {queue : String} {dest : DestId} {devices : List DeviceId} {w w' : World}
    {report : CrossReference} (h : CrossReference.search queue dest devices w = (.ok report, w')) :
    report.dest = dest
    ∧ report.findings.map (·.device) = devices
    ∧ (∀ finding ∈ report.findings, finding.Exact w.platform.state dest)
    ∧ (∀ i, i ∈ report.interfaces.toList
      ↔ ∃ finding ∈ report.findings, i ∈ finding.interfaces.toList)
    ∧ report.interfaces.toList.Pairwise (fun i j => i.word < j.word)
    ∧ report.text = "Interface IDs feeding host dest " ++ idText dest ++ ":\n"
      ++ " ".intercalate (report.interfaces.toList.map InterfaceId.text) ++ "\n"
    ∧ (report.isAmbiguous ↔ ∃ device ∈ devices, ∃ g g', g ≠ g'
      ∧ w.platform.state.Holds device dest g ∧ w.platform.state.Holds device dest g')
    ∧ w.Unchanged w'
    ∧ ∀ queue₂ devices₂ w₂ w₂' report₂,
      CrossReference.search queue₂ dest devices₂ w₂ = (.ok report₂, w₂') →
      (∀ device ∈ devices, w.platform.state.Alike w₂.platform.state device) →
      (devices₂ = devices →
        report₂.findings.map DeviceFinding.answer = report.findings.map DeviceFinding.answer)
      ∧ ((∀ device, device ∈ devices₂ ↔ device ∈ devices) →
        report₂.interfaces = report.interfaces) := by
  have hexact := CrossReference.search_isExact h
  refine ⟨hexact.asked, hexact.devices, hexact.findings, fun i => CrossReference.mem_interfaces,
    report.interfaces.toList_ascending, ?_, hexact.isAmbiguous_iff,
    (CrossReference.search_keeps queue dest devices).unchanged h, ?_⟩
  · unfold CrossReference.text
    rw [hexact.asked]
  · intro queue₂ devices₂ w₂ w₂' report₂ h₂ halike
    have hexact₂ := CrossReference.search_isExact h₂
    constructor
    · rintro rfl
      exact hexact.answers_eq hexact₂ halike
    · intro hdevices
      exact hexact.interfaces_eq hexact₂ hdevices halike

/-- Groups 2 and 7 of device 0 hold destination 4, and there are some rules. -/
def heldTwice (rules : List Rule) : World :=
  World.start (.ofState ⟨[⟨true, (GroupTable.empty.set 7 ⟨0x10⟩).set 2 ⟨0x30⟩, rules⟩, .installed],
    .initial⟩) .unlimited

/-- Only the rule of group 2 that names its interface counts, wherever and however often it is. -/
theorem search_exact_of_heldTwice :
    ∃ report report₂ w' w₂',
      CrossReference.search "/q" 4 [1, 0, 1] (heldTwice
          [⟨"all", 1, ⟨0xff⟩, ⟨⟨9⟩, false⟩⟩, ⟨"two", 8, ⟨0xff000004⟩, ⟨⟨5⟩, true⟩⟩,
            ⟨"seven", 3, ⟨0x80⟩, ⟨⟨6⟩, true⟩⟩]) = (.ok report, w')
      ∧ CrossReference.search "/other" 4 [0, 1] (heldTwice
          [⟨"seven", 0, ⟨0x80⟩, ⟨⟨6⟩, true⟩⟩, ⟨"two", 2, ⟨0xff000004⟩, ⟨⟨5⟩, true⟩⟩,
            ⟨"again", 2, ⟨0xff000004⟩, ⟨⟨5⟩, true⟩⟩, ⟨"all", 0, ⟨0xff⟩, ⟨⟨9⟩, false⟩⟩])
        = (.ok report₂, w₂')
      ∧ report.text = "Interface IDs feeding host dest 4:\n5\n"
      ∧ report.isAmbiguous
      ∧ report₂.interfaces = report.interfaces := by
  obtain ⟨w', hrun⟩ : ∃ w', CrossReference.search "/q" 4 [1, 0, 1] (heldTwice
      [⟨"all", 1, ⟨0xff⟩, ⟨⟨9⟩, false⟩⟩, ⟨"two", 8, ⟨0xff000004⟩, ⟨⟨5⟩, true⟩⟩,
        ⟨"seven", 3, ⟨0x80⟩, ⟨⟨6⟩, true⟩⟩])
      = (.ok ⟨4, [⟨1, none, [], .empty, 0⟩, ⟨0, some 2, [7], .add .empty ⟨5⟩, 3⟩,
          ⟨1, none, [], .empty, 0⟩]⟩, w') := ⟨_, Prod.ext (by cbv) rfl⟩
  obtain ⟨w₂', hrun₂⟩ : ∃ w₂', CrossReference.search "/other" 4 [0, 1] (heldTwice
      [⟨"seven", 0, ⟨0x80⟩, ⟨⟨6⟩, true⟩⟩, ⟨"two", 2, ⟨0xff000004⟩, ⟨⟨5⟩, true⟩⟩,
        ⟨"again", 2, ⟨0xff000004⟩, ⟨⟨5⟩, true⟩⟩, ⟨"all", 0, ⟨0xff⟩, ⟨⟨9⟩, false⟩⟩])
      = (.ok ⟨4, [⟨0, some 2, [7], .add .empty ⟨5⟩, 4⟩, ⟨1, none, [], .empty, 0⟩]⟩, w₂') :=
    ⟨_, Prod.ext (by cbv) rfl⟩
  obtain ⟨-, -, -, -, -, htext, hambiguous, -, hindependent⟩ := search_exact hrun
  refine ⟨_, _, w', w₂', hrun, hrun₂, htext, ?_, ?_⟩
  · exact hambiguous.mpr ⟨0, by decide, 2, 7, by decide, by decide, by decide⟩
  · refine (hindependent _ _ _ _ _ hrun₂ fun device hdevice => ⟨?_, ?_⟩).2 (by decide)
    · revert device
      decide
    · intro feed
      constructor
      · revert feed device
        decide
      · revert feed device
        decide

end FlowProcessor
