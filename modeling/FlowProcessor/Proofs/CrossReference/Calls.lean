/-
  FlowProcessor.Proofs.CrossReference.Calls — THE CALLS OF A SEARCH.

  Which calls a search makes is known beforehand: on each device the masks are read, and if some
  group holds the destination, a session is opened, the rules are read to the end of the table and
  the session is closed.  A search makes these calls up to the first one that is refused.  A session
  that is open by then is closed all the same, before anything else happens.

  Closing is the one call that cannot fail: it is logged, but no fault is looked up for it.

    • `searchCalls`          — the calls that search a device
    • `Swept`                — how a run over planned calls can end
    • `Run.Sweeps.bind`, `Sweeps.closing` — runs over planned calls, one after the other
    • `Sessions`             — every session that was opened is closed once
    • `search_call_protocol` — a search from the outside
-/
import FlowProcessor.Proofs.CrossReference.Search

namespace FlowProcessor

/-! ## §1. Planned calls. -/

namespace CrossReference

/-- The calls that read a rule table of that length, the last of them finding its end. -/
def readCalls (device : DeviceId) (length : Nat) : List Call :=
  (List.range (length + 1)).map (.readRule device)

/-- The calls that walk the rules of a device in a session. -/
def sessionCalls (s : PlatformState) (device : DeviceId) : List Call :=
  .openCursor device :: readCalls device (s.rulesOf device).length

/-- The calls that look for rules, where there is a group to look for. -/
def ruleCalls (s : PlatformState) (dest : DestId) (device : DeviceId) : List Call :=
  if ∃ group, s.Holds device dest group then
    .openRules device :: (sessionCalls s device ++ [.closeRules device])
  else []

/-- The calls that search a device. -/
def searchCalls (s : PlatformState) (dest : DestId) (device : DeviceId) : List Call :=
  .readGroups device :: ruleCalls s dest device

end CrossReference

/-- What closes the session that is left open when a call in it fails. -/
def Call.release : Call → List Call
  | .openCursor device | .readRule device _ => [.closeRules device]
  | _ => []

/-- The calls inside of a session on a device. -/
inductive Call.InSession (device : DeviceId) : Call → Prop
  | openCursor : InSession device (.openCursor device)
  | readRule (position : Nat) : InSession device (.readRule device position)

theorem Call.InSession.release_eq {call : Call} {device : DeviceId} (h : call.InSession device) :
    call.release = [.closeRules device] := by
  cases h with
  | openCursor => rfl
  | readRule position => rfl

theorem CrossReference.inSession_of_mem_sessionCalls {call : Call} {s : PlatformState}
    {device : DeviceId} (h : call ∈ sessionCalls s device) : call.InSession device := by
  rcases List.mem_cons.mp h with rfl | hread
  · exact .openCursor
  · obtain ⟨position, -, rfl⟩ := List.mem_map.mp hread
    exact .readRule position

/-- The error that a call of a search is refused with, if it is.  Closing is never refused. -/
def Platform.searchRefusal? (p : Platform) : Call → Option PlatformError
  | .readGroups device => p.deviceRefusal? (.readGroups device) device
  | .openRules device => p.deviceRefusal? (.openRules device) device
  | .openCursor device => p.deviceRefusal? (.openCursor device) device
  | .readRule device position => p.faults.find? (.readRule device position)
  | _ => none

/-- What a search reports of a call that failed: what was being done on which device, and the error
of the platform as it is. -/
inductive CrossReference.Blames (queue : String) (error : PlatformError) : Call → ToolError → Prop
  | readGroups (device : DeviceId) : Blames queue error (.readGroups device)
      (.device "retrieving load balance group destinations" device error)
  | openRules (device : DeviceId) : Blames queue error (.openRules device)
      (.rulesSetup device ("opening rules queue " ++ queue) error)
  | openCursor (device : DeviceId) : Blames queue error (.openCursor device)
      (.rulesSetup device "opening rule cursor" error)
  | readRule (device : DeviceId) (position : Nat) : Blames queue error (.readRule device position)
      (.ruleRead device error)

/-! ## §2. Runs over planned calls. -/

open CrossReference (Blames)

/-- How a run over planned calls can end: all of them were made, and none is refused; or they were
made up to the first one that is refused, and what this leaves open was released. -/
inductive Swept (p : Platform) (queue : String) (release : Call → List Call) {α : Type}
    (plan : List Call) : Except ToolError α → List Call → Prop
  | completed (a : α) (admitted : ∀ call ∈ plan, p.searchRefusal? call = none) :
      Swept p queue release plan (.ok a) plan
  | stopped {done rest : List Call} {call : Call} {error : PlatformError} {failure : ToolError}
      (split : plan = done ++ call :: rest)
      (admitted : ∀ earlier ∈ done, p.searchRefusal? earlier = none)
      (refusal : p.searchRefusal? call = some error) (blamed : Blames queue error call failure) :
      Swept p queue release plan (.error failure) (done ++ call :: release call)

/-- In this world, the run changes nothing and sweeps over the planned calls. -/
def Run.Sweeps {α : Type} (run : Run α) (w : World) (queue : String)
    (release : Call → List Call) (plan : List Call) : Prop :=
  w.Unchanged (run w).2 ∧ ∃ made, (run w).2.platform.calls = w.platform.calls ++ made
    ∧ Swept w.platform queue release plan (run w).1 made

section Sweeps

variable {α β : Type} {w w' : World} {queue : String} {release : Call → List Call}
variable {plan later made : List Call} {call : Call} {p : Platform} {result : Except ToolError α}

/-- Planned calls that were all admitted may stand in front. -/
theorem Swept.append (hadmitted : ∀ call ∈ plan, p.searchRefusal? call = none)
    (h : Swept p queue release later result made) :
    Swept p queue release (plan ++ later) result (plan ++ made) := by
  have hboth : ∀ done : List Call, (∀ call ∈ done, p.searchRefusal? call = none) →
      ∀ call ∈ plan ++ done, p.searchRefusal? call = none := by
    intro done hdone call hmem
    exact (List.mem_append.mp hmem).elim (hadmitted call) (hdone call)
  cases h with
  | completed a admitted => exact .completed a (hboth later admitted)
  | stopped split admitted refusal blamed =>
      rw [← List.append_assoc]
      exact .stopped (by rw [split, List.append_assoc]) (hboth _ admitted) refusal blamed

/-- What is refused depends on the state and the faults, which no call of a search changes. -/
theorem World.Unchanged.searchRefusal?_eq (h : w.Unchanged w') (call : Call) :
    w'.platform.searchRefusal? call = w.platform.searchRefusal? call := by
  have hdevice : ∀ device, w'.platform.deviceRefusal? call device
      = w.platform.deviceRefusal? call device := by
    intro device
    unfold Platform.deviceRefusal?
    rw [h.state, h.faults]
  cases call with
  | readGroups device | openRules device | openCursor device => exact hdevice device
  | readRule device position => exact congrArg (·.find? (.readRule device position)) h.faults
  | _ => rfl

theorem World.Unchanged.swept (h : w.Unchanged w')
    (hswept : Swept w'.platform queue release plan result made) :
    Swept w.platform queue release plan result made := by
  cases hswept with
  | completed a admitted =>
      exact .completed a fun call hmem => (h.searchRefusal?_eq call).symm.trans (admitted call hmem)
  | stopped split admitted refusal blamed =>
      exact .stopped split
        (fun call hmem => (h.searchRefusal?_eq call).symm.trans (admitted call hmem))
        ((h.searchRefusal?_eq _).symm.trans refusal) blamed

theorem Run.sweeps_pure (a : α) : (Run.pure a).Sweeps w queue release [] :=
  ⟨.refl w, [], (List.append_nil _).symm, .completed a fun call hmem => by cases hmem⟩

theorem Run.sweeps_log (event : Event) : (Run.log event).Sweeps w queue release [] :=
  ⟨⟨rfl, rfl, rfl⟩, [], (List.append_nil _).symm, .completed () fun call hmem => by cases hmem⟩

/-- A single call is made, and then it is refused or not. -/
theorem Run.sweeps_call {service : Platform → Except PlatformError α × Platform}
    {cause : PlatformError → ToolError} (hrelease : release call = [])
    (hblames : ∀ error, Blames queue error call (cause error))
    (hadmitted : w.platform.searchRefusal? call = none →
      ∃ a, service w.platform = (.ok a, w.platform.record call))
    (hrefused : ∀ error, w.platform.searchRefusal? call = some error →
      service w.platform = (.error error, w.platform.record call)) :
    (Run.call service cause).Sweeps w queue release [call] := by
  cases hrefusal : w.platform.searchRefusal? call with
  | none =>
      obtain ⟨a, hservice⟩ := hadmitted hrefusal
      have hcall := Run.call_eq_afterCall cause hservice rfl
      unfold Run.Sweeps
      rw [hcall]
      refine ⟨⟨rfl, rfl, rfl⟩, [call], rfl, .completed a fun other hmem => ?_⟩
      rw [List.mem_singleton.mp hmem]
      exact hrefusal
  | some error =>
      have hcall := Run.call_eq_afterCall_of_error cause (hrefused error hrefusal) rfl
      unfold Run.Sweeps
      rw [hcall]
      have hstopped : Swept w.platform queue release [call] (α := α) (.error (cause error))
          ([] ++ call :: release call) :=
        .stopped rfl (fun earlier hmem => by cases hmem) hrefusal (hblames error)
      rw [hrelease] at hstopped
      exact ⟨⟨rfl, rfl, rfl⟩, [call], rfl, hstopped⟩

/-- Two runs one after the other sweep over both their plans. -/
theorem Run.Sweeps.bind {run : Run α} {next : α → Run β} (h : run.Sweeps w queue release plan)
    (hnext : ∀ a between, run w = (.ok a, between) →
      (next a).Sweeps between queue release later) :
    (run >>= next).Sweeps w queue release (plan ++ later) := by
  obtain ⟨⟨result, between⟩, hrun⟩ : ∃ ran, run w = ran := ⟨_, rfl⟩
  obtain ⟨hsame, made, hcalls, hswept⟩ := h
  rw [hrun] at hsame hcalls hswept
  cases hswept with
  | completed a admitted =>
      obtain ⟨hsame', made', hcalls', hswept'⟩ := hnext a between hrun
      unfold Run.Sweeps
      rw [Run.bind_of_ok hrun]
      refine ⟨hsame.trans hsame', plan ++ made', ?_, (hsame.swept hswept').append admitted⟩
      rw [hcalls', hcalls, List.append_assoc]
  | stopped split admitted refusal blamed =>
      -- the later plan is not even begun
      unfold Run.Sweeps
      rw [Run.bind_of_error hrun]
      exact ⟨hsame, _, hcalls, .stopped (by rw [split, List.append_assoc]; rfl) admitted refusal
        blamed⟩

theorem Run.Sweeps.call_bind {run : Run α} {next : α → Run β}
    (h : run.Sweeps w queue release [call])
    (hnext : ∀ a between, run w = (.ok a, between) →
      (next a).Sweeps between queue release later) :
    (run >>= next).Sweeps w queue release (call :: later) :=
  h.bind hnext

/-- What follows a run that makes no call decides alone. -/
theorem Run.Sweeps.silent_bind {run : Run α} {next : α → Run β}
    (h : run.Sweeps w queue release [])
    (hnext : ∀ a between, run w = (.ok a, between) →
      (next a).Sweeps between queue release later) :
    (run >>= next).Sweeps w queue release later :=
  h.bind hnext

/-- What follows a run does not count if it makes no call. -/
theorem Run.Sweeps.bind_silent {run : Run α} {next : α → Run β}
    (h : run.Sweeps w queue release plan)
    (hnext : ∀ a between, (next a).Sweeps between queue release []) :
    (run >>= next).Sweeps w queue release plan := by
  have hboth := h.bind fun a between _ => hnext a between
  rw [List.append_nil] at hboth
  exact hboth

theorem Run.Sweeps.within {run : Run α} {span : Span}
    (h : run.Sweeps { w with span := some span } queue release plan) :
    (Run.within span run).Sweeps w queue release plan := by
  obtain ⟨hsame, made, hcalls, hswept⟩ := h
  exact ⟨⟨hsame.state, hsame.faults, hsame.out⟩, made, hcalls, hswept⟩

end Sweeps

namespace CrossReference

variable {queue : String} {dest : DestId} {device : DeviceId} {devices : List DeviceId}
variable {group : GroupId} {finding : DeviceFinding} {w : World} {release : Call → List Call}

/-- A session is closed after a run in it, at whichever of its calls that run stops. -/
theorem Sweeps.closing {α : Type} (session : RuleSession) {run : Run α} {plan : List Call}
    (h : run.Sweeps w queue (fun _ => []) plan)
    (hinside : ∀ call ∈ plan, call.InSession session.device) :
    (closing session run).Sweeps w queue Call.release (plan ++ [.closeRules session.device]) := by
  obtain ⟨⟨result, between⟩, hrun⟩ : ∃ ran, run w = ran := ⟨_, rfl⟩
  obtain ⟨hsame, made, hcalls, hswept⟩ := h
  rw [hrun] at hsame hcalls hswept
  have hclosing : CrossReference.closing session run w
      = (result, { between with platform := session.close between.platform }) := by
    unfold CrossReference.closing
    rw [hrun]
  have hclosed : (session.close between.platform).calls
      = w.platform.calls ++ (made ++ [.closeRules session.device]) := by
    show between.platform.calls ++ [_] = _
    rw [hcalls, List.append_assoc]
  unfold Run.Sweeps
  rw [hclosing]
  refine ⟨⟨hsame.state, hsame.faults, hsame.out⟩, _, hclosed, ?_⟩
  cases hswept with
  | completed a admitted =>
      refine .completed a fun call hmem => ?_
      rcases List.mem_append.mp hmem with hfirst | hlast
      · exact admitted call hfirst
      · rw [List.mem_singleton.mp hlast]
        rfl
  | @stopped done rest call error failure split admitted refusal blamed =>
      -- the refused call is one of the session, and closing is what it leaves to do
      have hmem : call ∈ plan := by simp [split]
      have hmade :
          done ++ [call] ++ [.closeRules session.device] = done ++ call :: call.release := by
        rw [(hinside call hmem).release_eq]
        simp
      rw [hmade]
      exact .stopped (by rw [split, List.append_assoc]; rfl) admitted refusal blamed

/-! ## §3. The runs of a search. -/

/-- Whatever only asks a device sweeps over its one call. -/
theorem Run.sweeps_query {α : Type} {call : Call} {f : DeviceState → α}
    {cause : PlatformError → ToolError} (hrelease : release call = [])
    (hrefusal : w.platform.searchRefusal? call = w.platform.deviceRefusal? call device)
    (hblames : ∀ error, Blames queue error call (cause error)) :
    (Run.call (·.perform call (.check (·.installed device) >>= fun d =>
      Service.pure (f d))) cause).Sweeps w queue release [call] := by
  refine Run.sweeps_call hrelease hblames (fun hadmitted => ?_) fun error hrefused => ?_
  · rw [hrefusal] at hadmitted
    obtain ⟨d, -, hservice⟩ :=
      Platform.perform_of_installed (fun d => Service.pure (f d)) hadmitted
    exact ⟨f d, hservice⟩
  · rw [hrefusal] at hrefused
    exact Platform.perform_of_deviceRefusal (fun d => Service.pure (f d)) hrefused

/-- A rule is read, or a fault answers for it. -/
theorem read_sweeps {cursor : RuleCursor} :
    (Run.call cursor.read (.ruleRead cursor.device)).Sweeps w queue (fun _ => [])
      [.readRule cursor.device cursor.position] := by
  refine Run.sweeps_call rfl (fun error => .readRule _ _) (fun hadmitted => ?_)
    fun error hrefused => ?_
  · rw [RuleCursor.read_eq]
    cases hrule : cursor.rules[cursor.position]? with
    | none =>
        rw [RuleCursor.next_of_end hadmitted hrule]
        exact ⟨(none, cursor), rfl⟩
    | some rule =>
        rw [RuleCursor.next_of_left hadmitted hrule]
        exact ⟨(some rule, { cursor with position := cursor.position + 1 }), rfl⟩
  · rw [RuleCursor.read_eq, RuleCursor.next_of_fault hrefused]
    rfl

theorem logRule_sweeps {rule : Rule} : (logRule group rule).Sweeps w queue release [] := by
  unfold logRule
  split
  · exact Run.sweeps_log _
  · exact Run.sweeps_pure ()

/-- A scan with enough fuel reads on from its position up to the end of the table. -/
theorem scan_sweeps {fuel : Nat} {cursor : RuleCursor} (hdevice : finding.device = cursor.device)
    (hposition : cursor.position ≤ cursor.rules.length)
    (hfuel : cursor.rules.length - cursor.position < fuel) :
    (scan group fuel cursor finding).Sweeps w queue (fun _ => [])
      ((List.range' cursor.position (cursor.rules.length + 1 - cursor.position)).map
        (.readRule cursor.device)) := by
  -- each read is followed by a scan that has one position less to go
  induction fuel generalizing cursor finding w with
  | zero => exact absurd hfuel (Nat.not_lt_zero _)
  | succ fuel ih =>
      have hleft : cursor.rules.length + 1 - cursor.position
          = cursor.rules.length - cursor.position + 1 := by omega
      rw [hleft, List.range'_succ, List.map_cons]
      have hread : (Run.call cursor.read (.ruleRead finding.device)).Sweeps w queue (fun _ => [])
          [.readRule cursor.device cursor.position] := by
        rw [hdevice]
        exact read_sweeps
      refine hread.call_bind fun answer between hanswer => ?_
      obtain ⟨rule, next⟩ := answer
      obtain ⟨hrule, hnext⟩ := RuleCursor.read_eq_ok (Run.call_eq_ok hanswer)
      cases rule with
      | none =>
          -- only at the end of the table there is no rule
          have hend : cursor.rules.length ≤ cursor.position :=
            List.getElem?_eq_none_iff.mp hrule.symm
          rw [Nat.sub_eq_zero_of_le hend]
          exact Run.sweeps_pure finding
      | some rule =>
          obtain rfl := hnext rfl
          have hlt : cursor.position < cursor.rules.length :=
            (List.getElem?_eq_some_iff.mp hrule.symm).1
          have hcount : (finding.count group rule).device = cursor.device := by
            rw [← hdevice]
            unfold DeviceFinding.count
            split
            · rfl
            · rfl
          have hlength : cursor.rules.length + 1 - (cursor.position + 1)
              = cursor.rules.length - cursor.position := by omega
          rw [← hlength]
          have hless : cursor.rules.length - (cursor.position + 1) < fuel := by omega
          exact logRule_sweeps.bind fun _ logged hlogged => ih hcount hlt hless

/-- A cursor walks the rules of its device from the first one to the end. -/
theorem scanTable_sweeps {session : RuleSession} (hdevice : finding.device = session.device) :
    (scanTable session group finding).Sweeps w queue (fun _ => [])
      (sessionCalls w.platform.state session.device) := by
  have hopen : (Run.call (session.openCursor .priority)
      (.rulesSetup finding.device "opening rule cursor")).Sweeps w queue (fun _ => [])
        [.openCursor session.device] := by
    rw [hdevice]
    exact Run.sweeps_query rfl rfl fun error => .openCursor _
  refine hopen.call_bind fun cursor between hcursor => ?_
  have hanswer := Run.call_eq_ok hcursor
  obtain ⟨hposition, hperm⟩ := RuleSession.openCursor_eq_ok hanswer
  have hsame : cursor.device = session.device := by
    obtain ⟨d, -, rfl⟩ := Platform.eq_of_perform_read hanswer
    rfl
  have hscan : (scan group (cursor.rules.length + 1) cursor finding).Sweeps between queue
      (fun _ => []) _ :=
    scan_sweeps (hdevice.trans hsame.symm) (by omega) (by omega)
  have hlength : cursor.rules.length + 1 - 0
      = (w.platform.state.rulesOf session.device).length + 1 := by
    rw [hperm.length_eq, Nat.sub_zero]
  rw [hposition, hsame, hlength, ← List.range_eq_range'] at hscan
  exact hscan

theorem searchRules_sweeps :
    (searchRules queue group finding).Sweeps w queue Call.release
      (.openRules finding.device :: (sessionCalls w.platform.state finding.device
        ++ [.closeRules finding.device])) := by
  have hopen : (Run.call (·.openRules finding.device)
      (.rulesSetup finding.device ("opening rules queue " ++ queue))).Sweeps w queue Call.release
        [.openRules finding.device] :=
    Run.sweeps_query rfl rfl fun error => .openRules _
  refine hopen.call_bind fun session opened hopened => ?_
  obtain rfl := Platform.openRules_eq_ok (Run.call_eq_ok hopened)
  have hstate : opened.platform.state = w.platform.state :=
    ((openRules_keeps _ _).unchanged hopened).state
  rw [← hstate]
  refine Sweeps.closing ⟨finding.device⟩ ?_ fun call => inSession_of_mem_sessionCalls
  refine (Run.sweeps_log _).silent_bind fun _ logged hlogged => ?_
  have hlog : logged.platform.state = opened.platform.state :=
    ((Run.keeps_log _).unchanged hlogged).state
  rw [← hlog]
  exact scanTable_sweeps rfl

theorem searchDevice_sweeps :
    (searchDevice queue dest device).Sweeps w queue Call.release
      (searchCalls w.platform.state dest device) := by
  have hread : (Run.call (·.readGroups device)
      (.device "retrieving load balance group destinations" device)).Sweeps
        { w with span := some (.searchDevice dest device) } queue Call.release
        [.readGroups device] :=
    Run.sweeps_query rfl rfl fun error => .readGroups _
  refine .within (hread.call_bind fun groups between hgroups => ?_)
  have hstate : between.platform.state = w.platform.state :=
    ((readGroups_keeps _ _).unchanged hgroups).state
  have hanswer : groups = w.platform.state.groupsOf device :=
    Platform.readGroups_eq_ok (Run.call_eq_ok hgroups)
  unfold ruleCalls
  cases hholders : holders groups dest with
  | nil =>
      -- there is nothing to look for, and no session is opened
      have hfree : ¬ ∃ group, w.platform.state.Holds device dest group := by
        rintro ⟨group, hholds⟩
        have hmem : group ∈ holders groups dest := by
          rw [hanswer]
          exact mem_holders.mpr hholds
        rw [hholders] at hmem
        cases hmem
      rw [if_neg hfree]
      exact (Run.sweeps_log _).silent_bind fun _ _ _ => Run.sweeps_pure _
  | cons group others =>
      rw [hanswer] at hholders
      have hheld : ∃ group, w.platform.state.Holds device dest group :=
        ⟨group, (holds_iff_of_holders hholders).mpr (.inl rfl)⟩
      rw [if_pos hheld]
      have hrules : ∀ logged : World, logged.platform.state = between.platform.state →
          (searchRules queue group ⟨device, some group, others, .empty, 0⟩).Sweeps logged queue
            Call.release (.openRules device :: (sessionCalls w.platform.state device
              ++ [.closeRules device])) := by
        intro logged hsame
        rw [← hstate, ← hsame]
        exact searchRules_sweeps
      -- a warning makes no call, and leaves the rules as they are
      dsimp only
      split
      · exact (Run.sweeps_pure ()).silent_bind fun _ logged hlogged =>
          hrules logged ((Run.keeps_pure ()).unchanged hlogged).state
      · exact (Run.sweeps_log _).silent_bind fun _ logged hlogged =>
          hrules logged ((Run.keeps_log _).unchanged hlogged).state

theorem searchAll_sweeps :
    (searchAll queue dest devices).Sweeps w queue Call.release
      (devices.flatMap (searchCalls w.platform.state dest)) := by
  induction devices generalizing w with
  | nil => exact Run.sweeps_pure []
  | cons device devices ih =>
      refine searchDevice_sweeps.bind fun finding between hfound => ?_
      have hstate : between.platform.state = w.platform.state :=
        ((searchDevice_keeps queue dest device).unchanged hfound).state
      rw [← hstate]
      exact ih.bind_silent fun findings after => Run.sweeps_pure (finding :: findings)

/-- **A search sweeps over the calls that search its devices.** -/
theorem search_sweeps (queue : String) (dest : DestId) (devices : List DeviceId) (w : World) :
    (search queue dest devices).Sweeps w queue Call.release
      (devices.flatMap (searchCalls w.platform.state dest)) :=
  searchAll_sweeps.bind_silent fun _ _ =>
    (Run.sweeps_log _).silent_bind fun _ _ _ => Run.sweeps_pure _

end CrossReference

/-! ## §4. Sessions. -/

/-- Every session that could be opened is closed once, before anything happens outside of it.  One
that could not be opened is not closed, and nothing comes after it. -/
inductive Sessions (p : Platform) : List Call → Prop
  | nil : Sessions p []
  | asked (device : DeviceId) {rest : List Call} (later : Sessions p rest) :
      Sessions p (.readGroups device :: rest)
  | unopened (device : DeviceId) (refused : (p.searchRefusal? (.openRules device)).isSome) :
      Sessions p [.openRules device]
  | opened (device : DeviceId) {inside rest : List Call}
      (admitted : p.searchRefusal? (.openRules device) = none)
      (belongs : ∀ call ∈ inside, call.InSession device) (later : Sessions p rest) :
      Sessions p (.openRules device :: (inside ++ .closeRules device :: rest))

section Lifecycle

open CrossReference (searchCalls ruleCalls inSession_of_mem_sessionCalls)

variable {α : Type} {p : Platform} {queue : String} {release : Call → List Call}
variable {plan made inside : List Call} {call : Call} {result : Except ToolError α}
variable {s : PlatformState} {dest : DestId} {device : DeviceId} {devices : List DeviceId}

/-- The first planned call is refused, or it is made and followed by the others. -/
theorem Swept.of_cons (h : Swept p queue release (call :: plan) result made) :
    (p.searchRefusal? call).isSome ∧ made = call :: release call
      ∨ p.searchRefusal? call = none
        ∧ ∃ later, made = call :: later ∧ Swept p queue release plan result later := by
  cases h with
  | completed a admitted =>
      obtain ⟨hfirst, hlater⟩ := List.forall_mem_cons.mp admitted
      exact .inr ⟨hfirst, plan, rfl, .completed a hlater⟩
  | @stopped done rest failing error failure split admitted refusal blamed =>
      cases done with
      | nil =>
          obtain ⟨rfl, -⟩ := List.cons.inj split
          exact .inl ⟨by simp [refusal], rfl⟩
      | cons first done =>
          obtain ⟨rfl, hrest⟩ := List.cons.inj split
          obtain ⟨hfirst, hlater⟩ := List.forall_mem_cons.mp admitted
          exact .inr ⟨hfirst, _, rfl, .stopped hrest hlater refusal blamed⟩

/-- At whichever of its calls a session comes to an end, it is closed. -/
theorem Swept.session_closed
    (h : Swept p queue Call.release (inside ++ .closeRules device :: plan) result made)
    (hinside : ∀ call ∈ inside, call.InSession device) :
    ∃ inside' rest, made = inside' ++ .closeRules device :: rest
      ∧ (∀ call ∈ inside', call.InSession device)
      ∧ (rest = [] ∨ Swept p queue Call.release plan result rest) := by
  induction inside generalizing made with
  | nil =>
      rcases h.of_cons with ⟨hrefused, -⟩ | ⟨-, later, rfl, hlater⟩
      · -- closing is never refused
        cases hrefused
      · exact ⟨[], later, rfl, fun call hmem => (nomatch hmem), .inr hlater⟩
  | cons call inside ih =>
      obtain ⟨hcall, hrest⟩ := List.forall_mem_cons.mp hinside
      rcases h.of_cons with ⟨-, hmade⟩ | ⟨-, later, hmade, hlater⟩
      · -- the session ends at its first call, which is the last one before closing
        rw [hcall.release_eq] at hmade
        refine ⟨[call], [], hmade, fun other hmem => ?_, .inl rfl⟩
        rw [List.mem_singleton.mp hmem]
        exact hcall
      · obtain ⟨inside', rest, rfl, hinside', hplan⟩ := ih hlater hrest
        exact ⟨call :: inside', rest, hmade, List.forall_mem_cons.mpr ⟨hcall, hinside'⟩, hplan⟩

/-- Wherever a search stops, its sessions are closed. -/
theorem Swept.sessions
    (h : Swept p queue Call.release (devices.flatMap (searchCalls s dest)) result made) :
    Sessions p made := by
  induction devices generalizing made with
  | nil =>
      cases h with
      | completed a admitted => exact .nil
      | stopped split admitted refusal blamed => simp at split
  | cons device devices ih =>
      have hplan : (device :: devices).flatMap (searchCalls s dest) = .readGroups device
          :: (ruleCalls s dest device ++ devices.flatMap (searchCalls s dest)) := rfl
      rw [hplan] at h
      rcases h.of_cons with ⟨-, rfl⟩ | ⟨-, later, rfl, hlater⟩
      · -- the masks could not be read, so no session was opened
        exact .asked device .nil
      · refine .asked device ?_
        unfold ruleCalls at hlater
        split at hlater
        · rw [List.cons_append, List.append_assoc] at hlater
          rcases hlater.of_cons with ⟨hrefused, rfl⟩ | ⟨hadmitted, walked, rfl, hwalked⟩
          · exact .unopened device hrefused
          · obtain ⟨inside, rest, rfl, hinside, hrest⟩ :=
              hwalked.session_closed fun call => inSession_of_mem_sessionCalls
            refine .opened device hadmitted hinside ?_
            -- either the session was the end of it, or the other devices are searched
            rcases hrest with rfl | hrest
            · exact .nil
            · exact ih hrest
        · exact ih hlater

/-! ## §5. The first refused call. -/

/-- The calls for a device address that device. -/
theorem eq_of_mem_searchCalls (h : call ∈ searchCalls s dest device) :
    call = .readGroups device ∨ call = .openRules device ∨ call.InSession device
      ∨ call = .closeRules device := by
  rcases List.mem_cons.mp h with rfl | hrules
  · exact .inl rfl
  · unfold ruleCalls at hrules
    split at hrules
    · rcases List.mem_cons.mp hrules with rfl | hsession
      · exact .inr (.inl rfl)
      · rcases List.mem_append.mp hsession with hinside | hclose
        · exact .inr (.inr (.inl (inSession_of_mem_sessionCalls hinside)))
        · exact .inr (.inr (.inr (List.mem_singleton.mp hclose)))
    · cases hrules

/-- A call of a search is refused over a fault that is registered for it, unless it closes a
session, or because its device is not installed. -/
theorem searchRefusal?_cases (hmem : call ∈ searchCalls s dest device) {error : PlatformError}
    (h : p.searchRefusal? call = some error) :
    (p.faults.find? call).isSome ∧ (∀ other, call ≠ .closeRules other)
      ∨ p.state.device? device = none := by
  -- where a device is addressed, it is a fault or the device that is in the way
  have hdevice : p.deviceRefusal? call device = some error →
      (p.faults.find? call).isSome ∨ p.state.device? device = none := by
    intro hrefusal
    rcases Option.or_eq_some_iff.mp hrefusal with hfault | ⟨-, habsent⟩
    · exact .inl (by simp [hfault])
    · refine .inr ?_
      cases hlisted : p.state.device? device with
      | none => rfl
      | some d =>
          rw [hlisted] at habsent
          cases habsent
  rcases eq_of_mem_searchCalls hmem with rfl | rfl | hinside | rfl
  · exact (hdevice h).imp_left fun hfault => ⟨hfault, by simp⟩
  · exact (hdevice h).imp_left fun hfault => ⟨hfault, by simp⟩
  · cases hinside with
    | openCursor => exact (hdevice h).imp_left fun hfault => ⟨hfault, by simp⟩
    | readRule position =>
        have hfault : p.faults.find? (.readRule device position) = some error := h
        exact .inl ⟨by simp [hfault], by simp⟩
  · cases h

theorem isSome_searchRefusal?_of_fault (hmem : call ∈ searchCalls s dest device)
    (hclose : ∀ other, call ≠ .closeRules other) (hfault : (p.faults.find? call).isSome) :
    (p.searchRefusal? call).isSome := by
  have hdevice : (p.deviceRefusal? call device).isSome := by
    unfold Platform.deviceRefusal?
    rw [Option.isSome_or, hfault, Bool.true_or]
  rcases eq_of_mem_searchCalls hmem with rfl | rfl | hinside | rfl
  · exact hdevice
  · exact hdevice
  · cases hinside with
    | openCursor => exact hdevice
    | readRule position => exact hfault
  · exact absurd rfl (hclose device)

theorem isSome_searchRefusal?_of_absent (habsent : p.state.device? device = none) :
    (p.searchRefusal? (.readGroups device)).isSome := by
  show (p.deviceRefusal? (.readGroups device) device).isSome
  unfold Platform.deviceRefusal?
  rw [Option.isSome_or, habsent]
  simp

/-- A search fails over a fault, unless it is one of closing, or over a device that is not
installed, and over nothing else. -/
theorem Swept.fails_iff
    (h : Swept p queue release (devices.flatMap (searchCalls s dest)) result made) :
    (∃ failure, result = .error failure)
      ↔ (∃ call ∈ devices.flatMap (searchCalls s dest),
          (p.faults.find? call).isSome ∧ ∀ device, call ≠ .closeRules device)
        ∨ ∃ device ∈ devices, p.state.device? device = none := by
  cases h with
  | completed a admitted =>
      have hnone : ∀ call ∈ devices.flatMap (searchCalls s dest),
          ¬ (p.searchRefusal? call).isSome := by
        intro call hmem
        simp [admitted call hmem]
      constructor
      · rintro ⟨failure, hfailed⟩
        cases hfailed
      · rintro (⟨call, hmem, hfault, hclose⟩ | ⟨device, hmem, habsent⟩)
        · obtain ⟨device, -, hcall⟩ := List.mem_flatMap.mp hmem
          exact absurd (isSome_searchRefusal?_of_fault hcall hclose hfault) (hnone call hmem)
        · have hcall : .readGroups device ∈ devices.flatMap (searchCalls s dest) :=
            List.mem_flatMap.mpr ⟨device, hmem, List.mem_cons_self⟩
          exact absurd (isSome_searchRefusal?_of_absent habsent) (hnone _ hcall)
  | @stopped done rest call error failure split admitted refusal blamed =>
      refine ⟨fun _ => ?_, fun _ => ⟨failure, rfl⟩⟩
      have hmem : call ∈ devices.flatMap (searchCalls s dest) := by simp [split]
      obtain ⟨device, hdevice, hcall⟩ := List.mem_flatMap.mp hmem
      rcases searchRefusal?_cases hcall refusal with hfault | habsent
      · exact .inl ⟨call, hmem, hfault⟩
      · exact .inr ⟨device, hdevice, habsent⟩

/-- The run stops at the first planned call that is refused. -/
theorem Swept.of_split {done rest : List Call} {error : PlatformError}
    (h : Swept p queue release plan result made) (hsplit : plan = done ++ call :: rest)
    (hdone : ∀ earlier ∈ done, p.searchRefusal? earlier = none)
    (hrefused : p.searchRefusal? call = some error) :
    made = done ++ call :: release call
      ∧ ∃ failure, result = .error failure ∧ Blames queue error call failure := by
  cases h with
  | completed a admitted =>
      rw [admitted call (by simp [hsplit])] at hrefused
      cases hrefused
  | @stopped done' rest' call' error' failure split admitted refusal blamed =>
      -- there is only one first call that is refused
      obtain ⟨rfl, rfl⟩ := split_unique (P := fun call => p.searchRefusal? call ≠ none)
        (hsplit.symm.trans split) (by simpa using hdone) (by simp [hrefused])
        (by simpa using admitted) (by simp [refusal])
      obtain rfl : error = error' := Option.some.inj (hrefused.symm.trans refusal)
      exact ⟨rfl, failure, rfl, blamed⟩

end Lifecycle

/-! ## §6. A search from the outside. -/

/-- **A search makes the calls that are planned for its devices up to the first one that is refused,
and its error names the device and carries the error of that call.  It is refused over a fault of
any call but the closing of a session, or over a device that is not installed.  Every session that
was opened is closed once, before anything else happens, and nothing but the log is changed.** -/
theorem search_call_protocol (queue : String) (dest : DestId) (devices : List DeviceId)
    (w : World) :
    ∃ (result : Except ToolError CrossReference) (w' : World) (logged : List Call),
      CrossReference.search queue dest devices w = (result, w')
      ∧ w.Unchanged w'
      ∧ w'.platform.calls = w.platform.calls ++ logged
      ∧ ((∃ failure, result = .error failure)
        ↔ (∃ call ∈ devices.flatMap (CrossReference.searchCalls w.platform.state dest),
            (w.platform.faults.find? call).isSome ∧ ∀ device, call ≠ .closeRules device)
          ∨ ∃ device ∈ devices, w.platform.state.device? device = none)
      ∧ (∀ report, result = .ok report →
        logged = devices.flatMap (CrossReference.searchCalls w.platform.state dest))
      ∧ (∀ done call rest error,
        devices.flatMap (CrossReference.searchCalls w.platform.state dest) = done ++ call :: rest →
        (∀ earlier ∈ done, w.platform.searchRefusal? earlier = none) →
        w.platform.searchRefusal? call = some error →
        logged = done ++ call :: call.release
          ∧ ∃ failure, result = .error failure ∧ Blames queue error call failure)
      ∧ Sessions w.platform logged := by
  obtain ⟨hsame, logged, hcalls, hswept⟩ := CrossReference.search_sweeps queue dest devices w
  obtain ⟨⟨result, w'⟩, hrun⟩ : ∃ ran, CrossReference.search queue dest devices w = ran := ⟨_, rfl⟩
  rw [hrun] at hsame hcalls hswept
  refine ⟨result, w', logged, hrun, hsame, hcalls, hswept.fails_iff, fun report hok => ?_,
    fun done call rest error => hswept.of_split, hswept.sessions⟩
  subst hok
  cases hswept with
  | completed a admitted => rfl

/-- Group 2 of device 0 holds destination 4, and there is one rule; some calls are faulted. -/
def faulted (faults : List (Call × PlatformError)) : World :=
  World.start ⟨⟨[⟨true, GroupTable.empty.setIfInBounds 2 ⟨0x10⟩,
    [⟨"two", 8, ⟨4⟩, ⟨⟨5⟩, true⟩⟩]⟩, .installed], .initial⟩, [], ⟨faults⟩⟩ .unlimited

/-- The read that would find the end of the table is faulted: the session is closed, and device 3,
which is not installed, is not asked any more. -/
theorem search_call_protocol_of_faulted_end :
    ∃ (result : Except ToolError CrossReference) (w' : World),
      CrossReference.search "/q" 4 [1, 0, 3] (faulted [(.readRule 0 1, .reported .timeout 9)])
        = (result, w')
      ∧ w'.platform.calls = [.readGroups 1, .readGroups 0, .openRules 0, .openCursor 0,
        .readRule 0 0, .readRule 0 1, .closeRules 0]
      ∧ result = .error (.ruleRead 0 (.reported .timeout 9)) := by
  obtain ⟨result, w', logged, hrun, -, hcalls, -, -, hfails, -⟩ :=
    search_call_protocol "/q" 4 [1, 0, 3] (faulted [(.readRule 0 1, .reported .timeout 9)])
  obtain ⟨hlogged, failure, hresult, hblames⟩ := hfails
    [.readGroups 1, .readGroups 0, .openRules 0, .openCursor 0, .readRule 0 0] (.readRule 0 1)
    [.closeRules 0, .readGroups 3] (.reported .timeout 9) (by decide) (by decide) (by decide)
  cases hblames
  exact ⟨result, w', hrun, by rw [hcalls, hlogged]; rfl, hresult⟩

/-- A fault that is registered for the closing of a session is not looked up: the search makes this
call, and succeeds. -/
theorem search_succeeds_over_faulted_close :
    .closeRules 0 ∈ [0].flatMap (CrossReference.searchCalls
        (faulted [(.closeRules 0, .reported .timeout 9)]).platform.state 4)
      ∧ (faulted [(.closeRules 0, .reported .timeout 9)]).platform.faults.find? (.closeRules 0)
        = some (.reported .timeout 9)
      ∧ ∃ report w', CrossReference.search "/q" 4 [0]
        (faulted [(.closeRules 0, .reported .timeout 9)]) = (.ok report, w') := by
  refine ⟨by decide, by decide, ?_⟩
  exact ⟨⟨4, [⟨0, some 2, [], .add .empty ⟨5⟩, 1⟩]⟩, _, Prod.ext (by cbv) rfl⟩

end FlowProcessor
