/-
  FlowProcessor.Proofs.Forwarding.Isolation — HANDLES DO NOT DISTURB EACH OTHER.

  Any number of handles work on one platform, in any order.  What a handle has staged is its own:
  nobody else changes it, and nobody sees it before the handle commits.  The committed tables
  change in two ways only.  A commit puts the copy of the handle in their place, and a tuning
  changes one field of one interface, there and in the copy of the handle that tuned it.

    • `Clients.Isolated`  — what an action changes and what it leaves alone
    • `isolated_of_does`  — one action, by what it can do
    • `commits_run`       — the commits of a run are counted
    • `clients_isolation` — any actions in any order
-/
import FlowProcessor.Proofs.Forwarding.Clients

namespace FlowProcessor

/-! ## §1. What an action leaves alone. -/

/-- The interface that a tuning operation is about, and the change of its one field. -/
def ForwardingOp.tuning? : ForwardingOp → Option (LifId × (LifState → LifState))
  | .setMtu _ lif mtu => some (lif, fun l => { l with mtu := some mtu })
  | .setFrameType _ lif frameType => some (lif, fun l => { l with frameType := frameType })
  | .setRateLimit lif limit => some (lif, fun l => { l with rateLimit := some limit })
  | _ => none

/-- One interface is changed, if it is there, and nothing else. -/
structure ForwardingTables.ChangedAt (lif : LifId) (change : LifState → LifState)
    (t t' : ForwardingTables) : Prop where
  here : t'.lif? lif = (t.lif? lif).map change
  elsewhere : ∀ other, other ≠ lif → t'.lif? other = t.lif? other
  domains : t'.domains = t.domains

theorem ForwardingTables.changedAt_adjustLif (t : ForwardingTables) (lif : LifId)
    (change : LifState → LifState) : ChangedAt lif change t (t.adjustLif lif change) where
  here := by rw [lif?_adjustLif, if_pos rfl]
  elsewhere other hne := by rw [lif?_adjustLif, if_neg (Ne.symm hne)]
  domains := rfl

namespace ClientAction

/-- The commits. -/
def isCommit : ClientAction → Bool
  | .operate _ .commit => true
  | _ => false

/-- The tunings. -/
def isTuning : ClientAction → Bool
  | .operate _ op => op.tuning?.isSome
  | _ => false

end ClientAction

/-- What an action, answered like this, changes from `c` to `c'` and what it leaves alone. -/
structure Clients.Isolated (c : Clients) (action : ClientAction) (answer : ClientAnswer)
    (c' : Clients) : Prop where
  /-- No other handle is touched. -/
  others : ∀ other, other ≠ action.name → c'.handle? other = c.handle? other
  /-- Only an accepted commit or tuning changes the state of the platform. -/
  otherwise : (answer = .accepted → action.isCommit = false ∧ action.isTuning = false) →
    c'.platform.state = c.platform.state
  devices : c'.platform.state.devices = c.platform.state.devices
  /-- A new handle has a copy of the committed tables. -/
  opens : ∀ name, action = .acquire name → answer = .accepted →
    c'.handle? name = some ⟨c.forwarding.active⟩
  /-- A commit makes the copy of the handle the committed tables, and changes no copy. -/
  commits : ∀ name, action = .operate name .commit → answer = .accepted →
    ∃ handle, c.handle? name = some handle ∧ c'.forwarding.active = handle.staged
      ∧ c'.forwarding.commits = c.forwarding.commits + 1 ∧ c'.handle? = c.handle?
  /-- A tuning changes one field of one interface, and the same in the copy of its handle. -/
  tunes : ∀ name op lif change, action = .operate name op → op.tuning? = some (lif, change) →
    answer = .accepted →
    ∃ handle handle', c.handle? name = some handle ∧ c'.handle? name = some handle'
      ∧ (c.forwarding.active.lif? lif).isSome
      ∧ c'.forwarding.commits = c.forwarding.commits
      ∧ ForwardingTables.ChangedAt lif change c.forwarding.active c'.forwarding.active
      ∧ ForwardingTables.ChangedAt lif change handle.staged handle'.staged

variable {c c' : Clients} {action : ClientAction} {answer : ClientAnswer}

/-! ## §2. One action. -/

/-- An action that leaves the state of the platform alone, and is no accepted commit or tuning. -/
theorem Clients.Isolated.of_state_eq
    (hkind : answer = .accepted → action.isCommit = false ∧ action.isTuning = false)
    (hstate : c'.platform.state = c.platform.state)
    (hothers : ∀ other, other ≠ action.name → c'.handle? other = c.handle? other)
    (hopens : ∀ name, action = .acquire name → answer = .accepted →
      c'.handle? name = some ⟨c.forwarding.active⟩) : c.Isolated action answer c' where
  others := hothers
  otherwise _ := hstate
  devices := congrArg PlatformState.devices hstate
  opens := hopens
  commits name haction haccepted := by
    subst haction
    cases (hkind haccepted).1
  tunes name op lif change haction htuning haccepted := by
    subst haction
    have hnot := (hkind haccepted).2
    rw [ClientAction.isTuning, htuning] at hnot
    cases hnot

/-- An action that was not accepted, and left the state of the platform alone. -/
theorem Clients.Isolated.of_not_accepted (hanswer : answer ≠ .accepted)
    (hstate : c'.platform.state = c.platform.state)
    (hothers : ∀ other, other ≠ action.name → c'.handle? other = c.handle? other) :
    c.Isolated action answer c' :=
  .of_state_eq (fun haccepted => absurd haccepted hanswer) hstate hothers
    fun _ _ haccepted => absurd haccepted hanswer

/-- Keeping a handle under its name leaves the other handles alone. -/
theorem Clients.handle?_keep_of_ne {name other : HandleName} {handle : Option ForwardingHandle}
    (h : other ≠ name) : (c.keep name handle).handle? other = c.handle? other :=
  if_neg h

theorem Clients.handle?_keep_self {name : HandleName} {handle : Option ForwardingHandle} :
    (c.keep name handle).handle? name = handle :=
  if_pos rfl

/-- Structural changes stay with the handle. -/
theorem isolated_of_structural {name : HandleName} {op : ForwardingOp} {calls : List Call}
    {handle : ForwardingHandle} (hkind : ClientAction.isCommit (.operate name op) = false)
    (htuning : op.tuning? = none) :
    c.Isolated (.operate name op) .accepted
      ((c.after calls c.forwarding).keep name (some handle)) := by
  refine .of_state_eq (fun _ => ⟨hkind, ?_⟩) rfl (fun other hne => ?_) fun other haction => ?_
  · rw [ClientAction.isTuning, htuning]
    rfl
  · exact Clients.handle?_keep_of_ne hne
  · cases haction

/-- A commit shares what was staged, and its handle goes on with the same. -/
theorem isolated_of_commit {name : HandleName} {handle : ForwardingHandle} {calls : List Call}
    (held : c.handle? name = some handle) :
    c.Isolated (.operate name .commit) .accepted
      ((c.after calls ⟨handle.staged, c.forwarding.commits + 1⟩).keep name (some ⟨handle.staged⟩))
    where
  others other hne := Clients.handle?_keep_of_ne hne
  otherwise hkind := by cases (hkind rfl).1
  devices := rfl
  opens other haction := by cases haction
  commits other haction _ := by
    cases haction
    -- the handle is kept as it was, and so is every other one
    refine ⟨handle, held, rfl, rfl, funext fun other => ?_⟩
    by_cases heq : other = name
    · subst heq
      exact Clients.handle?_keep_self.trans held.symm
    · exact Clients.handle?_keep_of_ne heq
  tunes other op lif change haction htuning := by
    cases haction
    cases htuning

/-- A tuning changes one field of one interface, in two places. -/
theorem isolated_of_tuning {name : HandleName} {op : ForwardingOp} {handle : ForwardingHandle}
    {lif : LifId} {change : LifState → LifState} {calls : List Call}
    (held : c.handle? name = some handle) (htuning : op.tuning? = some (lif, change))
    (committed : (c.forwarding.active.lif? lif).isSome) :
    c.Isolated (.operate name op) .accepted
      ((c.after calls { c.forwarding with active := c.forwarding.active.adjustLif lif change }).keep
        name (some ⟨handle.staged.adjustLif lif change⟩)) where
  others other hne := Clients.handle?_keep_of_ne hne
  otherwise hkind := by
    have hnot := (hkind rfl).2
    rw [ClientAction.isTuning, htuning] at hnot
    cases hnot
  devices := rfl
  opens other haction := by cases haction
  commits other haction := by
    cases haction
    cases htuning
  tunes other op' lif' change' haction htuning' _ := by
    cases haction
    obtain ⟨rfl, rfl⟩ := Prod.mk.inj (Option.some.inj (htuning.symm.trans htuning'))
    exact ⟨handle, _, held, Clients.handle?_keep_self, committed, rfl,
      ForwardingTables.changedAt_adjustLif _ _ _, ForwardingTables.changedAt_adjustLif _ _ _⟩

/-- **Every action is isolated.** -/
theorem isolated_of_does (h : c.Does action answer c') : c.Isolated action answer c' := by
  cases h with
  | unknown absent => exact .of_not_accepted (by simp) rfl fun _ _ => rfl
  | refused calls error => exact .of_not_accepted (by simp) rfl fun _ _ => rfl
  | opened name =>
      refine .of_state_eq (fun _ => ⟨rfl, rfl⟩) rfl (fun other hne => ?_) fun other haction _ => ?_
      · exact Clients.handle?_keep_of_ne hne
      · cases haction
        exact Clients.handle?_keep_self
  | granted held grants =>
      -- five operations work on the copy alone, one shares it, three reach through
      cases grants with
      | clear | configureDomain | configureLif | assignAddressSpace | attach =>
          exact isolated_of_structural rfl rfl
      | commit => exact isolated_of_commit held
      | setMtu nonzero committed => exact isolated_of_tuning held rfl committed
      | setFrameType frameType committed => exact isolated_of_tuning held rfl committed
      | setRateLimit limit committed => exact isolated_of_tuning held rfl committed
  | answered name lif value => exact .of_not_accepted (by simp) rfl fun _ _ => rfl
  | released name =>
      refine .of_state_eq (fun _ => ⟨rfl, rfl⟩) rfl (fun other hne => ?_) fun other haction _ => ?_
      · exact Clients.handle?_keep_of_ne hne
      · cases haction
  | unreleased name error =>
      exact .of_not_accepted (by simp) rfl fun other hne => Clients.handle?_keep_of_ne hne

/-! ## §3. Any number of actions. -/

namespace ClientAction

theorem eq_of_isCommit (h : action.isCommit = true) : ∃ name, action = .operate name .commit := by
  cases action with
  | operate name op =>
      cases op with
      | commit => exact ⟨name, rfl⟩
      | _ => cases h
  | _ => cases h

theorem eq_of_isTuning (h : action.isTuning = true) :
    ∃ name op lif change, action = .operate name op ∧ op.tuning? = some (lif, change) := by
  cases action with
  | operate name op =>
      obtain ⟨⟨lif, change⟩, htuning⟩ := Option.isSome_iff_exists.mp h
      exact ⟨name, op, lif, change, rfl, htuning⟩
  | _ => cases h

end ClientAction

/-- Only an accepted commit is counted. -/
theorem commits_of_isolated (h : c.Isolated action answer c') :
    c'.forwarding.commits
      = c.forwarding.commits + if action.isCommit && answer = .accepted then 1 else 0 := by
  by_cases haccepted : answer = .accepted
  · cases hcommit : action.isCommit with
    | true =>
        obtain ⟨name, haction⟩ := ClientAction.eq_of_isCommit hcommit
        obtain ⟨handle, -, -, hcount, -⟩ := h.commits name haction haccepted
        simp [hcount, haccepted]
    | false =>
        have hsame : c'.forwarding.commits = c.forwarding.commits := by
          cases htuning : action.isTuning with
          | true =>
              -- a tuning changes the tables, but it is no commit
              obtain ⟨name, op, lif, change, haction, hop⟩ := ClientAction.eq_of_isTuning htuning
              obtain ⟨-, -, -, -, -, hcount, -⟩ := h.tunes name op lif change haction hop haccepted
              exact hcount
          | false =>
              exact congrArg (·.forwarding.commits) (h.otherwise fun _ => ⟨hcommit, htuning⟩)
        simp [hsame]
  · have hstate := h.otherwise fun hacc => absurd hacc haccepted
    simp [Clients.forwarding, hstate, haccepted]

namespace Clients

theorem run_cons (c : Clients) (action : ClientAction) (actions : List ClientAction) :
    c.run (action :: actions)
      = ((c.step action).1 :: ((c.step action).2.run actions).1,
        ((c.step action).2.run actions).2) := rfl

theorem run_append_singleton (c : Clients) (actions : List ClientAction) (action : ClientAction) :
    (c.run (actions ++ [action])).2 = ((c.run actions).2.step action).2 := by
  induction actions generalizing c with
  | nil => rfl
  | cons first actions ih =>
      rw [List.cons_append, run_cons, run_cons]
      exact ih _

theorem isolated_step (c : Clients) (action : ClientAction) :
    c.Isolated action (c.step action).1 (c.step action).2 :=
  isolated_of_does (c.does_step action)

/-- How many of some actions are commits that were accepted. -/
def acceptedCommits (actions : List ClientAction) (answers : List ClientAnswer) : Nat :=
  (actions.zip answers).countP fun (action, answer) => action.isCommit && answer = .accepted

theorem acceptedCommits_cons (action : ClientAction) (actions : List ClientAction)
    (answer : ClientAnswer) (answers : List ClientAnswer) :
    acceptedCommits (action :: actions) (answer :: answers)
      = (if action.isCommit && answer = .accepted then 1 else 0)
        + acceptedCommits actions answers := by
  rw [acceptedCommits, List.zip_cons_cons, List.countP_cons, Nat.add_comm]
  rfl

/-- **The commits of a run are counted, and nothing else is.** -/
theorem commits_run (c : Clients) (actions : List ClientAction) :
    (c.run actions).2.forwarding.commits
      = c.forwarding.commits + UInt32.ofNat (acceptedCommits actions (c.run actions).1) := by
  induction actions generalizing c with
  | nil => simp [run, acceptedCommits]
  | cons action actions ih =>
      rw [run_cons, ih, commits_of_isolated (c.isolated_step action), acceptedCommits_cons,
        UInt32.ofNat_add, UInt32.add_assoc]
      split <;> rfl

/-- Without an accepted commit or tuning, the state of the platform stays as it is. -/
theorem state_run (c : Clients) (actions : List ClientAction)
    (h : ∀ step ∈ actions.zip (c.run actions).1, step.2 = .accepted →
      step.1.isCommit = false ∧ step.1.isTuning = false) :
    (c.run actions).2.platform.state = c.platform.state := by
  induction actions generalizing c with
  | nil => rfl
  | cons action actions ih =>
      rw [run_cons, List.zip_cons_cons] at h
      have hfirst := (c.isolated_step action).otherwise (h _ List.mem_cons_self)
      rw [run_cons, ih _ fun step hmem => h step (List.mem_cons_of_mem _ hmem), hfirst]

/-- What nobody addresses stays as it is. -/
theorem handle?_run (c : Clients) (actions : List ClientAction) (name : HandleName)
    (h : ∀ action ∈ actions, action.name ≠ name) :
    (c.run actions).2.handle? name = c.handle? name := by
  induction actions generalizing c with
  | nil => rfl
  | cons action actions ih =>
      have hfirst := (c.isolated_step action).others name
        (Ne.symm (h action List.mem_cons_self))
      rw [run_cons, ih _ fun later hmem => h later (List.mem_cons_of_mem _ hmem), hfirst]

end Clients

/-- **However many handles work on a platform, and in whatever order: every action is isolated, the
commits are counted, and without one, or a tuning, nothing shared changes.** -/
theorem clients_isolation (c : Clients) (actions : List ClientAction) :
    (∀ action, (c.run actions).2.Isolated action ((c.run actions).2.step action).1
        (c.run (actions ++ [action])).2)
      ∧ (c.run actions).2.forwarding.commits
        = c.forwarding.commits
          + UInt32.ofNat (Clients.acceptedCommits actions (c.run actions).1)
      ∧ ((∀ step ∈ actions.zip (c.run actions).1, step.2 = .accepted →
          step.1.isCommit = false ∧ step.1.isTuning = false) →
        (c.run actions).2.platform.state = c.platform.state)
      ∧ ∀ name, (∀ action ∈ actions, action.name ≠ name) →
        (c.run actions).2.handle? name = c.handle? name := by
  refine ⟨fun action => ?_, c.commits_run actions, c.state_run actions, c.handle?_run actions⟩
  rw [Clients.run_append_singleton]
  exact (c.run actions).2.isolated_step action

/-- Of two handles one stages and commits an interface, the other tunes it: the copy of the second
does not know the interface, and the copy of the first does not know the tuning. -/
theorem clients_isolation_of_two_handles :
    ∃ c : Clients,
      c = ((⟨.initial, fun _ => none⟩ : Clients).run
        [.acquire "first", .acquire "second",
          .operate "first" (.configureLif ⟨1⟩ ⟨11⟩ .untagged), .operate "first" .commit]).2
      ∧ c.forwarding.commits = 1
      ∧ (c.step (.operate "second" (.setMtu .logical ⟨1⟩ 1500))).2.forwarding.active.lif? ⟨1⟩
        = some { LifState.bare ⟨11⟩ .untagged with mtu := some 1500 }
      ∧ (c.step (.operate "second" (.setMtu .logical ⟨1⟩ 1500))).2.handle? "first"
        = c.handle? "first" := by
  obtain ⟨hsteps, hcommits, -, -⟩ := clients_isolation ⟨.initial, fun _ => none⟩
    [.acquire "first", .acquire "second",
      .operate "first" (.configureLif ⟨1⟩ ⟨11⟩ .untagged), .operate "first" .commit]
  have hstep := hsteps (.operate "second" (.setMtu .logical ⟨1⟩ 1500))
  obtain ⟨-, -, -, -, -, -, hactive, -⟩ := hstep.tunes "second" _ _ _ rfl rfl (by decide)
  rw [Clients.run_append_singleton] at hactive hstep
  exact ⟨_, rfl, hcommits.trans (by decide), hactive.here.trans (by decide),
    hstep.others "first" (by decide)⟩

end FlowProcessor
