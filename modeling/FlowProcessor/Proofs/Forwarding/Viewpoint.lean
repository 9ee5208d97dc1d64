/-
  FlowProcessor.Proofs.Forwarding.Viewpoint — ONE HANDLE AMONG ALL THAT HAPPENS.

  Much can happen to a platform while a handle is open: other handles, masks, rules, faults, plans.
  As long as nobody else commits or tunes, the owner of the handle sees four things only.  Nothing
  that concerns it happens, it is opened, it is gone, or an operation is granted to it.

    • `Workspace.granted`  — the operations that a handle is granted in a history
    • `Workspace.LeftTo`   — a history in which nobody else commits or tunes
    • `moves_undergo`      — the list of four is complete
    • `Tied.history`       — what every granted operation keeps between the committed tables and
      the copy of the handle holds after any such history
-/
import FlowProcessor.Proofs.Forwarding.Atomicity
import FlowProcessor.Proofs.Forwarding.Isolation
import FlowProcessor.Proofs.Platform.Occurrences

namespace FlowProcessor

/-- Whether an occurrence is the run of a plan. -/
def Occurrence.isPlan : Occurrence → Bool
  | .planApplied _ _ _ _ => true
  | _ => false

/-- Where it is granted, an operation leads from one relation between the committed tables and the
copy to another.  A handle may be opened at any time, so that the committed tables have to be in
these relations with themselves as well. -/
def ForwardingOp.Leads (op : ForwardingOp) (R R' : ForwardingTables → ForwardingTables → Prop) :
    Prop :=
  ∀ f staged f' staged', op.Grants f staged f' staged' → R f.active f.active →
    R f.active staged → R' f'.active f'.active ∧ R' f'.active staged'

namespace Workspace

/-! ## §1. What a handle is granted. -/

/-- The committed configuration. -/
def forwarding (w : Workspace) : ForwardingState := w.platform.state.forwarding

/-- The action of a client that an occurrence is, if it is one and is accepted. -/
def accepted? (w : Workspace) : Occurrence → Option ClientAction
  | .asked (.forwarding action) =>
      if (w.clients.step action).1 = .accepted then some action else none
  | _ => none

/-- The operation that an occurrence is, if it is one that a handle is granted. -/
def granted? (name : HandleName) (w : Workspace) (occurrence : Occurrence) : Option ForwardingOp :=
  match w.accepted? occurrence with
  | some (.operate other op) => if other = name then some op else none
  | _ => none

/-- The operations that a handle is granted in a history, in order. -/
def granted (name : HandleName) : Workspace → List Occurrence → List ForwardingOp
  | _, [] => []
  | w, occurrence :: occurrences =>
      (w.granted? name occurrence).toList ++ granted name (w.undergo occurrence) occurrences

/-! ## §2. Histories that are left to one handle. -/

/-- In an occurrence nobody commits or tunes but the owner of a handle. -/
def Spares (name : HandleName) (w : Workspace) (occurrence : Occurrence) : Prop :=
  (∀ action ∈ w.accepted? occurrence, action.name ≠ name →
      action.isCommit = false ∧ action.isTuning = false)
    -- a plan works with a handle of its own, and whether it has committed shows in the count
    ∧ (occurrence.isPlan = true → (w.undergo occurrence).forwarding.commits = w.forwarding.commits)

/-- In a history nobody commits or tunes but the owner of a handle. -/
def LeftTo (name : HandleName) : Workspace → List Occurrence → Prop
  | _, [] => True
  | w, occurrence :: occurrences =>
      w.Spares name occurrence ∧ LeftTo name (w.undergo occurrence) occurrences

instance (name : HandleName) (w : Workspace) (occurrence : Occurrence) :
    Decidable (w.Spares name occurrence) :=
  inferInstanceAs (Decidable (_ ∧ _))

instance decidableLeftTo (name : HandleName) :
    (w : Workspace) → (occurrences : List Occurrence) → Decidable (LeftTo name w occurrences)
  | _, [] => .isTrue trivial
  | w, occurrence :: occurrences =>
      have := decidableLeftTo name (w.undergo occurrence) occurrences
      inferInstanceAs (Decidable (_ ∧ _))

variable {name : HandleName} {w : Workspace} {occurrence : Occurrence}
variable {occurrences more : List Occurrence}

theorem history_cons : w.history (occurrence :: occurrences)
    = (w.undergo occurrence).history occurrences := rfl

theorem history_append :
    w.history (occurrences ++ more) = (w.history occurrences).history more :=
  List.foldl_append

theorem leftTo_append :
    LeftTo name w (occurrences ++ more)
      ↔ LeftTo name w occurrences ∧ LeftTo name (w.history occurrences) more := by
  induction occurrences generalizing w with
  | nil => simp [LeftTo, history]
  | cons occurrence occurrences ih =>
      simp only [List.cons_append, LeftTo, ih, history_cons, and_assoc]

/-- Only an action of a client is accepted. -/
theorem accepted?_eq_some {action : ClientAction} :
    w.accepted? occurrence = some action
      ↔ occurrence = .asked (.forwarding action) ∧ (w.clients.step action).1 = .accepted := by
  constructor
  · intro h
    unfold accepted? at h
    split at h
    · split at h
      · rename_i haccepted
        obtain rfl := Option.some.inj h
        exact ⟨rfl, haccepted⟩
      · cases h
    · cases h
  · rintro ⟨rfl, haccepted⟩
    exact if_pos haccepted

theorem granted?_eq_some {op : ForwardingOp} :
    w.granted? name occurrence = some op
      ↔ occurrence = .asked (.forwarding (.operate name op))
        ∧ (w.clients.step (.operate name op)).1 = .accepted := by
  rw [← accepted?_eq_some]
  unfold granted?
  constructor
  · intro h
    split at h
    · rename_i other granted haccepted
      split at h
      · rename_i hsame
        obtain rfl := Option.some.inj h
        rw [← hsame, haccepted]
      · cases h
    · cases h
  · intro h
    rw [h]
    exact if_pos rfl

/-- A handle is granted what the configuration and its copy allow, and goes on with the result. -/
theorem grants_of_granted? {op : ForwardingOp} (h : w.granted? name occurrence = some op) :
    ∃ held staged, w.handle? name = some held
      ∧ op.Grants w.forwarding held.staged (w.undergo occurrence).forwarding staged
      ∧ (w.undergo occurrence).handle? name = some ⟨staged⟩ := by
  obtain ⟨rfl, haccepted⟩ := granted?_eq_some.mp h
  show ∃ held staged, w.handle? name = some held
      ∧ op.Grants w.forwarding held.staged (w.clients.step (.operate name op)).2.forwarding staged
      ∧ (w.clients.step (.operate name op)).2.handle? name = some ⟨staged⟩
  have hdoes := w.clients.does_step (.operate name op)
  obtain ⟨⟨answer, c⟩, hstep⟩ : ∃ stepped, w.clients.step (.operate name op) = stepped := ⟨_, rfl⟩
  rw [hstep] at hdoes haccepted ⊢
  obtain rfl : answer = .accepted := haccepted
  cases hdoes with
  | granted held grants => exact ⟨_, _, held, grants, Clients.handle?_keep_self⟩

/-! ## §3. What the owner of a handle sees. -/

/-- What an occurrence that leads to `w'` is to the owner of a handle. -/
inductive Moves (name : HandleName) (w : Workspace) (occurrence : Occurrence) (w' : Workspace) :
    Prop
  | idle (same : w'.forwarding = w.forwarding) (handle : w'.handle? name = w.handle? name)
  | opened (same : w'.forwarding = w.forwarding)
      (handle : w'.handle? name = some ⟨w.forwarding.active⟩)
  | gone (same : w'.forwarding = w.forwarding) (handle : w'.handle? name = none)
  /-- What is granted to the owner is told by `grants_of_granted?`. -/
  | worked {op : ForwardingOp} (granted : w.granted? name occurrence = some op)

/-- A call that is about a device keeps the configuration. -/
theorem forwarding_perform_device {α : Type} {p : Platform} {call : Call} {device : DeviceId}
    {next : DeviceState → Service PlatformState α}
    (hnext : ∀ d, (next d p.state).2.forwarding = p.state.forwarding) :
    (p.perform call (.check (·.installed device) >>= next)).2.state.forwarding
      = p.state.forwarding := by
  cases hrefusal : p.deviceRefusal? call device with
  | some error =>
      rw [Platform.perform_of_deviceRefusal next hrefusal]
      rfl
  | none =>
      obtain ⟨d, -, hservice⟩ := Platform.perform_of_installed next hrefusal
      rw [hservice]
      exact hnext d

/-- Where a service keeps the configuration, going on with its answer concerns no handle. -/
theorem conclude_keeps {α : Type} {accept : α → Workspace → Answer × Workspace}
    {outcome : Except PlatformError α × Platform}
    (hplatform : ∀ a w, (accept a w).2.platform = w.platform)
    (hhandle : ∀ a w, (accept a w).2.handle? = w.handle?)
    (hservice : outcome.2.state.forwarding = w.forwarding) :
    (w.conclude accept outcome).2.forwarding = w.forwarding
      ∧ (w.conclude accept outcome).2.handle? = w.handle? := by
  refine ⟨?_, ?_⟩
  · show (w.conclude accept outcome).2.platform.state.forwarding = _
    rw [conclude_platform hplatform]
    exact hservice
  · obtain ⟨result, p⟩ := outcome
    cases result with
    | error error => rfl
    | ok a => exact hhandle a _

/-- Requests that are not about forwarding do not concern any handle. -/
theorem ask_keeps {request : Request} (h : ∀ action, request ≠ .forwarding action) :
    (w.ask request).2.forwarding = w.forwarding ∧ (w.ask request).2.handle? = w.handle? := by
  cases request with
  | readGroups | writeGroup | writeAllGroups | clearGroups | openRules =>
      exact conclude_keeps (fun _ _ => rfl) (fun _ _ => rfl)
        (forwarding_perform_device fun _ => rfl)
  | openCursor session cursor order =>
      -- no call is made where the session is not open
      rw [ask]
      cases w.session? session with
      | none => exact ⟨rfl, rfl⟩
      | some session =>
          exact conclude_keeps (fun _ _ => rfl) (fun _ _ => rfl)
            (forwarding_perform_device fun _ => rfl)
  | readRule cursor =>
      cases hopen : w.cursor? cursor with
      | none =>
          simp only [ask, hopen, and_self]
      | some opened =>
          rw [ask_readRule hopen, opened.next_snd]
          exact ⟨rfl, rfl⟩
  | forwarding action => exact absurd rfl (h action)

/-- A plan that has not committed has done nothing to the configuration. -/
theorem forwarding_planApplied {configurator : Configurator} {plan : ForwardingPlan}
    {readback : Readback} {out : Sink}
    (hcount : (w.undergo (.planApplied configurator plan readback out)).forwarding.commits
      = w.forwarding.commits) :
    (w.undergo (.planApplied configurator plan readback out)).forwarding = w.forwarding := by
  obtain ⟨outcome, made, f, world, hrun, hends, hafter⟩ :=
    apply_ends plan readback (World.over_self (.start w.platform out)) feasible_steps
  have hafterwards :
      (w.undergo (.planApplied configurator plan readback out)).forwarding = f := by
    show (configurator.apply plan readback _).2.platform.state.forwarding = f
    rw [Configurator.apply_eq hrun, hafter.platform, Platform.after_forwarding]
  obtain ⟨done, rest, hreached⟩ := hends.reached
  rw [hafterwards] at hcount ⊢
  by_cases hcommit : .commit ∈ done
  · -- one commit more is never the same count
    have hmore : f.commits = w.forwarding.commits + 1 := (hreached.committed hcommit).commits
    rw [hcount] at hmore
    exact absurd (left_eq_add.mp hmore) (by decide)
  · exact hreached.uncommitted hcommit

/-- Keeping something under a name matters to the owner of that name. -/
theorem Moves.of_keep {other : HandleName} {c : Clients} {handle : Option ForwardingHandle}
    {w' : Workspace} (same : w'.forwarding = w.forwarding)
    (hhandle : w'.handle? = (c.keep other handle).handle?) (hc : c.handle? = w.handle?)
    (howner : w'.handle? name = handle → w.Moves name occurrence w') :
    w.Moves name occurrence w' := by
  by_cases hsame : name = other
  · subst hsame
    exact howner ((congrFun hhandle name).trans Clients.handle?_keep_self)
  · refine .idle same ((congrFun hhandle name).trans ?_)
    rw [Clients.handle?_keep_of_ne hsame, hc]

/-- What the owner of a handle sees of the action of a client that spares it. -/
theorem moves_action {action : ClientAction}
    (h : w.Spares name (.asked (.forwarding action))) :
    w.Moves name (.asked (.forwarding action)) (w.undergo (.asked (.forwarding action))) := by
  have hdoes := w.clients.does_step action
  -- the platform and the handles afterwards are those of the clients
  have hforwarding : (w.undergo (.asked (.forwarding action))).forwarding
      = (w.clients.step action).2.forwarding := rfl
  have hhandle : (w.undergo (.asked (.forwarding action))).handle?
      = (w.clients.step action).2.handle? := rfl
  obtain ⟨⟨answer, c⟩, hstep⟩ : ∃ stepped, w.clients.step action = stepped := ⟨_, rfl⟩
  rw [hstep] at hdoes hforwarding hhandle
  cases hdoes with
  | unknown absent => exact .idle hforwarding (congrFun hhandle name)
  | refused calls error => exact .idle hforwarding (congrFun hhandle name)
  | answered other lif value => exact .idle hforwarding (congrFun hhandle name)
  | opened other => exact .of_keep hforwarding hhandle rfl fun held => .opened hforwarding held
  | released other => exact .of_keep hforwarding hhandle rfl fun held => .gone hforwarding held
  | unreleased other error =>
      exact .of_keep hforwarding hhandle rfl fun held => .gone hforwarding held
  | @granted other op handle f staged held grants =>
      have haccepted : (w.clients.step (.operate other op)).1 = .accepted :=
        congrArg Prod.fst hstep
      by_cases hsame : other = name
      · subst hsame
        exact .worked (granted?_eq_some.mpr ⟨rfl, haccepted⟩)
      · -- another handle is granted nothing but structural changes, which are its own
        obtain ⟨hcommit, htuning⟩ := h.1 _ (accepted?_eq_some.mpr ⟨rfl, haccepted⟩) hsame
        have hkept : f = w.forwarding := by
          cases grants with
          | clear | configureDomain | configureLif | assignAddressSpace | attach => rfl
          | commit => cases hcommit
          | setMtu | setFrameType | setRateLimit => cases htuning
        exact .idle (hforwarding.trans hkept)
          ((congrFun hhandle name).trans (Clients.handle?_keep_of_ne (Ne.symm hsame)))

/-- **There is nothing else for the owner of a handle to see.** -/
theorem moves_undergo (h : w.Spares name occurrence) :
    w.Moves name occurrence (w.undergo occurrence) := by
  cases occurrence with
  | asked request =>
      by_cases hforwarding : ∃ action, request = .forwarding action
      · obtain ⟨action, rfl⟩ := hforwarding
        exact moves_action h
      · obtain ⟨hkept, hhandles⟩ := w.ask_keeps (not_exists.mp hforwarding)
        exact .idle hkept (congrFun hhandles name)
  | dropped session =>
      have hdrop : (w.drop session).forwarding = w.forwarding
          ∧ (w.drop session).handle? = w.handle? := by
        unfold drop
        split <;> exact ⟨rfl, rfl⟩
      exact .idle hdrop.1 (congrFun hdrop.2 name)
  | presenceSet | ruleAdded | faultInjected | faultsCleared | callsCleared => exact .idle rfl rfl
  | commandsRun device commands out =>
      exact .idle (sameButGroups_run device commands (.start w.platform out)).forwarding rfl
  | searched queue dest devices out =>
      have hkept := CrossReference.search_keeps queue dest devices (.start w.platform out)
      exact .idle (congrArg PlatformState.forwarding hkept.state) rfl
  | planApplied configurator plan readback out =>
      exact .idle (forwarding_planApplied (h.2 rfl)) rfl

/-! ## §4. Relations between the committed tables and a copy. -/

/-- The committed tables are in a relation with themselves and with the copy of a handle, if the
handle is open. -/
structure Tied (R : ForwardingTables → ForwardingTables → Prop) (name : HandleName)
    (w : Workspace) : Prop where
  committed : R w.forwarding.active w.forwarding.active
  staged : ∀ handle, w.handle? name = some handle → R w.forwarding.active handle.staged

variable {R R' : ForwardingTables → ForwardingTables → Prop}

theorem Tied.of_same {w' : Workspace} (h : Tied R name w) (same : w'.forwarding = w.forwarding)
    (hstaged : ∀ handle, w'.handle? name = some handle → R w.forwarding.active handle.staged) :
    Tied R name w' := by
  refine ⟨?_, ?_⟩
  · rw [same]
    exact h.committed
  · rw [same]
    exact hstaged

theorem Tied.grant {op : ForwardingOp} (h : Tied R name w)
    (hgranted : w.granted? name occurrence = some op) (hop : op.Leads R R') :
    Tied R' name (w.undergo occurrence) := by
  obtain ⟨held, staged, hopen, hgrants, hafter⟩ := grants_of_granted? hgranted
  obtain ⟨hactive, hstaged⟩ := hop _ _ _ _ hgrants h.committed (h.staged held hopen)
  refine ⟨hactive, fun other hother => ?_⟩
  obtain rfl := Option.some.inj (hafter.symm.trans hother)
  exact hstaged

theorem Tied.undergo (h : Tied R name w) (hspares : w.Spares name occurrence)
    (hop : ∀ op ∈ w.granted? name occurrence, op.Leads R R) :
    Tied R name (w.undergo occurrence) := by
  cases moves_undergo hspares with
  | idle same handle => exact h.of_same same (handle ▸ h.staged)
  | opened same handle =>
      -- a new copy is the committed tables
      refine h.of_same same fun held hheld => ?_
      obtain rfl := Option.some.inj (handle.symm.trans hheld)
      exact h.committed
  | gone same handle =>
      refine h.of_same same fun held hheld => ?_
      rw [handle] at hheld
      cases hheld
  | worked granted => exact h.grant granted (hop _ granted)

/-- **What every operation that a handle is granted keeps holds after any history in which nobody
else commits or tunes.** -/
theorem Tied.history (h : Tied R name w) (hleft : LeftTo name w occurrences)
    (hops : ∀ op ∈ granted name w occurrences, op.Leads R R) :
    Tied R name (w.history occurrences) := by
  induction occurrences generalizing w with
  | nil => exact h
  | cons occurrence occurrences ih =>
      have hfirst : Tied R name (w.undergo occurrence) :=
        h.undergo hleft.1 fun op hop =>
          hops op (List.mem_append_left _ (Option.mem_toList.mpr hop))
      exact ih hfirst hleft.2 fun op hop => hops op (List.mem_append_right _ hop)

end Workspace

end FlowProcessor
