/-
  FlowProcessor.Proofs.Platform.Atomicity — A REFUSED CALL CHANGES NOTHING BUT THE LOG.

  Whatever is asked of a platform comes down to one call.  Its service may have changed the state,
  the copy of a handle or the position of a cursor before it refuses; the workspace goes on with
  what the service has left.  That nothing has changed is seen of each service in turn: it makes
  its checks before its first change.

    • `Platform.attend_withFaults` — faults of other calls do not count
    • `atomic_installed`, `atomic_act`, `atomic_advance` — services that check before they change
    • `Workspace.Makes`           — a request comes down to a call of such a service
    • `Workspace.makes_call`      — every request does
    • `ask_atomic`                — any request in any workspace
-/
import FlowProcessor.Platform.Workspace
import FlowProcessor.Proofs.Forwarding.Clients
import FlowProcessor.Proofs.Platform.Queries

namespace FlowProcessor

/-! ## §1. Other faults. -/

namespace Platform

/-- The platform with another fault table. -/
def withFaults (p : Platform) (faults : FaultTable) : Platform := { p with faults := faults }

section Calls

variable {β : Type} (p : Platform) (call : Call) (refused : PlatformError → β)
variable (service : PlatformState → β × PlatformState)

/-- Of the faults, a call looks up its own and no other. -/
theorem attend_withFaults {faults : FaultTable} (h : faults.find? call = p.faults.find? call) :
    (p.withFaults faults).attend call refused service
      = ((p.attend call refused service).1, (p.attend call refused service).2.withFaults faults) := by
  have hlookup : (p.withFaults faults).faults.find? call = p.faults.find? call := h
  -- a call ends with its fault, or as its service does
  cases hfault : p.faults.find? call with
  | some error =>
      rw [attend_of_fault (hlookup.trans hfault), attend_of_fault hfault]
      rfl
  | none =>
      rw [attend_of_admitted (hlookup.trans hfault), attend_of_admitted hfault]
      rfl

theorem attend_faults : (p.attend call refused service).2.faults = p.faults := by
  unfold attend
  split <;> rfl

end Calls

end Platform

/-! ## §2. Services that check before they change. -/

/-- A service that tells what it has looked up. -/
theorem atomic_read {α β : Type} (question : PlatformState → Except PlatformError α) (f : α → β) :
    (Service.check question >>= fun a => Service.pure (f a) : Service PlatformState β).Atomic :=
  (Service.looks_check question).atomic.bind fun _ => Service.succeeds_pure _

/-- A service that is about a device looks for it before anything else. -/
theorem atomic_installed {α : Type} {device : DeviceId} {next : DeviceState → Service PlatformState α}
    (hnext : ∀ d, (next d).Succeeds) :
    (Service.check (·.installed device) >>= next : Service PlatformState α).Atomic :=
  (Service.looks_check _).atomic.bind hnext

/-- A cursor moves on only when there was a rule, and then nothing is left to fail. -/
theorem succeeds_advance : RuleCursor.advance.Succeeds := by
  intro cursor error left hadvance
  cases hrule : cursor.rules[cursor.position]? with
  | none => cases (RuleCursor.advance_of_end hrule).symm.trans hadvance
  | some rule => cases (RuleCursor.advance_of_left hrule).symm.trans hadvance

/-- **A cursor whose read is refused is where it was.** -/
theorem atomic_advance : RuleCursor.advance.Atomic := succeeds_advance.atomic

/-! ## §3. Requests as calls. -/

namespace Workspace

/-- The workspace with another fault table. -/
def withFaults (w : Workspace) (faults : FaultTable) : Workspace :=
  w.on (w.platform.withFaults faults)

/-- What is open once a handle is kept under a name, or nothing. -/
def keepHandle (w : Workspace) (name : HandleName) (handle : Option ForwardingHandle) : Workspace :=
  { w with handle? := (w.clients.keep name handle).handle? }

theorem keepHandle_of_held {w : Workspace} {name : HandleName} {handle : ForwardingHandle}
    (h : w.handle? name = some handle) : w.keepHandle name (some handle) = w :=
  congrArg (fun c : Clients => { w with handle? := c.handle? }) (w.clients.keep_of_held h)

theorem keepCursor_of_open {w : Workspace} {name : CursorName} {cursor : RuleCursor}
    (h : w.cursor? name = some cursor) : w.keepCursor name cursor = w := by
  have hsame : (w.keepCursor name cursor).cursor? = w.cursor? := by
    funext other
    show (if other = name then some cursor else w.cursor? other) = _
    split
    · rename_i heq
      rw [heq, h]
    · rfl
  show { w with cursor? := (w.keepCursor name cursor).cursor? } = w
  rw [hsame]

/-- What is open when a request was refused and nothing has changed: everything but a handle that
is given up. -/
def afterRefusal (w : Workspace) : Request → Workspace
  | .forwarding (.release name) => w.keepHandle name none
  | _ => w

/-- The request comes down to this call.  Whatever the faults are, the answer and what is open
after it are told by what the call answers.  Where the answer is a refusal, of a fault or of the
service, the state and what is open have not changed. -/
inductive Makes (w : Workspace) (request : Request) (call : Call) : Prop
  | intro {β : Type} (refused : PlatformError → β) (service : PlatformState → β × PlatformState)
      (answer : β → Answer) (opened : β → Workspace)
      (asks : ∀ faults b p,
        (w.platform.withFaults faults).attend call refused service = (b, p) →
        (w.withFaults faults).ask request = (answer b, (opened b).on p))
      (faulted : ∀ error, (answer (refused error)).error? = some error
        ∧ opened (refused error) = w.afterRefusal request)
      (atomic : ∀ b state error, service w.platform.state = (b, state) →
        (answer b).error? = some error →
        state = w.platform.state ∧ opened b = w.afterRefusal request) :
      Makes w request call

variable {w : Workspace} {request : Request} {call : Call}

/-- A request to a service that works on the platform alone. -/
theorem makes_of_perform {α : Type} {service : Service PlatformState α} (hatomic : service.Atomic)
    (answer : α → Answer) (opened : α → Workspace) (refusal : PlatformError → Answer)
    (haccepts : ∀ a, (answer a).error? = none)
    (hrefuses : ∀ error, (refusal error).error? = some error)
    (accepted : ∀ faults a p, (w.platform.withFaults faults).perform call service = (.ok a, p) →
      (w.withFaults faults).ask request = (answer a, (opened a).on p))
    (refused : ∀ faults error p,
      (w.platform.withFaults faults).perform call service = (.error error, p) →
      (w.withFaults faults).ask request = (refusal error, (w.afterRefusal request).on p)) :
    w.Makes request call := by
  refine .intro .error service
    (fun | .ok a => answer a | .error error => refusal error)
    (fun | .ok a => opened a | .error _ => w.afterRefusal request) ?_
    (fun error => ⟨hrefuses error, rfl⟩) ?_
  · intro faults result p hcall
    cases result with
    | ok a => exact accepted faults a p hcall
    | error error => exact refused faults error p hcall
  · intro result state error hservice herror
    cases result with
    | ok a => cases (haccepts a).symm.trans herror
    | error refused => exact ⟨hatomic _ _ _ hservice, rfl⟩

/-- Such a request that concludes with what was answered. -/
theorem makes_of_conclude {α : Type} {service : Service PlatformState α} (hatomic : service.Atomic)
    (answer : α → Answer) (keep : α → Workspace → Workspace)
    (hask : ∀ faults, (w.withFaults faults).ask request
      = (w.withFaults faults).conclude (fun a w => (answer a, keep a w))
          ((w.platform.withFaults faults).perform call service))
    (hkeep : ∀ a p, keep a (w.on p) = (keep a w).on p) (haccepts : ∀ a, (answer a).error? = none)
    (hrefusal : w.afterRefusal request = w) : w.Makes request call := by
  refine makes_of_perform hatomic answer (keep · w) .refused haccepts (fun _ => rfl) ?_ ?_
  · intro faults a p hcall
    rw [hask, hcall]
    exact congrArg (Prod.mk (answer a)) (hkeep a p)
  · intro faults error p hcall
    rw [hask, hcall, hrefusal]
    rfl

/-- A cursor goes on from where its read has left it. -/
theorem makes_readRule {name : CursorName} {cursor : RuleCursor}
    (hopen : w.cursor? name = some cursor) :
    w.Makes (.readRule name) (.readRule cursor.device cursor.position) := by
  refine .intro (fun error => (.error error, cursor)) (fun s => (cursor.advance, s))
    (fun read => .ofRead read.1) (fun read => w.keepCursor name read.2) ?_ ?_ ?_
  · intro faults read p hcall
    have hfound : (w.withFaults faults).cursor? name = some cursor := hopen
    have hnext : cursor.next (w.withFaults faults).platform = (read, p) := hcall
    rw [ask_readRule hfound, hnext]
    rfl
  · exact fun error => ⟨rfl, keepCursor_of_open hopen⟩
  · intro read state error hservice herror
    obtain ⟨hadvance, rfl⟩ := Prod.mk.inj hservice
    obtain ⟨answer, left⟩ := read
    cases answer with
    | ok next => cases herror
    | error refusal =>
        obtain rfl := atomic_advance _ _ _ hadvance
        exact ⟨rfl, keepCursor_of_open hopen⟩

/-- A handle is kept as its operation has left it. -/
theorem makes_operate {name : HandleName} {op : ForwardingOp} {handle : ForwardingHandle}
    (hheld : w.handle? name = some handle) :
    w.Makes (.forwarding (.operate name op)) op.call := by
  refine .intro (fun error => (.error error, handle)) (handle.work op)
    (fun ran => .forwarding (.ofResult ran.1)) (fun ran => w.keepHandle name (some ran.2)) ?_ ?_ ?_
  · intro faults ran p hcall
    have hfound : (w.withFaults faults).clients.handle? name = some handle := hheld
    have hoperate : handle.operate op (w.withFaults faults).clients.platform = (ran, p) := hcall
    simp only [ask, Clients.step, hfound, hoperate]
    rfl
  · exact fun error => ⟨rfl, keepHandle_of_held hheld⟩
  · intro ran state error hservice herror
    obtain ⟨⟨answer, draft⟩, hact⟩ :
      ∃ acted, op.act ⟨w.platform.state.forwarding, handle.staged⟩ = acted := ⟨_, rfl⟩
    rw [ForwardingHandle.work, hact] at hservice
    obtain ⟨rfl, rfl⟩ := Prod.mk.inj hservice
    cases answer with
    | ok u => cases herror
    | error refusal =>
        -- the draft at the end is the one the work began with
        obtain rfl := op.atomic_act _ _ _ hact
        exact ⟨rfl, keepHandle_of_held hheld⟩

/-- An action of a client comes down to the call of the action. -/
theorem makes_forwarding {action : ClientAction} (hready : action.ready w) :
    w.Makes (.forwarding action) action.call := by
  cases action with
  | acquire name =>
      refine makes_of_perform (atomic_read (fun s => .ok s.forwarding.active) ForwardingHandle.mk)
        (fun _ => .forwarding .accepted) (fun handle => w.keepHandle name (some handle))
        (fun error => .forwarding (.refused error)) (fun _ => rfl) (fun _ => rfl) ?_ ?_
      all_goals
        intro faults outcome p hcall
        have hopen : (w.withFaults faults).clients.platform.openForwarding = _ := hcall
        simp only [ask, Clients.step, hopen]
        rfl
  | operate name op =>
      obtain ⟨handle, hheld⟩ := Option.isSome_iff_exists.mp hready
      exact makes_operate hheld
  | readRateLimit name lif =>
      -- which handle is open under a name does not depend on the faults
      obtain ⟨handle, hheld⟩ := Option.isSome_iff_exists.mp hready
      have hfound : ∀ faults, (w.withFaults faults).clients.handle? name = some handle :=
        fun _ => hheld
      refine makes_of_perform (atomic_read (ForwardingHandle.committedLif · lif) (·.rateLimit.getD 0))
        (fun value => .forwarding (.limit value)) (fun _ => w)
        (fun error => .forwarding (.refused error)) (fun _ => rfl) (fun _ => rfl) ?_ ?_
      all_goals
        intro faults outcome p hcall
        have hread : handle.readRateLimit lif (w.withFaults faults).clients.platform = _ := hcall
        simp only [ask, Clients.step, hfound, hread]
        rfl
  | release name =>
      obtain ⟨handle, hheld⟩ := Option.isSome_iff_exists.mp hready
      have hfound : ∀ faults, (w.withFaults faults).clients.handle? name = some handle :=
        fun _ => hheld
      refine makes_of_perform (Service.succeeds_pure ()).atomic (fun _ => .forwarding .accepted)
        (fun _ => w.keepHandle name none) (fun error => .forwarding (.refused error))
        (fun _ => rfl) (fun _ => rfl) ?_ ?_
      all_goals
        intro faults outcome p hcall
        have hclose : handle.close (w.withFaults faults).clients.platform = _ := hcall
        simp only [ask, Clients.step, hfound, hclose]
        rfl

/-- **Every request whose call is known comes down to that call.** -/
theorem makes_call (hcall : request.call? w = some call) : w.Makes request call := by
  cases request with
  | readGroups device =>
      obtain rfl := Option.some.inj hcall
      exact makes_of_conclude (atomic_installed fun _ => Service.succeeds_pure _) .groups
        (fun _ w => w) (fun _ => rfl) (fun _ _ => rfl) (fun _ => rfl) rfl
  | writeGroup device _ _ | writeAllGroups device _ =>
      obtain rfl := Option.some.inj hcall
      exact makes_of_conclude (atomic_installed fun _ => Service.succeeds_change _)
        (fun _ => .accepted) (fun _ w => w) (fun _ => rfl) (fun _ _ => rfl) (fun _ => rfl) rfl
  | clearGroups device =>
      obtain rfl := Option.some.inj hcall
      -- clearing is writing a table of empty groups
      exact makes_of_conclude (atomic_installed fun _ => Service.succeeds_change _)
        (fun _ => .accepted) (fun _ w => w)
        (fun faults => show (w.withFaults faults).ask (.writeAllGroups device .empty) = _ from rfl)
        (fun _ _ => rfl) (fun _ => rfl) rfl
  | openRules name device =>
      obtain rfl := Option.some.inj hcall
      exact makes_of_conclude (atomic_installed fun _ => Service.succeeds_pure _)
        (fun _ => .accepted) (fun session w => w.keepSession name session) (fun _ => rfl)
        (fun _ _ => rfl) (fun _ => rfl) rfl
  | openCursor name cursor order =>
      obtain ⟨session, hopen, rfl⟩ := Option.map_eq_some_iff.mp hcall
      have hask : ∀ faults, (w.withFaults faults).ask (.openCursor name cursor order)
          = (w.withFaults faults).conclude (fun opened w => (.accepted, w.keepCursor cursor opened))
            (session.openCursor order (w.platform.withFaults faults)) := by
        intro faults
        have hfound : (w.withFaults faults).session? name = some session := hopen
        simp only [ask, hfound]
        rfl
      exact makes_of_conclude (atomic_installed fun _ => Service.succeeds_pure _)
        (fun _ => .accepted) (fun opened w => w.keepCursor cursor opened) hask (fun _ _ => rfl)
        (fun _ => rfl) rfl
  | readRule name =>
      obtain ⟨cursor, hopen, rfl⟩ := Option.map_eq_some_iff.mp hcall
      exact makes_readRule hopen
  | forwarding action =>
      change (if action.ready w then some action.call else none) = some call at hcall
      split at hcall
      · rename_i hready
        obtain rfl := Option.some.inj hcall
        exact makes_forwarding hready
      · cases hcall

/-! ## §4. What one call can do. -/

theorem handle?_afterRefusal {name : HandleName} (h : request ≠ .forwarding (.release name)) :
    (w.afterRefusal request).handle? name = w.handle? name := by
  unfold afterRefusal
  split
  · rename_i released
    have hne : name ≠ released := by
      rintro rfl
      exact h rfl
    exact if_neg hne
  · rfl

theorem cursor?_afterRefusal : (w.afterRefusal request).cursor? = w.cursor? := by
  unfold afterRefusal
  split <;> rfl

theorem session?_afterRefusal : (w.afterRefusal request).session? = w.session? := by
  unfold afterRefusal
  split <;> rfl

end Workspace

/-- **A request is logged once, as its call.  A fault of this call answers for it; faults of other
calls make no difference.  Where it is refused, for whatever reason, the state, the faults, all
copies of handles and all positions of cursors are as before.** -/
theorem ask_atomic (w : Workspace) (request : Request) (call : Call)
    (hcall : request.call? w = some call) :
    ∃ (answer : Answer) (w' : Workspace), w.ask request = (answer, w')
      ∧ w'.platform.calls = w.platform.calls ++ [call]
      ∧ w'.platform.faults = w.platform.faults
      ∧ (∀ error, w.platform.faults.find? call = some error → answer.error? = some error)
      ∧ (∀ error, answer.error? = some error →
        w'.platform.state = w.platform.state
          ∧ w'.session? = w.session? ∧ w'.cursor? = w.cursor?
          ∧ ∀ name, request ≠ .forwarding (.release name) → w'.handle? name = w.handle? name)
      ∧ ∀ faults : FaultTable, faults.find? call = w.platform.faults.find? call →
        (w.withFaults faults).ask request = (answer, w'.withFaults faults) := by
  obtain ⟨refused, service, answer, opened, asks, faulted, atomic⟩ := Workspace.makes_call hcall
  obtain ⟨⟨b, p⟩, hran⟩ : ∃ ran, w.platform.attend call refused service = ran := ⟨_, rfl⟩
  have hcalls : p.calls = w.platform.calls ++ [call] := by
    rw [← w.platform.attend_calls call refused service, hran]
  have hfaults : p.faults = w.platform.faults := by
    rw [← w.platform.attend_faults call refused service, hran]
  refine ⟨answer b, (opened b).on p, asks w.platform.faults b p hran, hcalls, hfaults, ?_, ?_, ?_⟩
  · intro error hfault
    obtain ⟨rfl, -⟩ := Prod.mk.inj ((Platform.attend_of_fault hfault).symm.trans hran)
    exact (faulted error).1
  · intro error herror
    -- the refusal is that of a fault, or that of the service
    have hkept : p.state = w.platform.state ∧ opened b = w.afterRefusal request := by
      cases hfault : w.platform.faults.find? call with
      | some fault =>
          obtain ⟨rfl, rfl⟩ := Prod.mk.inj ((Platform.attend_of_fault hfault).symm.trans hran)
          exact ⟨rfl, (faulted fault).2⟩
      | none =>
          obtain ⟨⟨b', state⟩, hservice⟩ : ∃ served, service w.platform.state = served := ⟨_, rfl⟩
          obtain ⟨rfl, rfl⟩ :=
            Prod.mk.inj ((Platform.attend_of_served hfault hservice).symm.trans hran)
          exact atomic _ _ _ hservice herror
    obtain ⟨hstate, hopened⟩ := hkept
    rw [hopened]
    exact ⟨hstate, Workspace.session?_afterRefusal, Workspace.cursor?_afterRefusal,
      fun name => Workspace.handle?_afterRefusal⟩
  · intro faults hsame
    refine asks faults b (p.withFaults faults) ?_
    rw [w.platform.attend_withFaults call refused service hsame, hran]

/-- A cursor at the second of two rules, on a platform that refuses some calls. -/
def Workspace.reading (faults : List (Call × PlatformError)) : Workspace :=
  .keepCursor (.idle ⟨.initial, [], ⟨faults⟩⟩) "cursor"
    ⟨0, [⟨"first", 1, ⟨1⟩, ⟨⟨5⟩, true⟩⟩, ⟨"second", 2, ⟨2⟩, ⟨⟨5⟩, true⟩⟩], 1⟩

/-- The read of the second rule is refused: the cursor stays where it is.  That commits are refused
as well makes no difference. -/
theorem ask_atomic_of_faulted_read :
    ∃ (answer : Answer) (w' : Workspace),
      (Workspace.reading [(.commit, .noDevice 0), (.readRule 0 1, .reported .timeout 9)]).ask
        (.readRule "cursor") = (answer, w')
      ∧ answer.error? = some (.reported .timeout 9)
      ∧ w'.platform.calls = [.readRule 0 1]
      ∧ w'.cursor? = (Workspace.reading []).cursor?
      ∧ (Workspace.reading [(.readRule 0 1, .reported .timeout 9)]).ask (.readRule "cursor")
        = (answer, w'.withFaults ⟨[(.readRule 0 1, .reported .timeout 9)]⟩) := by
  obtain ⟨answer, w', hask, hcalls, -, hfault, hrefused, helse⟩ :=
    ask_atomic (.reading [(.commit, .noDevice 0), (.readRule 0 1, .reported .timeout 9)])
      (.readRule "cursor") (.readRule 0 1) (by decide)
  have herror : answer.error? = some (.reported .timeout 9) := hfault _ (by decide)
  exact ⟨answer, w', hask, herror, hcalls, (hrefused _ herror).2.2.1, helse _ (by decide)⟩

end FlowProcessor
