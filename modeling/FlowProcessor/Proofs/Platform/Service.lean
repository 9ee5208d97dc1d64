/-
  FlowProcessor.Proofs.Platform.Service — WHAT A SERVICE DOES, AND A CALL OF IT.

  A service is put together from checks and changes.  A check leaves everything as it is; a change
  is never refused.  So work that makes all its checks before its first change has changed nothing
  where it is refused: this is what has to be seen of each service, and nothing but the order in
  which it goes about its work makes it so.

  A call has three outcomes: a registered fault answers for it, the service refuses it, or it
  succeeds.  Each is one equation about `Platform.perform`, so that no later proof opens it.

  A forwarding run touches the call log and the forwarding state and nothing else; the platform it
  leaves is `Platform.after calls forwarding`.

    • `Service.Atomic` — work that has changed nothing where it is refused
    • `Looks.atomic_bind`, `Atomic.bind` — checks go first, changes go last
    • `perform_of_fault`, `perform_of_refusal`, `perform_of_success` — the three outcomes
    • `after_after` — what is done in two stretches is done in one
-/
import FlowProcessor.Platform.Basic

namespace FlowProcessor

/-! ## §1. Checks and changes. -/

namespace Service

variable {σ α β : Type} {work : Service σ α} {next : α → Service σ β} {s s' : σ}

theorem bind_of_ok {a : α} (h : work s = (.ok a, s')) : (work >>= next) s = next a s' := by
  show Service.bind work next s = next a s'
  rw [Service.bind, h]

theorem bind_of_error {error : PlatformError} (h : work s = (.error error, s')) :
    (work >>= next) s = (.error error, s') := by
  show Service.bind work next s = (.error error, s')
  rw [Service.bind, h]

/-- Work in two parts succeeds if the first part does, and then the second. -/
theorem bind_eq_ok {b : β} (h : (work >>= next) s = (.ok b, s')) :
    ∃ a between, work s = (.ok a, between) ∧ next a between = (.ok b, s') := by
  obtain ⟨⟨answer, between⟩, hwork⟩ : ∃ worked, work s = worked := ⟨_, rfl⟩
  cases answer with
  | ok a => exact ⟨a, between, hwork, (bind_of_ok hwork).symm.trans h⟩
  | error error => cases (bind_of_error hwork).symm.trans h

/-- It is refused in the one part or in the other. -/
theorem bind_eq_error {error : PlatformError} (h : (work >>= next) s = (.error error, s')) :
    work s = (.error error, s')
      ∨ ∃ a between, work s = (.ok a, between) ∧ next a between = (.error error, s') := by
  obtain ⟨⟨answer, between⟩, hwork⟩ : ∃ worked, work s = worked := ⟨_, rfl⟩
  cases answer with
  | ok a => exact .inr ⟨a, between, hwork, (bind_of_ok hwork).symm.trans h⟩
  | error refusal =>
      rw [bind_of_error hwork] at h
      obtain ⟨hrefusal, rfl⟩ := Prod.mk.inj h
      obtain rfl := Except.error.inj hrefusal
      exact .inl hwork

theorem check_eq {question : σ → Except PlatformError α} {answer : Except PlatformError α}
    (h : question s = answer) : check question s = (answer, s) := by
  rw [check, h]

theorem check_eq_ok {question : σ → Except PlatformError α} {a : α}
    (h : check question s = (.ok a, s')) : question s = .ok a ∧ s = s' := Prod.mk.inj h

section Require

variable {holds : σ → Bool} {error : PlatformError} {next : Unit → Service σ β}

theorem require_bind_of_holds (h : holds s = true) :
    (require holds error >>= next) s = next () s := by
  refine bind_of_ok (check_eq ?_)
  rw [if_pos h]

/-- What is required holds, where the work goes on. -/
theorem require_bind_eq_ok {b : β} (h : (require holds error >>= next) s = (.ok b, s')) :
    holds s = true ∧ next () s = (.ok b, s') := by
  obtain ⟨u, between, hrequire, hnext⟩ := bind_eq_ok h
  obtain ⟨hholds, rfl⟩ := check_eq_ok hrequire
  split at hholds
  · rename_i hyes
    exact ⟨hyes, hnext⟩
  · cases hholds

end Require

/-! ## §2. Work that has changed nothing where it is refused. -/

/-- Where the work is refused, the state is what it was. -/
def Atomic (work : Service σ α) : Prop := ∀ s error s', work s = (.error error, s') → s' = s

/-- The work leaves the state alone. -/
def Looks (work : Service σ α) : Prop := ∀ s, (work s).2 = s

/-- The work is never refused. -/
def Succeeds (work : Service σ α) : Prop := ∀ s error s', work s ≠ (.error error, s')

theorem looks_check (question : σ → Except PlatformError α) : (check question).Looks :=
  fun _ => rfl

theorem looks_pure (a : α) : (Service.pure a : Service σ α).Looks := fun _ => rfl

theorem looks_require (holds : σ → Bool) (error : PlatformError) : (require holds error).Looks :=
  looks_check _

theorem succeeds_pure (a : α) : (Service.pure a : Service σ α).Succeeds := fun _ _ _ h => nomatch h

theorem succeeds_change (f : σ → σ) : (change f).Succeeds := fun _ _ _ h => nomatch h

theorem Looks.bind (h : work.Looks) (hnext : ∀ a, (next a).Looks) : (work >>= next).Looks := by
  intro s
  obtain ⟨⟨answer, between⟩, hwork⟩ : ∃ worked, work s = worked := ⟨_, rfl⟩
  obtain rfl : between = s := by rw [← h s, hwork]
  cases answer with
  | ok a => rw [bind_of_ok hwork, hnext]
  | error error => rw [bind_of_error hwork]

theorem Succeeds.bind (h : work.Succeeds) (hnext : ∀ a, (next a).Succeeds) :
    (work >>= next).Succeeds := by
  intro s error s' hboth
  rcases bind_eq_error hboth with hwork | ⟨a, between, -, hrest⟩
  · exact h _ _ _ hwork
  · exact hnext a _ _ _ hrest

theorem Looks.atomic (h : work.Looks) : work.Atomic := by
  intro s error s' hwork
  rw [← h s, hwork]

theorem Succeeds.atomic (h : work.Succeeds) : work.Atomic :=
  fun s error s' hwork => absurd hwork (h s error s')

/-- **A check can be put in front.** -/
theorem Looks.atomic_bind (h : work.Looks) (hnext : ∀ a, (next a).Atomic) :
    (work >>= next).Atomic := by
  intro s error s' hboth
  rcases bind_eq_error hboth with hwork | ⟨a, between, hwork, hrest⟩
  · exact h.atomic s error s' hwork
  · -- what was checked is the state at the beginning
    obtain rfl : between = s := by rw [← h s, hwork]
    exact hnext a between error s' hrest

/-- **A change can be put at the end.** -/
theorem Atomic.bind (h : work.Atomic) (hnext : ∀ a, (next a).Succeeds) :
    (work >>= next).Atomic := by
  intro s error s' hboth
  rcases bind_eq_error hboth with hwork | ⟨a, between, -, hrest⟩
  · exact h s error s' hwork
  · exact absurd hrest (hnext a between error s')

end Service

namespace Platform

/-! ## §3. The outcomes of a call. -/

section Admit

variable {β : Type} {p : Platform} {call : Call} {refused : PlatformError → β}
variable {service : PlatformState → β × PlatformState}

theorem attend_of_fault {error : PlatformError} (h : p.faults.find? call = some error) :
    p.attend call refused service = (refused error, p.record call) := by
  rw [attend, h]

theorem attend_of_admitted (hfault : p.faults.find? call = none) :
    p.attend call refused service
      = ((service p.state).1, { p.record call with state := (service p.state).2 }) := by
  rw [attend, hfault]

theorem attend_of_served {answer : β} {state : PlatformState}
    (hfault : p.faults.find? call = none) (h : service p.state = (answer, state)) :
    p.attend call refused service = (answer, { p.record call with state := state }) := by
  rw [attend_of_admitted hfault, h]

end Admit

section Perform

variable {α : Type} {p : Platform} {call : Call} {error : PlatformError}
variable {service : Service PlatformState α}

theorem perform_of_fault (h : p.faults.find? call = some error) :
    p.perform call service = (.error error, p.record call) :=
  attend_of_fault h

theorem perform_of_admitted (hfault : p.faults.find? call = none) :
    p.perform call service
      = ((service p.state).1, { p.record call with state := (service p.state).2 }) :=
  attend_of_admitted hfault

theorem perform_of_refusal (hfault : p.faults.find? call = none)
    (h : service p.state = (.error error, p.state)) :
    p.perform call service = (.error error, p.record call) :=
  attend_of_served hfault h

theorem perform_of_success {state : PlatformState} {answer : α}
    (hfault : p.faults.find? call = none) (h : service p.state = (.ok answer, state)) :
    p.perform call service = (.ok answer, { p.record call with state := state }) :=
  attend_of_served hfault h

/-- A call whose service only looks is logged, and that is all. -/
theorem perform_snd_of_looks (h : service.Looks) : (p.perform call service).2 = p.record call := by
  cases hfault : p.faults.find? call with
  | some error => rw [perform_of_fault hfault]
  | none =>
      rw [perform_of_admitted hfault, h]
      rfl

end Perform

/-! ## §4. A platform after some calls. -/

/-- The platform after some more calls, with another forwarding state. -/
def after (p : Platform) (calls : List Call) (forwarding : ForwardingState) : Platform :=
  { p with calls := p.calls ++ calls, state := { p.state with forwarding := forwarding } }

variable (p : Platform) (calls more : List Call) (forwarding other : ForwardingState)

@[simp] theorem after_calls : (p.after calls forwarding).calls = p.calls ++ calls := rfl

@[simp] theorem after_faults : (p.after calls forwarding).faults = p.faults := rfl

@[simp] theorem after_forwarding :
    (p.after calls forwarding).state.forwarding = forwarding := rfl

@[simp] theorem after_devices : (p.after calls forwarding).state.devices = p.state.devices := rfl

theorem record_eq_after (call : Call) : p.record call = p.after [call] p.state.forwarding := rfl

@[simp] theorem after_nil : p.after [] p.state.forwarding = p := by
  simp [after]

@[simp] theorem after_after :
    (p.after calls forwarding).after more other = p.after (calls ++ more) other := by
  simp [after, List.append_assoc]

/-- Calls that leave the forwarding state alone leave the whole state alone. -/
@[simp] theorem after_state_self : (p.after calls p.state.forwarding).state = p.state := rfl

end Platform

end FlowProcessor
