/-
  FlowProcessor.Platform.Basic — A PLATFORM AND ITS CALLS.

  A platform is a state together with a log of the calls made and a table of the calls that fail.
  Every service goes through `Platform.attend`: the call is logged, whether it succeeds or not, and a
  registered fault answers for the service.  A service that comes to work can check and change
  things in any order, and can refuse at any point; what it did until then stays done.

    • `Service`          — the work of a service: checks, changes, and refusals
    • `Platform.attend`  — a call, whatever its service answers
    • `Platform.perform` — a call whose service works on the state of the platform
-/
import FlowProcessor.Platform.Call
import FlowProcessor.Platform.State

namespace FlowProcessor

/-! ## §1. Services. -/

/-- The work of a service on some state.  It answers or refuses, and leaves the state it has come
to in either case. -/
def Service (σ α : Type) : Type := σ → Except PlatformError α × σ

namespace Service

variable {σ α β : Type}

/-- Answers without looking at the state. -/
def pure (a : α) : Service σ α := fun s => (.ok a, s)

/-- Goes on with the answer of some work, unless this was refused. -/
def bind (work : Service σ α) (next : α → Service σ β) : Service σ β := fun s =>
  match work s with
  | (.ok a, s) => next a s
  | (.error error, s) => (.error error, s)

instance : Monad (Service σ) where
  pure := pure
  bind := bind

/-- Looks at the state, and refuses where it is not as it has to be. -/
def check (question : σ → Except PlatformError α) : Service σ α := fun s => (question s, s)

/-- Refuses with an error unless a condition holds. -/
def require (holds : σ → Bool) (error : PlatformError) : Service σ Unit :=
  check fun s => if holds s then .ok () else .error error

/-- Changes the state. -/
def change (f : σ → σ) : Service σ Unit := fun s => (.ok (), f s)

end Service

/-! ## §2. Platforms and calls. -/

/-- A platform with its call log, oldest call first, and its faults. -/
structure Platform where
  state : PlatformState
  calls : List Call
  faults : FaultTable

namespace Platform

/-- A platform in a given state, without calls and faults. -/
def ofState (state : PlatformState) : Platform := ⟨state, [], .empty⟩

/-- A platform of four installed devices with empty tables. -/
def initial : Platform := .ofState .initial

/-- Adds a call to the log. -/
def record (p : Platform) (call : Call) : Platform := { p with calls := p.calls ++ [call] }

/-- Makes a call.  It is logged; a fault that is registered for it is answered as `refused` says, and
otherwise the service works on the state. -/
def attend {β : Type} (p : Platform) (call : Call) (refused : PlatformError → β)
    (service : PlatformState → β × PlatformState) : β × Platform :=
  match p.faults.find? call with
  | some error => (refused error, p.record call)
  | none =>
      match service p.state with
      | (answer, state) => (answer, { p.record call with state := state })

/-- Makes a call whose service works on the state of the platform and on nothing else. -/
def perform {α : Type} (p : Platform) (call : Call) (service : Service PlatformState α) :
    Except PlatformError α × Platform :=
  p.attend call .error service

theorem attend_calls {β : Type} (p : Platform) (call : Call) (refused : PlatformError → β)
    (service : PlatformState → β × PlatformState) :
    (p.attend call refused service).2.calls = p.calls ++ [call] := by
  unfold attend
  split <;> rfl

/-- Makes every later call of this kind fail with an error. -/
def injectFault (p : Platform) (call : Call) (error : PlatformError) : Platform :=
  { p with faults := p.faults.insert call error }

/-- Lets every call succeed again that the state allows. -/
def clearFaults (p : Platform) : Platform := { p with faults := .empty }

/-- Forgets the calls made so far. -/
def clearCalls (p : Platform) : Platform := { p with calls := [] }

/-- Marks a device as installed or absent. -/
def setPresent (p : Platform) (device : DeviceId) (present : Bool) : Platform :=
  { p with state := p.state.setPresent device present }

/-- Appends a rule to the rule table of a device. -/
def addRule (p : Platform) (device : DeviceId) (rule : Rule) : Platform :=
  { p with state := p.state.addRule device rule }

end Platform

/-- The device in a slot, or the error of every call that addresses an absent one. -/
def PlatformState.installed (s : PlatformState) (device : DeviceId) :
    Except PlatformError DeviceState :=
  match s.device? device with
  | some d => .ok d
  | none => .error (.noDevice device)

end FlowProcessor
