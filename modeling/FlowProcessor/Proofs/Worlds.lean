/-
  FlowProcessor.Proofs.Worlds — WHAT AN ACTION DOES TO A WORLD.

  A run is decided by its platform and by its output: logging always succeeds, a call succeeds or
  fails as the platform answers, and writing fails only where the output comes to an end.
  `World.Over` is what carries this from one action of a run to the next.

    • `writeLine_over`             — writing a line fails only on an output that is not endless
    • `call_of_ok`, `call_of_error` — a call does what the platform does
    • `serve_eq` — what exactly becomes of a world, its log included
    • `bind_eq_ok`, `call_eq_ok` — what a run that has succeeded must have done
    • `Run.Keeps` — a run that leaves everything but the log alone, whatever comes of it
    • `split_unique` — a sequence has one first failure
-/
import FlowProcessor.Run

namespace FlowProcessor

/-! ## §1. Outputs. -/

namespace Sink

/-- The output has taken a text as a whole, so that nothing of it is held back. -/
structure Took (out : Sink) (text : String) (out' : Sink) : Prop where
  text : out'.text = out.text ++ text
  stuck : out'.stuck = out.stuck

variable {out out' out'' : Sink} {text more : String} {holds : Nat → Bool}

theorem Took.nothing (out : Sink) : out.Took "" out := ⟨String.append_empty.symm, rfl⟩

theorem Took.trans (h : out.Took text out') (h' : out'.Took more out'') :
    out.Took (text ++ more) out'' :=
  ⟨by rw [h'.text, h.text, String.append_assoc], h'.stuck.trans h.stuck⟩

/-- An endless output takes every text. -/
theorem put_of_endless (h : out.room = none) :
    out.put text holds = (.ok (), { out with text := out.text ++ text }) := by
  unfold put
  rw [h]

/-- What is handed over without an error has been taken. -/
theorem took_of_put (h : out.put text holds = (.ok (), out')) : out.Took text out' := by
  unfold put at h
  split at h
  · obtain ⟨-, rfl⟩ := Prod.mk.inj h
    exact ⟨rfl, rfl⟩
  · split at h
    · obtain ⟨-, rfl⟩ := Prod.mk.inj h
      exact ⟨rfl, rfl⟩
    · cases h

/-- Only a limited output does not take a text; where it is cut tells whether the rest is held
back. -/
theorem put_eq_error {error : FileError} (h : out.put text holds = (.error error, out')) :
    ∃ room, out.room = some room ∧ out'.stuck = (out.stuck || holds room) := by
  unfold put at h
  split at h
  · cases h
  · rename_i room hroom
    split at h
    · cases h
    · obtain ⟨-, rfl⟩ := Prod.mk.inj h
      exact ⟨room, hroom, rfl⟩

/-- Writing nothing always succeeds and changes nothing. -/
theorem write_empty (out : Sink) : out.write "" = (.ok (), out) := by
  obtain ⟨text, room, stuck⟩ := out
  cases room with
  | none => simp [write, put]
  | some room => simp [write, put]

/-- An endless output takes everything that is written. -/
theorem write_of_endless (h : out.room = none) :
    out.write text = (.ok (), { out with text := out.text ++ text }) :=
  put_of_endless h

/-- A text that fits is taken. -/
theorem write_of_fits {room : Nat} (h : out.room = some room) (hfits : text.length ≤ room) :
    out.write text = (.ok (), ⟨out.text ++ text, some (room - text.length), out.stuck⟩) := by
  unfold write put
  rw [h]
  exact if_pos hfits

/-- One that does not is refused. -/
theorem write_of_full {room : Nat} (h : out.room = some room) (hfull : room < text.length) :
    ∃ out', out.write text = (.error .closed, out') := by
  unfold write put
  rw [h]
  exact ⟨_, if_neg (Nat.not_le.mpr hfull)⟩

theorem took_of_write (h : out.write text = (.ok (), out')) : out.Took text out' := took_of_put h

/-- An output that holds nothing back is flushed. -/
theorem flush_eq_ok : out.flush = .ok () ↔ out.stuck = false := by
  unfold flush
  cases out.stuck <;> simp

end Sink

/-! ## §2. Worlds over a platform. -/

/-- The world has that platform, and its output takes everything if it is to be endless. -/
structure World.Over (w : World) (p : Platform) (endless : Prop) : Prop where
  platform : w.platform = p
  unlimited : endless → w.out.room = none

/-- Any world is over its own platform. -/
theorem World.over_self (w : World) : w.Over w.platform (w.out.room = none) := ⟨rfl, id⟩

namespace Run

variable {α β : Type} {w w' : World} {p q : Platform} {endless : Prop}

/-! ## §3. Sequences. -/

theorem bind_of_ok {run : Run α} {next : α → Run β} {a : α} (h : run w = (.ok a, w')) :
    (run >>= next) w = next a w' := by
  show Run.bind run next w = next a w'
  simp only [Run.bind, h]

theorem bind_of_error {run : Run α} {next : α → Run β} {error : ToolError}
    (h : run w = (.error error, w')) : (run >>= next) w = (.error error, w') := by
  show Run.bind run next w = (.error error, w')
  simp only [Run.bind, h]

/-! ## §4. Single actions. -/

section Write

variable {text : String} {holds : Nat → Bool} {out : Sink}

theorem put_of_ok (h : w.out.put text holds = (.ok (), out)) :
    Run.put text holds w = (.ok (), { w with out := out }) := by
  unfold Run.put
  rw [h]

theorem put_of_error {error : FileError} (h : w.out.put text holds = (.error error, out)) :
    Run.put text holds w = (.error (.output error), { w with out := out }) := by
  unfold Run.put
  rw [h]

theorem write_of_ok (h : w.out.write text = (.ok (), out)) :
    Run.write text w = (.ok (), { w with out := out }) :=
  put_of_ok h

theorem write_of_error {error : FileError} (h : w.out.write text = (.error error, out)) :
    Run.write text w = (.error (.output error), { w with out := out }) :=
  put_of_error h

end Write

/-- Writing a line leaves the platform alone, and fails only where the output can come to an end.
What is not taken of a line that was put together is held back. -/
theorem writeLine_over (fixed : Bool) (line : String) (h : w.Over p endless) :
    ∃ w', w'.Over p endless ∧
      (Run.writeLine fixed line w = (.ok (), w')
        ∨ ¬ endless ∧ (fixed = false → w'.out.stuck = true)
          ∧ ∃ error, Run.writeLine fixed line w = (.error (.output error), w')) := by
  obtain ⟨⟨result, out⟩, hput⟩ :
    ∃ put, w.out.put (line ++ "\n") (fun _ => !fixed) = put := ⟨_, rfl⟩
  cases result with
  | ok u =>
      refine ⟨{ w with out := out }, ⟨h.platform, fun hendless => ?_⟩, .inl (put_of_ok hput)⟩
      -- an output without a limit does not get one
      have hroom := h.unlimited hendless
      obtain ⟨-, rfl⟩ := Prod.mk.inj ((Sink.put_of_endless hroom).symm.trans hput)
      exact hroom
  | error error =>
      obtain ⟨room, hroom, hstuck⟩ := Sink.put_eq_error hput
      -- an output that has a limit was not to be endless
      have hlimited : ¬ endless := fun hendless => by
        rw [h.unlimited hendless] at hroom
        cases hroom
      refine ⟨{ w with out := out }, ⟨h.platform, fun hendless => absurd hendless hlimited⟩,
        .inr ⟨hlimited, ?_, error, put_of_error hput⟩⟩
      rintro rfl
      exact hstuck.trans (Bool.or_true _)

theorem log_over (event : Event) (h : w.Over p endless) :
    ∃ w', Run.log event w = (.ok (), w') ∧ w'.Over p endless :=
  ⟨w.note event, rfl, h.platform, h.unlimited⟩

variable {service : Platform → Except PlatformError α × Platform}
variable (cause : PlatformError → ToolError)

theorem call_of_ok {a : α} (h : w.Over p endless) (hservice : service p = (.ok a, q)) :
    ∃ w', Run.call service cause w = (.ok a, w') ∧ w'.Over q endless := by
  refine ⟨(w.serve service).2, ?_, ?_, h.unlimited⟩
  · have hfst : (w.serve service).1 = .ok a := by rw [World.serve_fst, h.platform, hservice]
    rw [Run.call, ← Prod.eta (w.serve service), hfst]
  · rw [World.serve_platform, h.platform, hservice]

theorem call_of_error {error : PlatformError} (h : w.Over p endless)
    (hservice : service p = (.error error, q)) :
    ∃ w', Run.call service cause w = (.error (cause error), w') ∧ w'.Over q endless := by
  refine ⟨(w.serve service).2, ?_, ?_, h.unlimited⟩
  · have hfst : (w.serve service).1 = .error error := by
      rw [World.serve_fst, h.platform, hservice]
    rw [Run.call, ← Prod.eta (w.serve service), hfst]
  · rw [World.serve_platform, h.platform, hservice]

end Run

/-! ## §5. The whole effect of a call. -/

/-- The world after a call: the platform it leaves, and one more event. -/
def World.afterCall (w : World) (platform : Platform) (call : Call) : World :=
  { w with platform := platform, log := w.log ++ [⟨w.span, .called call⟩] }

section AfterCall

variable {α : Type} {w : World} {q : Platform} {call : Call}
variable {service : Platform → Except PlatformError α × Platform}

/-- A service that makes one call logs it once. -/
theorem World.serve_eq {answer : Except PlatformError α}
    (hservice : service w.platform = (answer, q)) (hcalls : q.calls = w.platform.calls ++ [call]) :
    w.serve service = (answer, w.afterCall q call) := by
  have hdrop : q.calls.drop w.platform.calls.length = [call] := by
    rw [hcalls, List.drop_left]
  unfold World.serve
  rw [hservice]
  simp only [hdrop, List.map_cons, List.map_nil, World.afterCall]

variable (cause : PlatformError → ToolError)

theorem Run.call_eq_afterCall {a : α} (hservice : service w.platform = (.ok a, q))
    (hcalls : q.calls = w.platform.calls ++ [call]) :
    Run.call service cause w = (.ok a, w.afterCall q call) := by
  unfold Run.call
  rw [World.serve_eq hservice hcalls]

theorem Run.call_eq_afterCall_of_error {error : PlatformError}
    (hservice : service w.platform = (.error error, q))
    (hcalls : q.calls = w.platform.calls ++ [call]) :
    Run.call service cause w = (.error (cause error), w.afterCall q call) := by
  unfold Run.call
  rw [World.serve_eq hservice hcalls]

end AfterCall

/-- A span marks the events inside of it and nothing else. -/
theorem Run.within_eq {α : Type} {run : Run α} {span : Span} {w after : World}
    {result : Except ToolError α} (h : run { w with span := some span } = (result, after)) :
    Run.within span run w = (result, { after with span := w.span }) := by
  unfold Run.within
  rw [h]

/-! ## §6. Runs that have succeeded. -/

namespace Run

variable {α β : Type} {w w' : World}

theorem bind_eq_ok {run : Run α} {next : α → Run β} {b : β}
    (h : (run >>= next) w = (.ok b, w')) :
    ∃ a between, run w = (.ok a, between) ∧ next a between = (.ok b, w') := by
  change Run.bind run next w = (.ok b, w') at h
  obtain ⟨⟨result, between⟩, hrun⟩ : ∃ ran, run w = ran := ⟨_, rfl⟩
  cases result with
  | ok a =>
      rw [Run.bind, hrun] at h
      exact ⟨a, between, hrun, h⟩
  | error error =>
      -- the sequence would have failed with the same error
      rw [Run.bind, hrun] at h
      cases h

/-- A call that has succeeded is one that the platform has answered. -/
theorem call_eq_ok {service : Platform → Except PlatformError α × Platform}
    {cause : PlatformError → ToolError} {a : α} (h : Run.call service cause w = (.ok a, w')) :
    service w.platform = (.ok a, w'.platform) := by
  obtain ⟨⟨answer, served⟩, hserve⟩ : ∃ served, w.serve service = served := ⟨_, rfl⟩
  have hanswer : (service w.platform).1 = answer := by
    rw [← World.serve_fst, hserve]
  have hplatform : (service w.platform).2 = served.platform := by
    rw [← World.serve_platform, hserve]
  rw [Run.call, hserve] at h
  cases answer with
  | ok a' =>
      obtain ⟨ha, rfl⟩ := Prod.mk.inj h
      obtain rfl := Except.ok.inj ha
      rw [← Prod.eta (service w.platform), hanswer, hplatform]
  | error error => cases h

theorem within_eq_ok {run : Run α} {span : Span} {a : α}
    (h : Run.within span run w = (.ok a, w')) :
    ∃ after, run { w with span := some span } = (.ok a, after) := by
  obtain ⟨⟨result, after⟩, hrun⟩ : ∃ ran, run { w with span := some span } = ran := ⟨_, rfl⟩
  rw [within_eq hrun] at h
  obtain ⟨rfl, -⟩ := Prod.mk.inj h
  exact ⟨after, hrun⟩

end Run

/-! ## §7. Runs that only look. -/

/-- Calls and events have been logged, and nothing else has happened. -/
structure World.Unchanged (w w' : World) : Prop where
  state : w'.platform.state = w.platform.state
  faults : w'.platform.faults = w.platform.faults
  out : w'.out = w.out

theorem World.Unchanged.refl (w : World) : w.Unchanged w := ⟨rfl, rfl, rfl⟩

theorem World.Unchanged.trans {w w' w'' : World} (h : w.Unchanged w') (h' : w'.Unchanged w'') :
    w.Unchanged w'' :=
  ⟨h'.state.trans h.state, h'.faults.trans h.faults, h'.out.trans h.out⟩

namespace Run

variable {α β : Type}

/-- The run leaves everything but the log alone, whether it succeeds or fails. -/
def Keeps (run : Run α) : Prop := ∀ w : World, w.Unchanged (run w).2

theorem Keeps.unchanged {run : Run α} (h : run.Keeps) {w w' : World} {result : Except ToolError α}
    (hrun : run w = (result, w')) : w.Unchanged w' := by
  have hw := h w
  rw [hrun] at hw
  exact hw

theorem keeps_pure (a : α) : (Run.pure a).Keeps := fun w => .refl w

theorem keeps_log (event : Event) : (Run.log event).Keeps := fun _ => ⟨rfl, rfl, rfl⟩

theorem Keeps.bind {run : Run α} {next : α → Run β} (h : run.Keeps) (hnext : ∀ a, (next a).Keeps) :
    (run >>= next).Keeps := by
  intro w
  have hrun := h w
  show w.Unchanged (Run.bind run next w).2
  unfold Run.bind
  cases hresult : run w with
  | mk result between =>
      rw [hresult] at hrun
      cases result with
      | ok a => exact hrun.trans (hnext a between)
      | error error => exact hrun

/-- A call keeps everything if all that its service does to a platform is to log it. -/
theorem keeps_call {service : Platform → Except PlatformError α × Platform}
    {cause : PlatformError → ToolError}
    (h : ∀ p : Platform, ∃ call, (service p).2 = p.record call) :
    (Run.call service cause).Keeps := by
  intro w
  obtain ⟨call, hcall⟩ := h w.platform
  -- the answer decides how the run goes on, but not what has become of the world
  have hserve : w.Unchanged (w.serve service).2 := by
    refine ⟨?_, ?_, w.serve_out service⟩
    · rw [World.serve_platform, hcall]
      rfl
    · rw [World.serve_platform, hcall]
      rfl
  unfold Run.call
  cases hresult : w.serve service with
  | mk answer served =>
      rw [hresult] at hserve
      cases answer with
      | ok a => exact hserve
      | error error => exact hserve

theorem Keeps.within {run : Run α} (h : run.Keeps) (span : Span) :
    (Run.within span run).Keeps := by
  intro w
  have hrun := h { w with span := some span }
  exact ⟨hrun.state, hrun.faults, hrun.out⟩

end Run

/-! ## §8. The first failure. -/

/-- What a sequence has in front of the first element with a property is unique, and so is that
element. -/
theorem split_unique {α : Type} {P : α → Prop} {xs xs' ys ys' : List α} {x x' : α}
    (h : xs ++ x :: ys = xs' ++ x' :: ys') (hxs : ∀ a ∈ xs, ¬ P a) (hx : P x)
    (hxs' : ∀ a ∈ xs', ¬ P a) (hx' : P x') : xs = xs' ∧ x = x' := by
  induction xs generalizing xs' with
  | nil =>
      cases xs' with
      | nil => exact ⟨rfl, (List.cons.inj h).1⟩
      | cons a as =>
          obtain ⟨rfl, -⟩ := List.cons.inj h
          exact absurd hx (hxs' x List.mem_cons_self)
  | cons b bs ih =>
      cases xs' with
      | nil =>
          obtain ⟨rfl, -⟩ := List.cons.inj h
          exact absurd hx' (hxs b List.mem_cons_self)
      | cons a as =>
          obtain ⟨rfl, htail⟩ := List.cons.inj h
          obtain ⟨rfl, hsame⟩ := ih htail (fun c hc => hxs c (List.mem_cons_of_mem _ hc))
            fun c hc => hxs' c (List.mem_cons_of_mem _ hc)
          exact ⟨rfl, hsame⟩

end FlowProcessor
