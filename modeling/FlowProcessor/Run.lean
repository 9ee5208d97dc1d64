/-
  FlowProcessor.Run — RUNS OVER A PLATFORM.

  A run works on a world: a platform, an output and a log.  It can fail at any point; what it did
  to the world before stays done.

    • `Sink`        — output, which may come to an end
    • `Sink.flush`  — whether it has taken everything, but for what was refused as a whole
    • `World.serve` — a call of the platform, with its entry in the log
    • `Run`         — a computation that changes the world and either answers or fails
-/
import FlowProcessor.Event
import FlowProcessor.Platform.Basic

namespace FlowProcessor

/-! ## §1. Output. -/

/-- An output: the text it has taken so far, and how many characters it still takes where there is
a limit.  A line that is put together from pieces is handed over once it is complete; what is not
taken of it then is held back.  All that the tools write is ASCII, so that a character is a byte. -/
structure Sink where
  text : String
  room : Option Nat
  /-- Whether something is held back. -/
  stuck : Bool
  deriving DecidableEq, Repr

namespace Sink

/-- An output that takes so many characters, or any number of them. -/
def ofRoom (room : Option Nat) : Sink := ⟨"", room, false⟩

/-- An output without limit. -/
def unlimited : Sink := ofRoom none

/-- An output that fails after so many characters. -/
def limited (room : Nat) : Sink := ofRoom (some room)

/-- Hands over a text.  Of a text that does not fit the beginning is taken; `holds` tells whether
the rest of a text that is cut there is held back. -/
def put (s : Sink) (text : String) (holds : Nat → Bool) : Except FileError Unit × Sink :=
  match s.room with
  | none => (.ok (), { s with text := s.text ++ text })
  | some room =>
      if text.length ≤ room then
        (.ok (), ⟨s.text ++ text, some (room - text.length), s.stuck⟩)
      else
        (.error .closed,
          ⟨s.text ++ String.ofList (text.toList.take room), some 0, s.stuck || holds room⟩)

/-- Whether a text is cut in front of an empty line.  Such a line is a single piece, which is handed
over as it is. -/
def atEmptyLine (text : List Char) (cut : Nat) : Bool :=
  (text.take cut).getLast?.all (· = '\n') && text[cut]? = some '\n'

/-- Writes lines that are put together from pieces. -/
def write (s : Sink) (text : String) : Except FileError Unit × Sink :=
  s.put text fun cut => !atEmptyLine text.toList cut

/-- Hands over what is held back.  An output that did not take it does not take it now either. -/
def flush (s : Sink) : Except FileError Unit := if s.stuck then .error .closed else .ok ()

end Sink

/-! ## §2. Worlds and runs. -/

/-- What a run works on. -/
structure World where
  platform : Platform
  out : Sink
  /-- The log so far, oldest entry first. -/
  log : List LogEntry
  /-- The span that the run is in. -/
  span : Option Span

namespace World

/-- A platform with an output, before anything is logged. -/
def start (platform : Platform) (out : Sink) : World := ⟨platform, out, [], none⟩

/-- Adds an event to the log. -/
def note (w : World) (event : Event) : World := { w with log := w.log ++ [⟨w.span, event⟩] }

/-- Makes a call of the platform; every call it makes is an event. -/
def serve {α : Type} (w : World) (service : Platform → Except PlatformError α × Platform) :
    Except PlatformError α × World :=
  match service w.platform with
  | (answer, p) =>
      let calls := p.calls.drop w.platform.calls.length
      (answer, { w with
        platform := p
        log := w.log ++ calls.map fun call => ⟨w.span, .called call⟩ })

@[simp] theorem note_platform (w : World) (event : Event) : (w.note event).platform = w.platform :=
  rfl

@[simp] theorem note_out (w : World) (event : Event) : (w.note event).out = w.out := rfl

@[simp] theorem serve_fst {α : Type} (w : World)
    (service : Platform → Except PlatformError α × Platform) :
    (w.serve service).1 = (service w.platform).1 := rfl

@[simp] theorem serve_platform {α : Type} (w : World)
    (service : Platform → Except PlatformError α × Platform) :
    (w.serve service).2.platform = (service w.platform).2 := rfl

@[simp] theorem serve_out {α : Type} (w : World)
    (service : Platform → Except PlatformError α × Platform) :
    (w.serve service).2.out = w.out := rfl

end World

/-- A computation that changes the world and either answers or fails. -/
def Run (α : Type) : Type := World → Except ToolError α × World

namespace Run

variable {α β : Type}

/-- Answers without any effect. -/
def pure (a : α) : Run α := fun w => (.ok a, w)

/-- Goes on with the answer of a run, unless it failed. -/
def bind (run : Run α) (next : α → Run β) : Run β := fun w =>
  match run w with
  | (.ok a, w) => next a w
  | (.error error, w) => (.error error, w)

instance : Monad Run where
  pure := pure
  bind := bind

/-- Makes a call of the platform; `cause` turns its error into the error of the run. -/
def call (service : Platform → Except PlatformError α × Platform)
    (cause : PlatformError → ToolError) : Run α := fun w =>
  match w.serve service with
  | (.ok a, w) => (.ok a, w)
  | (.error error, w) => (.error (cause error), w)

/-- Hands a text over to the output. -/
def put (text : String) (holds : Nat → Bool) : Run Unit := fun w =>
  match w.out.put text holds with
  | (.ok (), out) => (.ok (), { w with out := out })
  | (.error error, out) => (.error (.output error), { w with out := out })

/-- Writes lines that are put together from pieces. -/
def write (text : String) : Run Unit := put text fun cut => !Sink.atEmptyLine text.toList cut

/-- Writes a line.  One that is the same in every run is a single piece. -/
def writeLine (fixed : Bool) (line : String) : Run Unit := put (line ++ "\n") fun _ => !fixed

/-- Logs an event. -/
def log (event : Event) : Run Unit := fun w => (.ok (), w.note event)

/-- Makes a run a span of its own. -/
def within (span : Span) (run : Run α) : Run α := fun w =>
  match run { w with span := some span } with
  | (result, after) => (result, { after with span := w.span })

end Run

end FlowProcessor
