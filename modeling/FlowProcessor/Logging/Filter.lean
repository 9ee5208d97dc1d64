/-
  FlowProcessor.Logging.Filter — WHICH EVENTS ARE SHOWN.

  A filter is a list of directives; of directives for the same events the latest counts.

  An event is shown on its own account or on account of the span it is in.  On its own account the
  most particular of the directives for it decides, leaving out those that ask for a span.  On
  account of its span it is shown as soon as one of the directives for the span allows it.

    • `Filter.read`    — from the text of a filter to its directives
    • `Filter.enables` — whether an event is shown
-/
import FlowProcessor.Logging.Directive

namespace FlowProcessor

/-! ## §1. What a directive is for. -/

/-- Whether the details of a span are as demanded. -/
def DetailTest.admits (t : DetailTest) (details : List (String × String)) : Bool :=
  match details.lookup t.name with
  | none => false
  | some text =>
      match t.value with
      | none => true
      | some value => value.pattern.any (·.accepts text)

namespace Directive

/-- Whether two directives are for the same events. -/
def alike (d e : Directive) : Bool :=
  d.origin == e.origin && d.span == e.span && d.detail == e.detail

/-- Whether a directive asks for the text of a detail. -/
def testsValue (d : Directive) : Bool := (d.detail.bind (·.value)).isSome

/-- Whether an origin is one of those the directive is for. -/
def admitsOrigin (d : Directive) (origin : String) : Bool :=
  match d.origin with
  | none => true
  | some name => name.toList.isPrefixOf origin.toList

/-- Whether the directive is for an event on its own account. -/
def admitsEvent (d : Directive) (event : Event) : Bool :=
  d.span.isNone && !d.testsValue && d.admitsOrigin event.origin
    && (match d.detail with
      | none => true
      | some detail => event.details.contains detail.name)

/-- Whether the directive is for a span. -/
def admitsSpan (d : Directive) (span : Span) : Bool :=
  (d.span.isSome || d.detail.isSome) && d.admitsOrigin span.origin
    && (match d.span with
      | none => true
      | some name => name == span.name)
    && (match d.detail with
      | none => true
      | some detail => detail.admits span.details)

/-- How particular a directive for events is: first the length of the origin counts, then whether
there is a detail, then the name of the detail. -/
def weight (d : Directive) : Nat × Nat × String :=
  (match d.origin with
    | none => 0
    | some name => name.length + 1,
  match d.detail with
    | none => (0, "")
    | some detail => (1, detail.name))

/-- Whether a directive is at least as particular as another. -/
def outweighs (d e : Directive) : Bool :=
  match d.weight, e.weight with
  | (m, i, s), (n, j, t) => n < m || (n == m && (j < i || (j == i && t ≤ s)))

/-- The more particular of two directives. -/
def stronger (best : Option Directive) (d : Directive) : Option Directive :=
  match best with
  | none => some d
  | some b => if d.outweighs b then some d else some b

end Directive

/-! ## §2. Filters. -/

/-- The directives of a log, in the order they were given. -/
structure Filter where
  directives : List Directive
  deriving DecidableEq, Repr

namespace Filter

/-- The filter that shows events up to a severity. -/
def upTo (severity : Severity) : Filter := ⟨[.upTo severity.rank]⟩

/-- Reads a filter, directives separated by commas.  Without any only errors are shown. -/
def read (text : String) : Option Filter :=
  match ((splitAt ',' text.toList).filter fun piece => !piece.isEmpty).mapM Directive.read with
  | none => none
  | some [] => some (upTo .error)
  | some directives => some ⟨directives⟩

/-- The directives that no later one replaces. -/
def settled : List Directive → List Directive
  | [] => []
  | d :: ds => if ds.any d.alike then settled ds else d :: settled ds

/-- The greatest verbosity that was given; a demand on the text of a detail counts as the greatest
of all. -/
def reach (f : Filter) : Nat :=
  if f.directives.any (·.testsValue) then fullVerbosity
  else f.directives.foldl (fun n d => max n d.verbosity) 0

/-- The verbosity for an event on its own account. -/
def eventVerbosity (f : Filter) (event : Event) : Nat :=
  match ((settled f.directives).filter (·.admitsEvent event)).foldl Directive.stronger none with
  | none => 0
  | some d => d.verbosity

/-- The verbosity inside of a span.  A span is only noticed within the reach of the filter. -/
def spanVerbosity (f : Filter) (span : Span) : Nat :=
  if f.reach < span.severity.rank then 0
  else ((settled f.directives).filter (·.admitsSpan span)).foldl (fun n d => max n d.verbosity) 0

/-- Whether an event is shown. -/
def enables (f : Filter) (entry : LogEntry) : Bool :=
  let rank := entry.event.severity.rank
  rank ≤ f.eventVerbosity entry.event
    || (match entry.span with
      | none => false
      | some span => rank ≤ f.spanVerbosity span)

/-- The events that are shown. -/
def shown (f : Filter) (log : List LogEntry) : List Event :=
  (log.filter f.enables).map (·.event)

/-- The filter in force: one that was asked for by name, else the level, else up to `info`. -/
def choose (filter : Option String) (level : String) : Filter :=
  match filter.bind read with
  | some f => f
  | none => upTo ((logLevel? level).getD .info)

end Filter

end FlowProcessor
