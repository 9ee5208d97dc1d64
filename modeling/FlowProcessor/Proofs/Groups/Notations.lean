/-
  FlowProcessor.Proofs.Groups.Notations — TWO WAYS TO WRITE DESTINATIONS.

  Destinations are written as a number, in one of two bases, or as a list of identifiers.  All that
  is written of a set is read back as this set, and the list that is shown of it is the list of its
  flags.  The action that sets a group remembers which notation asked for it.  Nobody else can tell:
  runs that differ in notation alone give the same answer, leave the same platform and the same
  output, and log the same lines.

    • `denotes_decimal`, `denotes_hex`   — a word is denoted in both bases
    • `readSetMask_of_denotes`           — a group and a bitmask, however their numbers are written
    • `Listing.ofSet_of_bits_ne`         — what is listed of a set
    • `GroupCommand.plain`               — an action without its notation
    • `sequenceFrom_plain`, `run_plain`  — a run without notations goes the same way
    • `notations_agree`                  — from a set to each text, back, and into a run
-/
import FlowProcessor.Proofs.Groups.Listings
import FlowProcessor.Proofs.Reading.Bitmasks

namespace FlowProcessor

open Numeral (Denotes denotes_repr)

/-! ## §1. Words as text. -/

namespace Numeral

theorem denotes_decimal (word : UInt32) : Denotes (decimal word).toList word.toNat :=
  denotes_repr word.toNat

theorem denotes_hex (word : UInt32) : Denotes (hex word).toList word.toNat := by
  have hparts : (hex word).toList = '0' :: 'x' :: Nat.toDigits 16 word.toNat := by
    unfold hex hexDigits
    simp only [String.toList_append, String.toList_ofList]
    rfl
  rw [hparts]
  exact .hexadecimal Nat.toDigits_ne_nil
    (Base.value_eq_some_iff.mp (Base.value_toDigits .hexadecimal word.toNat))

end Numeral

section Bitmasks

variable {group : GroupId} {dests : DestSet} {name mask : String}

/-- The flags of a bitmask are those of the number it denotes. -/
theorem DestSet.readBitmask_of_denotes (h : Denotes mask.toList dests.bits.toNat) :
    readBitmask mask = .ok dests :=
  readBitmask_of_read (Numeral.read_eq_ok_iff.mpr h)

/-- Whatever the numbers are written like, they are the group and its destinations. -/
theorem GroupCommand.readSetMask_of_denotes (hname : Denotes name.toList group.val)
    (hmask : Denotes mask.toList dests.bits.toNat) :
    readSetMask (name ++ ":" ++ mask) = .ok (.setMask group dests) := by
  unfold readSetMask
  rw [readGroup_of_denotes hname]
  dsimp only [bind, Except.bind]
  rw [DestSet.readBitmask_of_denotes hmask]
  rfl

/-- A set is written as a number in both bases. -/
theorem DestSet.denotes_of_mem {dests : DestSet}
    (h : mask ∈ [Numeral.decimal dests.bits, dests.text]) :
    Denotes mask.toList dests.bits.toNat := by
  rcases List.mem_pair.mp h with rfl | rfl
  · exact Numeral.denotes_decimal dests.bits
  · exact Numeral.denotes_hex dests.bits

end Bitmasks

/-! ## §2. What is listed of a set. -/

section Listed

variable {dests : DestSet}

theorem Listing.ofSet_eq_noDestinations_iff :
    Listing.ofSet dests = .noDestinations ↔ dests.bits = 0 := by
  unfold Listing.ofSet
  constructor
  · intro h
    split at h
    · rename_i hempty
      exact beq_iff_eq.mp hempty
    · cases h
  · intro h
    exact if_pos (beq_iff_eq.mpr h)

theorem IdSet.isEmpty_of_bits_ne (h : dests.bits ≠ 0) : dests.isEmpty = false :=
  beq_eq_false_iff_ne.mpr h

/-- What has a flag is listed with its members. -/
theorem Listing.ofSet_of_bits_ne (h : dests.bits ≠ 0) :
    Listing.ofSet dests = .members dests.members := by
  unfold Listing.ofSet
  rw [IdSet.isEmpty_of_bits_ne h]
  exact if_neg Bool.false_ne_true

end Listed

/-! ## §3. Actions without their notation. -/

/-- The action as it is asked for with a bitmask. -/
def GroupCommand.plain : GroupCommand → GroupCommand
  | .setList group dests => .setMask group dests
  | command => command

/-- The failure of a run of actions without their notation. -/
def GroupFailure.plain (failure : GroupFailure) : GroupFailure :=
  { failure with command := failure.command.plain }

def GroupOutcome.plain (outcome : GroupOutcome) : GroupOutcome :=
  { outcome with failure := outcome.failure.map GroupFailure.plain }

/-- All that a line of a log, or a filter of lines, can tell of an entry. -/
def LogEntry.told (entry : LogEntry) : Option Span × Severity × String × List String × String :=
  (entry.span, entry.event.severity, entry.event.origin, entry.event.details, entry.event.text)

namespace GroupCommand

variable (command : GroupCommand)

theorem apply_plain (device : DeviceId) : command.plain.apply device = command.apply device := by
  cases command <;> rfl

theorem isWrite_plain : command.plain.isWrite = command.isWrite := by
  cases command <;> rfl

/-- The warning about a run that was stopped shows the action, not its notation. -/
theorem told_stopped_plain (span : Option Span) (position count : Nat) :
    LogEntry.told ⟨span, .stopped position count command.plain⟩
      = LogEntry.told ⟨span, .stopped position count command⟩ := by
  cases command <;> rfl

end GroupCommand

namespace GroupRun

variable {device : DeviceId} {commands : List GroupCommand} {w : World}

/-- Without their notations, actions go the same way. -/
theorem sequenceFrom_plain (position : Nat) (device : DeviceId) (commands : List GroupCommand)
    (w : World) :
    sequenceFrom position device (commands.map GroupCommand.plain) w
      = (sequenceFrom position device commands w).map GroupOutcome.plain id := by
  induction commands generalizing position device w with
  | nil => rfl
  | cons command commands ih =>
      rw [List.map_cons]
      unfold sequenceFrom
      rw [command.apply_plain]
      split
      · exact ih ..
      · rfl

/-- The event that ends the log, without the notation of the action it is about. -/
theorem closing?_plain (commands : List GroupCommand) (failure : Option GroupFailure) :
    (closing? (commands.map GroupCommand.plain) (failure.map GroupFailure.plain)).map
        (fun event => LogEntry.told ⟨w.span, event⟩)
      = (closing? commands failure).map fun event => LogEntry.told ⟨w.span, event⟩ := by
  have hwrites : ∀ count, ((commands.map GroupCommand.plain).take count).any GroupCommand.isWrite
      = (commands.take count).any GroupCommand.isWrite := by
    intro count
    rw [← List.map_take, List.any_map]
    exact congrArg (List.any _) (funext GroupCommand.isWrite_plain)
  cases failure with
  | none =>
      unfold closing?
      rw [List.length_map]
      rfl
  | some failure =>
      unfold closing?
      dsimp only [Option.map_some, GroupFailure.plain]
      rw [hwrites, List.length_map]
      split
      · exact congrArg some (failure.command.told_stopped_plain ..)
      · rfl

/-- Nothing but the notation of an action is different after two runs. -/
structure Indistinct (ran ran' : (DeviceId × Except ToolError Nat) × World) : Prop where
  answer : ran.1 = ran'.1
  platform : ran.2.platform = ran'.2.platform
  out : ran.2.out = ran'.2.out
  log : ran.2.log.map LogEntry.told = ran'.2.log.map LogEntry.told

section Indistinct

variable {ran ran' ran'' : (DeviceId × Except ToolError Nat) × World}

theorem Indistinct.symm (h : Indistinct ran ran') : Indistinct ran' ran :=
  ⟨h.answer.symm, h.platform.symm, h.out.symm, h.log.symm⟩

theorem Indistinct.trans (h : Indistinct ran ran') (h' : Indistinct ran' ran'') :
    Indistinct ran ran'' :=
  ⟨h.answer.trans h'.answer, h.platform.trans h'.platform, h.out.trans h'.out,
    h.log.trans h'.log⟩

/-- Runs that come to the same world may end it with different events, if these tell the same. -/
theorem indistinct_of_told {answer : DeviceId × Except ToolError Nat} {event event' : Option Event}
    (h : event.map (fun event => LogEntry.told ⟨w.span, event⟩)
      = event'.map fun event => LogEntry.told ⟨w.span, event⟩) :
    Indistinct (answer, event.elim w w.note) (answer, event'.elim w w.note) := by
  have hlog : ∀ event : Option Event, (event.elim w w.note).log.map LogEntry.told
      = w.log.map LogEntry.told
        ++ (event.map fun event => LogEntry.told ⟨w.span, event⟩).toList := by
    intro event
    cases event with
    | none => exact (List.append_nil _).symm
    | some event => exact List.map_append
  have hworld : ∀ event : Option Event, (event.elim w w.note).platform = w.platform
      ∧ (event.elim w w.note).out = w.out := by
    intro event
    cases event <;> exact ⟨rfl, rfl⟩
  refine ⟨rfl, ?_, ?_, ?_⟩
  · exact (hworld event).1.trans (hworld event').1.symm
  · exact (hworld event).2.trans (hworld event').2.symm
  · rw [hlog, hlog, h]

end Indistinct

/-- **A run without notations goes the same way.** -/
theorem run_plain (device : DeviceId) (commands : List GroupCommand) (w : World) :
    Indistinct (run device (commands.map GroupCommand.plain) w) (run device commands w) := by
  obtain ⟨⟨⟨current, failure⟩, w'⟩, hsequence⟩ :
      ∃ ran, sequenceFrom 0 device commands w = ran := ⟨_, rfl⟩
  have hclosing := closing?_plain (w := w') commands failure
  unfold run sequence
  rw [sequenceFrom_plain, hsequence]
  cases failure with
  | none =>
      dsimp only [Prod.map, GroupOutcome.plain, id_eq, Option.map_none]
      rw [List.length_map]
      exact indistinct_of_told hclosing
  | some failure => exact indistinct_of_told hclosing

/-- Runs that differ in notation alone cannot be told apart. -/
theorem indistinct_of_plain {commands commands' : List GroupCommand}
    (h : commands.map GroupCommand.plain = commands'.map GroupCommand.plain) (device : DeviceId)
    (w : World) : Indistinct (run device commands w) (run device commands' w) := by
  have hplain := run_plain device commands w
  rw [h] at hplain
  exact hplain.symm.trans (run_plain device commands' w)

end GroupRun

/-- **Whatever is written of a set of destinations is read as the set: the number in both bases, and
the identifiers that are listed of it, which are those of its flags, in ascending order, and none
only where there is no flag.  With a group before it, each is read as the action that sets the group
to the set, and no run is different for the notation in which it asks for this.** -/
theorem notations_agree (group : GroupId) (dests : DestSet) :
    (∀ mask ∈ [Numeral.decimal dests.bits, dests.text],
      DestSet.readBitmask mask = .ok dests
      ∧ GroupCommand.readSetMask (idText group ++ ":" ++ mask) = .ok (.setMask group dests))
    ∧ (Listing.ofSet dests = .noDestinations ↔ dests.bits = 0)
    ∧ (dests.bits ≠ 0 → ∃ ids, Listing.ofSet dests = .members ids
      ∧ ids.Pairwise (· < ·)
      ∧ (∀ k, dests.bits.toNat.testBit k = true ↔ ∃ i ∈ ids, i.val = k)
      ∧ DestSet.readList (",".intercalate (ids.map idText)) = .ok dests
      ∧ GroupCommand.readSetList (idText group ++ ":" ++ ",".intercalate (ids.map idText))
        = .ok (.setList group dests))
    ∧ ∀ device before after w, GroupRun.Indistinct
      (GroupRun.run device (before ++ .setMask group dests :: after) w)
      (GroupRun.run device (before ++ .setList group dests :: after) w) := by
  refine ⟨fun mask hmask => ?masks, Listing.ofSet_eq_noDestinations_iff, fun hbits => ?lists,
    fun device before after w => ?runs⟩
  case masks =>
    have hdenotes := DestSet.denotes_of_mem hmask
    exact ⟨DestSet.readBitmask_of_denotes hdenotes,
      GroupCommand.readSetMask_of_denotes (denotes_repr group.val) hdenotes⟩
  case lists =>
    have hmembers := IdSet.isEmpty_of_bits_ne hbits
    exact ⟨dests.members, Listing.ofSet_of_bits_ne hbits, dests.members_ascending,
      fun k => IdSet.testBit_iff_members, GroupListing.readList_members hmembers,
      GroupListing.readSetList_argument group hmembers⟩
  case runs =>
    refine GroupRun.indistinct_of_plain ?_ device w
    rw [List.map_append, List.map_append]
    rfl

/-- Group 16 and the destinations 0, 2, 10 and 31, in the three notations. -/
theorem notations_agree_of_last_destination :
    GroupCommand.readSetMask "16:2147484677" = .ok (.setMask 16 ⟨0x80000405⟩)
      ∧ GroupCommand.readSetMask "16:0x80000405" = .ok (.setMask 16 ⟨0x80000405⟩)
      ∧ Listing.ofSet ⟨0x80000405⟩ = .members [0, 2, 10, 31]
      ∧ GroupCommand.readSetList "16:0,2,10,31" = .ok (.setList 16 ⟨0x80000405⟩)
      ∧ GroupRun.Indistinct
        (GroupRun.run 2 [.clear, .setMask 16 ⟨0x80000405⟩, .print] (.start .initial .unlimited))
        (GroupRun.run 2 [.clear, .setList 16 ⟨0x80000405⟩, .print] (.start .initial .unlimited)) := by
  obtain ⟨hmasks, -, hlists, hruns⟩ := notations_agree 16 ⟨0x80000405⟩
  obtain ⟨ids, hlisted, -, -, -, hread⟩ := hlists (by decide)
  have hids : Listing.ofSet ⟨0x80000405⟩ = .members [0, 2, 10, 31] := by decide
  obtain rfl : ids = [0, 2, 10, 31] := Listing.members.inj (hlisted.symm.trans hids)
  refine ⟨?_, ?_, hids, hread, hruns 2 [.clear] [.print] _⟩
  · exact (hmasks "2147484677" (by decide +kernel)).2
  · exact (hmasks "0x80000405" (by decide +kernel)).2

end FlowProcessor
