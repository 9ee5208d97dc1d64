/-
  FlowProcessor.Proofs.Reading.Diagnostics — THE LINES OF A DIAGNOSTIC.

  A diagnostic about an argument shows the part of it that is at fault, as it stands there.  All
  the rest is fixed words and digits, which have no line breaks.  So the diagnostic has the line
  breaks of the part that it shows and no others: one line for an argument of one line, and for an
  argument of several as many as are in that part.

    • `lineBreaks`               — the line breaks of a text
    • `InputError.shown`         — what a diagnostic shows of the argument
    • `Shows`                    — an error shows a part of an argument, or a number
    • `Showing`                  — a reading of which all errors do
    • `Refused`                  — the arguments that the tools refuse
    • `diagnostic_breaks_as_shown` — the line breaks of their diagnostics
-/
import FlowProcessor.ForwardingPlan
import FlowProcessor.GroupCommand
import FlowProcessor.Proofs.Reading.Bitmasks

namespace FlowProcessor

open Numeral (Denotes flaw)

/-! ## §1. Line breaks. -/

/-- The characters that end a line. -/
def lineEnds : List Char := ['\n', '\x0b', '\x0c', '\r', '\x85', '\u2028', '\u2029']

/-- Whether a character is one of them. -/
def isLineBreak (c : Char) : Bool := lineEnds.contains c

/-- The line breaks of a text, in order. -/
def lineBreaks (text : String) : List Char := text.toList.filter isLineBreak

@[simp] theorem lineBreaks_append (s t : String) :
    lineBreaks (s ++ t) = lineBreaks s ++ lineBreaks t := by
  unfold lineBreaks
  rw [String.toList_append, List.filter_append]

theorem lineBreaks_eq_nil_iff {text : String} :
    lineBreaks text = [] ↔ ∀ c ∈ text.toList, isLineBreak c = false := by
  unfold lineBreaks
  simp [List.filter_eq_nil_iff]

/-- A part of a text without line breaks has none. -/
theorem lineBreaks_of_part {part text : String} (hpart : part.toList <:+: text.toList)
    (h : lineBreaks text = []) : lineBreaks part = [] := by
  rw [lineBreaks_eq_nil_iff] at h ⊢
  exact fun c hc => h c (hpart.subset hc)

/-- No line break is a character of numbers. -/
theorem isLineBreak_of_isNumberChar {c : Char} (h : isNumberChar c = true) :
    isLineBreak c = false := by
  have hall : lineEnds.all (fun c => !isNumberChar c) = true := by decide
  refine Bool.eq_false_iff.mpr fun hbreak => ?_
  have hforeign := List.all_eq_true.mp hall c (List.contains_iff_mem.mp hbreak)
  rw [h] at hforeign
  cases hforeign

/-- There is no line break in a number. -/
theorem lineBreaks_of_denotes {text : String} {n : Nat} (h : Denotes text.toList n) :
    lineBreaks text = [] :=
  lineBreaks_eq_nil_iff.mpr fun c hc => isLineBreak_of_isNumberChar (h.isNumberChar c hc)

@[simp] theorem lineBreaks_repr (n : Nat) : lineBreaks n.repr = [] :=
  lineBreaks_of_denotes (Numeral.denotes_repr n)

/-! ## §2. What errors show. -/

/-- What a diagnostic shows of the argument: the malformed text, or the number. -/
def InputError.shown : InputError → String
  | .malformed text _ => text
  | .outOfRange _ value => value

/-- An error shows a part of the argument and says in fixed words what is wrong with it, or it
shows a number. -/
inductive Shows (argument : String) : InputError → Prop
  | part {text : String} {defect : Defect} : text.toList <:+: argument.toList →
      lineBreaks defect.text = [] → Shows argument (.malformed text defect)
  | number {quantity : Quantity} {value : String} : lineBreaks value = [] →
      Shows argument (.outOfRange quantity value)

namespace Shows

variable {argument part : String} {error : InputError}

/-- What is a part of a part is one of the whole. -/
theorem of_part (h : Shows part error) (hpart : part.toList <:+: argument.toList) :
    Shows argument error := by
  cases h with
  | part hinside hfixed => exact .part (hinside.trans hpart) hfixed
  | number hvalue => exact .number hvalue

/-- The words around what is shown have no line breaks. -/
theorem lineBreaks_message (h : Shows argument error) :
    lineBreaks (ToolError.input error).message = lineBreaks error.shown := by
  have hwords : ∀ word ∈ ["Invalid", " format '", "': ", " ", " (",
      ") specified, valid values are 0-"], lineBreaks word = [] := by decide
  have hlabel : ∀ quantity : Quantity, lineBreaks quantity.label = [] := by
    intro quantity
    cases quantity <;> decide
  unfold ToolError.message InputError.complaint InputError.shown
  cases h with
  | part hinside hfixed => simp [hwords, hfixed]
  | number hvalue => simp [hwords, hlabel]

theorem part_of_breaks (h : Shows argument error) (hbreaks : lineBreaks error.shown ≠ []) :
    error.shown.toList <:+: argument.toList := by
  cases h with
  | part hinside _ => exact hinside
  | number hvalue => exact absurd hvalue hbreaks

/-- An argument of one line is refused in one line. -/
theorem one_line (h : Shows argument error) (hargument : lineBreaks argument = []) :
    lineBreaks (ToolError.input error).message = [] := by
  rw [h.lineBreaks_message]
  by_contra hbreaks
  exact hbreaks (lineBreaks_of_part (h.part_of_breaks hbreaks) hargument)

end Shows

/-- Whatever error a reading of the argument ends with, it shows a part of it. -/
def Showing {α : Type} (argument : String) (reading : Except InputError α) : Prop :=
  ∀ error, reading = .error error → Shows argument error

namespace Showing

variable {α β : Type} {argument part : String} {reading : Except InputError α}

theorem ok (a : α) : Showing argument (.ok a) := nofun

theorem error {error : InputError} (h : Shows argument error) :
    Showing argument (.error error : Except InputError α) := by
  intro other hother
  obtain rfl := Except.error.inj hother
  exact h

theorem bind {next : α → Except InputError β} (h : Showing argument reading)
    (hnext : ∀ a, reading = .ok a → Showing argument (next a)) :
    Showing argument (reading >>= next) := by
  intro error herror
  cases hreading : reading with
  | error first =>
      rw [hreading] at herror
      obtain rfl := Except.error.inj herror
      exact h first hreading
  | ok a =>
      rw [hreading] at herror
      exact hnext a hreading error herror

theorem map (h : Showing argument reading) (f : α → β) : Showing argument (reading.map f) := by
  intro error herror
  cases reading with
  | error first =>
      obtain rfl := Except.error.inj herror
      exact h first rfl
  | ok a => cases herror

theorem mapM {read : β → Except InputError α} {texts : List β}
    (h : ∀ text ∈ texts, Showing argument (read text)) : Showing argument (texts.mapM read) := by
  intro error herror
  obtain ⟨done, rest, hmap⟩ := mapM_eq_error_iff.mp herror
  obtain ⟨text, htext, hread⟩ : ∃ text ∈ texts, read text = .error error := by
    refine List.mem_map.mp ?_
    rw [hmap]
    exact List.mem_append_right _ List.mem_cons_self
  exact h text htext error hread

theorem of_part (h : Showing part reading) (hpart : part.toList <:+: argument.toList) :
    Showing argument reading :=
  fun error herror => (h error herror).of_part hpart

end Showing

/-! ## §3. Numbers and lists. -/

section Readers

variable {text argument : String}

/-- A number that is refused is shown. -/
theorem NumberFault.shows {error : InputError} (h : NumberFault text error) : Shows text error := by
  cases h with
  | malformed _ =>
      refine .part (List.infix_refl _) ?_
      rw [Numeral.flaw_eq]
      split
      · decide
      · cases (Numeral.split text.toList).1 <;> decide
  | tooLarge hn _ => exact .number (lineBreaks_of_denotes hn)

theorem Numeral.showing_read (text : String) : Showing text (Numeral.read text) :=
  fun _ herror => ((read_exactly text).2 _ |>.mp herror).shows

theorem showing_bounded (quantity : Quantity) (n : Nat) (word : UInt32) :
    Showing argument (bounded quantity n word) := by
  unfold bounded
  split
  · exact .ok _
  · exact .error (.number (lineBreaks_repr _))

/-- The identifiers that are numbers with a bound. -/
theorem showing_readBounded (quantity : Quantity) (n : Nat) (text : String) :
    Showing text (Numeral.read text >>= bounded quantity n) :=
  (Numeral.showing_read text).bind fun word _ => showing_bounded quantity n word

theorem VlanTag.showing_read (text : String) : Showing text (VlanTag.read text) := by
  refine (Numeral.showing_read text).bind fun word _ => ?_
  unfold ofNat VlanId.ofNat
  split
  · exact .ok _
  · split
    · exact .ok _
    · exact .error (.number (lineBreaks_repr _))

theorem DestSet.showing_readBitmask (text : String) : Showing text (DestSet.readBitmask text) := by
  unfold readBitmask
  split
  · exact (Numeral.showing_read text).map _
  · exact .error (.part (List.infix_refl _) (by decide))

theorem DestSet.showing_readList (text : String) : Showing text (DestSet.readList text) := by
  unfold readList
  split
  · refine (Showing.mapM fun token htoken => ?_).map _
    unfold readEntry
    split
    · exact .error (.part (List.infix_refl _) (by decide))
    · refine (showing_readBounded .destination destCount _).of_part ?_
      rw [String.toList_ofList]
      exact (cut_splitAt ',' text.toList).infix_of_mem htoken
  · exact .error (.part (List.infix_refl _) (by decide))

/-! ## §4. Arguments. -/

theorem LifSpec.showing_read (text : String) : Showing text (LifSpec.read text) := by
  have hfield : ∀ field ∈ (splitAt ':' text.toList).map String.ofList,
      field.toList <:+: text.toList := by
    intro field hmem
    obtain ⟨piece, hpiece, rfl⟩ := List.mem_map.mp hmem
    rw [String.toList_ofList]
    exact (cut_splitAt ':' text.toList).infix_of_mem hpiece
  have hword : ∀ {α : Type} (mk : UInt32 → α),
      ∀ field ∈ (splitAt ':' text.toList).map String.ofList,
        Showing text ((Numeral.read field).map mk) :=
    fun mk field hmem => ((Numeral.showing_read field).map mk).of_part (hfield field hmem)
  unfold read
  split
  · rename_i port lif hfields
    rw [hfields] at hfield hword
    exact (hword _ port (by simp)).bind fun port _ => (hword _ lif (by simp)).bind fun lif _ =>
      .ok _
  · rename_i port vlan lif hfields
    rw [hfields] at hfield hword
    have htag := (VlanTag.showing_read vlan).of_part (hfield vlan (by simp))
    exact htag.bind fun vlan _ => (hword _ port (by simp)).bind fun port _ =>
      (hword _ lif (by simp)).bind fun lif _ => .ok _
  · exact .error (.part (List.infix_refl _) (by decide))

namespace GroupCommand

/-- A text that is cut has the two parts in it, with the separator between them. -/
theorem cut_whole {sep : Char} {cs group rest : List Char} (h : cut sep cs = some (group, rest)) :
    ∃ c, cs = group ++ c :: rest := by
  unfold cut at h
  split at h
  · cases h
  · rename_i c after hafter
    obtain ⟨rfl, rfl⟩ := Prod.mk.inj (Option.some.inj h)
    exact ⟨c, by rw [← hafter, List.takeWhile_append_dropWhile]⟩

theorem showing_readGroup {defect : Defect} (hfixed : lineBreaks defect.text = [])
    (argument : String) : Showing argument (readGroup defect argument) := by
  unfold readGroup
  split
  · exact .error (.part (List.infix_refl _) hfixed)
  · rename_i group rest hcut
    obtain ⟨c, hwhole⟩ := cut_whole hcut
    refine ((showing_readBounded .group groupCount _).of_part ?_).map _
    rw [String.toList_ofList, hwhole]
    exact (List.prefix_append _ _).isInfix

/-- What is left to read after a group is a part of the argument. -/
theorem part_of_readGroup {defect : Defect} {argument rest : String} {group : GroupId}
    (h : readGroup defect argument = .ok (group, rest)) : rest.toList <:+: argument.toList := by
  unfold readGroup at h
  split at h
  · cases h
  · rename_i name after hcut
    obtain ⟨c, hwhole⟩ := cut_whole hcut
    cases hgroup : GroupId.read (String.ofList name) with
    | error error => rw [hgroup] at h; cases h
    | ok found =>
        rw [hgroup] at h
        obtain ⟨-, rfl⟩ := Prod.mk.inj (Except.ok.inj h)
        rw [String.toList_ofList, hwhole, List.append_cons]
        exact (List.suffix_append _ _).isInfix

end GroupCommand

end Readers

/-- An argument is refused by one of the tools: a device, a group with its bitmask or its list, or
an interface. -/
inductive Refused (argument : String) (error : InputError) : Prop
  | device : GroupCommand.readSelect argument = .error error → Refused argument error
  | bitmask : GroupCommand.readSetMask argument = .error error → Refused argument error
  | list : GroupCommand.readSetList argument = .error error → Refused argument error
  | interface : LifSpec.read argument = .error error → Refused argument error

section Arguments

variable {argument : String} {error : InputError}

theorem Refused.shows (h : Refused argument error) : Shows argument error := by
  cases h with
  | device h => exact (showing_readBounded .device deviceCount argument).map _ error h
  | bitmask h =>
      refine (GroupCommand.showing_readGroup (by decide) argument).bind ?_ error h
      rintro ⟨group, mask⟩ hgroup
      have hpart := GroupCommand.part_of_readGroup hgroup
      exact ((DestSet.showing_readBitmask mask).of_part hpart).map _
  | list h =>
      refine (GroupCommand.showing_readGroup (by decide) argument).bind ?_ error h
      rintro ⟨group, list⟩ hgroup
      have hpart := GroupCommand.part_of_readGroup hgroup
      exact ((DestSet.showing_readList list).of_part hpart).map _
  | interface h => exact LifSpec.showing_read argument error h

/-- A device is shown as a whole, or it is a number. -/
theorem lineBreaks_of_readSelect (h : GroupCommand.readSelect argument = .error error) :
    lineBreaks error.shown = lineBreaks argument := by
  unfold GroupCommand.readSelect DeviceId.read at h
  cases hread : Numeral.read argument with
  | error first =>
      rw [hread] at h
      obtain rfl := Except.error.inj h
      cases (read_exactly argument).2 first |>.mp hread with
      | malformed _ => rfl
      | tooLarge _ _ => rfl
  | ok word =>
      have hargument := lineBreaks_of_denotes (Numeral.read_eq_ok_iff.mp hread)
      rw [hread] at h
      change (bounded .device deviceCount word).map _ = _ at h
      unfold bounded at h
      split at h
      · cases h
      · obtain rfl := Except.error.inj h
        rw [hargument]
        exact lineBreaks_repr word.toNat

/-- **The diagnostic about an argument that is refused has the line breaks of what it shows, and
what has line breaks is a part of the argument.  So an argument of one line is refused in one line;
and if a device is asked for, the diagnostic has all the line breaks of the argument.** -/
theorem diagnostic_breaks_as_shown (h : Refused argument error) :
    lineBreaks (ToolError.input error).message = lineBreaks error.shown
      ∧ (lineBreaks error.shown ≠ [] → error.shown.toList <:+: argument.toList)
      ∧ (lineBreaks argument = [] → lineBreaks (ToolError.input error).message = [])
      ∧ (GroupCommand.readSelect argument = .error error →
        lineBreaks (ToolError.input error).message = lineBreaks argument) := by
  have hshows := h.shows
  refine ⟨hshows.lineBreaks_message, hshows.part_of_breaks, hshows.one_line, fun hselect => ?_⟩
  rw [hshows.lineBreaks_message, lineBreaks_of_readSelect hselect]

/-- A line break in the number of a group is shown, and then the one in its bitmask is not. -/
theorem diagnostic_breaks_as_shown_of_group :
    GroupCommand.readSetMask "1\n2:3\n" = .error (.malformed "1\n2" .notDecimal)
      ∧ lineBreaks (ToolError.input (.malformed "1\n2" .notDecimal)).message = ['\n']
      ∧ "1\n2".toList <:+: "1\n2:3\n".toList := by
  have hrefused : GroupCommand.readSetMask "1\n2:3\n" = .error (.malformed "1\n2" .notDecimal) := by
    decide +kernel
  have hbreaks : lineBreaks "1\n2" = ['\n'] := by decide
  obtain ⟨hshown, hpart, -⟩ := diagnostic_breaks_as_shown (.bitmask hrefused)
  exact ⟨hrefused, hshown.trans hbreaks, hpart (hbreaks ▸ List.cons_ne_nil _ _)⟩

/-- A device that is asked for in two lines is refused in two lines. -/
theorem device_refused_in_two_lines :
    Refused "1\n2" (.malformed "1\n2" .notDecimal)
      ∧ (ToolError.input (.malformed "1\n2" .notDecimal)).message
        = "Invalid format '1\n2': not a decimal number"
      ∧ lineBreaks "Invalid format '1\n2': not a decimal number" ≠ [] :=
  ⟨.device (by decide +kernel), by decide +kernel, by decide +kernel⟩

end Arguments

end FlowProcessor
