/-
  FlowProcessor.Proofs.CommandLine.Lines — LINES THAT ARE WRITTEN OPTION BY OPTION.

  An option is written under one of its names, with its value in the next argument, behind an
  equals sign, or not at all.  A line of such options is scanned to their settings, in order.  The
  value in the next argument is recorded one argument late, so that the induction goes over scans
  that have an option left to settle.

    • `WrittenOption`      — an option as it is written, with the setting it makes
    • `scan_words`         — a line is scanned to the settings of its options
-/
import FlowProcessor.CommandLine.Scanner
import Mathlib.Data.List.TakeWhile

namespace FlowProcessor.CommandLine

variable {σ : Type}

/-! ## §1. Options as they are written. -/

/-- Where the value of an option stands. -/
inductive Placement
  /-- Nowhere: the option is written without one. -/
  | bare
  /-- Behind the name and an equals sign. -/
  | joined (value : String)
  /-- In the next argument. -/
  | apart (value : String)

/-- An option that takes a value so has it there; one in an argument of its own does not begin with
a dash. -/
def Placement.Suits (takes : Takes) : Placement → Prop
  | .bare => takes ≠ .value
  | .joined _ => takes ≠ .nothing
  | .apart value => takes = .value ∧ value.toList.head? ≠ some '-'

/-- An option as it is written on a line, and the setting it makes. -/
structure WrittenOption (σ : Type) where
  rule : OptionRule σ
  /-- The short name it is written under, if it is not the long one. -/
  short : Option Char
  placement : Placement
  setting : σ

namespace WrittenOption

/-- The name with its dashes. -/
def name (o : WrittenOption σ) : List Char :=
  match o.short with
  | some c => ['-', c]
  | none => '-' :: '-' :: o.rule.long.toList

/-- The arguments that make up the option. -/
def words (o : WrittenOption σ) : List String :=
  match o.placement with
  | .bare => [String.ofList o.name]
  | .joined value => [String.ofList (o.name ++ '=' :: value.toList)]
  | .apart value => [String.ofList o.name, value]

/-- The value that the option gets. -/
def value (o : WrittenOption σ) : String :=
  match o.placement, o.rule.takes with
  | .joined value, _ | .apart value, _ => value
  | .bare, .attached otherwise => otherwise
  | .bare, _ => ""

/-- An option is known by its name, has its value where it takes one, and can read it. -/
structure Fits (g : Grammar σ) (o : WrittenOption σ) : Prop where
  named : match o.short with
    | some c => c ≠ '-' ∧ g.short? c = some o.rule
    | none => o.rule.long ≠ "" ∧ '=' ∉ o.rule.long.toList ∧ g.long? o.rule.long.toList = some o.rule
  placed : o.placement.Suits o.rule.takes
  reads : o.rule.read o.value = .ok o.setting

end WrittenOption

/-! ## §2. One argument. -/

section OneArgument

variable {g : Grammar σ} {s : Scan σ} {text : String} {cs : List Char} {c : Char}

theorem splitValue_of_not_mem (h : '=' ∉ cs) : Scan.splitValue cs = (cs, none) := by
  have hall : cs.dropWhile (· != '=') = [] := by
    refine List.dropWhile_eq_nil_iff.mpr fun c hc => ?_
    rw [bne_iff_ne]
    rintro rfl
    exact h hc
  rw [Scan.splitValue, hall]

theorem splitValue_append (h : '=' ∉ cs) (value : List Char) :
    Scan.splitValue (cs ++ '=' :: value) = (cs, some value) := by
  have hall : ∀ c ∈ cs, (c != '=') = true := by
    intro c hc
    rw [bne_iff_ne]
    rintro rfl
    exact h hc
  have hrest : (cs ++ '=' :: value).dropWhile (· != '=') = '=' :: value := by
    rw [List.dropWhile_append_of_pos hall]
    rfl
  rw [Scan.splitValue, hrest, List.takeWhile_append_of_pos hall]
  simp

/-- An argument with two dashes is a long option. -/
theorem argument_long (h : text.toList = '-' :: '-' :: cs) :
    s.argument g text
      = Scan.longOption g s (Scan.splitValue cs).1 (Scan.splitValue cs).2 := by
  unfold Scan.argument
  rw [h]
  rfl

/-- An argument with one dash joins short options. -/
theorem argument_short (h : text.toList = '-' :: c :: cs) (hc : c ≠ '-') :
    s.argument g text = Scan.shortOptions g (c :: cs) s := by
  unfold Scan.argument
  rw [h]
  split
  · rename_i heq
    exact absurd (List.cons.inj (List.cons.inj heq).2).1 hc
  · rename_i heq
    rw [(List.cons.inj heq).2]
  · rename_i hno
    exact absurd rfl (hno c cs)

/-- An argument without a dash in front is a value. -/
theorem argument_plain (h : text.toList.head? ≠ some '-') : s.argument g text = s.plain text := by
  unfold Scan.argument
  split
  · rename_i heq
    exact absurd (congrArg List.head? heq) h
  · rename_i heq
    exact absurd (congrArg List.head? heq) h
  · rfl

theorem arguments_cons (h : text ≠ "--") (rest : List String) :
    s.arguments g (text :: rest) = s.argument g text >>= Scan.arguments g rest := by
  rw [Scan.arguments, if_neg h]

end OneArgument

/-! ## §3. One option. -/

namespace WrittenOption

variable {g : Grammar σ} {o : WrittenOption σ} {s s' : Scan σ} {value : String}

/-- The name of an option is not the mark that ends the options. -/
theorem Fits.words_ne_mark (h : o.Fits g) (more : List Char) :
    String.ofList (o.name ++ more) ≠ "--" := by
  intro hmark
  have hchars : o.name ++ more = ['-', '-'] := by
    rw [← String.toList_ofList (l := o.name ++ more), hmark]
    rfl
  have hnamed := h.named
  unfold name at hchars
  cases hshort : o.short with
  | some c =>
      rw [hshort] at hnamed hchars
      exact hnamed.1 (List.cons.inj (List.cons.inj hchars).2).1
  | none =>
      rw [hshort] at hnamed hchars
      have hnil := (List.append_eq_nil_iff.mp (List.cons.inj (List.cons.inj hchars).2).2).1
      exact hnamed.1 (String.toList_eq_nil_iff.mp hnil)

/-- An option without a value behind its name is taken, or waits for its value. -/
theorem Fits.argument_name (h : o.Fits g) (s : Scan σ) :
    s.argument g (String.ofList o.name)
      = match o.rule.takes with
        | .nothing => s.take o.rule ""
        | .attached otherwise => s.take o.rule otherwise
        | .value => s.await o.rule := by
  have hnamed := h.named
  cases hshort : o.short with
  | some c =>
      rw [hshort] at hnamed
      obtain ⟨hdash, hrule⟩ := hnamed
      have hname : (String.ofList o.name).toList = ['-', c] := by
        rw [String.toList_ofList, name, hshort]
      rw [argument_short hname hdash, Scan.shortOptions, hrule]
      cases htakes : o.rule.takes with
      | value => simp only [htakes]
      | nothing | attached otherwise =>
          simp only [htakes]
          exact bind_pure _
  | none =>
      rw [hshort] at hnamed
      obtain ⟨-, hequals, hrule⟩ := hnamed
      have hname : (String.ofList o.name).toList = '-' :: '-' :: o.rule.long.toList := by
        rw [String.toList_ofList, name, hshort]
      rw [argument_long hname, splitValue_of_not_mem hequals, Scan.longOption, hrule]
      cases htakes : o.rule.takes <;> simp [htakes]

theorem Fits.argument_bare (h : o.Fits g) (hplacement : o.placement = .bare) (s : Scan σ) :
    s.argument g (String.ofList o.name) = s.take o.rule o.value := by
  have hplaced := h.placed
  rw [hplacement] at hplaced
  rw [h.argument_name, value, hplacement]
  cases htakes : o.rule.takes with
  | value => exact absurd htakes hplaced
  | nothing | attached otherwise => rfl

/-- An option with a value behind an equals sign is taken with it. -/
theorem Fits.argument_joined (h : o.Fits g) (hplacement : o.placement = .joined value)
    (s : Scan σ) :
    s.argument g (String.ofList (o.name ++ '=' :: value.toList)) = s.take o.rule o.value := by
  have hnamed := h.named
  have hplaced := h.placed
  rw [hplacement] at hplaced
  have hvalue : o.value = value := by
    rw [WrittenOption.value, hplacement]
  rw [hvalue]
  cases hshort : o.short with
  | some c =>
      rw [hshort] at hnamed
      obtain ⟨hdash, hrule⟩ := hnamed
      have hname : (String.ofList (o.name ++ '=' :: value.toList)).toList
          = '-' :: c :: '=' :: value.toList := by
        rw [String.toList_ofList, name, hshort]
        rfl
      rw [argument_short hname hdash, Scan.shortOptions, hrule]
      cases htakes : o.rule.takes with
      | nothing => exact absurd htakes hplaced
      | value | attached otherwise => simp [htakes]
  | none =>
      rw [hshort] at hnamed
      obtain ⟨-, hequals, hrule⟩ := hnamed
      have hname : (String.ofList (o.name ++ '=' :: value.toList)).toList
          = '-' :: '-' :: (o.rule.long.toList ++ '=' :: value.toList) := by
        rw [String.toList_ofList, name, hshort]
        rfl
      rw [argument_long hname, splitValue_append hequals, Scan.longOption, hrule]
      cases htakes : o.rule.takes with
      | nothing => exact absurd htakes hplaced
      | value | attached otherwise => simp [htakes]

/-- Recording an option adds its setting, unless the option was given before and may not be
again. -/
theorem Fits.record (h : o.Fits g)
    (honce : ∀ entry ∈ s.seen, entry.1 = o.rule.long → o.rule.repeatable = true) :
    s.record o.rule o.value = .ok ⟨s.seen ++ [(o.rule.long, o.setting)], none⟩ := by
  have hno : (!o.rule.repeatable && s.seen.any fun entry => entry.1 == o.rule.long) = false := by
    cases hrepeatable : o.rule.repeatable with
    | true => rfl
    | false =>
        rw [Bool.not_false, Bool.true_and, List.any_eq_false]
        intro entry hentry hsame
        rw [honce entry hentry (beq_iff_eq.mp hsame)] at hrepeatable
        cases hrepeatable
  rw [Scan.record, hno, h.reads]
  rfl

/-- An option is recorded at once, or with the argument after it if its value stands apart. -/
theorem Fits.arguments_words (h : o.Fits g) (hsettle : s.settle = .ok s')
    (honce : ∀ entry ∈ s'.seen, entry.1 = o.rule.long → o.rule.repeatable = true)
    (rest : List String) :
    ∃ after : Scan σ, s.arguments g (o.words ++ rest) = after.arguments g rest
      ∧ after.settle = .ok ⟨s'.seen ++ [(o.rule.long, o.setting)], none⟩ := by
  have hrecord := h.record honce
  have htake : s.take o.rule o.value = .ok ⟨s'.seen ++ [(o.rule.long, o.setting)], none⟩ := by
    rw [Scan.take, hsettle]
    exact hrecord
  have hmark : String.ofList o.name ≠ "--" := by
    rw [← List.append_nil o.name]
    exact h.words_ne_mark []
  unfold words
  cases hplacement : o.placement with
  | bare =>
      refine ⟨⟨s'.seen ++ [(o.rule.long, o.setting)], none⟩, ?_, rfl⟩
      rw [List.singleton_append, arguments_cons hmark, h.argument_bare hplacement, htake]
      rfl
  | joined value =>
      refine ⟨⟨s'.seen ++ [(o.rule.long, o.setting)], none⟩, ?_, rfl⟩
      rw [List.singleton_append, arguments_cons (h.words_ne_mark _),
        h.argument_joined hplacement, htake]
      rfl
  | apart value =>
      have hplaced := h.placed
      rw [hplacement] at hplaced
      obtain ⟨htakes, hdash⟩ := hplaced
      have hvalue : o.value = value := by
        rw [WrittenOption.value, hplacement]
      have hawait : s.argument g (String.ofList o.name)
          = .ok { s' with awaiting := some (o.rule, none) } := by
        rw [h.argument_name, htakes]
        simp only [Scan.await, hsettle]
        rfl
      have hne : value ≠ "--" := by
        rintro rfl
        exact hdash rfl
      -- the value is kept until the next argument is recognised
      refine ⟨{ s' with awaiting := some (o.rule, some value) }, ?_, hvalue ▸ hrecord⟩
      rw [List.cons_append, List.singleton_append, arguments_cons hmark, hawait]
      show Scan.arguments g (value :: rest) _ = _
      rw [arguments_cons hne, argument_plain hdash]
      rfl

end WrittenOption

/-! ## §4. Whole lines. -/

section Lines

variable {g : Grammar σ} {line : List (WrittenOption σ)}

theorem awaiting_of_record {s s' : Scan σ} {rule : OptionRule σ} {value : String}
    (h : s.record rule value = .ok s') : s'.awaiting = none := by
  unfold Scan.record at h
  split at h
  · cases h
  · cases hread : rule.read value with
    | error rejection => rw [hread] at h; cases h
    | ok setting =>
        rw [hread] at h
        obtain rfl := Except.ok.inj h
        rfl

/-- Nothing is left to settle after settling. -/
theorem awaiting_of_settle {s s' : Scan σ} (h : s.settle = .ok s') : s'.awaiting = none := by
  unfold Scan.settle at h
  split at h
  · rename_i hnone
    obtain rfl := Except.ok.inj h
    exact hnone
  · cases h
  · exact awaiting_of_record h

/-- An option that occurs again is one that may be repeated. -/
def Once (line : List (WrittenOption σ)) : Prop :=
  line.Pairwise fun o later => o.rule.long = later.rule.long → later.rule.repeatable = true

theorem arguments_line (hfits : ∀ o ∈ line, o.Fits g) (honce : Once line) {s s' : Scan σ}
    (hsettle : s.settle = .ok s')
    (hseen : ∀ entry ∈ s'.seen, ∀ o ∈ line, entry.1 = o.rule.long → o.rule.repeatable = true) :
    s.arguments g (line.flatMap WrittenOption.words)
      = .ok ⟨s'.seen ++ line.map fun o => (o.rule.long, o.setting), none⟩ := by
  induction line generalizing s s' with
  | nil =>
      have hnone := awaiting_of_settle hsettle
      show s.settle = _
      rw [hsettle, List.map_nil, List.append_nil, ← hnone]
  | cons o line ih =>
      obtain ⟨hlater, honce'⟩ := List.pairwise_cons.mp honce
      obtain ⟨after, hwords, hafter⟩ := (hfits o List.mem_cons_self).arguments_words hsettle
        (fun entry hentry => hseen entry hentry o List.mem_cons_self)
        (line.flatMap WrittenOption.words)
      rw [List.flatMap_cons, hwords,
        ih (fun o ho => hfits o (List.mem_cons_of_mem _ ho)) honce' hafter ?_]
      · rw [List.append_assoc]
        rfl
      · -- what has been seen now is what was seen before, and this option
        intro entry hentry later hmem
        rcases List.mem_append.mp hentry with hbefore | hnow
        · exact hseen entry hbefore later (List.mem_cons_of_mem _ hmem)
        · obtain rfl := List.mem_singleton.mp hnow
          exact hlater later hmem

/-- **A line that is written option by option is scanned to the settings of its options.** -/
theorem scan_words (hfits : ∀ o ∈ line, o.Fits g) (honce : Once line) :
    scan g (line.flatMap WrittenOption.words) = .ok (line.map (·.setting)) := by
  have hscan := arguments_line hfits honce (s := Scan.start) rfl fun _ hentry => by cases hentry
  unfold scan
  rw [hscan]
  simp [Except.map, Scan.start, Function.comp_def]

end Lines

end FlowProcessor.CommandLine
