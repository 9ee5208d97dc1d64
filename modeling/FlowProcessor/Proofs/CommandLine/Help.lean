/-
  FlowProcessor.Proofs.CommandLine.Help — WHO GETS THE HELP.

  The help is given at one place of the scanner, where an option of that name is met.  No value of
  an option makes it appear, neither at once nor when the option is settled later.

    • `Grammar.AsksForHelp` — an argument that asks for the help
    • `Honest`              — what a step may come to if nothing else gives the help
    • `asksForHelp_of_scan` — the help is given only where some argument asks for it
-/
import FlowProcessor.CommandLine.Value
import FlowProcessor.Proofs.CommandLine.Lines

namespace FlowProcessor.CommandLine

variable {σ : Type}

/-! ## §1. Asking for the help. -/

/-- An argument that asks for the help: by its long name, or by its short one, alone or joined
behind options that take no value. -/
def Grammar.AsksForHelp (g : Grammar σ) (text : String) : Prop :=
  text = "--help" ∨ ∃ flags rest, text.toList = '-' :: (flags ++ 'h' :: rest)
    ∧ ∀ c ∈ flags, ∃ rule, g.short? c = some rule ∧ rule.takes ≠ .value

/-- An argument without the letter does not. -/
theorem Grammar.not_asksForHelp {g : Grammar σ} {text : String} (h : 'h' ∉ text.toList) :
    ¬ g.AsksForHelp text := by
  rintro (rfl | ⟨flags, rest, htext, -⟩)
  · exact h (by decide)
  · rw [htext] at h
    exact h (List.mem_cons_of_mem _ (List.mem_append_right _ List.mem_cons_self))

/-- No value makes an option ask for the help. -/
def OptionRule.NoHelp (rule : OptionRule σ) : Prop := ∀ value, rule.read value ≠ .error .help

/-- Options that read every value are of this kind. -/
@[simp] theorem noHelp_of_total (long : String) (short : Option Char) (takes : Takes)
    (repeatable : Bool) (setting : String → σ) :
    (OptionRule.mk long short takes repeatable fun value => .ok (setting value)).NoHelp :=
  fun _ h => by cases h

@[simp] theorem noHelp_flag (long : String) (short : Char) (setting : σ) :
    (flag long short setting).NoHelp := fun _ h => by cases h

@[simp] theorem noHelp_textOption (long : String) (short : Char) (setting : String → σ) :
    (textOption long short setting).NoHelp := fun _ h => by cases h

@[simp] theorem noHelp_pathOption (long : String) (setting : String → σ) :
    (pathOption long setting).NoHelp := by
  intro value h
  unfold pathOption at h
  dsimp only at h
  split at h <;> cases h

@[simp] theorem noHelp_readOption {α : Type} (long : String) (short : Char) (repeatable : Bool)
    (read : String → Except InputError α) (word : InputError → String) (setting : α → σ) :
    (readOption long short repeatable read word setting).NoHelp := by
  intro value h
  unfold readOption at h
  dsimp only at h
  split at h <;> cases h

/-- The option that is left to settle does not ask for the help. -/
def Scan.NoHelp (s : Scan σ) : Prop :=
  ∀ rule value, s.awaiting = some (rule, value) → rule.NoHelp

/-- What a step may come to where the help is given only if it is asked for. -/
structure Honest (asked : Prop) (result : Except Rejection (Scan σ)) : Prop where
  help : result = .error .help → asked
  scan : ∀ s, result = .ok s → s.NoHelp

/-! ## §2. Steps of a scan. -/

variable {g : Grammar σ} {s : Scan σ} {rule : OptionRule σ} {asked : Prop}

theorem Honest.error {rejection : Rejection} (h : rejection = .help → asked) :
    Honest asked (.error rejection : Except Rejection (Scan σ)) :=
  ⟨fun heq => h (Except.error.inj heq), fun _ heq => by cases heq⟩

theorem Honest.ok (h : s.NoHelp) : Honest asked (.ok s) where
  help heq := by cases heq
  scan s' heq := by
    obtain rfl := Except.ok.inj heq
    exact h

theorem Honest.bind {result : Except Rejection (Scan σ)}
    {next : Scan σ → Except Rejection (Scan σ)} (h : Honest asked result)
    (hnext : ∀ s, s.NoHelp → Honest asked (next s)) : Honest asked (result >>= next) := by
  cases hresult : result with
  | ok s => exact hnext s (h.scan s hresult)
  | error rejection => exact .error fun hhelp => h.help (by rw [hresult, hhelp])

theorem Honest.record (h : rule.NoHelp) (s : Scan σ) (value : String) :
    Honest asked (s.record rule value) := by
  constructor
  · intro heq
    unfold Scan.record at heq
    split at heq
    · cases heq
    · cases hread : rule.read value with
      | ok setting => rw [hread] at heq; cases heq
      | error rejection =>
          rw [hread] at heq
          obtain rfl := Except.error.inj heq
          exact absurd hread (h value)
  · intro s' hrecord rule value hawaiting
    rw [awaiting_of_record hrecord] at hawaiting
    cases hawaiting

theorem Honest.settle (h : s.NoHelp) : Honest asked s.settle := by
  unfold Scan.settle
  cases hawaiting : s.awaiting with
  | none => exact .ok h
  | some entry =>
      obtain ⟨rule, value⟩ := entry
      cases value with
      | none => exact .error fun heq => by cases heq
      | some value => exact .record (h rule _ hawaiting) s value

theorem Honest.take (hrule : rule.NoHelp) (h : s.NoHelp) (value : String) :
    Honest asked (s.take rule value) :=
  (Honest.settle h).bind fun s _ => .record hrule s value

theorem Honest.await (hrule : rule.NoHelp) (h : s.NoHelp) : Honest asked (s.await rule) := by
  have hsettle : Honest asked s.settle := .settle h
  unfold Scan.await
  cases hsettled : s.settle with
  | error rejection => exact .error fun hhelp => hsettle.help (by rw [hsettled, hhelp])
  | ok settled =>
      refine .ok fun other value hawaiting => ?_
      obtain ⟨rfl, -⟩ := Prod.mk.inj (Option.some.inj hawaiting)
      exact hrule

/-! ## §3. Arguments. -/

/-- Where no value is split off, the name is all there is. -/
theorem fst_splitValue {cs : List Char} (h : (Scan.splitValue cs).2 = none) :
    (Scan.splitValue cs).1 = cs := by
  unfold Scan.splitValue at h ⊢
  split at h
  · rfl
  · cases h

section Arguments

variable (hg : ∀ rule ∈ g, rule.NoHelp)
include hg

theorem Honest.shortOptions {cs : List Char} (h : s.NoHelp)
    (hasked : ∀ flags rest, cs = flags ++ 'h' :: rest →
      (∀ c ∈ flags, ∃ rule, g.short? c = some rule ∧ rule.takes ≠ .value) → asked) :
    Honest asked (Scan.shortOptions g cs s) := by
  induction cs generalizing s with
  | nil => exact .ok h
  | cons name rest ih =>
      rw [Scan.shortOptions.eq_def]
      dsimp only
      cases hrule : g.short? name with
      | none =>
          dsimp only
          split
          · -- this is the one place where the help is given
            rename_i hname
            have hhelp : asked := hasked [] rest (by rw [hname]; rfl) fun _ hc => by cases hc
            exact (Honest.settle h).bind fun _ _ => .error fun _ => hhelp
          · exact .error fun heq => by cases heq
      | some rule =>
          have hquiet : rule.NoHelp := hg rule (List.mem_of_find?_eq_some hrule)
          have hrest : rule.takes ≠ .value → ∀ s : Scan σ, s.NoHelp →
              Honest asked (Scan.shortOptions g rest s) := by
            intro htakes s hs
            refine ih hs fun flags more hsplit hflags => hasked (name :: flags) more ?_ ?_
            · rw [hsplit]
              rfl
            · exact List.forall_mem_cons.mpr ⟨⟨rule, hrule, htakes⟩, hflags⟩
          dsimp only
          split
          · rename_i htakes
            exact (Honest.take hquiet h _).bind (hrest (by simp [htakes]))
          · exact .await hquiet h
          · exact .take hquiet h _
          · exact .take hquiet h _
          · exact .take hquiet h _
          · rename_i htakes _
            exact (Honest.take hquiet h _).bind (hrest (by simp [htakes]))

theorem Honest.longOption {name : List Char} {value : Option (List Char)} (h : s.NoHelp)
    (hasked : name = "help".toList → value = none → asked) :
    Honest asked (Scan.longOption g s name value) := by
  unfold Scan.longOption
  cases hrule : g.long? name with
  | none =>
      dsimp only
      split
      · rename_i hname
        cases value with
        | none => exact (Honest.settle h).bind fun _ _ => .error fun _ => hasked hname rfl
        | some value => exact .error fun heq => by cases heq
      · exact .error fun heq => by cases heq
  | some rule =>
      have hquiet : rule.NoHelp := hg rule (List.mem_of_find?_eq_some hrule)
      dsimp only
      split
      · exact .take hquiet h _
      · exact .error fun heq => by cases heq
      · exact .take hquiet h _
      · exact .await hquiet h
      · exact .take hquiet h _

theorem Honest.argument {text : String} (h : s.NoHelp) :
    Honest (g.AsksForHelp text) (s.argument g text) := by
  unfold Scan.argument
  split
  · rename_i long htext
    refine .longOption hg h fun hname hvalue => .inl ?_
    have hlong : long = "help".toList := (fst_splitValue hvalue).symm.trans hname
    rw [← String.toList_inj, htext, hlong]
    rfl
  · rename_i htext
    exact .shortOptions hg h fun flags rest hsplit hflags =>
      .inr ⟨flags, rest, by rw [htext, hsplit], hflags⟩
  · unfold Scan.plain
    split
    · rename_i rule hawaiting
      refine .ok fun other value hother => ?_
      obtain ⟨rfl, -⟩ := Prod.mk.inj (Option.some.inj hother)
      exact h rule none hawaiting
    · exact .error fun heq => by cases heq

theorem Honest.arguments {args : List String} (h : s.NoHelp) :
    Honest (∃ text ∈ args, g.AsksForHelp text) (s.arguments g args) := by
  induction args generalizing s with
  | nil => exact .settle h
  | cons text rest ih =>
      rw [Scan.arguments]
      split
      · split
        · exact .settle h
        · exact .error fun heq => by cases heq
      · have hfirst : Honest (∃ other ∈ text :: rest, g.AsksForHelp other) (s.argument g text) := by
          have hargument : Honest (g.AsksForHelp text) (s.argument g text) := .argument hg h
          exact ⟨fun heq => ⟨text, List.mem_cons_self, hargument.help heq⟩, hargument.scan⟩
        refine hfirst.bind fun s hs => ⟨fun heq => ?_, (ih hs).scan⟩
        obtain ⟨other, hother, hasks⟩ := (ih hs).help heq
        exact ⟨other, List.mem_cons_of_mem _ hother, hasks⟩

/-- **The help is given only where some argument asks for it.** -/
theorem asksForHelp_of_scan {args : List String} (h : CommandLine.scan g args = .error .help) :
    ∃ text ∈ args, g.AsksForHelp text := by
  have hstart : (Scan.start : Scan σ).NoHelp := fun _ _ hawaiting => by cases hawaiting
  refine (Honest.arguments hg hstart).help ?_
  unfold CommandLine.scan at h
  cases hscan : Scan.start.arguments g args with
  | ok s => rw [hscan] at h; cases h
  | error rejection =>
      rw [hscan] at h
      exact congrArg _ (Except.error.inj h)

/-- A tool that has something else against some lines gives the help only there as well. -/
theorem asksForHelp_of_read {α : Type} {args : List String} {check : List σ → Except Rejection α}
    (hcheck : ∀ settings, check settings ≠ .error .help)
    (h : (CommandLine.scan g args >>= check) = .error .help) :
    ∃ text ∈ args, g.AsksForHelp text := by
  refine asksForHelp_of_scan hg ?_
  cases hscan : CommandLine.scan g args with
  | error rejection =>
      rw [hscan] at h
      exact congrArg _ (Except.error.inj h)
  | ok settings =>
      rw [hscan] at h
      exact absurd h (hcheck settings)

end Arguments

end FlowProcessor.CommandLine
