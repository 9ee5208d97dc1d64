/-
  FlowProcessor.Proofs.Reading.Pieces — TEXTS THAT ARE READ PIECE BY PIECE.

  A text is cut at a separator.  Its pieces are told without cutting it: they have no separator in
  them, and make up the text when one is put between every two.  They are read from the left, and
  the first that cannot be read is the one that counts.

    • `Cut`            — the pieces of a text
    • `splitAt_eq_iff` — they are what the text is cut into, and nothing else is
    • `mapM_eq_ok_iff`, `mapM_eq_error_iff` — what reading them one by one comes to
    • `exactly_of_cases` — reasons that cover every case are the only ones
-/
import FlowProcessor.Destinations

namespace FlowProcessor

/-! ## §1. The pieces of a text. -/

/-- The pieces of a text between separators, of which there is one at least. -/
structure Cut (sep : Char) (text : List Char) (pieces : List (List Char)) : Prop where
  nonempty : pieces ≠ []
  clear : ∀ piece ∈ pieces, sep ∉ piece
  whole : [sep].intercalate pieces = text

section Cutting

variable {sep : Char} {text : List Char} {pieces : List (List Char)}

theorem splitAt_eq_splitOn (sep : Char) (text : List Char) :
    splitAt sep text = text.splitOn sep := by
  induction text with
  | nil => rfl
  | cons c cs ih =>
      unfold List.splitOn at ih ⊢
      rw [splitAt, ih, List.splitOnP_cons_eq_if_modifyHead]
      by_cases hsep : c = sep
      · rw [if_pos hsep, if_pos (beq_iff_eq.mpr hsep)]
      · rw [if_neg hsep, if_neg fun h => hsep (beq_iff_eq.mp h)]
        -- there is a first piece, to which the character is added
        cases hpieces : cs.splitOnP (· == sep) with
        | nil => exact absurd hpieces (List.splitOnP_ne_nil _ cs)
        | cons piece pieces => rfl

/-- No piece has the separator in it. -/
theorem not_mem_of_mem_splitAt : ∀ piece ∈ splitAt sep text, sep ∉ piece := by
  induction text with
  | nil => simp [splitAt]
  | cons c cs ih =>
      rw [splitAt]
      by_cases hsep : c = sep
      · rw [if_pos hsep]
        exact List.forall_mem_cons.mpr ⟨List.not_mem_nil, ih⟩
      · rw [if_neg hsep]
        cases hpieces : splitAt sep cs with
        | nil => simp [Ne.symm hsep]
        | cons piece pieces =>
            rw [hpieces] at ih
            obtain ⟨hpiece, hrest⟩ := List.forall_mem_cons.mp ih
            exact List.forall_mem_cons.mpr ⟨by simp [Ne.symm hsep, hpiece], hrest⟩

/-- Every character of pieces put together is the separator or in one of them. -/
theorem mem_intercalate {c : Char} (h : c ∈ [sep].intercalate pieces) :
    c = sep ∨ ∃ piece ∈ pieces, c ∈ piece := by
  induction pieces with
  | nil => cases h
  | cons piece pieces ih =>
      cases pieces with
      | nil =>
          rw [List.intercalate_singleton] at h
          exact .inr ⟨piece, List.mem_cons_self, h⟩
      | cons next rest =>
          rw [List.intercalate_cons_cons, List.append_assoc, List.mem_append,
            List.singleton_append, List.mem_cons] at h
          rcases h with hpiece | hsep | hrest
          · exact .inr ⟨piece, List.mem_cons_self, hpiece⟩
          · exact .inl hsep
          · rcases ih hrest with hsep | ⟨later, hlater, hmem⟩
            · exact .inl hsep
            · exact .inr ⟨later, List.mem_cons_of_mem _ hlater, hmem⟩

/-- Each of the pieces put together is in the whole as it is. -/
theorem infix_intercalate {piece : List Char} (h : piece ∈ pieces) :
    piece <:+: [sep].intercalate pieces := by
  induction pieces with
  | nil => cases h
  | cons first pieces ih =>
      cases pieces with
      | nil =>
          obtain rfl := List.mem_singleton.mp h
          exact ⟨[], [], by rw [List.intercalate_singleton, List.nil_append, List.append_nil]⟩
      | cons next rest =>
          rw [List.intercalate_cons_cons]
          rcases List.mem_cons.mp h with rfl | hlater
          · rw [List.append_assoc]
            exact (List.prefix_append _ _).isInfix
          · exact (ih hlater).trans (List.suffix_append _ _).isInfix

/-- Another separator between the same pieces. -/
theorem map_intercalate {other : Char} (h : ∀ piece ∈ pieces, sep ∉ piece) :
    ([sep].intercalate pieces).map (fun c => if c = sep then other else c)
      = [other].intercalate pieces := by
  have hpiece : ∀ piece : List Char, sep ∉ piece →
      piece.map (fun c => if c = sep then other else c) = piece := by
    intro piece hclear
    have hself : ∀ c ∈ piece, (if c = sep then other else c) = c := by
      intro c hc
      refine if_neg ?_
      rintro rfl
      exact hclear hc
    rw [List.map_congr_left hself, List.map_id']
  induction pieces with
  | nil => rfl
  | cons piece pieces ih =>
      obtain ⟨hfirst, hrest⟩ := List.forall_mem_cons.mp h
      cases pieces with
      | nil =>
          rw [List.intercalate_singleton, List.intercalate_singleton, hpiece piece hfirst]
      | cons next rest =>
          rw [List.intercalate_cons_cons, List.intercalate_cons_cons, List.map_append,
            List.map_append, ih hrest, hpiece piece hfirst, List.map_singleton, if_pos rfl]

/-- Pieces with a separator after each are those pieces and an empty one. -/
theorem intercalate_concat_nil (sep : Char) (pieces : List (List Char)) :
    [sep].intercalate (pieces ++ [[]]) = pieces.flatMap (· ++ [sep]) := by
  induction pieces with
  | nil => rfl
  | cons piece pieces ih =>
      rw [List.flatMap_cons, ← ih]
      cases pieces with
      | nil => exact List.intercalate_cons_cons
      | cons next rest => exact List.intercalate_cons_cons

/-- What a text is cut into are its pieces. -/
theorem splitAt_eq_iff : splitAt sep text = pieces ↔ Cut sep text pieces := by
  constructor
  · rintro rfl
    refine ⟨?_, not_mem_of_mem_splitAt, ?_⟩
    · rw [splitAt_eq_splitOn]
      exact List.splitOn_ne_nil sep text
    · rw [splitAt_eq_splitOn]
      exact List.intercalate_splitOn sep
  · intro h
    rw [splitAt_eq_splitOn, ← h.whole]
    exact List.splitOn_intercalate sep h.clear h.nonempty

/-- A text has pieces, and in one way only. -/
theorem cut_splitAt (sep : Char) (text : List Char) : Cut sep text (splitAt sep text) :=
  splitAt_eq_iff.mp rfl

theorem Cut.infix_of_mem {piece : List Char} (h : Cut sep text pieces) (hpiece : piece ∈ pieces) :
    piece <:+: text :=
  h.whole ▸ infix_intercalate hpiece

end Cutting

/-! ## §2. Reading from the left. -/

section Reading

variable {α β ε : Type} {f : α → Except ε β} {xs : List α}

/-- In lists with the same images, what is in one has its like in the other. -/
theorem exists_of_map_eq {γ : Type} {g : α → γ} {k : β → γ} {ys : List β}
    (h : xs.map g = ys.map k) {x : α} (hx : x ∈ xs) : ∃ y ∈ ys, k y = g x := by
  have hmem : g x ∈ ys.map k := by
    rw [← h]
    exact List.mem_map_of_mem hx
  exact List.mem_map.mp hmem

/-- Where each is read, there is what all of them are read as. -/
theorem exists_map_eq_ok (h : ∀ x ∈ xs, ∃ y, f x = .ok y) : ∃ ys : List β, xs.map f = ys.map .ok := by
  induction xs with
  | nil => exact ⟨[], rfl⟩
  | cons x xs ih =>
      obtain ⟨⟨y, hy⟩, hxs⟩ := List.forall_mem_cons.mp h
      obtain ⟨ys, hys⟩ := ih hxs
      refine ⟨y :: ys, ?_⟩
      rw [List.map_cons, List.map_cons, hy, hys]

/-- All is read when each is. -/
theorem mapM_eq_ok_iff {ys : List β} : xs.mapM f = .ok ys ↔ xs.map f = ys.map .ok := by
  induction xs generalizing ys with
  | nil => cases ys <;> simp [pure, Except.pure]
  | cons x xs ih =>
      rw [List.mapM_cons, List.map_cons]
      cases hx : f x with
      | error first => cases ys <;> simp [bind, Except.bind]
      | ok y =>
          constructor
          · intro h
            cases hxs : xs.mapM f with
            | error first => rw [hxs] at h; cases h
            | ok rest =>
                rw [hxs] at h
                obtain rfl := Except.ok.inj h
                rw [ih.mp hxs]
                rfl
          · intro h
            cases ys with
            | nil => cases h
            | cons z zs =>
                obtain ⟨hz, hzs⟩ := List.cons.inj h
                obtain rfl := Except.ok.inj hz
                rw [ih.mpr hzs]
                rfl

/-- What cannot be read first is what counts. -/
theorem mapM_eq_error_iff {error : ε} :
    xs.mapM f = .error error ↔
      ∃ (done : List β) (rest : List (Except ε β)),
        xs.map f = done.map .ok ++ .error error :: rest := by
  induction xs with
  | nil => simp [pure, Except.pure]
  | cons x xs ih =>
      rw [List.mapM_cons, List.map_cons]
      cases hx : f x with
      | error first =>
          constructor
          · intro h
            obtain rfl := Except.error.inj h
            exact ⟨[], xs.map f, rfl⟩
          · rintro ⟨done, rest, h⟩
            cases done with
            | nil =>
                obtain ⟨hfirst, -⟩ := List.cons.inj h
                exact congrArg _ (Except.error.inj hfirst)
            | cons y done => cases h
      | ok y =>
          constructor
          · intro h
            cases hxs : xs.mapM f with
            | ok ys => rw [hxs] at h; cases h
            | error first =>
                rw [hxs] at h
                obtain rfl := Except.error.inj h
                obtain ⟨done, rest, hmap⟩ := ih.mp hxs
                exact ⟨y :: done, rest, congrArg _ hmap⟩
          · rintro ⟨done, rest, h⟩
            cases done with
            | nil => cases h
            | cons z done =>
                obtain ⟨-, hrest⟩ := List.cons.inj h
                rw [ih.mpr ⟨done, rest, hrest⟩]
                rfl

/-- If one of some reasons to be read or to be refused is always there, they are the only ones. -/
theorem exactly_of_cases {read : Except ε β} {reads : β → Prop} {refuses : ε → Prop}
    (hreads : ∀ y, reads y → read = .ok y) (hrefuses : ∀ error, refuses error → read = .error error)
    (hcases : (∃ y, reads y) ∨ ∃ error, refuses error) :
    (∀ y, read = .ok y ↔ reads y) ∧ ∀ error, read = .error error ↔ refuses error := by
  rcases hcases with ⟨y, hy⟩ | ⟨error, herror⟩
  · have hok := hreads y hy
    refine ⟨fun z => ⟨fun h => ?_, hreads z⟩, fun error => ⟨fun h => ?_, hrefuses error⟩⟩
    · obtain rfl := Except.ok.inj (hok.symm.trans h)
      exact hy
    · cases hok.symm.trans h
  · have hrefused := hrefuses error herror
    refine ⟨fun z => ⟨fun h => ?_, hreads z⟩, fun other => ⟨fun h => ?_, hrefuses other⟩⟩
    · cases hrefused.symm.trans h
    · obtain rfl := Except.error.inj (hrefused.symm.trans h)
      exact herror

end Reading

end FlowProcessor
