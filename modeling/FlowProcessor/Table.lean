/-
  FlowProcessor.Table — TABLES NUMBERED BY WORDS.

  A table holds at most one value for each word and lists its entries by ascending number.  Since
  the order is part of the type, two tables with the same look-ups are equal (`Table.ext_find?`).

    • `find?_insert` — the entry written is the entry found, and no other entry changes
    • `find?_adjust` — the same for a change in place, which adds nothing
    • `mem_entries_iff` — the entries are what the look-ups find
-/

namespace FlowProcessor

/-- Values numbered by words, in ascending order. -/
structure Table (α : Type) where
  entries : List (UInt32 × α)
  ascending : entries.Pairwise fun a b => a.1 < b.1
  deriving DecidableEq

namespace Table

variable {α : Type}

/-! ## §1. Operations. -/

/-- The table without entries. -/
def empty : Table α := ⟨[], .nil⟩

/-- The value with a number in a list of entries. -/
def lookup (key : UInt32) : List (UInt32 × α) → Option α
  | [] => none
  | entry :: entries => if entry.1 = key then some entry.2 else lookup key entries

/-- The value with that number. -/
def find? (t : Table α) (key : UInt32) : Option α := lookup key t.entries

/-- Whether there is a value with that number. -/
def contains (t : Table α) (key : UInt32) : Bool := (t.find? key).isSome

/-- Writes an entry into an ascending list at its place, over an entry of the same number. -/
def put (key : UInt32) (a : α) : List (UInt32 × α) → List (UInt32 × α)
  | [] => [(key, a)]
  | entry :: entries =>
      if key < entry.1 then (key, a) :: entry :: entries
      else if entry.1 = key then (key, a) :: entries
      else entry :: put key a entries

theorem mem_put {key : UInt32} {a : α} {entries : List (UInt32 × α)} {entry : UInt32 × α}
    (h : entry ∈ put key a entries) : entry = (key, a) ∨ entry ∈ entries := by
  induction entries with
  | nil => exact .inl (by simpa [put] using h)
  | cons e es ih =>
      unfold put at h
      split at h
      · simpa using h
      · split at h
        · rcases List.mem_cons.mp h with h | h
          · exact .inl h
          · exact .inr (List.mem_cons_of_mem _ h)
        · rcases List.mem_cons.mp h with h | h
          · exact .inr (h ▸ List.mem_cons_self)
          · exact (ih h).imp id (List.mem_cons_of_mem _)

theorem put_ascending (key : UInt32) (a : α) {entries : List (UInt32 × α)}
    (h : entries.Pairwise fun a b => a.1 < b.1) :
    (put key a entries).Pairwise fun a b => a.1 < b.1 := by
  induction entries with
  | nil => simp [put]
  | cons e es ih =>
      obtain ⟨head, tail⟩ := List.pairwise_cons.mp h
      unfold put
      split
      · rename_i hlt
        refine List.pairwise_cons.mpr ⟨fun entry hmem => ?_, h⟩
        rcases List.mem_cons.mp hmem with rfl | hmem
        · exact hlt
        · exact UInt32.lt_trans hlt (head entry hmem)
      · rename_i hge
        split
        · rename_i heq
          exact List.pairwise_cons.mpr ⟨fun entry hmem => heq ▸ head entry hmem, tail⟩
        · rename_i hne
          refine List.pairwise_cons.mpr ⟨fun entry hmem => ?_, ih tail⟩
          rcases mem_put hmem with rfl | hmem
          · exact UInt32.lt_of_le_of_ne (UInt32.not_lt.mp hge) hne
          · exact head entry hmem

/-- Writes an entry, over an entry of the same number. -/
def insert (t : Table α) (key : UInt32) (a : α) : Table α :=
  ⟨put key a t.entries, put_ascending key a t.ascending⟩

/-- Changes the value with that number, if there is one. -/
def adjust (t : Table α) (key : UInt32) (f : α → α) : Table α :=
  match t.find? key with
  | none => t
  | some a => t.insert key (f a)

/-- The table of a list of entries; of several entries with one number the last counts. -/
def ofList (entries : List (UInt32 × α)) : Table α :=
  entries.foldl (fun t entry => t.insert entry.1 entry.2) empty

/-! ## §2. Look-ups after a write. -/

theorem lookup_put (key other : UInt32) (a : α) (entries : List (UInt32 × α)) :
    lookup other (put key a entries) = if key = other then some a else lookup other entries := by
  induction entries with
  | nil => simp [put, lookup]
  | cons e es ih =>
      unfold put
      split
      · simp [lookup]
      · split
        · rename_i heq
          subst heq
          by_cases h : e.1 = other <;> simp [lookup, h]
        · rename_i hne
          by_cases h : e.1 = other
          · subst h
            simp [lookup, Ne.symm hne]
          · simp [lookup, h, ih]

@[simp] theorem find?_empty (key : UInt32) : (empty : Table α).find? key = none := rfl

@[simp] theorem find?_insert (t : Table α) (key other : UInt32) (a : α) :
    (t.insert key a).find? other = if key = other then some a else t.find? other :=
  lookup_put key other a t.entries

theorem find?_adjust (t : Table α) (key other : UInt32) (f : α → α) :
    (t.adjust key f).find? other
      = if key = other then (t.find? key).map f else t.find? other := by
  unfold adjust
  split
  · rename_i h
    by_cases hk : key = other
    · subst hk
      simp [h]
    · simp [hk]
  · rename_i a h
    simp [h]

/-! ## §3. Equality. -/

theorem lookup_eq_none_of_lt {key : UInt32} {entries : List (UInt32 × α)}
    (h : ∀ entry ∈ entries, key < entry.1) : lookup key entries = none := by
  induction entries with
  | nil => rfl
  | cons e es ih =>
      have hne : e.1 ≠ key := fun heq =>
        UInt32.lt_irrefl key (by simpa [heq] using h e List.mem_cons_self)
      simp [lookup, hne, ih fun entry hmem => h entry (List.mem_cons_of_mem _ hmem)]

theorem mem_keys_of_lookup {key : UInt32} {entry : UInt32 × α} {entries : List (UInt32 × α)} {a : α}
    (h : lookup key (entry :: entries) = some a) :
    entry.1 = key ∨ ∃ e ∈ entries, e.1 = key := by
  induction entries generalizing entry with
  | nil =>
      by_cases hk : entry.1 = key
      · exact .inl hk
      · simp [lookup, hk] at h
  | cons e es ih =>
      by_cases hk : entry.1 = key
      · exact .inl hk
      · rw [lookup, if_neg hk] at h
        rcases ih h with he | ⟨e', hmem, he⟩
        · exact .inr ⟨e, List.mem_cons_self, he⟩
        · exact .inr ⟨e', List.mem_cons_of_mem _ hmem, he⟩

theorem eq_of_lookup_eq {xs ys : List (UInt32 × α)}
    (hx : xs.Pairwise fun a b => a.1 < b.1) (hy : ys.Pairwise fun a b => a.1 < b.1)
    (h : ∀ key, lookup key xs = lookup key ys) : xs = ys := by
  induction xs generalizing ys with
  | nil =>
      cases ys with
      | nil => rfl
      | cons y ys => simpa [lookup] using h y.1
  | cons x xs ih =>
      cases ys with
      | nil => simpa [lookup] using h x.1
      | cons y ys =>
          obtain ⟨headX, tailX⟩ := List.pairwise_cons.mp hx
          obtain ⟨headY, tailY⟩ := List.pairwise_cons.mp hy
          have hkey : x.1 = y.1 := by
            have hx' : lookup x.1 (y :: ys) = some x.2 := by simpa [lookup] using (h x.1).symm
            have hy' : lookup y.1 (x :: xs) = some y.2 := by simpa [lookup] using h y.1
            rcases mem_keys_of_lookup hx' with heq | ⟨e, hmem, heq⟩
            · exact heq.symm
            · rcases mem_keys_of_lookup hy' with heq' | ⟨e', hmem', heq'⟩
              · exact heq'
              · have h₁ := headY e hmem
                have h₂ := headX e' hmem'
                rw [heq] at h₁
                rw [heq'] at h₂
                exact absurd (UInt32.lt_trans h₁ h₂) (UInt32.lt_irrefl _)
          have hval : x.2 = y.2 := by simpa [lookup, hkey] using h x.1
          have hrest : xs = ys := by
            refine ih tailX tailY fun key => ?_
            by_cases hk : key = x.1
            · subst hk
              rw [lookup_eq_none_of_lt headX, lookup_eq_none_of_lt (hkey ▸ headY)]
            · have := h key
              simpa [lookup, Ne.symm hk, hkey ▸ Ne.symm hk] using this
          rw [Prod.ext hkey hval, hrest]

/-- A table is determined by its look-ups. -/
theorem ext_find? {s t : Table α} (h : ∀ key, s.find? key = t.find? key) : s = t := by
  obtain ⟨xs, hx⟩ := s
  obtain ⟨ys, hy⟩ := t
  obtain rfl := eq_of_lookup_eq hx hy h
  rfl

/-! ## §4. Entries. -/

theorem mem_of_lookup {key : UInt32} {a : α} {entries : List (UInt32 × α)}
    (h : lookup key entries = some a) : (key, a) ∈ entries := by
  induction entries with
  | nil => cases h
  | cons e es ih =>
      unfold lookup at h
      split at h
      · rename_i hkey
        have he : e = (key, a) := Prod.ext hkey (Option.some.inj h)
        rw [he]
        exact List.mem_cons_self
      · exact List.mem_cons_of_mem _ (ih h)

theorem lookup_of_mem {key : UInt32} {a : α} {entries : List (UInt32 × α)}
    (hasc : entries.Pairwise fun a b => a.1 < b.1) (h : (key, a) ∈ entries) :
    lookup key entries = some a := by
  induction entries with
  | nil => cases h
  | cons e es ih =>
      obtain ⟨head, tail⟩ := List.pairwise_cons.mp hasc
      unfold lookup
      rcases List.mem_cons.mp h with rfl | hmem
      · exact if_pos rfl
      · -- an entry further on has a greater number than the first one
        have hlt : e.1 < key := head _ hmem
        have hne : e.1 ≠ key := UInt32.ne_of_lt hlt
        rw [if_neg hne]
        exact ih tail hmem

/-- The entries of a table are what its look-ups find. -/
theorem mem_entries_iff {t : Table α} {key : UInt32} {a : α} :
    (key, a) ∈ t.entries ↔ t.find? key = some a :=
  ⟨lookup_of_mem t.ascending, mem_of_lookup⟩

end Table

end FlowProcessor
