/-
  FlowProcessor.Proofs.IdSets.FiniteSets — A WORD OF FLAGS STANDS FOR A FINITE SET.

  The identifiers whose flags are set make a finite set.  What is asked of a word is answered as of
  this set, and what is done to the word is done to this set, one change after the other.  The flags
  beyond the range of identifiers are in no such set: nothing that is done with identifiers reaches
  them, and they are only ever joined by those of another word.

  A word is empty only if none of its flags is set.  So a word of destinations is empty exactly if
  it has no members, but a word of groups can have flags, and no members.

    • `IdSet.toFinset`               — the finite set a word stands for
    • `IdSet.Edit`, `IdSet.edit`     — the changes of a word
    • `toFinset_edits`               — any run of changes, seen by the finite set
    • `testBit_edits_of_le`          — and by the flags beyond
    • `idSet_refines_finset`         — all that is asked of a word and done to it
    • `members_eq_nil_iff_mod`       — words without members, by their number
    • `emptiness_by_flags`           — how being empty and having no members go together
-/
import FlowProcessor.Proofs.IdSets
import FlowProcessor.Proofs.Platform.RoundTrip
import Mathlib.Data.Finset.Card
import Mathlib.Data.Fintype.Basic

namespace FlowProcessor

namespace IdSet

variable {n : Nat}

/-! ## §1. The finite set of a word. -/

/-- The identifiers whose flags are set. -/
def toFinset (s : IdSet n) : Finset (Fin n) :=
  Finset.univ.filter fun i => s.bits.toNat.testBit i.val = true

@[simp]
theorem mem_toFinset {s : IdSet n} {i : Fin n} :
    i ∈ s.toFinset ↔ s.bits.toNat.testBit i.val = true := by
  unfold toFinset
  rw [Finset.mem_filter]
  exact and_iff_right (Finset.mem_univ i)

theorem toFinset_union (s other : IdSet n) :
    (s.union other).toFinset = s.toFinset ∪ other.toFinset := by
  ext j
  rw [Finset.mem_union, mem_toFinset, mem_toFinset, mem_toFinset, testBit_union, Bool.or_eq_true]

section Small

variable (hn : n ≤ 32)

include hn

theorem mem_members_iff_mem_toFinset {s : IdSet n} {i : Fin n} :
    i ∈ s.members ↔ i ∈ s.toFinset := by
  rw [mem_members hn, mem_toFinset]

theorem contains_iff_mem_members {s : IdSet n} {i : Fin n} :
    s.contains i = true ↔ i ∈ s.members := by
  rw [contains_eq_testBit hn, mem_members hn]

/-- The members are listed once each, so that there are as many as in the finite set. -/
theorem size_eq_card (s : IdSet n) : s.size = s.toFinset.card := by
  have hnodup : s.members.Nodup := s.members_ascending.imp ne_of_lt
  have hmembers : s.members.toFinset = s.toFinset := by
    ext i
    rw [List.mem_toFinset, mem_members_iff_mem_toFinset hn]
  rw [← hmembers, List.toFinset_card_of_nodup hnodup]
  rfl

theorem toFinset_insert (s : IdSet n) (i : Fin n) :
    (s.insert i).toFinset = Insert.insert i s.toFinset := by
  ext j
  rw [Finset.mem_insert, mem_toFinset, mem_toFinset, testBit_insert hn, Bool.or_eq_true,
    decide_eq_true_eq, Fin.val_inj, or_comm, eq_comm]

theorem toFinset_remove (s : IdSet n) (i : Fin n) :
    (s.remove i).toFinset = s.toFinset.erase i := by
  ext j
  rw [Finset.mem_erase, mem_toFinset, mem_toFinset, testBit_remove hn, Bool.and_eq_true,
    Bool.not_eq_true', decide_eq_false_iff_not, Fin.val_inj, and_comm, ne_comm]

theorem toFinset_ofList (ids : List (Fin n)) : (ofList ids).toFinset = ids.toFinset := by
  ext j
  rw [mem_toFinset, testBit_ofList hn, List.mem_toFinset]
  constructor
  · rintro ⟨i, hi, hij⟩
    exact Fin.ext hij ▸ hi
  · intro hj
    exact ⟨j, hj, rfl⟩

theorem testBit_insert_of_ne (s : IdSet n) {i : Fin n} {k : Nat} (hk : k ≠ i.val) :
    (s.insert i).bits.toNat.testBit k = s.bits.toNat.testBit k := by
  rw [testBit_insert hn, decide_eq_false hk.symm, Bool.or_false]

theorem testBit_remove_of_ne (s : IdSet n) {i : Fin n} {k : Nat} (hk : k ≠ i.val) :
    (s.remove i).bits.toNat.testBit k = s.bits.toNat.testBit k := by
  rw [testBit_remove hn, decide_eq_false hk.symm, Bool.not_false, Bool.and_true]

end Small

/-! ## §2. Runs of changes. -/

/-- A change of a word. -/
inductive Edit (n : Nat)
  /-- An identifier is added. -/
  | added (i : Fin n)
  /-- An identifier is taken out. -/
  | removed (i : Fin n)
  /-- All flags of another word are added. -/
  | joined (other : IdSet n)

/-- The word after a change. -/
def edit (s : IdSet n) : Edit n → IdSet n
  | .added i => s.insert i
  | .removed i => s.remove i
  | .joined other => s.union other

/-- The finite set after a change. -/
def Edit.apply (members : Finset (Fin n)) : Edit n → Finset (Fin n)
  | .added i => Insert.insert i members
  | .removed i => members.erase i
  | .joined other => members ∪ other.toFinset

section Small

variable (hn : n ≤ 32)

include hn

/-- A change of a word changes its finite set. -/
theorem toFinset_edit (s : IdSet n) (change : Edit n) :
    (s.edit change).toFinset = change.apply s.toFinset := by
  cases change with
  | added i => exact toFinset_insert hn s i
  | removed i => exact toFinset_remove hn s i
  | joined other => exact toFinset_union s other

theorem toFinset_edits (changes : List (Edit n)) (s : IdSet n) :
    (changes.foldl edit s).toFinset = changes.foldl Edit.apply s.toFinset := by
  -- for every word at once, since each change leaves another one
  induction changes generalizing s with
  | nil => rfl
  | cons change changes ih => rw [List.foldl_cons, List.foldl_cons, ih, toFinset_edit hn]

/-- A flag beyond the range of identifiers stays, or comes with another word. -/
theorem testBit_edit_of_le {k : Nat} (hk : n ≤ k) (s : IdSet n) (change : Edit n) :
    (s.edit change).bits.toNat.testBit k = true
      ↔ s.bits.toNat.testBit k = true
        ∨ ∃ other, change = .joined other ∧ other.bits.toNat.testBit k = true := by
  -- no identifier has this flag
  have hne (i : Fin n) : k ≠ i.val := (Nat.lt_of_lt_of_le i.isLt hk).ne'
  cases change with
  | added i =>
      show (s.insert i).bits.toNat.testBit k = true ↔ _
      rw [testBit_insert_of_ne hn s (hne i)]
      simp
  | removed i =>
      show (s.remove i).bits.toNat.testBit k = true ↔ _
      rw [testBit_remove_of_ne hn s (hne i)]
      simp
  | joined other =>
      show (s.union other).bits.toNat.testBit k = true ↔ _
      rw [testBit_union, Bool.or_eq_true]
      simp

theorem testBit_edits_of_le {k : Nat} (hk : n ≤ k) (changes : List (Edit n)) (s : IdSet n) :
    (changes.foldl edit s).bits.toNat.testBit k = true
      ↔ s.bits.toNat.testBit k = true
        ∨ ∃ other, .joined other ∈ changes ∧ other.bits.toNat.testBit k = true := by
  induction changes generalizing s with
  | nil => simp
  | cons change changes ih =>
      rw [List.foldl_cons, ih, testBit_edit_of_le hn hk, or_assoc]
      refine or_congr_right ?_
      simp only [List.mem_cons, or_and_right, exists_or, eq_comm (a := change)]

end Small

/-! ## §3. Words without members. -/

/-- A word has no members if it contains no identifier. -/
theorem members_eq_nil_iff {s : IdSet n} : s.members = [] ↔ ∀ i, s.contains i = false := by
  unfold members
  rw [List.filter_eq_nil_iff]
  constructor
  · intro h i
    exact Bool.eq_false_iff.mpr (h i (List.mem_finRange i))
  · intro h i _
    exact Bool.eq_false_iff.mp (h i)

theorem isEmpty_iff {s : IdSet n} : s.isEmpty = true ↔ s.bits.toNat = 0 := by
  unfold isEmpty
  rw [beq_iff_eq, ← UInt32.toNat_inj, UInt32.toNat_zero]

/-- A word has no members if all flags in the range of identifiers are clear. -/
theorem members_eq_nil_iff_mod (hn : n ≤ 32) {s : IdSet n} :
    s.members = [] ↔ s.bits.toNat % 2 ^ n = 0 := by
  rw [members_eq_nil_iff]
  constructor
  · intro h
    -- flag by flag: the identifiers have those below `n`, and the remainder none above
    refine Nat.eq_of_testBit_eq fun k => ?_
    rw [Nat.testBit_mod_two_pow, Nat.zero_testBit]
    by_cases hk : k < n
    · rw [← contains_eq_testBit hn s ⟨k, hk⟩, h, Bool.and_false]
    · rw [decide_eq_false hk, Bool.false_and]
  · intro h i
    have hbit := Nat.testBit_mod_two_pow s.bits.toNat n i.val
    rw [h, Nat.zero_testBit, decide_eq_true i.isLt, Bool.true_and] at hbit
    rw [contains_eq_testBit hn, ← hbit]

end IdSet

open IdSet (Edit)

/-! ## §4. Sets of identifiers are finite sets. -/

/-- **A word of flags is a finite set of identifiers.  Its members are listed in ascending order and
are those whose flags are set; it contains these and no others, and its size is their number.  An
identifier added or taken out is added to or taken out of the finite set, and no other flag changes.
Of two words together the finite set is the union, and a flag is set that is set in either.  Along
any run of such changes the finite set changes in the same way, and a flag beyond the range of
identifiers is set at the end if it was at the start or came with another word.  What is written as
a document reads back as the same word.  Identifiers listed in any order, however often, make the
word with their flags and no others.** -/
theorem idSet_refines_finset {n : Nat} (hn : n ≤ 32) (s : IdSet n) :
    s.members.Pairwise (· < ·)
      ∧ (∀ i, i ∈ s.members ↔ i ∈ s.toFinset)
      ∧ (∀ i, s.contains i = true ↔ i ∈ s.members)
      ∧ s.size = s.toFinset.card
      ∧ (∀ i, (s.insert i).toFinset = insert i s.toFinset
        ∧ ∀ k, k ≠ i.val → (s.insert i).bits.toNat.testBit k = s.bits.toNat.testBit k)
      ∧ (∀ i, (s.remove i).toFinset = s.toFinset.erase i
        ∧ ∀ k, k ≠ i.val → (s.remove i).bits.toNat.testBit k = s.bits.toNat.testBit k)
      ∧ (∀ other : IdSet n, (s.union other).toFinset = s.toFinset ∪ other.toFinset
        ∧ ∀ k, (s.union other).bits.toNat.testBit k
          = (s.bits.toNat.testBit k || other.bits.toNat.testBit k))
      ∧ (∀ changes : List (Edit n),
        (changes.foldl IdSet.edit s).toFinset = changes.foldl Edit.apply s.toFinset
          ∧ ∀ k, n ≤ k → ((changes.foldl IdSet.edit s).bits.toNat.testBit k = true
            ↔ s.bits.toNat.testBit k = true
              ∨ ∃ other, .joined other ∈ changes ∧ other.bits.toNat.testBit k = true))
      ∧ (Json.read s.toJson.compact).bind IdSet.ofJson? = some s
      ∧ ∀ ids : List (Fin n), (IdSet.ofList ids).toFinset = ids.toFinset
        ∧ ∀ k, (IdSet.ofList ids).bits.toNat.testBit k = true ↔ ∃ i ∈ ids, i.val = k := by
  refine ⟨s.members_ascending, fun _ => IdSet.mem_members_iff_mem_toFinset hn,
    fun _ => IdSet.contains_iff_mem_members hn, IdSet.size_eq_card hn s, fun i => ?inserted,
    fun i => ?removed, fun other => ?joined, fun changes => ?run, ?text, fun ids => ?listed⟩
  case inserted =>
    exact ⟨IdSet.toFinset_insert hn s i, fun k hk => IdSet.testBit_insert_of_ne hn s hk⟩
  case removed =>
    exact ⟨IdSet.toFinset_remove hn s i, fun k hk => IdSet.testBit_remove_of_ne hn s hk⟩
  case joined =>
    exact ⟨IdSet.toFinset_union s other, IdSet.testBit_union s other⟩
  case run =>
    exact ⟨IdSet.toFinset_edits hn changes s,
      fun k hk => IdSet.testBit_edits_of_le hn hk changes s⟩
  case text =>
    rw [Json.read_compact (IdSet.faithful.proper s), Option.bind_some, IdSet.faithful.reads]
  case listed =>
    exact ⟨IdSet.toFinset_ofList hn ids, IdSet.testBit_ofList hn ids⟩

/-- A device has set flags beyond the groups.  They stay when group 23 is added, when group 0 is
taken out and when the word is written and read, and make no members. -/
theorem idSet_refines_finset_beyond_groups :
    ∃ s : GroupSet, s = ⟨0xFF000001⟩ ∧ groupCount ≤ 32
      ∧ (s.insert 23).toFinset = insert 23 s.toFinset
      ∧ (s.remove 0).bits.toNat.testBit 31 = true
      ∧ ([Edit.removed 0, .joined ⟨0x80000004⟩, .added 2].foldl IdSet.edit s).toFinset = {2}
      ∧ (Json.read s.toJson.compact).bind IdSet.ofJson? = some s
      ∧ (IdSet.ofList [23, 0, 23] : GroupSet).toFinset = {23, 0} := by
  have hgroups : groupCount ≤ 32 := by decide
  obtain ⟨-, -, -, -, hinsert, hremove, -, hrun, htext, hlisted⟩ :=
    idSet_refines_finset hgroups (⟨0xFF000001⟩ : GroupSet)
  refine ⟨_, rfl, hgroups, (hinsert 23).1, ?_, ?_, htext, ?_⟩
  · rw [(hremove 0).2 31 (by decide)]
    decide
  · rw [(hrun _).1]
    decide
  · rw [(hlisted _).1]
    decide

/-! ## §5. Being empty and having no members. -/

/-- **A word of destinations is empty, has size zero, has no members, and contains no destination,
all at once or not at all.  A word of groups has size zero exactly if it has no members and exactly
if it contains no group, and this is so if the flags of all 24 groups are clear.  It is empty only
if all of its flags are, so that these part ways for the words that have flags, all of them beyond
the groups, and for no others.** -/
theorem emptiness_by_flags (dests : DestSet) (groups : GroupSet) :
    ((dests.isEmpty = true ↔ dests.size = 0)
        ∧ (dests.size = 0 ↔ dests.members = [])
        ∧ (dests.members = [] ↔ ∀ i, dests.contains i = false))
      ∧ (groups.size = 0 ↔ groups.members = [])
      ∧ (groups.members = [] ↔ ∀ i, groups.contains i = false)
      ∧ (groups.members = [] ↔ groups.bits.toNat % 2 ^ groupCount = 0)
      ∧ (groups.isEmpty = true ↔ groups.bits.toNat = 0)
      ∧ (¬ (groups.isEmpty = true ↔ groups.members = [])
        ↔ groups.bits.toNat ≠ 0 ∧ groups.bits.toNat % 2 ^ groupCount = 0) := by
  have hdests : dests.members = [] ↔ dests.bits.toNat = 0 := by
    rw [IdSet.members_eq_nil_iff_mod (by decide), Nat.mod_eq_of_lt dests.bits.toNat_lt]
  have hgroups : groups.members = [] ↔ groups.bits.toNat % 2 ^ groupCount = 0 :=
    IdSet.members_eq_nil_iff_mod (by decide)
  have hsize {n : Nat} {s : IdSet n} : s.size = 0 ↔ s.members = [] := List.length_eq_zero_iff
  refine ⟨⟨?_, hsize, IdSet.members_eq_nil_iff⟩, hsize, IdSet.members_eq_nil_iff, hgroups,
    IdSet.isEmpty_iff, ?_⟩
  · rw [hsize, hdests, IdSet.isEmpty_iff]
  · -- a word without flags has none of groups either, so that only the other direction can fail
    have hclear : groups.bits.toNat = 0 → groups.bits.toNat % 2 ^ groupCount = 0 := by
      intro hzero
      rw [hzero, Nat.zero_mod]
    rw [IdSet.isEmpty_iff, hgroups]
    tauto

/-- A word with a flag beyond the groups and none of theirs has no members, and is not empty. -/
theorem memberless_word_not_empty :
    ¬ ∀ groups : GroupSet, (groups.isEmpty = true ↔ groups.size = 0)
      ∧ (groups.size = 0 ↔ groups.members = [])
      ∧ (groups.members = [] ↔ ∀ i, groups.contains i = false) := by
  intro h
  have hempty : (⟨0x01000000⟩ : GroupSet).isEmpty = true := (h ⟨0x01000000⟩).1.mpr (by decide)
  exact absurd hempty (by decide)

end FlowProcessor
