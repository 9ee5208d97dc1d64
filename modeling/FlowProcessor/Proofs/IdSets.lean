/-
  FlowProcessor.Proofs.IdSets — SETS OF IDENTIFIERS, FLAG BY FLAG.

  A set is a word of 32 flags.  Every operation is told by what it does to each flag of the word,
  and two sets with the same flags are the same set.

    • `contains_eq_testBit`, `mem_members`  — an identifier is a member by its flag
    • `members_ascending`                   — and stands before the greater ones
    • `testBit_insert`, `testBit_remove`, `testBit_union`, `testBit_ofList` — what each change of a
      set does to each flag
    • `ofList_members`                      — a set of destinations is made of its members
-/
import FlowProcessor.IdSet
import Mathlib.Data.List.Basic
import Mathlib.Data.Nat.Bitwise

namespace FlowProcessor.IdSet

/-! ## §1. Flags. -/

/-- Sets with the same flags are the same. -/
theorem ext_testBit {n : Nat} {s t : IdSet n}
    (h : ∀ k, s.bits.toNat.testBit k = t.bits.toNat.testBit k) : s = t :=
  congrArg IdSet.mk (UInt32.toNat_inj.mp (Nat.eq_of_testBit_eq h))

/-- A word has no flags beyond its 32. -/
theorem lt_of_testBit {n k : Nat} {s : IdSet n} (h : s.bits.toNat.testBit k = true) : k < 32 := by
  by_contra hk
  have hlt : s.bits.toNat < 2 ^ k :=
    Nat.lt_of_lt_of_le s.bits.toNat_lt (Nat.pow_le_pow_right (by decide) (Nat.not_lt.mp hk))
  rw [Nat.testBit_lt_two_pow hlt] at h
  cases h

/-- Each flag of two sets together is set that is set in one of them. -/
theorem testBit_union {n : Nat} (s other : IdSet n) (k : Nat) :
    (s.union other).bits.toNat.testBit k
      = (s.bits.toNat.testBit k || other.bits.toNat.testBit k) := by
  unfold union
  rw [UInt32.toNat_or, Nat.testBit_or]

section Small

variable {n : Nat} (hn : n ≤ 32)

include hn

theorem toNat_flag (i : Fin n) : (flag i).toNat = 2 ^ i.val := by
  have hi : i.val < 32 := Nat.lt_of_lt_of_le i.isLt hn
  have hword : (UInt32.ofNat i.val).toNat % 32 = i.val := by
    rw [UInt32.toNat_ofNat', Nat.mod_eq_of_lt (Nat.lt_trans hi (by decide)), Nat.mod_eq_of_lt hi]
  unfold flag
  rw [UInt32.toNat_shiftLeft, hword, UInt32.toNat_one, Nat.one_shiftLeft]
  exact Nat.mod_eq_of_lt (Nat.pow_lt_pow_right (by decide) hi)

/-- An identifier is a member when its flag is set. -/
theorem contains_eq_testBit (s : IdSet n) (i : Fin n) :
    s.contains i = s.bits.toNat.testBit i.val := by
  have hand : (s.bits &&& flag i).toNat = (s.bits.toNat.testBit i.val).toNat * 2 ^ i.val := by
    rw [UInt32.toNat_and, toNat_flag hn, Nat.and_two_pow]
  unfold contains
  cases hbit : s.bits.toNat.testBit i.val with
  | false =>
      rw [hbit, Bool.toNat_false, Nat.zero_mul] at hand
      rw [UInt32.toNat_inj.mp (hand.trans UInt32.toNat_zero.symm)]
      rfl
  | true =>
      rw [hbit, Bool.toNat_true, Nat.one_mul] at hand
      refine bne_iff_ne.mpr fun hzero => ?_
      rw [hzero] at hand
      exact absurd hand (Nat.two_pow_pos i.val).ne

theorem mem_members {s : IdSet n} {i : Fin n} :
    i ∈ s.members ↔ s.bits.toNat.testBit i.val = true := by
  unfold members
  rw [List.mem_filter, contains_eq_testBit hn]
  exact and_iff_right (List.mem_finRange i)

/-- Adding an identifier sets its flag and leaves the others. -/
theorem testBit_insert (s : IdSet n) (i : Fin n) (k : Nat) :
    (s.insert i).bits.toNat.testBit k = (s.bits.toNat.testBit k || decide (i.val = k)) := by
  unfold insert
  rw [UInt32.toNat_or, Nat.testBit_or, toNat_flag hn, Nat.testBit_two_pow]

/-- Taking an identifier out clears its flag and leaves the others. -/
theorem testBit_remove (s : IdSet n) (i : Fin n) (k : Nat) :
    (s.remove i).bits.toNat.testBit k = (s.bits.toNat.testBit k && !decide (i.val = k)) := by
  have hflag : (flag i).toNat < 2 ^ 32 := (flag i).toNat_lt
  -- the complement has all flags of the word but this one
  have hnot : (~~~ flag i).toNat = 2 ^ 32 - ((flag i).toNat + 1) := by
    rw [UInt32.toNat_not, Nat.sub_sub, Nat.add_comm 1]
    rfl
  unfold remove
  rw [UInt32.toNat_and, Nat.testBit_and, hnot, Nat.testBit_two_pow_sub_succ hflag,
    toNat_flag hn, Nat.testBit_two_pow]
  cases hbit : s.bits.toNat.testBit k with
  | false => rfl
  | true => rw [decide_eq_true (lt_of_testBit hbit), Bool.true_and]

/-- Adding identifiers one by one sets their flags, however often they occur. -/
theorem testBit_foldl_insert (ids : List (Fin n)) (s : IdSet n) (k : Nat) :
    (ids.foldl insert s).bits.toNat.testBit k = true
      ↔ s.bits.toNat.testBit k = true ∨ ∃ i ∈ ids, i.val = k := by
  induction ids generalizing s with
  | nil => simp
  | cons i ids ih =>
      rw [List.foldl_cons, ih, testBit_insert hn, Bool.or_eq_true, decide_eq_true_eq,
        List.exists_mem_cons_iff, or_assoc]

/-- The flags of a set made of identifiers are those of the identifiers. -/
theorem testBit_ofList (ids : List (Fin n)) (k : Nat) :
    (ofList ids).bits.toNat.testBit k = true ↔ ∃ i ∈ ids, i.val = k := by
  unfold ofList
  rw [testBit_foldl_insert hn]
  refine or_iff_right fun h => ?_
  change Nat.testBit 0 k = true at h
  rw [Nat.zero_testBit] at h
  cases h

end Small

/-- Members are in strictly ascending order. -/
theorem members_ascending {n : Nat} (s : IdSet n) : s.members.Pairwise (· < ·) :=
  (List.pairwise_lt_finRange n).filter s.contains

/-! ## §2. Destinations. -/

/-- The members of a set of destinations stand for all of its flags. -/
theorem testBit_iff_members {s : DestSet} {k : Nat} :
    s.bits.toNat.testBit k = true ↔ ∃ i ∈ s.members, i.val = k := by
  constructor
  · intro hk
    exact ⟨⟨k, lt_of_testBit hk⟩, (mem_members (by decide)).mpr hk, rfl⟩
  · rintro ⟨i, hi, rfl⟩
    exact (mem_members (by decide)).mp hi

/-- A set of destinations is made of its members: it has no flag beyond them. -/
theorem ofList_members (s : DestSet) : ofList s.members = s := by
  refine ext_testBit fun k => Bool.eq_iff_iff.mpr ?_
  rw [testBit_ofList (by decide), testBit_iff_members]

end FlowProcessor.IdSet
