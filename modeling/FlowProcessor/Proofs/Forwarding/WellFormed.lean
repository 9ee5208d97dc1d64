/-
  FlowProcessor.Proofs.Forwarding.WellFormed — TABLES THAT MAKE SENSE.

  Forwarding tables are well formed if every attached interface is attached to a domain that exists
  and no interface has an MTU of zero.  Nothing checks this of a whole table.  It holds because of
  what each operation checks before it writes, and because the operations that take domains away
  take the interfaces with them.

    • `adjustLif_wellFormed` — a change of one interface keeps it, on two conditions
    • `Grants.wellFormed`    — a granted operation keeps it of the committed tables and the copy
    • `Configured.wellFormed` — so does a plan that was committed and tuned
    • `WellFormed.home`      — an attached interface is a member of one domain, which exists
-/
import FlowProcessor.Proofs.Forwarding.Atomicity

namespace FlowProcessor

/-! ## §1. Well-formed tables. -/

/-- Attached interfaces have a domain that exists, and no interface has an MTU of zero. -/
structure ForwardingTables.WellFormed (t : ForwardingTables) : Prop where
  attached : ∀ lif l domain, t.lif? lif = some l → l.domain = some domain →
    (t.domain? domain).isSome
  mtus : ∀ lif l, t.lif? lif = some l → l.mtu ≠ some 0

namespace ForwardingTables

variable {t : ForwardingTables}

theorem wellFormed_empty : empty.WellFormed where
  attached lif l domain hl := by cases hl
  mtus lif l hl := by cases hl

/-- Domains are only added, or change their mode. -/
theorem putDomain_wellFormed (h : t.WellFormed) (domain : DomainId) (mode : DomainMode) :
    (t.putDomain domain mode).WellFormed where
  attached := by
    intro lif l other hl hother
    rw [lif?_putDomain] at hl
    have hexists : (t.domain? other).isSome := h.attached lif l other hl hother
    rw [domain?_putDomain]
    by_cases hsame : domain = other
    · rw [if_pos hsame]
      rfl
    · rw [if_neg hsame]
      exact hexists
  mtus := by
    intro lif l hl
    rw [lif?_putDomain] at hl
    exact h.mtus lif l hl

/-- A new interface, or an old one that is bound anew, is attached to nothing and has no MTU. -/
theorem putLif_wellFormed (h : t.WellFormed) (lif : LifId) (port : PortId) (vlan : VlanTag) :
    (t.putLif lif (.bare port vlan)).WellFormed where
  attached := by
    intro other l domain hl hdomain
    rw [lif?_putLif] at hl
    by_cases hsame : lif = other
    · rw [if_pos hsame] at hl
      obtain rfl := Option.some.inj hl
      cases hdomain
    · rw [if_neg hsame] at hl
      exact h.attached other l domain hl hdomain
  mtus := by
    intro other l hl
    rw [lif?_putLif] at hl
    by_cases hsame : lif = other
    · rw [if_pos hsame] at hl
      obtain rfl := Option.some.inj hl
      simp [LifState.bare]
    · rw [if_neg hsame] at hl
      exact h.mtus other l hl

/-- An interface may be changed as long as its new domain exists and its new MTU is not zero. -/
theorem adjustLif_wellFormed (h : t.WellFormed) (lif : LifId) (change : LifState → LifState)
    (hdomain : ∀ l domain, (change l).domain = some domain →
      l.domain = some domain ∨ (t.domain? domain).isSome)
    (hmtu : ∀ l, l.mtu ≠ some 0 → (change l).mtu ≠ some 0) :
    (t.adjustLif lif change).WellFormed where
  attached := by
    intro other l' domain hl' hattached
    show (t.domain? domain).isSome
    rw [lif?_adjustLif] at hl'
    by_cases hsame : lif = other
    · rw [if_pos hsame] at hl'
      obtain ⟨l, hl, rfl⟩ := Option.map_eq_some_iff.mp hl'
      rcases hdomain l domain hattached with hbefore | hexists
      · exact h.attached lif l domain hl hbefore
      · exact hexists
    · rw [if_neg hsame] at hl'
      exact h.attached other l' domain hl' hattached
  mtus := by
    intro other l' hl'
    rw [lif?_adjustLif] at hl'
    by_cases hsame : lif = other
    · rw [if_pos hsame] at hl'
      obtain ⟨l, hl, rfl⟩ := Option.map_eq_some_iff.mp hl'
      exact hmtu l (h.mtus lif l hl)
    · rw [if_neg hsame] at hl'
      exact h.mtus other l' hl'

/-- Most changes of an interface set neither its domain nor its MTU. -/
theorem adjustLif_wellFormed_of_kept (h : t.WellFormed) (lif : LifId)
    (change : LifState → LifState)
    (hkept : ∀ l, (change l).domain = l.domain ∧ (change l).mtu = l.mtu) :
    (t.adjustLif lif change).WellFormed := by
  refine adjustLif_wellFormed h lif change ?_ ?_
  · intro l domain hdomain
    rw [(hkept l).1] at hdomain
    exact .inl hdomain
  · intro l hl
    rw [(hkept l).2]
    exact hl

/-- An MTU may be set that is not zero. -/
theorem setMtu_wellFormed (h : t.WellFormed) (lif : LifId) {mtu : UInt32} (hmtu : mtu ≠ 0) :
    (t.adjustLif lif fun l => { l with mtu := some mtu }).WellFormed := by
  refine adjustLif_wellFormed h lif _ (fun l domain hdomain => .inl hdomain) ?_
  intro l _ hzero
  exact hmtu (Option.some.inj hzero)

/-- An interface may be attached to a domain that exists. -/
theorem attach_wellFormed (h : t.WellFormed) (lif : LifId) {domain : DomainId}
    (hexists : (t.domain? domain).isSome) :
    (t.adjustLif lif fun l => { l with domain := some domain }).WellFormed := by
  refine adjustLif_wellFormed h lif _ ?_ fun l hl => hl
  intro l other hother
  obtain rfl := Option.some.inj hother
  exact .inr hexists

/-! ## §2. Members of domains. -/

/-- The members of a domain are the interfaces attached to it. -/
theorem mem_members {lif : LifId} {domain : DomainId} :
    lif ∈ t.members domain ↔ ∃ l, t.lif? lif = some l ∧ l.domain = some domain := by
  unfold members
  rw [List.mem_map]
  constructor
  · rintro ⟨entry, hentry, rfl⟩
    obtain ⟨hmem, hdomain⟩ := List.mem_filter.mp hentry
    exact ⟨entry.2, Table.mem_entries_iff.mp hmem, by simpa using hdomain⟩
  · rintro ⟨l, hl, hdomain⟩
    have hmem : (lif.word, l) ∈ t.lifs.entries := Table.mem_entries_iff.mpr hl
    exact ⟨(lif.word, l), List.mem_filter.mpr ⟨hmem, by simp [hdomain]⟩, rfl⟩

/-- An attached interface is listed by one domain, which exists, and by no other. -/
def Home (t : ForwardingTables) (lif : LifId) : Prop :=
  ∃ domain, (t.domain? domain).isSome ∧ ∀ other, lif ∈ t.members other ↔ other = domain

theorem WellFormed.home (h : t.WellFormed) {lif : LifId} {l : LifState}
    (hl : t.lif? lif = some l) (hattached : l.domain.isSome) : t.Home lif := by
  obtain ⟨domain, hdomain⟩ := Option.isSome_iff_exists.mp hattached
  refine ⟨domain, h.attached lif l domain hl hdomain, fun other => ?_⟩
  rw [mem_members]
  constructor
  · rintro ⟨l', hl', hother⟩
    obtain rfl : l = l' := Option.some.inj (hl.symm.trans hl')
    exact Option.some.inj (hother.symm.trans hdomain)
  · rintro rfl
    exact ⟨l, hl, hdomain⟩

end ForwardingTables

/-! ## §3. Operations. -/

variable {f f' : ForwardingState} {staged staged' : ForwardingTables}

/-- **A granted operation leaves the committed tables and the copy well formed.** -/
theorem ForwardingOp.Grants.wellFormed {op : ForwardingOp} (h : op.Grants f staged f' staged')
    (hactive : f.active.WellFormed) (hstaged : staged.WellFormed) :
    f'.active.WellFormed ∧ staged'.WellFormed := by
  cases h with
  | clear => exact ⟨hactive, ForwardingTables.wellFormed_empty⟩
  | configureDomain domain mode =>
      exact ⟨hactive, ForwardingTables.putDomain_wellFormed hstaged domain mode⟩
  | configureLif lif port vlan =>
      exact ⟨hactive, ForwardingTables.putLif_wellFormed hstaged lif port vlan⟩
  | assignAddressSpace space known =>
      exact ⟨hactive, ForwardingTables.adjustLif_wellFormed_of_kept hstaged _ _ fun l => ⟨rfl, rfl⟩⟩
  | attach exists_domain known =>
      -- the domain was looked up before the interface was attached to it
      exact ⟨hactive, ForwardingTables.attach_wellFormed hstaged _ exists_domain⟩
  -- a copy that was taken long ago is as well formed as a new one
  | commit => exact ⟨hstaged, hstaged⟩
  | setMtu nonzero committed =>
      exact ⟨ForwardingTables.setMtu_wellFormed hactive _ nonzero,
        ForwardingTables.setMtu_wellFormed hstaged _ nonzero⟩
  | setFrameType frameType committed | setRateLimit limit committed =>
      exact ⟨ForwardingTables.adjustLif_wellFormed_of_kept hactive _ _ fun l => ⟨rfl, rfl⟩,
        ForwardingTables.adjustLif_wellFormed_of_kept hstaged _ _ fun l => ⟨rfl, rfl⟩⟩

/-! ## §4. Plans. -/

variable {plan : ForwardingPlan} {faults : FaultTable} {done : List Call}

/-- What a plan builds on is well formed, whether it clears or not. -/
theorem base_wellFormed {t : ForwardingTables} (h : t.WellFormed) : (plan.base t).WellFormed := by
  unfold ForwardingPlan.base
  by_cases hclear : plan.clear = true
  · rw [if_pos hclear]
    exact ForwardingTables.wellFormed_empty
  · rw [if_neg hclear]
    exact h

/-- Of the calls of a plan that are not refused none sets an MTU of zero. -/
theorem mtu_stateAfter_ne_zero (hadmitted : ∀ call ∈ done, plan.refusal? faults call = none)
    (spec : LifSpec) : (plan.stateAfter done spec).mtu ≠ some 0 := by
  show (if .setMtu spec.lif ∈ done then plan.mtu else none) ≠ some 0
  split
  · rename_i hset
    have hobjection := (ForwardingPlan.refusal?_eq_none_iff.mp (hadmitted _ hset)).2
    intro hzero
    rw [ForwardingPlan.objection?, if_pos hzero] at hobjection
    cases hobjection
  · simp

/-- **A plan that is committed, and tuned by calls that were not refused, leaves the committed
tables well formed.** -/
theorem Configured.wellFormed (h : Configured plan done f f')
    (hadmitted : ∀ call ∈ done, plan.refusal? faults call = none)
    (hactive : f.active.WellFormed) : f'.active.WellFormed := by
  have hbase : (plan.base f.active).WellFormed := base_wellFormed hactive
  refine ⟨fun lif l domain hl hdomain => ?_, fun lif l hl => ?_⟩
  · rw [h.lifs] at hl
    rw [h.domains]
    by_cases hplan : domain = plan.domain
    · rw [if_pos hplan]
      rfl
    · rw [if_neg hplan]
      cases hlast : lastNaming plan.interfaces lif with
      | none =>
          rw [hlast] at hl
          exact hbase.attached lif l domain hl hdomain
      | some spec =>
          -- an interface of the plan is attached to the domain of the plan
          rw [hlast] at hl
          obtain rfl := Option.some.inj hl
          exact absurd (Option.some.inj hdomain).symm hplan
  · rw [h.lifs] at hl
    cases hlast : lastNaming plan.interfaces lif with
    | none =>
        rw [hlast] at hl
        exact hbase.mtus lif l hl
    | some spec =>
        rw [hlast] at hl
        obtain rfl := Option.some.inj hl
        exact mtu_stateAfter_ne_zero hadmitted spec

/-- Whatever a run of a plan has reached, the committed tables are well formed. -/
theorem Reached.wellFormed {endless : Prop} {outcome : ForwardingOutcome} {rest : List Call}
    (h : Reached plan faults endless f outcome done rest f') (hactive : f.active.WellFormed) :
    f'.active.WellFormed := by
  by_cases hcommit : Call.commit ∈ done
  · exact (h.committed hcommit).wellFormed h.admitted hactive
  · rw [h.uncommitted hcommit]
    exact hactive

end FlowProcessor
