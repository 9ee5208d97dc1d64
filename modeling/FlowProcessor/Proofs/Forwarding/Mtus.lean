/-
  FlowProcessor.Proofs.Forwarding.Mtus — WHAT BECOMES OF AN MTU.

  A plan binds every interface that it names anew, and sets the MTU of those only after the commit,
  if it has one.  So a plan without an MTU is no plan that leaves the MTUs alone: the interfaces that
  it names have none in the end, whatever was committed of them before, and even if nothing is
  cleared.  It is the interfaces it does not name that keep what they have.

    • `lif?_of_ok`        — an interface after a run that succeeds
    • `mtu_of_named`      — a named interface has the MTU of the plan, or none
    • `untuned_run_mtus`  — which MTUs outlive a run without one
    • `untuned_run_loses_mtu` — not all of them
-/
import FlowProcessor.Proofs.Forwarding.Repetition

namespace FlowProcessor

open ForwardingTables (empty)

variable {plan : ForwardingPlan} {readback : Readback} {w w' : World}
variable {configurator configurator' : Configurator} {report : ForwardingReport} {lif : LifId}

/-! ## §1. Interfaces after a run. -/

/-- The committed interfaces of a world. -/
def World.lif? (w : World) (lif : LifId) : Option LifState :=
  w.platform.state.forwarding.active.lif? lif

/-- A run that succeeds leaves an interface as the last specification has it that names it, and the
others as the plan found them, if it does not clear them away. -/
theorem lif?_of_ok (h : configurator.apply plan readback w = ((.ok report, configurator'), w'))
    (lif : LifId) :
    w'.lif? lif
      = match lastNaming plan.interfaces lif with
        | some spec => some (plan.finalState spec)
        | none => if plan.clear then none else w.lif? lif := by
  obtain ⟨stage, happly, -⟩ := Configurator.apply_eq_ok h
  obtain ⟨-, -, happlied⟩ := applied_of_ok happly
  have hbase : (plan.base w.platform.state.forwarding.active).lif? lif
      = if plan.clear then none else w.lif? lif := by
    rw [ForwardingPlan.base]
    split <;> rfl
  rw [World.lif?, happlied.platform, Platform.after_forwarding, ← hbase]
  exact lif?_appliedTo lif

/-- A named interface has the MTU of the plan, or none if the plan has none. -/
theorem mtu_of_named (h : configurator.apply plan readback w = ((.ok report, configurator'), w'))
    (lif : LifId) (hnamed : lif ∈ plan.interfaces.map (·.lif)) :
    ∃ l, w'.lif? lif = some l ∧ l.mtu = plan.mtu := by
  have hlast : lastNaming plan.interfaces lif ≠ none :=
    fun hnone => lastNaming_eq_none_iff.mp hnone hnamed
  obtain ⟨spec, hspec⟩ := Option.ne_none_iff_exists'.mp hlast
  refine ⟨plan.finalState spec, ?_, rfl⟩
  rw [lif?_of_ok h, hspec]

/-- Any other interface is as it was, if nothing is cleared. -/
theorem lif?_of_unnamed (h : configurator.apply plan readback w = ((.ok report, configurator'), w'))
    (hclear : plan.clear = false) (hunnamed : lif ∉ plan.interfaces.map (·.lif)) :
    w'.lif? lif = w.lif? lif := by
  rw [lif?_of_ok h, lastNaming_eq_none_iff.mpr hunnamed]
  simp only [hclear, Bool.false_eq_true, if_false]

/-! ## §2. Runs without an MTU. -/

/-- **A run that has no MTU to set, and clears nothing, keeps the interfaces its plan does not name,
and leaves those it names without an MTU.  So the MTU of an interface outlives it exactly if the
interface is not named, or had none to lose.** -/
theorem untuned_run_mtus (configurator configurator' : Configurator) (plan : ForwardingPlan)
    (readback : Readback) (report : ForwardingReport) (w w' : World)
    (hclear : plan.clear = false) (hmtu : plan.mtu = none)
    (hrun : configurator.apply plan readback w = ((.ok report, configurator'), w')) :
    (∀ lif, lif ∉ plan.interfaces.map (·.lif) → w'.lif? lif = w.lif? lif)
    ∧ (∀ lif, lif ∈ plan.interfaces.map (·.lif) → ∃ l, w'.lif? lif = some l ∧ l.mtu = none)
    ∧ ∀ lif l, w.lif? lif = some l → ∃ l', w'.lif? lif = some l'
      ∧ (l'.mtu = l.mtu ↔ lif ∉ plan.interfaces.map (·.lif) ∨ l.mtu = none) := by
  have hkept : ∀ lif, lif ∉ plan.interfaces.map (·.lif) → w'.lif? lif = w.lif? lif :=
    fun lif => lif?_of_unnamed hrun hclear
  have hlost : ∀ lif, lif ∈ plan.interfaces.map (·.lif) →
      ∃ l, w'.lif? lif = some l ∧ l.mtu = none := by
    intro lif hnamed
    obtain ⟨l, hl, hplan⟩ := mtu_of_named hrun lif hnamed
    exact ⟨l, hl, hplan.trans hmtu⟩
  refine ⟨hkept, hlost, fun lif l hl => ?_⟩
  by_cases hnamed : lif ∈ plan.interfaces.map (·.lif)
  · obtain ⟨l', hl', hnone⟩ := hlost lif hnamed
    refine ⟨l', hl', ?_⟩
    rw [hnone, eq_comm]
    exact (or_iff_right (not_not_intro hnamed)).symm
  · refine ⟨l, (hkept lif hnamed).trans hl, ?_⟩
    exact iff_of_true rfl (.inl hnamed)

/-- Interfaces 1 and 7 have an MTU.  A plan for interface 1 that keeps what is there, with an MTU of
zero, leaves only interface 7 with its MTU. -/
theorem untuned_run_mtus_of_two_lifs :
    ∃ (report : ForwardingReport) (w' : World),
      Configurator.fresh.apply
          ((ForwardingPlan.mk ⟨3⟩ .l3 true [.untagged 11 1] (some 900) ⟨2⟩ (some 20)).keeping.withMtu 0)
          id (World.start (.ofState ⟨[], ⟨(empty.putLif ⟨7⟩
            { LifState.bare ⟨4⟩ .untagged with mtu := some 9000 }).putLif ⟨1⟩
            { LifState.bare ⟨11⟩ .untagged with mtu := some 1500 }, 1⟩⟩) .unlimited)
        = ((.ok report, ⟨.closed⟩), w')
      ∧ (∃ l, w'.lif? ⟨1⟩ = some l ∧ l.mtu = none)
      ∧ ∃ l, w'.lif? ⟨7⟩ = some l ∧ l.mtu = some 9000 := by
  obtain ⟨stage, report, w', happly⟩ := exists_ok_of_unrefused
    ((ForwardingPlan.mk ⟨3⟩ .l3 true [.untagged 11 1] (some 900) ⟨2⟩ (some 20)).keeping.withMtu 0) id
    (w := World.start (.ofState ⟨[], ⟨(empty.putLif ⟨7⟩
      { LifState.bare ⟨4⟩ .untagged with mtu := some 9000 }).putLif ⟨1⟩
      { LifState.bare ⟨11⟩ .untagged with mtu := some 1500 }, 1⟩⟩) .unlimited)
    rfl (by decide)
  obtain ⟨rfl, -, -⟩ := applied_of_ok happly
  have hrun : Configurator.fresh.apply _ id _ = _ := Configurator.apply_eq happly
  obtain ⟨hkept, hlost, -⟩ := untuned_run_mtus _ _ _ id report _ w' rfl rfl hrun
  exact ⟨report, w', hrun, hlost ⟨1⟩ (by decide), _, hkept ⟨7⟩ (by decide), rfl⟩

/-- Interface 1 has an MTU of 1500, and is named by a plan that keeps what is there and has an MTU
of zero. -/
theorem untuned_run_loses_mtu :
    ¬ ∀ (configurator configurator' : Configurator) (plan : ForwardingPlan) (readback : Readback)
      (report : ForwardingReport) (w w' : World), plan.clear = false → plan.mtu = none →
      configurator.apply plan readback w = ((.ok report, configurator'), w') →
      ∀ lif l, w.lif? lif = some l → (w'.lif? lif).map (·.mtu) = some l.mtu := by
  intro hkeeps
  obtain ⟨stage, report, w', happly⟩ := exists_ok_of_unrefused
    ((ForwardingPlan.mk ⟨1⟩ .l2 true [.untagged 9 1] none .ethernetII none).keeping.withMtu 0) id
    (w := World.start (.ofState ⟨[], ⟨empty.putLif ⟨1⟩
      { LifState.bare ⟨9⟩ .untagged with mtu := some 1500 }, 1⟩⟩) .unlimited)
    rfl (by decide)
  have hrun : Configurator.fresh.apply _ id _ = _ := Configurator.apply_eq happly
  have hkept := hkeeps _ _ _ id report _ w' rfl rfl hrun ⟨1⟩ _ rfl
  obtain ⟨l, hl, hnone⟩ := mtu_of_named hrun ⟨1⟩ (by decide)
  rw [hl, Option.map_some, hnone] at hkept
  cases hkept

end FlowProcessor
