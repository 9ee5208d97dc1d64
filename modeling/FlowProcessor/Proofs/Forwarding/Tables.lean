/-
  FlowProcessor.Proofs.Forwarding.Tables — LOOK-UPS IN THE FORWARDING TABLES.

  Two forwarding tables that answer every look-up alike are equal, so the effect of a write is told
  by its look-ups: the entry written is found, and no other entry changes.

    • `lif?_putLif`, `lif?_adjustLif`, `domain?_putDomain` — the look-ups after each kind of write
    • `ForwardingTables.ext` — tables are determined by their look-ups
-/
import FlowProcessor.Platform.Forwarding

namespace FlowProcessor

theorem LifId.word_inj {a b : LifId} : a.word = b.word ↔ a = b := by
  cases a
  cases b
  simp

theorem DomainId.word_inj {a b : DomainId} : a.word = b.word ↔ a = b := by
  cases a
  cases b
  simp

namespace ForwardingTables

/-- The mode of a domain. -/
def domain? (t : ForwardingTables) (domain : DomainId) : Option DomainMode :=
  t.domains.find? domain.word

variable (t : ForwardingTables) (lif other : LifId) (domain : DomainId) (mode : DomainMode)
variable (state : LifState) (change : LifState → LifState)

/-! ## §1. Interfaces. -/

@[simp] theorem lif?_empty : empty.lif? lif = none := rfl

@[simp] theorem lif?_putDomain : (t.putDomain domain mode).lif? lif = t.lif? lif := rfl

@[simp] theorem lif?_putLif :
    (t.putLif lif state).lif? other = if lif = other then some state else t.lif? other := by
  simp only [lif?, putLif, Table.find?_insert, LifId.word_inj]

@[simp] theorem lif?_adjustLif :
    (t.adjustLif lif change).lif? other
      = if lif = other then (t.lif? lif).map change else t.lif? other := by
  simp only [lif?, adjustLif, Table.find?_adjust, LifId.word_inj]

/-! ## §2. Domains. -/

@[simp] theorem domain?_empty : empty.domain? domain = none := rfl

@[simp] theorem domain?_putDomain (other : DomainId) :
    (t.putDomain domain mode).domain? other
      = if domain = other then some mode else t.domain? other := by
  simp only [domain?, putDomain, Table.find?_insert, DomainId.word_inj]

@[simp] theorem domains_putLif : (t.putLif lif state).domains = t.domains := rfl

@[simp] theorem domains_adjustLif : (t.adjustLif lif change).domains = t.domains := rfl

/-! ## §3. Equality. -/

theorem ext {s t : ForwardingTables} (hdomains : ∀ domain, s.domain? domain = t.domain? domain)
    (hlifs : ∀ lif, s.lif? lif = t.lif? lif) : s = t := by
  obtain ⟨sdomains, slifs⟩ := s
  obtain ⟨tdomains, tlifs⟩ := t
  obtain rfl : sdomains = tdomains := Table.ext_find? fun key => hdomains ⟨key⟩
  obtain rfl : slifs = tlifs := Table.ext_find? fun key => hlifs ⟨key⟩
  rfl

end ForwardingTables

end FlowProcessor
