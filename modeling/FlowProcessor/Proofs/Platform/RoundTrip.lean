/-
  FlowProcessor.Proofs.Platform.RoundTrip — A STATE READS BACK FROM ITS TEXT.

  Every type of the state is written faithfully, from identifiers and sets up to the platform.  A
  record is faithful because its fields are; a table, because its entries are listed by ascending
  number, so that none of them replaces another when they are put together again.

    • `Table.ofList_entries`       — the entries of a table make the table
    • `PlatformState.faithful`     — the state as a document
    • `state_round_trip`           — the state as a text, in both forms
-/
import FlowProcessor.Platform.StateText
import FlowProcessor.Proofs.Json.Fields

namespace FlowProcessor

open Json (Faithful faithful_ofText faithful_bool faithful_ofWord)

/-! ## §1. Tables. -/

/-- Entries of ascending numbers are found among others that were put in before. -/
theorem Table.find?_foldl_insert {α : Type} {entries : List (UInt32 × α)}
    (h : entries.Pairwise fun a b => a.1 < b.1) (t : Table α) (key : UInt32) :
    (entries.foldl (fun t entry => t.insert entry.1 entry.2) t).find? key
      = (lookup key entries).or (t.find? key) := by
  induction entries generalizing t with
  | nil => rfl
  | cons entry entries ih =>
      obtain ⟨head, tail⟩ := List.pairwise_cons.mp h
      rw [List.foldl_cons, ih tail, find?_insert, lookup]
      by_cases hkey : entry.1 = key
      · -- the entries after this one have greater numbers
        subst hkey
        rw [if_pos rfl, if_pos rfl, lookup_eq_none_of_lt head]
        rfl
      · rw [if_neg hkey, if_neg hkey]

/-- The entries of a table make the table. -/
theorem Table.ofList_entries {α : Type} (t : Table α) : Table.ofList t.entries = t := by
  refine ext_find? fun key => ?_
  unfold ofList
  rw [find?_foldl_insert t.ascending, find?_empty, Option.or_none]
  rfl

/-! ## §2. Identifiers and sets. -/

theorem IdSet.faithful {n : Nat} : Faithful (IdSet.toJson (n := n)) IdSet.ofJson? where
  proper s := faithful_ofWord.proper s.bits
  reads s := by
    show (Json.word? (.ofWord s.bits)).map IdSet.mk = _
    rw [faithful_ofWord.reads]
    rfl

theorem VlanId.faithful : Faithful VlanId.toJson VlanId.ofJson? where
  proper vlan := Json.proper_natural vlan.number
  reads vlan := by
    have hlt : vlan.number < 65536 := Nat.lt_of_le_of_lt vlan.le_limit (by decide)
    have hvalid : VlanId.ofNat vlan.number = .ok vlan := dif_pos ⟨vlan.positive, vlan.le_limit⟩
    show (Json.below? 65536 (.natural vlan.number)).bind _ = _
    rw [Json.below?_natural hlt, Option.bind_some, hvalid]
    rfl

theorem VlanTag.faithful : Faithful VlanTag.toJson VlanTag.ofJson? where
  proper tag := by
    cases tag with
    | untagged => exact faithful_ofText.proper "untagged"
    | tagged vlan => exact Json.proper_ofFields (by simp [VlanId.faithful.proper])
  reads tag := by
    cases tag with
    | untagged => rfl
    | tagged vlan =>
        have hcontent : (VlanTag.tagged vlan).toJson.content? "c_vlan" = some vlan.toJson :=
          if_pos (Json.Piece.decode_encode _)
        have hunit : (VlanTag.tagged vlan).toJson.unit? "untagged" = none := rfl
        unfold ofJson?
        rw [hunit, hcontent, Option.bind_some, VlanId.faithful.reads]
        rfl

theorem DomainMode.faithful : Faithful DomainMode.toJson DomainMode.ofJson? where
  proper mode := by
    cases mode with
    | l2 => exact faithful_ofText.proper "l2"
    | l3 => exact faithful_ofText.proper "l3"
  reads mode := by cases mode <;> rfl

/-! ## §3. Devices. -/

theorem Binding.faithful : Faithful Binding.toJson Binding.ofJson? where
  proper b := Json.proper_ofFields (by simp [faithful_ofWord.proper, faithful_bool.proper])
  reads b := by
    have hrecord : b.toJson.record? ["id", "care"] = some _ :=
      Json.record?_ofFields (by decide) rfl
    unfold ofJson?
    rw [hrecord, Option.bind_eq_bind, Option.bind_some]
    simp [faithful_ofWord.reads, faithful_bool.reads]

theorem Rule.faithful : Faithful Rule.toJson Rule.ofJson? where
  proper r := Json.proper_ofFields (by
    simp [faithful_ofText.proper, faithful_ofWord.proper, IdSet.faithful.proper,
      Binding.faithful.proper])
  reads r := by
    have hrecord : r.toJson.record? ["name", "priority", "lgids", "addr_space"] = some _ :=
      Json.record?_ofFields (by decide) rfl
    unfold ofJson?
    rw [hrecord, Option.bind_eq_bind, Option.bind_some]
    simp [faithful_ofText.reads, faithful_ofWord.reads, IdSet.faithful.reads,
      Binding.faithful.reads]

theorem GroupTable.faithful : Faithful GroupTable.toJson GroupTable.ofJson? where
  proper t := IdSet.faithful.list.proper t.toList
  reads t := by
    have hmasks : Json.list? IdSet.ofJson? t.toJson = some t.toList :=
      IdSet.faithful.list.reads t.toList
    have harray : t.toList.toArray = t.toArray := Array.toArray_toList
    unfold ofJson?
    rw [hmasks]
    simp [harray]

theorem DeviceState.faithful : Faithful DeviceState.toJson DeviceState.ofJson? where
  proper d := Json.proper_ofFields (by
    simp [faithful_bool.proper, GroupTable.faithful.proper, Rule.faithful.list.proper])
  reads d := by
    have hrecord : d.toJson.record? ["present", "groups", "rules"] = some _ :=
      Json.record?_ofFields (by decide) rfl
    unfold ofJson?
    rw [hrecord, Option.bind_eq_bind, Option.bind_some]
    simp [faithful_bool.reads, GroupTable.faithful.reads,
      Rule.faithful.list.reads]

/-! ## §4. Forwarding. -/

/-- An optional word, such as the number of a domain. -/
theorem faithful_ofOption : Faithful (Json.ofOption .ofWord) (Json.option? Json.word?) :=
  faithful_ofWord.option fun _ => by simp [Json.ofWord]

/-- An optional domain is written as its number. -/
theorem ofOption_domain (domain : Option DomainId) :
    Json.ofOption (fun domain => .ofWord domain.word) domain
      = Json.ofOption .ofWord (domain.map DomainId.word) := by
  cases domain <;> rfl

theorem LifState.faithful : Faithful LifState.toJson LifState.ofJson? where
  proper l := Json.proper_ofFields (by
    simp [ofOption_domain, faithful_ofWord.proper, VlanTag.faithful.proper,
      faithful_ofOption.proper])
  reads l := by
    have hrecord : l.toJson.record?
        ["port", "vlan", "addr_space", "domain", "mtu", "frame_type", "l3ex_ratelim"] = some _ :=
      Json.record?_ofFields (by decide) rfl
    unfold ofJson?
    rw [hrecord, Option.bind_eq_bind, Option.bind_some]
    have hdomain : (l.domain.map DomainId.word).map DomainId.mk = l.domain := by
      cases l.domain <;> rfl
    simp [ofOption_domain,
      faithful_ofWord.reads, VlanTag.faithful.reads, faithful_ofOption.reads, hdomain]

theorem ForwardingTables.faithful : Faithful ForwardingTables.toJson ForwardingTables.ofJson? where
  proper t := Json.proper_ofFields (by
    simp [DomainMode.faithful.entries.proper, LifState.faithful.entries.proper])
  reads t := by
    have hrecord : t.toJson.record? ["domains", "lifs"] = some _ :=
      Json.record?_ofFields (by decide) rfl
    unfold ofJson?
    rw [hrecord, Option.bind_eq_bind, Option.bind_some]
    simp [DomainMode.faithful.entries.reads, LifState.faithful.entries.reads,
      Table.ofList_entries]

theorem ForwardingState.faithful : Faithful ForwardingState.toJson ForwardingState.ofJson? where
  proper f := Json.proper_ofFields (by
    simp [ForwardingTables.faithful.proper, faithful_ofWord.proper])
  reads f := by
    have hrecord : f.toJson.record? ["active", "commits"] = some _ :=
      Json.record?_ofFields (by decide) rfl
    unfold ofJson?
    rw [hrecord, Option.bind_eq_bind, Option.bind_some]
    simp [ForwardingTables.faithful.reads, faithful_ofWord.reads]

/-! ## §5. The platform. -/

theorem PlatformState.faithful : Faithful PlatformState.toJson PlatformState.ofJson? where
  proper s := Json.proper_ofFields (by
    simp [DeviceState.faithful.list.proper, ForwardingState.faithful.proper])
  reads s := by
    have hrecord : s.toJson.record? ["devices", "forwarding"] = some _ :=
      Json.record?_ofFields (by decide) rfl
    unfold ofJson?
    rw [hrecord, Option.bind_eq_bind, Option.bind_some]
    simp [DeviceState.faithful.list.reads,
      ForwardingState.faithful.reads]

/-- The text of a state in a file is read as the state. -/
theorem PlatformState.read_text (s : PlatformState) : PlatformState.read s.text = some s := by
  unfold PlatformState.read text
  rw [Json.read_pretty (PlatformState.faithful.proper s)]
  exact PlatformState.faithful.reads s

/-- The shortest text of a state is read as the state. -/
theorem PlatformState.read_compact (s : PlatformState) :
    PlatformState.read s.toJson.compact = some s := by
  unfold PlatformState.read
  rw [Json.read_compact (PlatformState.faithful.proper s)]
  exact PlatformState.faithful.reads s

/-- **Whatever a platform holds, both texts that can be written of it, the one with a line for each
member or element and the one without any blank, are read as exactly that.** -/
theorem state_round_trip (s : PlatformState) :
    PlatformState.read s.text = some s ∧ PlatformState.read s.toJson.compact = some s :=
  ⟨s.read_text, s.read_compact⟩

end FlowProcessor
