/-
  FlowProcessor.Proofs.CrossReference.Findings — WHAT IS TO BE FOUND.

  The finding of a device is determined by the platform state: the smallest group that holds the
  destination, the other groups that hold it, and the interfaces of the rules that feed the
  smallest one.  It is told here without a search, by what is a member of what, so that the order
  in which rules and devices are visited cannot matter.

    • `DeviceFinding.Exact`      — a finding is what the state of its device asks for
    • `CrossReference.Exact`     — a report has one such finding for each device of a list
    • `Counted`                  — what counting rules one after the other comes to
    • `exact_of_counted`         — rules counted for the first holder make an exact finding
    • `Exact.answer_eq`, `Exact.interfaces_eq` — reports of platforms alike say the same
-/
import FlowProcessor.CrossReference
import FlowProcessor.Proofs.Platform.Queries

namespace FlowProcessor

/-! ## §1. Sets of interfaces. -/

namespace InterfaceSet

variable {s t : InterfaceSet} {i j : InterfaceId}

theorem mem_toList : i ∈ s.toList ↔ s.find? i.word = some () := by
  unfold toList
  constructor
  · intro h
    obtain ⟨⟨word, u⟩, hentry, hi⟩ := List.mem_map.mp h
    subst hi
    exact Table.mem_entries_iff.mp hentry
  · intro h
    exact List.mem_map.mpr ⟨(i.word, ()), Table.mem_entries_iff.mpr h, rfl⟩

theorem mem_toList_empty : i ∉ InterfaceSet.toList .empty := by
  intro h
  cases h

theorem mem_toList_add : i ∈ (s.add j).toList ↔ i ∈ s.toList ∨ j = i := by
  have hword : j.word = i.word ↔ j = i := by
    obtain ⟨m⟩ := i
    obtain ⟨n⟩ := j
    exact InterfaceId.mk.injEq n m ▸ Iff.rfl
  rw [mem_toList, mem_toList, add, Table.find?_insert]
  by_cases hsame : j.word = i.word
  · simp [hword.mp hsame]
  · simp [hsame, mt hword.mpr hsame]

theorem mem_toList_addAll (added : List InterfaceId) :
    i ∈ (added.foldl add s).toList ↔ i ∈ s.toList ∨ i ∈ added := by
  induction added generalizing s with
  | nil => simp
  | cons j added ih =>
      rw [List.foldl_cons, ih, mem_toList_add, List.mem_cons, or_assoc, eq_comm]

/-- Interfaces are listed in strictly ascending order. -/
theorem toList_ascending (s : InterfaceSet) : s.toList.Pairwise fun i j => i.word < j.word :=
  List.pairwise_map.mpr s.ascending

/-- A set is determined by its members. -/
theorem ext (h : ∀ i, i ∈ s.toList ↔ i ∈ t.toList) : s = t := by
  refine Table.ext_find? fun key => ?_
  have hkey := h ⟨key⟩
  rw [mem_toList, mem_toList] at hkey
  exact Option.ext fun u => hkey

end InterfaceSet

/-- The interfaces of a report are those found on its devices. -/
theorem CrossReference.mem_interfaces {r : CrossReference} {i : InterfaceId} :
    i ∈ r.interfaces.toList ↔ ∃ finding ∈ r.findings, i ∈ finding.interfaces.toList := by
  -- the union may start from any set
  have hunion : ∀ (findings : List DeviceFinding) (s : InterfaceSet),
      i ∈ InterfaceSet.toList
          (findings.foldl (fun s finding => finding.interfaces.toList.foldl InterfaceSet.add s) s)
        ↔ i ∈ s.toList ∨ ∃ finding ∈ findings, i ∈ finding.interfaces.toList := by
    intro findings
    induction findings with
    | nil => simp
    | cons finding findings ih =>
        intro s
        rw [List.foldl_cons, ih, InterfaceSet.mem_toList_addAll, or_assoc]
        simp
  unfold interfaces
  rw [hunion, or_iff_right InterfaceSet.mem_toList_empty]

/-! ## §2. Holders and rules. -/

/-- A group of a device holds a destination. -/
def PlatformState.Holds (s : PlatformState) (device : DeviceId) (dest : DestId)
    (group : GroupId) : Prop :=
  ((s.groupsOf device).get group).contains dest

instance {s : PlatformState} {device : DeviceId} {dest : DestId} {group : GroupId} :
    Decidable (s.Holds device dest group) :=
  inferInstanceAs (Decidable (_ = true))

/-- A rule feeds a group from an interface, and from no other one. -/
def Rule.Feeds (rule : Rule) (group : GroupId) (interface : InterfaceId) : Prop :=
  rule.groups.contains group ∧ rule.binding.care ∧ rule.binding.interface = interface

/-- What a rule is to a search: neither its name nor its priority. -/
def Rule.feed (rule : Rule) : GroupSet × Binding := (rule.groups, rule.binding)

theorem Rule.Feeds.of_feed {rule rule' : Rule} {group : GroupId} {interface : InterfaceId}
    (h : rule.Feeds group interface) (hfeed : rule'.feed = rule.feed) :
    rule'.Feeds group interface := by
  obtain ⟨hgroups, hbinding⟩ := Prod.mk.inj hfeed
  unfold Feeds
  rw [hgroups, hbinding]
  exact h

variable {s s' : PlatformState} {device : DeviceId} {dest : DestId} {group other : GroupId}

theorem mem_holders {groups : GroupTable} :
    group ∈ holders groups dest ↔ (groups.get group).contains dest := by
  unfold holders
  rw [List.mem_filter]
  exact and_iff_right (List.mem_finRange group)

theorem holders_ascending (groups : GroupTable) (dest : DestId) :
    (holders groups dest).Pairwise (· < ·) :=
  (List.pairwise_lt_finRange groupCount).filter _

section Holders

variable {others : List GroupId}
variable (hholders : holders (s.groupsOf device) dest = group :: others)
include hholders

theorem holds_iff_of_holders : s.Holds device dest other ↔ other = group ∨ other ∈ others := by
  rw [← List.mem_cons, ← hholders]
  exact mem_holders.symm

theorem pairwise_of_holders : (∀ g ∈ others, group < g) ∧ others.Pairwise (· < ·) := by
  have hascending := holders_ascending (s.groupsOf device) dest
  rw [hholders] at hascending
  exact List.pairwise_cons.mp hascending

/-- The first of the holders is the smallest one. -/
theorem le_of_holders (hholds : s.Holds device dest other) : group ≤ other := by
  rcases (holds_iff_of_holders hholders).mp hholds with rfl | hother
  · exact Fin.le_refl _
  · exact Fin.le_of_lt ((pairwise_of_holders hholders).1 other hother)

end Holders

/-! ## §3. Exact findings. -/

namespace DeviceFinding

/-- A finding is what the state has for its device. -/
structure Exact (s : PlatformState) (dest : DestId) (finding : DeviceFinding) : Prop where
  /-- The group is the smallest one that holds the destination. -/
  group : ∀ g, finding.group = some g
    ↔ s.Holds finding.device dest g ∧ ∀ g', s.Holds finding.device dest g' → g ≤ g'
  none : finding.group = none ↔ ∀ g, ¬ s.Holds finding.device dest g
  others : ∀ g, g ∈ finding.otherGroups ↔ s.Holds finding.device dest g ∧ finding.group ≠ some g
  ascending : finding.otherGroups.Pairwise (· < ·)
  interfaces : ∀ i, i ∈ finding.interfaces.toList
    ↔ ∃ g, finding.group = some g ∧ ∃ rule ∈ s.rulesOf finding.device, rule.Feeds g i
  scanned : finding.rulesScanned
    = if finding.group.isSome then (s.rulesOf finding.device).length else 0

/-- A finding without the number of rules that were looked at. -/
def answer (finding : DeviceFinding) :
    DeviceId × Option GroupId × List GroupId × InterfaceSet :=
  (finding.device, finding.group, finding.otherGroups, finding.interfaces)

/-- Some rules have been counted. -/
structure Counted (fed : GroupId) (rules : List Rule) (before after : DeviceFinding) :
    Prop where
  device : after.device = before.device
  group : after.group = before.group
  others : after.otherGroups = before.otherGroups
  interfaces : ∀ i, i ∈ after.interfaces.toList
    ↔ i ∈ before.interfaces.toList ∨ ∃ rule ∈ rules, rule.Feeds fed i
  scanned : after.rulesScanned = before.rulesScanned + rules.length

variable {rule : Rule} {rules rules' : List Rule} {before after finding : DeviceFinding}

theorem Counted.nil (group : GroupId) (finding : DeviceFinding) :
    Counted group [] finding finding where
  device := rfl
  group := rfl
  others := rfl
  interfaces i := by simp
  scanned := rfl

theorem mem_interfaces_count {i : InterfaceId} :
    i ∈ (finding.count group rule).interfaces.toList
      ↔ i ∈ finding.interfaces.toList ∨ rule.Feeds group i := by
  unfold count Rule.Feeds
  by_cases hcounts : (rule.groups.contains group && rule.binding.care) = true
  · rw [if_pos hcounts]
    obtain ⟨hfeeds, hcare⟩ := Bool.and_eq_true_iff.mp hcounts
    simp only [InterfaceSet.mem_toList_add, hfeeds, hcare, true_and]
  · rw [if_neg hcounts]
    have hnot : ¬ (rule.groups.contains group ∧ rule.binding.care ∧ rule.binding.interface = i) :=
      fun h => hcounts (Bool.and_eq_true_iff.mpr ⟨h.1, h.2.1⟩)
    simp only [hnot, or_false]

/-- One more rule is counted before the others. -/
theorem Counted.cons (h : Counted group rules (before.count group rule) after) :
    Counted group (rule :: rules) before after := by
  -- whether the rule feeds the group makes no difference but to the interfaces
  have hcount : (before.count group rule).device = before.device
      ∧ (before.count group rule).group = before.group
      ∧ (before.count group rule).otherGroups = before.otherGroups
      ∧ (before.count group rule).rulesScanned = before.rulesScanned + 1 := by
    unfold count
    split
    · exact ⟨rfl, rfl, rfl, rfl⟩
    · exact ⟨rfl, rfl, rfl, rfl⟩
  obtain ⟨hdevice, hgroup, hothers, hscanned⟩ := hcount
  refine ⟨h.device.trans hdevice, h.group.trans hgroup, h.others.trans hothers, ?_, ?_⟩
  · intro i
    rw [h.interfaces, mem_interfaces_count, or_assoc]
    simp
  · rw [h.scanned, hscanned, List.length_cons]
    omega

/-- The order of the rules does not matter. -/
theorem Counted.perm (h : Counted group rules before after) (hperm : rules.Perm rules') :
    Counted group rules' before after where
  device := h.device
  group := h.group
  others := h.others
  interfaces i := by
    rw [h.interfaces]
    simp only [hperm.mem_iff]
  scanned := by rw [h.scanned, hperm.length_eq]

/-- No group holds the destination, and nothing is looked at. -/
theorem exact_of_none (hnone : holders (s.groupsOf device) dest = []) :
    Exact s dest ⟨device, none, [], .empty, 0⟩ := by
  have hfree : ∀ g, ¬ s.Holds device dest g := by
    intro g hholds
    have hmem : g ∈ holders (s.groupsOf device) dest := mem_holders.mpr hholds
    rw [hnone] at hmem
    cases hmem
  refine ⟨?_, ?_, ?_, .nil, ?_, rfl⟩
  · intro g
    exact ⟨fun h => (nomatch h), fun h => absurd h.1 (hfree g)⟩
  · exact ⟨fun _ => hfree, fun _ => rfl⟩
  · intro g
    exact ⟨fun h => (nomatch h), fun h => absurd h.1 (hfree g)⟩
  · intro i
    exact ⟨fun h => (nomatch h), fun ⟨g, h, _⟩ => (nomatch h)⟩

/-- All rules of the device are counted for the first group that holds the destination. -/
theorem exact_of_counted {others : List GroupId}
    (hholders : holders (s.groupsOf device) dest = group :: others)
    (h : Counted group (s.rulesOf device) ⟨device, some group, others, .empty, 0⟩ finding) :
    Exact s dest finding := by
  have hfirst : s.Holds device dest group := (holds_iff_of_holders hholders).mpr (.inl rfl)
  have hdevice : finding.device = device := h.device
  have hgroup : finding.group = some group := h.group
  refine ⟨?_, ?_, ?_, ?_, ?_, ?_⟩
  · intro g
    rw [hgroup, hdevice]
    constructor
    · intro hg
      obtain rfl := Option.some.inj hg
      exact ⟨hfirst, fun g' hholds => le_of_holders hholders hholds⟩
    · rintro ⟨hholds, hsmallest⟩
      rw [Fin.le_antisymm (hsmallest group hfirst) (le_of_holders hholders hholds)]
  · rw [hgroup, hdevice]
    exact ⟨fun h => (nomatch h), fun h => absurd hfirst (h group)⟩
  · intro g
    rw [hgroup, hdevice, h.others, holds_iff_of_holders hholders]
    constructor
    · intro hother
      refine ⟨.inr hother, fun hg => ?_⟩
      obtain rfl := Option.some.inj hg
      exact absurd ((pairwise_of_holders hholders).1 _ hother) (Fin.lt_irrefl _)
    · rintro ⟨rfl | hother, hne⟩
      · exact absurd rfl hne
      · exact hother
  · rw [h.others]
    exact (pairwise_of_holders hholders).2
  · intro i
    rw [h.interfaces, hgroup, hdevice, or_iff_right InterfaceSet.mem_toList_empty]
    simp
  · rw [h.scanned, hgroup, hdevice]
    simp

end DeviceFinding

/-! ## §4. Exact reports. -/

/-- A device has the same masks in two states, and the same rules but for their order, their
priorities, their names and how often there is one. -/
structure PlatformState.Alike (s s' : PlatformState) (device : DeviceId) : Prop where
  groups : s'.groupsOf device = s.groupsOf device
  rules : ∀ feed,
    feed ∈ (s'.rulesOf device).map Rule.feed ↔ feed ∈ (s.rulesOf device).map Rule.feed

theorem PlatformState.Alike.symm (h : s.Alike s' device) : s'.Alike s device :=
  ⟨h.groups.symm, fun feed => (h.rules feed).symm⟩

theorem PlatformState.Alike.holds_iff (h : s.Alike s' device) :
    s'.Holds device dest group ↔ s.Holds device dest group := by
  unfold Holds
  rw [h.groups]

theorem PlatformState.Alike.exists_feeds (h : s.Alike s' device) {i : InterfaceId}
    (hfed : ∃ rule ∈ s.rulesOf device, rule.Feeds group i) :
    ∃ rule ∈ s'.rulesOf device, rule.Feeds group i := by
  obtain ⟨rule, hrule, hfeeds⟩ := hfed
  have hmem : rule.feed ∈ (s'.rulesOf device).map Rule.feed :=
    (h.rules rule.feed).mpr (List.mem_map_of_mem hrule)
  obtain ⟨rule', hrule', hfeed⟩ := List.mem_map.mp hmem
  exact ⟨rule', hrule', hfeeds.of_feed hfeed⟩

/-- Ascending lists with the same members are the same. -/
theorem eq_of_ascending {α : Type} {lt : α → α → Prop} (hlt : ∀ x y, lt x y → ¬ lt y x)
    {xs ys : List α} (hx : xs.Pairwise lt) (hy : ys.Pairwise lt) (h : ∀ i, i ∈ xs ↔ i ∈ ys) :
    xs = ys := by
  have hne : ∀ {x y}, lt x y → x ≠ y := by
    rintro x y hxy rfl
    exact hlt x x hxy hxy
  have hperm : xs.Perm ys :=
    (List.perm_ext_iff_of_nodup (hx.imp hne) (hy.imp hne)).mpr h
  exact hperm.eq_of_pairwise (fun x y _ _ hxy hyx => absurd hyx (hlt x y hxy)) hx hy

namespace DeviceFinding

variable {finding finding' : DeviceFinding}

/-- Exact findings for a device that is alike in both states say the same. -/
theorem Exact.answer_eq (h : finding.Exact s dest) (h' : finding'.Exact s' dest)
    (hdevice : finding'.device = finding.device) (halike : s.Alike s' finding.device) :
    finding'.answer = finding.answer := by
  -- the smallest holder comes first, for the other groups and the rules are told by it
  have hgroup : finding'.group = finding.group := by
    refine Option.ext fun g => ?_
    rw [h'.group, h.group, hdevice]
    simp only [halike.holds_iff]
  have hothers : finding'.otherGroups = finding.otherGroups := by
    refine eq_of_ascending (fun _ _ => Fin.lt_asymm) h'.ascending h.ascending fun g => ?_
    rw [h'.others, h.others, hdevice, hgroup, halike.holds_iff]
  have hinterfaces : finding'.interfaces = finding.interfaces := by
    refine InterfaceSet.ext fun i => ?_
    rw [h'.interfaces, h.interfaces, hdevice, hgroup]
    constructor
    · rintro ⟨g, hg, hfed⟩
      exact ⟨g, hg, halike.symm.exists_feeds hfed⟩
    · rintro ⟨g, hg, hfed⟩
      exact ⟨g, hg, halike.exists_feeds hfed⟩
  unfold answer
  rw [hdevice, hgroup, hothers, hinterfaces]

theorem map_answer_eq {findings findings' : List DeviceFinding}
    (h : ∀ finding ∈ findings, finding.Exact s dest)
    (h' : ∀ finding ∈ findings', finding.Exact s' dest)
    (hdevices : findings'.map (·.device) = findings.map (·.device))
    (halike : ∀ finding ∈ findings, s.Alike s' finding.device) :
    findings'.map answer = findings.map answer := by
  induction findings generalizing findings' with
  | nil =>
      obtain rfl := List.map_eq_nil_iff.mp hdevices
      rfl
  | cons finding findings ih =>
      cases findings' with
      | nil => cases hdevices
      | cons finding' findings' =>
          obtain ⟨hdevice, hrest⟩ := List.cons.inj hdevices
          obtain ⟨hhead, htail⟩ := List.forall_mem_cons.mp h
          obtain ⟨hhead', htail'⟩ := List.forall_mem_cons.mp h'
          obtain ⟨hsame, hothers⟩ := List.forall_mem_cons.mp halike
          rw [List.map_cons, List.map_cons, hhead.answer_eq hhead' hdevice hsame,
            ih htail htail' hrest hothers]

/-- There are other groups if and only if two groups hold the destination. -/
theorem Exact.otherGroups_ne_nil_iff (h : finding.Exact s dest) :
    finding.otherGroups ≠ [] ↔ ∃ g g', g ≠ g' ∧ s.Holds finding.device dest g
      ∧ s.Holds finding.device dest g' := by
  constructor
  · intro hothers
    obtain ⟨other, hother⟩ := List.exists_mem_of_ne_nil _ hothers
    obtain ⟨hholds, hne⟩ := (h.others other).mp hother
    cases hgroup : finding.group with
    | none => exact absurd hholds (h.none.mp hgroup other)
    | some first =>
        refine ⟨first, other, fun heq => ?_, ((h.group first).mp hgroup).1, hholds⟩
        rw [hgroup, heq] at hne
        exact hne rfl
  · rintro ⟨g, g', hne, hholds, hholds'⟩ hnil
    -- one of the two is not the smallest, and is among the others
    have hsmallest : ∀ g, s.Holds finding.device dest g → finding.group = some g := by
      intro g hg
      by_cases hgroup : finding.group = some g
      · exact hgroup
      · have hmem := (h.others g).mpr ⟨hg, hgroup⟩
        rw [hnil] at hmem
        cases hmem
    exact hne (Option.some.inj ((hsmallest g hholds).symm.trans (hsmallest g' hholds')))

end DeviceFinding

namespace CrossReference

/-- A report has an exact finding for each device of a list, in the order of the list. -/
structure Exact (s : PlatformState) (dest : DestId) (devices : List DeviceId)
    (r : CrossReference) : Prop where
  asked : r.dest = dest
  devices : r.findings.map (·.device) = devices
  findings : ∀ finding ∈ r.findings, finding.Exact s dest

variable {devices devices' : List DeviceId} {r r' : CrossReference}

theorem Exact.mem_devices (h : r.Exact s dest devices) :
    device ∈ devices ↔ ∃ finding ∈ r.findings, finding.device = device := by
  rw [← h.devices]
  exact List.mem_map

/-- A report is ambiguous if a device holds the destination twice, and only then. -/
theorem Exact.isAmbiguous_iff (h : r.Exact s dest devices) :
    r.isAmbiguous ↔ ∃ device ∈ devices, ∃ g g', g ≠ g' ∧ s.Holds device dest g
      ∧ s.Holds device dest g' := by
  have hothers : r.isAmbiguous ↔ ∃ finding ∈ r.findings, finding.otherGroups ≠ [] := by
    unfold isAmbiguous
    simp
  rw [hothers]
  constructor
  · rintro ⟨finding, hfinding, hne⟩
    exact ⟨finding.device, h.mem_devices.mpr ⟨finding, hfinding, rfl⟩,
      (h.findings finding hfinding).otherGroups_ne_nil_iff.mp hne⟩
  · rintro ⟨device, hdevice, htwice⟩
    obtain ⟨finding, hfinding, rfl⟩ := h.mem_devices.mp hdevice
    exact ⟨finding, hfinding, (h.findings finding hfinding).otherGroups_ne_nil_iff.mpr htwice⟩

theorem Exact.mem_interfaces_of_alike {i : InterfaceId} (h : r.Exact s dest devices)
    (h' : r'.Exact s' dest devices') (hdevices : ∀ device ∈ devices, device ∈ devices')
    (halike : ∀ device ∈ devices, s.Alike s' device) (hi : i ∈ r.interfaces.toList) :
    i ∈ r'.interfaces.toList := by
  obtain ⟨finding, hfinding, hi⟩ := mem_interfaces.mp hi
  have hdevice : finding.device ∈ devices := h.mem_devices.mpr ⟨finding, hfinding, rfl⟩
  obtain ⟨finding', hfinding', hsame⟩ := h'.mem_devices.mp (hdevices _ hdevice)
  have hanswer := (h.findings finding hfinding).answer_eq (h'.findings finding' hfinding') hsame
    (halike _ hdevice)
  have hinterfaces : finding'.interfaces = finding.interfaces := by
    exact congrArg (·.2.2.2) hanswer
  exact mem_interfaces.mpr ⟨finding', hfinding', hinterfaces ▸ hi⟩

/-- Neither the order nor the repetition of the devices changes the interfaces of a report. -/
theorem Exact.interfaces_eq (h : r.Exact s dest devices) (h' : r'.Exact s' dest devices')
    (hdevices : ∀ device, device ∈ devices' ↔ device ∈ devices)
    (halike : ∀ device ∈ devices, s.Alike s' device) : r'.interfaces = r.interfaces := by
  refine InterfaceSet.ext fun i => ⟨?_, ?_⟩
  · exact h'.mem_interfaces_of_alike h (fun device => (hdevices device).mp)
      fun device hdevice => (halike device ((hdevices device).mp hdevice)).symm
  · exact h.mem_interfaces_of_alike h' (fun device => (hdevices device).mpr) halike

/-- Reports on the same devices, alike in both states, answer the same. -/
theorem Exact.answers_eq (h : r.Exact s dest devices) (h' : r'.Exact s' dest devices)
    (halike : ∀ device ∈ devices, s.Alike s' device) :
    r'.findings.map DeviceFinding.answer = r.findings.map DeviceFinding.answer := by
  refine DeviceFinding.map_answer_eq h.findings h'.findings ?_ fun finding hfinding => ?_
  · rw [h'.devices, h.devices]
  · exact halike _ (h.mem_devices.mpr ⟨finding, hfinding, rfl⟩)

end CrossReference

end FlowProcessor
