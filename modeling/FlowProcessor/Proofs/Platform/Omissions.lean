/-
  FlowProcessor.Proofs.Platform.Omissions — WHAT MAY BE LEFT OUT OF THE DOCUMENT OF A STATE.

  A member may be left out if its absence stands for the value it has: the rules of a device that
  has none, the forwarding configuration that was never touched, the frame type that every interface
  starts with, and whatever is absent from an interface anyway.  All other members have to be there.
  For every type of the state two predicates on paths tell the one from the other, and each type is
  read as it should be because its parts are.

    • `LifState.Dispensable`, … `PlatformState.Dispensable` — what may be left out
    • `Binding.Required`, … `PlatformState.Required`        — what may not
    • `Binding.ofJson?_without`, … `PlatformState.ofJson?_without` — how the rest is read
    • `PlatformState.omittable`                             — the document of a state
    • `omissions_mean_defaults`                             — its text
-/
import FlowProcessor.Proofs.Json.Omissions
import FlowProcessor.Proofs.Platform.RoundTrip

namespace FlowProcessor

open Json (Path Omission Own Under InItem InEntry Omittable Slot own_cons under_cons)
open Json (faithful_bool faithful_ofWord)

/-! ## §1. Rules. -/

/-- The members that a binding has to have. -/
def Binding.Required (_ : Binding) : Path → Prop := Own (· ∈ ["id", "care"])

/-- What remains of a binding is read member by member, and so it is with all records. -/
theorem Binding.ofJson?_without (b : Binding) (left : Omission) :
    ofJson? (b.toJson.without left) = (do
      some ⟨⟨← (Slot.kept left ("id", .ofWord b.interface.word)).required? Json.word?⟩,
        ← (Slot.kept left ("care", .bool b.care)).required? Json.bool?⟩) := by
  unfold ofJson? toJson
  rw [Json.record?_without]
  · rfl
  · decide
  · rfl

theorem Binding.omittable :
    Omittable Binding.toJson Binding.ofJson? (fun _ _ => False) Binding.Required where
  reads b _ := Binding.faithful.reads_without b
  refuses b left path := by
    rintro ⟨name, hname, rfl⟩ homits
    rw [ofJson?_without]
    simp only [List.mem_cons, List.not_mem_nil, or_false] at hname
    rcases hname with rfl | rfl
    all_goals simp [Slot.kept_of_left homits.1]

/-- The members that a rule has to have, and those of its binding. -/
def Rule.Required (r : Rule) (path : Path) : Prop :=
  Own (· ∈ ["name", "priority", "lgids", "addr_space"]) path
    ∨ Under "addr_space" r.binding.Required path

theorem Rule.ofJson?_without (r : Rule) (left : Omission) :
    ofJson? (r.toJson.without left) = (do
      some ⟨← (Slot.kept left ("name", .ofText r.name)).required? Json.text?,
        ← (Slot.kept left ("priority", .ofWord r.priority)).required? Json.word?,
        ← (Slot.kept left ("lgids", r.groups.toJson)).required? IdSet.ofJson?,
        ← (Slot.kept left ("addr_space", r.binding.toJson)).required? Binding.ofJson?⟩) := by
  unfold ofJson? toJson
  rw [Json.record?_without]
  · rfl
  · decide
  · rfl

theorem Rule.omittable :
    Omittable Rule.toJson Rule.ofJson? (fun _ _ => False) Rule.Required where
  reads r _ := Rule.faithful.reads_without r
  refuses r left path hrequired homits := by
    rw [ofJson?_without]
    rcases hrequired with ⟨name, hname, rfl⟩ | ⟨rest, hrest, hrequired, rfl⟩
    · simp only [List.mem_cons, List.not_mem_nil, or_false] at hname
      rcases hname with rfl | rfl | rfl | rfl
      all_goals simp [Slot.kept_of_left homits.1]
    · obtain ⟨hkept, hinside⟩ := homits.below hrest
      have hnone := Binding.omittable.refuses r.binding _ rest hrequired hinside
      simp [Slot.kept_of_not_left hkept, hnone]

/-! ## §2. Devices. -/

/-- The rules of a device may be left out if there are none. -/
def DeviceState.Dispensable (d : DeviceState) : Path → Prop :=
  Own fun name => name = "rules" ∧ d.rules = []

/-- The members that a device has to have, and those of its rules. -/
def DeviceState.Required (d : DeviceState) (path : Path) : Prop :=
  Own (· ∈ ["present", "groups"]) path ∨ Under "rules" (InItem Rule.Required d.rules) path

theorem DeviceState.ofJson?_without (d : DeviceState) (left : Omission) :
    ofJson? (d.toJson.without left) = (do
      some ⟨← (Slot.kept left ("present", .bool d.present)).required? Json.bool?,
        ← (Slot.kept left ("groups", GroupTable.toJson d.groups)).required? GroupTable.ofJson?,
        ← (Slot.kept left ("rules", .array (d.rules.map Rule.toJson))).orElse? []
          (Json.list? Rule.ofJson?)⟩) := by
  unfold ofJson? toJson
  rw [Json.record?_without]
  · rfl
  · decide
  · rfl

theorem DeviceState.omittable :
    Omittable DeviceState.toJson DeviceState.ofJson? DeviceState.Dispensable
      DeviceState.Required where
  reads d left hleft := by
    have hmember : ∀ name path, left (.named name :: path) = true →
        (name = "rules" ∧ d.rules = []) ∧ path = [] :=
      fun name path hpresent => own_cons.mp (hleft _ (List.cons_ne_nil _ _) hpresent)
    have hpresent := faithful_bool.omittable.required?_kept (a := d.present)
      (fun h => absurd (hmember "present" _ h).1.1 (by decide))
      (fun path hpath h => hpath (hmember "present" path h).2)
    have hgroups := GroupTable.faithful.omittable.required?_kept (a := d.groups)
      (fun h => absurd (hmember "groups" _ h).1.1 (by decide))
      (fun path hpath h => hpath (hmember "groups" path h).2)
    have hrules := Rule.omittable.list.orElse?_kept [] (a := d.rules)
      (fun h => (hmember "rules" _ h).1.2)
      (fun path hpath h => absurd (hmember "rules" path h).2 hpath)
    rw [ofJson?_without]
    simp [hpresent, hgroups, hrules]
  refuses d left path hrequired homits := by
    rw [ofJson?_without]
    rcases hrequired with ⟨name, hname, rfl⟩ | ⟨rest, hrest, hrequired, rfl⟩
    · simp only [List.mem_cons, List.not_mem_nil, or_false] at hname
      rcases hname with rfl | rfl
      all_goals simp [Slot.kept_of_left homits.1]
    · obtain ⟨hkept, hinside⟩ := homits.below hrest
      have hnone := Rule.omittable.list.refuses d.rules _ rest hrequired hinside
      simp [Slot.kept_of_not_left hkept, hnone]

/-! ## §3. Forwarding. -/

/-- The members of an interface whose values are those of a bare one. -/
def LifState.Unset (l : LifState) (name : String) : Prop :=
  name = "addr_space" ∧ l.addressSpace = none ∨ name = "domain" ∧ l.domain = none
    ∨ name = "mtu" ∧ l.mtu = none ∨ name = "frame_type" ∧ l.frameType = .ethernetII
    ∨ name = "l3ex_ratelim" ∧ l.rateLimit = none

/-- What was not set of an interface may be left out. -/
def LifState.Dispensable (l : LifState) : Path → Prop := Own l.Unset

/-- The members that an interface has to have. -/
def LifState.Required (_ : LifState) : Path → Prop := Own (· ∈ ["port", "vlan"])

theorem LifState.ofJson?_without (l : LifState) (left : Omission) :
    ofJson? (l.toJson.without left) = (do
      some ⟨⟨← (Slot.kept left ("port", .ofWord l.port.word)).required? Json.word?⟩,
        ← (Slot.kept left ("vlan", l.vlan.toJson)).required? VlanTag.ofJson?,
        ← (Slot.kept left ("addr_space", .ofOption .ofWord l.addressSpace)).optional? Json.word?,
        (← (Slot.kept left ("domain", .ofOption (fun domain => .ofWord domain.word)
          l.domain)).optional? Json.word?).map DomainId.mk,
        ← (Slot.kept left ("mtu", .ofOption .ofWord l.mtu)).optional? Json.word?,
        ⟨← (Slot.kept left ("frame_type", .ofWord l.frameType.code)).orElse?
          FrameType.ethernetII.code Json.word?⟩,
        ← (Slot.kept left ("l3ex_ratelim", .ofOption .ofWord l.rateLimit)).optional?
          Json.word?⟩) := by
  unfold ofJson? toJson
  rw [Json.record?_without]
  · rfl
  · decide
  · rfl

theorem LifState.omittable :
    Omittable LifState.toJson LifState.ofJson? LifState.Dispensable LifState.Required where
  reads l left hleft := by
    have hmember : ∀ name path, left (.named name :: path) = true → l.Unset name ∧ path = [] :=
      fun name path hpresent => own_cons.mp (hleft _ (List.cons_ne_nil _ _) hpresent)
    have hinside : ∀ name, ∀ path ≠ [], left (.named name :: path) = true → False :=
      fun name path hpath h => hpath (hmember name path h).2
    have hport := faithful_ofWord.omittable.required?_kept (a := l.port.word)
      (fun h => by simpa [Unset] using (hmember "port" _ h).1) (hinside "port")
    have hvlan := VlanTag.faithful.omittable.required?_kept (a := l.vlan)
      (fun h => by simpa [Unset] using (hmember "vlan" _ h).1) (hinside "vlan")
    have haddressSpace := faithful_ofOption.omittable.orElse?_kept none (a := l.addressSpace)
      (fun h => by simpa [Unset] using (hmember "addr_space" _ h).1) (hinside "addr_space")
    have hdomain := faithful_ofOption.omittable.orElse?_kept none (a := l.domain.map DomainId.word)
      (fun h => by simpa [Unset] using (hmember "domain" _ h).1) (hinside "domain")
    have hmtu := faithful_ofOption.omittable.orElse?_kept none (a := l.mtu)
      (fun h => by simpa [Unset] using (hmember "mtu" _ h).1) (hinside "mtu")
    have hframeType := faithful_ofWord.omittable.orElse?_kept FrameType.ethernetII.code
      (a := l.frameType.code)
      (fun h => congrArg FrameType.code (by simpa [Unset] using (hmember "frame_type" _ h).1))
      (hinside "frame_type")
    have hrateLimit := faithful_ofOption.omittable.orElse?_kept none (a := l.rateLimit)
      (fun h => by simpa [Unset] using (hmember "l3ex_ratelim" _ h).1) (hinside "l3ex_ratelim")
    have hback : (l.domain.map DomainId.word).map DomainId.mk = l.domain := by
      cases l.domain <;> rfl
    rw [ofJson?_without]
    simp [Slot.optional?_kept, ofOption_domain, hport, hvlan, haddressSpace, hdomain, hmtu,
      hframeType, hrateLimit, hback]
  refuses l left path := by
    rintro ⟨name, hname, rfl⟩ homits
    rw [ofJson?_without]
    simp only [List.mem_cons, List.not_mem_nil, or_false] at hname
    rcases hname with rfl | rfl
    all_goals simp [Slot.kept_of_left homits.1]

/-- Of the tables only parts of interfaces may be left out. -/
def ForwardingTables.Dispensable (t : ForwardingTables) : Path → Prop :=
  Under "lifs" (InEntry LifState.Dispensable t.lifs)

/-- The members that the tables have to have, and those of their interfaces. -/
def ForwardingTables.Required (t : ForwardingTables) (path : Path) : Prop :=
  Own (· ∈ ["domains", "lifs"]) path ∨ Under "lifs" (InEntry LifState.Required t.lifs) path

theorem ForwardingTables.ofJson?_without (t : ForwardingTables) (left : Omission) :
    ofJson? (t.toJson.without left) = (do
      some ⟨Table.ofList (← (Slot.kept left ("domains", .ofEntries DomainMode.toJson
          t.domains.entries)).required? (Json.entries? DomainMode.ofJson?)),
        Table.ofList (← (Slot.kept left ("lifs", .ofEntries LifState.toJson
          t.lifs.entries)).required? (Json.entries? LifState.ofJson?))⟩) := by
  unfold ofJson? toJson
  rw [Json.record?_without]
  · rfl
  · decide
  · rfl

theorem ForwardingTables.omittable :
    Omittable ForwardingTables.toJson ForwardingTables.ofJson? ForwardingTables.Dispensable
      ForwardingTables.Required where
  reads t left hleft := by
    have hmember : ∀ name path, left (.named name :: path) = true →
        "lifs" = name ∧ path ≠ [] ∧ InEntry LifState.Dispensable t.lifs path :=
      fun name path hpresent => under_cons.mp (hleft _ (List.cons_ne_nil _ _) hpresent)
    have hkept : ∀ name, left [.named name] = false :=
      fun name => Bool.eq_false_iff.mpr fun h => (hmember name _ h).2.1 rfl
    have hdomains := DomainMode.faithful.omittable.reads_entries t.domains
      (left.below (.named "domains"))
      (fun path _ h => absurd (hmember "domains" path h).1 (by decide))
    have hlifs := LifState.omittable.reads_entries t.lifs (left.below (.named "lifs"))
      (fun path _ h => (hmember "lifs" path h).2.2)
    rw [ofJson?_without]
    simp [Slot.kept_of_not_left (hkept _), hdomains, hlifs, Table.ofList_entries]
  refuses t left path hrequired homits := by
    rw [ofJson?_without]
    rcases hrequired with ⟨name, hname, rfl⟩ | ⟨rest, hrest, hrequired, rfl⟩
    · simp only [List.mem_cons, List.not_mem_nil, or_false] at hname
      rcases hname with rfl | rfl
      all_goals simp [Slot.kept_of_left homits.1]
    · obtain ⟨hkept, hinside⟩ := homits.below hrest
      have hnone := LifState.omittable.refuses_entries hrequired hinside
      simp [Slot.kept_of_not_left hkept, hnone]

/-- Of a configuration only parts of interfaces may be left out. -/
def ForwardingState.Dispensable (f : ForwardingState) : Path → Prop :=
  Under "active" f.active.Dispensable

/-- The members that a configuration has to have, and those of its tables. -/
def ForwardingState.Required (f : ForwardingState) (path : Path) : Prop :=
  Own (· ∈ ["active", "commits"]) path ∨ Under "active" f.active.Required path

theorem ForwardingState.ofJson?_without (f : ForwardingState) (left : Omission) :
    ofJson? (f.toJson.without left) = (do
      some ⟨← (Slot.kept left ("active", f.active.toJson)).required? ForwardingTables.ofJson?,
        ← (Slot.kept left ("commits", .ofWord f.commits)).required? Json.word?⟩) := by
  unfold ofJson? toJson
  rw [Json.record?_without]
  · rfl
  · decide
  · rfl

theorem ForwardingState.omittable :
    Omittable ForwardingState.toJson ForwardingState.ofJson? ForwardingState.Dispensable
      ForwardingState.Required where
  reads f left hleft := by
    have hmember : ∀ name path, left (.named name :: path) = true →
        "active" = name ∧ path ≠ [] ∧ f.active.Dispensable path :=
      fun name path hpresent => under_cons.mp (hleft _ (List.cons_ne_nil _ _) hpresent)
    have hactive := ForwardingTables.omittable.required?_kept (a := f.active)
      (fun h => (hmember "active" _ h).2.1 rfl) (fun path _ h => (hmember "active" path h).2.2)
    have hcommits := faithful_ofWord.omittable.required?_kept (a := f.commits)
      (fun h => (hmember "commits" _ h).2.1 rfl)
      (fun path _ h => absurd (hmember "commits" path h).1 (by decide))
    rw [ofJson?_without]
    simp [hactive, hcommits]
  refuses f left path hrequired homits := by
    rw [ofJson?_without]
    rcases hrequired with ⟨name, hname, rfl⟩ | ⟨rest, hrest, hrequired, rfl⟩
    · simp only [List.mem_cons, List.not_mem_nil, or_false] at hname
      rcases hname with rfl | rfl
      all_goals simp [Slot.kept_of_left homits.1]
    · obtain ⟨hkept, hinside⟩ := homits.below hrest
      have hnone := ForwardingTables.omittable.refuses f.active _ rest hrequired hinside
      simp [Slot.kept_of_not_left hkept, hnone]

/-! ## §4. The platform. -/

/-- A configuration may be left out as a whole if it was never touched, and parts of devices and
interfaces may be. -/
def PlatformState.Dispensable (s : PlatformState) (path : Path) : Prop :=
  Own (fun name => name = "forwarding" ∧ s.forwarding = .initial) path
    ∨ Under "devices" (InItem DeviceState.Dispensable s.devices) path
    ∨ Under "forwarding" s.forwarding.Dispensable path

/-- The members that a state has to have, and those of its devices and of its configuration. -/
def PlatformState.Required (s : PlatformState) (path : Path) : Prop :=
  Own (· ∈ ["devices"]) path ∨ Under "devices" (InItem DeviceState.Required s.devices) path
    ∨ Under "forwarding" s.forwarding.Required path

theorem PlatformState.ofJson?_without (s : PlatformState) (left : Omission) :
    ofJson? (s.toJson.without left) = (do
      some ⟨← (Slot.kept left ("devices", .array (s.devices.map DeviceState.toJson))).required?
          (Json.list? DeviceState.ofJson?),
        ← (Slot.kept left ("forwarding", s.forwarding.toJson)).orElse? .initial
          ForwardingState.ofJson?⟩) := by
  unfold ofJson? toJson
  rw [Json.record?_without]
  · rfl
  · decide
  · rfl

theorem PlatformState.omittable :
    Omittable PlatformState.toJson PlatformState.ofJson? PlatformState.Dispensable
      PlatformState.Required where
  reads s left hleft := by
    have hmember : ∀ name path, left (.named name :: path) = true →
        (name = "forwarding" ∧ s.forwarding = .initial) ∧ path = []
          ∨ ("devices" = name ∧ path ≠ [] ∧ InItem DeviceState.Dispensable s.devices path)
          ∨ "forwarding" = name ∧ path ≠ [] ∧ s.forwarding.Dispensable path := by
      intro name path hpresent
      have hpath := hleft _ (List.cons_ne_nil _ _) hpresent
      rwa [Dispensable, own_cons, under_cons, under_cons] at hpath
    have hdevices := DeviceState.omittable.list.required?_kept (a := s.devices)
      (fun h => by simpa using hmember "devices" [] h)
      (fun path hpath h => by simpa [hpath] using hmember "devices" path h)
    have hforwarding := ForwardingState.omittable.orElse?_kept .initial (a := s.forwarding)
      (fun h => by simpa using hmember "forwarding" [] h)
      (fun path hpath h => by simpa [hpath] using hmember "forwarding" path h)
    rw [ofJson?_without]
    simp [hdevices, hforwarding]
  refuses s left path hrequired homits := by
    rw [ofJson?_without]
    rcases hrequired with ⟨name, hname, rfl⟩ | ⟨rest, hrest, hrequired, rfl⟩
      | ⟨rest, hrest, hrequired, rfl⟩
    · obtain rfl := List.mem_singleton.mp hname
      simp [Slot.kept_of_left homits.1]
    · obtain ⟨hkept, hinside⟩ := homits.below hrest
      have hnone := DeviceState.omittable.list.refuses s.devices _ rest hrequired hinside
      simp [Slot.kept_of_not_left hkept, hnone]
    · obtain ⟨hkept, hinside⟩ := homits.below hrest
      have hnone := ForwardingState.omittable.refuses s.forwarding _ rest hrequired hinside
      simp [Slot.kept_of_not_left hkept, hnone]

/-- **Whatever members with defaults are left out of the document of a state, however its text is
laid out, it is read as exactly that state; and whatever else is left out with it, it is not read at
all when a member is missing that has to be there.** -/
theorem omissions_mean_defaults (s : PlatformState) (left : Omission) (text : String)
    (htext : (s.toJson.without left).WrittenAs text) :
    ((∀ path, left path = true → s.Dispensable path) → PlatformState.read text = some s)
      ∧ ((∃ path, s.Required path ∧ left.Omits path) → PlatformState.read text = none) := by
  have hread : PlatformState.read text = PlatformState.ofJson? (s.toJson.without left) := by
    unfold PlatformState.read
    rw [htext.read_eq ((PlatformState.faithful.proper s).without left)]
    rfl
  rw [hread]
  refine ⟨fun hleft => ?_, fun ⟨path, hrequired, homits⟩ => ?_⟩
  · exact PlatformState.omittable.reads s left fun path _ => hleft path
  · exact PlatformState.omittable.refuses s left path hrequired homits

/-- The interface of which nothing but the MTU was set. -/
def LifState.ofMtu : LifState := { LifState.bare ⟨9⟩ .untagged with mtu := some 1500 }

/-- A device without rules, and such an interface. -/
def PlatformState.oneInterface : PlatformState :=
  ⟨[.installed], ⟨⟨.empty, Table.empty.insert 7 .ofMtu⟩, 1⟩⟩

/-- The member of the interface with that name. -/
def PlatformState.interfaceMember (name : String) : Path :=
  [.named "forwarding", .named "active", .named "lifs", .entry 7, .named name]

/-- What may be left out of that state. -/
def PlatformState.unsetMembers : List Path :=
  [.named "devices", .item 0, .named "rules"]
    :: ["addr_space", "domain", "frame_type", "l3ex_ratelim"].map interfaceMember

/-- What is left of its document without all of this. -/
def PlatformState.shortDocument : Json :=
  .ofFields [
    ("devices", .array [.ofFields [("present", .bool true), ("groups", GroupTable.empty.toJson)]]),
    ("forwarding", .ofFields [
      ("active", .ofFields [
        ("domains", .ofFields []),
        ("lifs", .ofFields [("7", .ofFields [
          ("port", .ofWord 9), ("vlan", .ofText "untagged"), ("mtu", .ofWord 1500)])])]),
      ("commits", .ofWord 1)])]

/-- What was not set of the interface may be left out of the state. -/
theorem PlatformState.dispensable_of_unset {name : String} (h : LifState.ofMtu.Unset name) :
    oneInterface.Dispensable (interfaceMember name) := by
  refine .inr (.inr ?_)
  unfold interfaceMember ForwardingState.Dispensable ForwardingTables.Dispensable
  rw [under_cons, under_cons, under_cons]
  exact ⟨rfl, List.cons_ne_nil _ _, rfl, List.cons_ne_nil _ _, rfl, List.cons_ne_nil _ _,
    7, .ofMtu, [.named name], List.cons_ne_nil _ _, by decide, ⟨name, h, rfl⟩, rfl⟩

/-- The short document is read as the whole state; when the port of the interface is left out as
well, no state is described. -/
theorem omissions_mean_defaults_of_interface :
    PlatformState.read PlatformState.shortDocument.compact = some .oneInterface
      ∧ PlatformState.read (PlatformState.oneInterface.toJson.without fun path =>
          decide (path ∈ PlatformState.interfaceMember "port" :: PlatformState.unsetMembers)).pretty
        = none := by
  have hshort : (PlatformState.oneInterface.toJson.without fun path =>
      decide (path ∈ PlatformState.unsetMembers)) = PlatformState.shortDocument := by
    rfl
  have hdispensable : ∀ path ∈ PlatformState.unsetMembers,
      PlatformState.oneInterface.Dispensable path := by
    have hrules : PlatformState.oneInterface.Dispensable
        [.named "devices", .item 0, .named "rules"] :=
      .inr (.inl ⟨_, List.cons_ne_nil _ _, ⟨0, .installed, _, List.cons_ne_nil _ _, rfl,
        ⟨"rules", ⟨rfl, rfl⟩, rfl⟩, rfl⟩, rfl⟩)
    simp only [PlatformState.unsetMembers, List.map_cons, List.map_nil, List.forall_mem_cons]
    refine ⟨hrules, ?_, ?_, ?_, ?_, nofun⟩
    all_goals
      refine PlatformState.dispensable_of_unset ?_
      simp [LifState.Unset, LifState.ofMtu, LifState.bare]
  have houter : ∀ above ∈ PlatformState.interfaceMember "port" :: PlatformState.unsetMembers,
      above <+: PlatformState.interfaceMember "port" →
        above = PlatformState.interfaceMember "port" := by
    decide
  obtain ⟨hreads, -⟩ := omissions_mean_defaults .oneInterface
    (fun path => decide (path ∈ PlatformState.unsetMembers)) PlatformState.shortDocument.compact
    (hshort ▸ Json.writtenAs_compact _)
  obtain ⟨-, hrefuses⟩ := omissions_mean_defaults .oneInterface
    (fun path => decide (path ∈ PlatformState.interfaceMember "port" :: PlatformState.unsetMembers))
    _ (Json.writtenAs_pretty _)
  refine ⟨hreads fun path hpath => hdispensable path (of_decide_eq_true hpath),
    hrefuses ⟨PlatformState.interfaceMember "port", ?_, decide_eq_true List.mem_cons_self,
      fun above hprefix habove => houter above (of_decide_eq_true habove) hprefix⟩⟩
  exact .inr (.inr ⟨_, List.cons_ne_nil _ _, .inr ⟨_, List.cons_ne_nil _ _,
    .inr ⟨_, List.cons_ne_nil _ _, ⟨7, .ofMtu, _, List.cons_ne_nil _ _, by decide,
      ⟨"port", by decide, rfl⟩, rfl⟩, rfl⟩, rfl⟩, rfl⟩)

end FlowProcessor
