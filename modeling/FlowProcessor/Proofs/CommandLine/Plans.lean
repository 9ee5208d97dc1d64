/-
  FlowProcessor.Proofs.CommandLine.Plans — WHAT A LINE OF THE FORWARDING TOOL DESCRIBES.

  The options of a plan may be written in any order, as long as the interfaces keep theirs.  Every
  option but that of an interface is there once at most, so that it does not matter where it is
  found; and two orders of the same options come to the same plan.

    • `ForwardingChoice`    — what is to be described
    • `ForwardingItem`      — an option as it is written, with the value it stands for
    • `ForwardingLine`      — a line has the options of a choice, in some order
    • `ForwardingLine.read` — how it is read
    • `line_describes_plan` — and the plan it comes to
-/
import FlowProcessor.CommandLine.ForwardingTool
import FlowProcessor.Proofs.CommandLine.Lines
import FlowProcessor.Proofs.Reading.Interfaces

namespace FlowProcessor

open Numeral (Denotes)

/-! ## §1. Lines of the forwarding tool. -/

/-- What a line is to describe; what is left out is for the tool to choose. -/
structure ForwardingChoice where
  domain : Option DomainId
  mode : DomainMode
  /-- Whether existing domains and interfaces are removed first. -/
  clear : Bool
  interfaces : List LifSpec
  mtu : Option UInt32
  frameType : Option FrameType

namespace ForwardingChoice

/-- The options that are given once at most. -/
def single (choice : ForwardingChoice) : List ForwardingSetting :=
  (if choice.clear then [] else [.keep])
    ++ (if choice.mode = .l3 then [.l3] else [])
    ++ choice.domain.toList.map .domain
    ++ choice.mtu.toList.map .mtu
    ++ choice.frameType.toList.map .frameType

/-- All options, in one of the orders in which they may be written. -/
def settings (choice : ForwardingChoice) : List ForwardingSetting :=
  choice.single ++ choice.interfaces.map .interface

end ForwardingChoice

/-- An option of the tool as it is written, with the value that its text stands for. -/
inductive ForwardingItem
  | keep
  | l3
  | interface (text : String) (spec : LifSpec)
  | domain (text : String) (domain : DomainId)
  | mtu (text : String) (mtu : UInt32)
  | frameType (text : String) (frameType : FrameType)

namespace ForwardingItem

/-- The arguments that make up an option. -/
def words : ForwardingItem → List String
  | .keep => ["-C"]
  | .l3 => ["-3"]
  | .interface text _ => ["-i", text]
  | .domain text _ => ["-d", text]
  | .mtu text _ => ["-m", text]
  | .frameType text _ => ["-f", text]

/-- The text spells the value: numbers in decimal, or in hexadecimal after `0x`. -/
def Spelled : ForwardingItem → Prop
  | .keep | .l3 => True
  | .interface text spec => LifSpec.Spells text.toList spec
  | .domain text id => Denotes text.toList id.word.toNat
  | .mtu text n => Denotes text.toList n.toNat
  | .frameType text kind => Denotes text.toList kind.code.toNat

/-- The setting that the option makes. -/
def setting : ForwardingItem → ForwardingSetting
  | .keep => .keep
  | .l3 => .l3
  | .interface _ spec => .interface spec
  | .domain _ id => .domain id
  | .mtu _ n => .mtu n
  | .frameType _ kind => .frameType kind

/-- The interface that the option names. -/
def interface? : ForwardingItem → Option LifSpec
  | .interface _ spec => some spec
  | _ => none

end ForwardingItem

/-- A line has the options of a choice in some order, the interfaces in their own. -/
structure ForwardingLine (items : List ForwardingItem) (choice : ForwardingChoice) : Prop where
  spelled : ∀ item ∈ items, item.Spelled
  complete : (items.map ForwardingItem.setting).Perm choice.settings
  sequence : items.filterMap ForwardingItem.interface? = choice.interfaces

/-! ## §2. Scanning such lines. -/

/-- The long name of the option that makes a setting. -/
def ForwardingSetting.long : ForwardingSetting → String
  | .keep => "no_clear"
  | .l3 => "l3"
  | .interface _ => "iface"
  | .domain _ => "domain"
  | .slotB => "B1G"
  | .mtu _ => "mtu"
  | .frameType _ => "frame-type"
  | .logLevel _ => "loglevel"
  | .settingsPath _ => "config"
  | .statePath _ => "platform"

namespace ForwardingItem

open CommandLine (WrittenOption flag readOption)

/-- The option as the scanner knows it. -/
def written : ForwardingItem → WrittenOption ForwardingSetting
  | .keep => ⟨flag "no_clear" 'C' .keep, some 'C', .bare, .keep⟩
  | .l3 => ⟨flag "l3" '3' .l3, some '3', .bare, .l3⟩
  | .interface text spec =>
      ⟨readOption "iface" 'i' true LifSpec.read (fun error => (ToolError.input error).message)
        .interface, some 'i', .apart text, .interface spec⟩
  | .domain text id =>
      ⟨readOption "domain" 'd' false DomainId.read InputError.message .domain, some 'd',
        .apart text, .domain id⟩
  | .mtu text n =>
      ⟨readOption "mtu" 'm' false Numeral.read InputError.message .mtu, some 'm', .apart text,
        .mtu n⟩
  | .frameType text kind =>
      ⟨readOption "frame-type" 'f' false FrameType.read InputError.message .frameType, some 'f',
        .apart text, .frameType kind⟩

variable {item : ForwardingItem}

theorem words_written (item : ForwardingItem) : item.written.words = item.words := by
  cases item <;> rfl

@[simp] theorem setting_written (item : ForwardingItem) : item.written.setting = item.setting := by
  cases item <;> rfl

theorem long_written (item : ForwardingItem) : item.written.rule.long = item.setting.long := by
  cases item <;> rfl

/-- Only the option of an interface may be repeated. -/
theorem repeatable_written (h : item.setting.long = "iface") :
    item.written.rule.repeatable = true := by
  cases item with
  | interface text spec => rfl
  | _ => simp [setting, ForwardingSetting.long] at h

/-- An option whose value is read without fault fits. -/
theorem fits_read {α : Type} {long : String} {short : Char} {repeatable : Bool}
    {read : String → Except InputError α} {word : InputError → String}
    {setting : α → ForwardingSetting} {text : String} {a : α}
    (hshort : short ≠ '-' ∧ forwardingGrammar.short? short
      = some (readOption long short repeatable read word setting))
    (hdash : '-' ∉ text.toList) (hread : read text = .ok a) :
    WrittenOption.Fits forwardingGrammar
      ⟨readOption long short repeatable read word setting, some short, .apart text, setting a⟩ := by
  refine ⟨hshort, ⟨rfl, fun hhead => hdash (List.mem_of_mem_head? hhead)⟩, ?_⟩
  unfold readOption WrittenOption.value
  dsimp only
  rw [hread]

theorem fits_written (h : item.Spelled) : item.written.Fits forwardingGrammar := by
  cases item with
  | keep | l3 => exact ⟨⟨by decide, rfl⟩, CommandLine.Takes.noConfusion, rfl⟩
  | interface text spec =>
      have hspells : LifSpec.Spells text.toList spec := h
      exact fits_read ⟨by decide, rfl⟩ (hspells.not_mem (by decide) (by decide)) hspells.read_eq
  | domain text id =>
      have hdenotes : Denotes text.toList id.word.toNat := h
      refine fits_read ⟨by decide, rfl⟩ (hdenotes.not_mem (by decide)) ?_
      unfold DomainId.read
      rw [Numeral.read_eq_ok_iff.mpr hdenotes]
      rfl
  | mtu text n =>
      have hdenotes : Denotes text.toList n.toNat := h
      exact fits_read ⟨by decide, rfl⟩ (hdenotes.not_mem (by decide))
        (Numeral.read_eq_ok_iff.mpr hdenotes)
  | frameType text kind =>
      have hdenotes : Denotes text.toList kind.code.toNat := h
      refine fits_read ⟨by decide, rfl⟩ (hdenotes.not_mem (by decide)) ?_
      unfold FrameType.read
      rw [Numeral.read_eq_ok_iff.mpr hdenotes]
      rfl

end ForwardingItem

namespace ForwardingChoice

/-- Two options of one name are those of interfaces. -/
def Apart (x y : ForwardingSetting) : Prop := x.long = y.long → y.long = "iface"

theorem apart_symm {x y : ForwardingSetting} (h : Apart x y) : Apart y x :=
  fun hsame => hsame.symm.trans (h hsame.symm)

/-- No option but that of an interface is there twice, in the order of the choice. -/
theorem pairwise_settings (choice : ForwardingChoice) : choice.settings.Pairwise Apart := by
  obtain ⟨domain, mode, clear, interfaces, mtu, frameType⟩ := choice
  have hinterfaces : (interfaces.map ForwardingSetting.interface).Pairwise Apart :=
    List.pairwise_map.mpr (List.pairwise_of_forall fun _ _ _ => rfl)
  refine List.pairwise_append.mpr ⟨?_, hinterfaces, ?_⟩
  · unfold single
    cases domain <;> cases mode <;> cases clear <;> cases mtu <;> cases frameType <;>
      simp [Apart, ForwardingSetting.long]
  · intro x _ y hy _
    obtain ⟨spec, -, rfl⟩ := List.mem_map.mp hy
    rfl

variable (choice : ForwardingChoice)

theorem contains_keep : choice.settings.contains .keep = !choice.clear := by
  obtain ⟨domain, mode, clear, interfaces, mtu, frameType⟩ := choice
  unfold settings single
  cases mode <;> cases clear <;> simp

theorem contains_l3 : choice.settings.contains .l3 = decide (choice.mode = .l3) := by
  obtain ⟨domain, mode, clear, interfaces, mtu, frameType⟩ := choice
  unfold settings single
  cases mode <;> cases clear <;> simp

theorem contains_slotB : choice.settings.contains .slotB = false := by
  obtain ⟨domain, mode, clear, interfaces, mtu, frameType⟩ := choice
  unfold settings single
  cases mode <;> cases clear <;> simp

/-- What is not told by interfaces is told by the other options. -/
theorem filterMap_settings {β : Type} {f : ForwardingSetting → Option β} {found : List β}
    (hf : ∀ spec, f (.interface spec) = none) (h : choice.single.filterMap f = found) :
    choice.settings.filterMap f = found := by
  have hnone : (choice.interfaces.map ForwardingSetting.interface).filterMap f = [] := by
    rw [List.filterMap_map]
    exact List.filterMap_eq_nil_iff.mpr fun spec _ => hf spec
  unfold settings
  rw [List.filterMap_append, hnone, List.append_nil, h]

end ForwardingChoice

namespace ForwardingLine

variable {items : List ForwardingItem} {choice : ForwardingChoice}

/-- So it is in every other order. -/
theorem once (h : ForwardingLine items choice) :
    CommandLine.Once (items.map ForwardingItem.written) := by
  have hapart : (items.map ForwardingItem.setting).Pairwise ForwardingChoice.Apart :=
    (h.complete.pairwise_iff ForwardingChoice.apart_symm).mpr choice.pairwise_settings
  refine List.pairwise_map.mpr ((List.pairwise_map.mp hapart).imp ?_)
  intro item later hapart hsame
  rw [item.long_written, later.long_written] at hsame
  exact later.repeatable_written (hapart hsame)

/-- A line is scanned to the settings that its options make. -/
theorem scan (h : ForwardingLine items choice) :
    CommandLine.scan forwardingGrammar (items.flatMap ForwardingItem.words)
      = .ok (items.map ForwardingItem.setting) := by
  have hwords : items.flatMap ForwardingItem.words
      = (items.map ForwardingItem.written).flatMap CommandLine.WrittenOption.words := by
    rw [List.flatMap_map]
    exact List.flatMap_congr fun item _ => (item.words_written).symm
  have hfits : ∀ o ∈ items.map ForwardingItem.written, o.Fits forwardingGrammar := by
    intro o ho
    obtain ⟨item, hitem, rfl⟩ := List.mem_map.mp ho
    exact ForwardingItem.fits_written (h.spelled item hitem)
  rw [hwords, CommandLine.scan_words hfits h.once, List.map_map]
  exact congrArg _ (List.map_congr_left fun item _ => item.setting_written)

/-! ## §3. What the settings come to. -/

/-- What is there once at most is found wherever it stands. -/
theorem findSome?_eq {β : Type} {f : ForwardingSetting → Option β} {found : Option β}
    (h : ForwardingLine items choice) (hf : choice.settings.filterMap f = found.toList) :
    (items.map ForwardingItem.setting).findSome? f = found := by
  have hperm := h.complete.filterMap f
  rw [hf] at hperm
  rw [← List.head?_filterMap]
  cases found with
  | none => rw [List.perm_nil.mp hperm]; rfl
  | some b => rw [List.perm_singleton.mp hperm]; rfl

/-- The settings of a line are sorted into the parts of its choice. -/
theorem ofSettings_eq (h : ForwardingLine items choice) :
    ForwardingArguments.ofSettings (items.map ForwardingItem.setting)
      = ⟨!choice.clear, choice.mode = .l3, choice.interfaces, choice.domain, false,
        choice.mtu, choice.frameType, none, none, none⟩ := by
  have hflag : ∀ setting, (items.map ForwardingItem.setting).contains setting
      = choice.settings.contains setting := fun setting => h.complete.contains_eq
  have hinterfaces : ∀ f : ForwardingSetting → Option LifSpec,
      (∀ item : ForwardingItem, f item.setting = item.interface?) →
      (items.map ForwardingItem.setting).filterMap f = choice.interfaces := by
    intro f hf
    rw [List.filterMap_map, ← h.sequence]
    exact List.filterMap_congr fun item _ => hf item
  unfold ForwardingArguments.ofSettings
  rw [hflag, hflag, hflag, choice.contains_keep, choice.contains_l3, choice.contains_slotB,
    hinterfaces _ fun item => by cases item <;> rfl]
  -- the other parts are found in options that are there once at most
  congr
  all_goals
    refine h.findSome?_eq (choice.filterMap_settings (fun _ => rfl) ?_)
    obtain ⟨domain, mode, clear, interfaces, mtu, frameType⟩ := choice
    cases domain <;> cases mode <;> cases clear <;> cases mtu <;> cases frameType <;> rfl

/-- A line is read as the arguments of its choice, in whatever order they were written. -/
theorem read (h : ForwardingLine items choice) :
    ForwardingArguments.read (items.flatMap ForwardingItem.words)
      = .ok ⟨!choice.clear, choice.mode = .l3, choice.interfaces, choice.domain, false,
        choice.mtu, choice.frameType, none, none, none⟩ := by
  unfold ForwardingArguments.read
  rw [h.scan]
  dsimp only [bind, Except.bind]
  rw [h.ofSettings_eq]
  rfl

end ForwardingLine

/-! ## §4. Plans. -/

namespace ForwardingArguments

variable {a : ForwardingArguments}

/-- There has to be an interface, unless they are those of the card. -/
theorem plan_of_none (hnone : a.interfaces = []) (hcard : a.slotB = false) :
    a.plan = .error (.usage .noInterfaces) := by
  unfold plan basePlan ForwardingPlan.ofInterfaces
  rw [hcard, hnone]
  rfl

/-- The plan for interfaces that are named one by one. -/
theorem plan_of_interfaces (hsome : a.interfaces ≠ []) (hcard : a.slotB = false) :
    a.plan = .ok
      { domain := a.domain.getD defaultDomain
        mode := if a.l3 then .l3 else .l2
        clear := !a.keep
        interfaces := a.interfaces
        mtu := a.mtu.filter (· ≠ 0)
        frameType := a.frameType.getD .ethernetII
        rateLimit := none } := by
  obtain ⟨keep, l3, interfaces, domain, slotB, mtu, frameType, _, _, _⟩ := a
  obtain rfl : slotB = false := hcard
  have hempty : interfaces.isEmpty = false := by
    cases interfaces with
    | nil => exact absurd rfl hsome
    | cons spec rest => rfl
  have hmtu : ∀ n : UInt32, (if n = 0 then none else some n) = (some n).filter (· ≠ 0) := by
    intro n
    rw [Option.filter_some]
    by_cases hzero : n = 0
    · simp [hzero]
    · simp [hzero]
  unfold plan basePlan ForwardingPlan.ofInterfaces
  simp only [hempty]
  cases mtu with
  | none => cases keep <;> cases frameType <;> rfl
  | some n =>
      rw [← hmtu n]
      cases keep <;> cases frameType <;> rfl

/-- A line without interfaces and without the card is accepted, and describes no plan. -/
theorem plan_of_settings {args : List String} {settings : List ForwardingSetting}
    (hscan : CommandLine.scan forwardingGrammar args = .ok settings)
    (hinterface : ∀ spec, .interface spec ∉ settings) (hcard : .slotB ∉ settings) :
    ∃ a, read args = .ok a ∧ a.plan = .error (.usage .noInterfaces) := by
  have hnone : (ofSettings settings).interfaces = [] := by
    refine List.filterMap_eq_nil_iff.mpr fun setting hsetting => ?_
    cases setting with
    | interface spec => exact absurd hsetting (hinterface spec)
    | _ => rfl
  have hslot : (ofSettings settings).slotB = false := by
    show settings.contains .slotB = false
    rw [List.contains_eq_mem]
    exact decide_eq_false hcard
  refine ⟨ofSettings settings, ?_, plan_of_none hnone hslot⟩
  unfold read
  rw [hscan]
  dsimp only [bind, Except.bind]
  rw [hslot]
  rfl

end ForwardingArguments

/-- **A line with the options of a plan, in any order that keeps that of the interfaces, describes
this plan: what is left out is domain 1 and Ethernet II, and an MTU of zero is none.  Without an
interface, and without the card, no line describes a plan.** -/
theorem line_describes_plan :
    (∀ (choice : ForwardingChoice) (items : List ForwardingItem), ForwardingLine items choice →
      ∃ a, ForwardingArguments.read (items.flatMap ForwardingItem.words) = .ok a
        ∧ (choice.interfaces ≠ [] → a.plan = .ok
          { domain := choice.domain.getD ⟨1⟩
            mode := choice.mode
            clear := choice.clear
            interfaces := choice.interfaces
            mtu := choice.mtu.filter (· ≠ 0)
            frameType := choice.frameType.getD .ethernetII
            rateLimit := none })
        ∧ (choice.interfaces = [] → a.plan = .error (.usage .noInterfaces)))
    ∧ ∀ args settings, CommandLine.scan forwardingGrammar args = .ok settings →
      (∀ spec, .interface spec ∉ settings) → .slotB ∉ settings →
      ∃ a, ForwardingArguments.read args = .ok a ∧ a.plan = .error (.usage .noInterfaces) := by
  refine ⟨fun choice items h => ⟨_, h.read, fun hsome => ?_, fun hnone => ?_⟩, ?_⟩
  · rw [ForwardingArguments.plan_of_interfaces hsome rfl]
    have hmode : (if decide (choice.mode = .l3) then DomainMode.l3 else .l2) = choice.mode := by
      cases choice.mode <;> rfl
    rw [hmode, Bool.not_not]
    rfl
  · exact ForwardingArguments.plan_of_none hnone rfl
  · intro args settings hscan hinterface hcard
    exact ForwardingArguments.plan_of_settings hscan hinterface hcard

/-- Numbers of both bases with zeros in front, an MTU of zero, and the options before, between and
after the interfaces; and a line that names none. -/
theorem line_describes_plan_of_mixed_order :
    (∃ a, ForwardingArguments.read ["-i", "0x0B:1", "-m", "0x0", "-3", "-i", "10:0xffe:4294967295",
          "-d", "009", "-f", "2", "-C", "-i", "9:0:2"] = .ok a
      ∧ a.plan = .ok ⟨⟨9⟩, .l3, false, [⟨⟨11⟩, .untagged, ⟨1⟩⟩,
          ⟨⟨10⟩, .tagged ⟨4094, by decide, by decide⟩, ⟨4294967295⟩⟩, ⟨⟨9⟩, .untagged, ⟨2⟩⟩],
        none, ⟨2⟩, none⟩)
    ∧ (∃ a, ForwardingArguments.read ["-d", "4", "--loglevel=info"] = .ok a
      ∧ a.plan = .error (.usage .noInterfaces)) := by
  obtain ⟨hplans, hnone⟩ := line_describes_plan
  refine ⟨?_, hnone _ [.domain ⟨4⟩, .logLevel "info"] rfl (by simp) (by simp)⟩
  have hfirst : LifSpec.Spells "0x0B:1".toList ⟨⟨11⟩, .untagged, ⟨1⟩⟩ :=
    ⟨["0x0B".toList, "1".toList], ⟨by decide, by decide, rfl⟩, .two (by decide) rfl (by decide)⟩
  have hsecond : LifSpec.Spells "10:0xffe:4294967295".toList
      ⟨⟨10⟩, .tagged ⟨4094, by decide, by decide⟩, ⟨4294967295⟩⟩ :=
    ⟨["10".toList, "0xffe".toList, "4294967295".toList], ⟨by decide, by decide, rfl⟩,
      .three (by decide) (by decide) (by decide)⟩
  have hthird : LifSpec.Spells "9:0:2".toList ⟨⟨9⟩, .untagged, ⟨2⟩⟩ :=
    ⟨["9".toList, "0".toList, "2".toList], ⟨by decide, by decide, rfl⟩,
      .three (by decide) (by decide) (by decide)⟩
  have hline : ForwardingLine
      [.interface "0x0B:1" ⟨⟨11⟩, .untagged, ⟨1⟩⟩, .mtu "0x0" 0, .l3,
        .interface "10:0xffe:4294967295"
          ⟨⟨10⟩, .tagged ⟨4094, by decide, by decide⟩, ⟨4294967295⟩⟩,
        .domain "009" ⟨9⟩, .frameType "2" ⟨2⟩, .keep,
        .interface "9:0:2" ⟨⟨9⟩, .untagged, ⟨2⟩⟩]
      ⟨some ⟨9⟩, .l3, false, [⟨⟨11⟩, .untagged, ⟨1⟩⟩,
          ⟨⟨10⟩, .tagged ⟨4094, by decide, by decide⟩, ⟨4294967295⟩⟩, ⟨⟨9⟩, .untagged, ⟨2⟩⟩],
        some 0, some ⟨2⟩⟩ := by
    refine ⟨?_, ?_, rfl⟩
    · simp only [List.forall_mem_cons]
      exact ⟨hfirst, (by decide : Denotes "0x0".toList 0), trivial, hsecond,
        (by decide : Denotes "009".toList 9), (by decide : Denotes "2".toList 2), trivial, hthird,
        fun _ hnone => absurd hnone List.not_mem_nil⟩
    · decide
  obtain ⟨a, hread, hplan, -⟩ := hplans _ _ hline
  exact ⟨a, hread, hplan (by simp)⟩

end FlowProcessor
