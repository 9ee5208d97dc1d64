/-
  FlowProcessor.Proofs.CommandLine.Actions — WHAT A LINE OF THE LOAD-BALANCE TOOL ASKS FOR.

  A line of actions, in whatever mixture, asks for one command for each action, in the order in
  which they are written, or fails with the error of the leftmost that cannot be read.

    • `GroupItem`      — an option of the load-balance tool as it is written
    • `GroupLine.read` — how a line of them is read
    • `line_commands`  — what it asks for
-/
import FlowProcessor.Proofs.CommandLine.Lines
import FlowProcessor.Proofs.CommandLine.Order

namespace FlowProcessor

/-! ## §1. Lines of the load-balance tool. -/

/-- An option of the load-balance tool as it is written on a line, an action in short or in full. -/
inductive GroupItem
  | device (short : Bool) (value : String)
  | set (short : Bool) (value : String)
  | list (short : Bool) (value : String)
  /-- The value, if there is one, stands behind an equals sign. -/
  | print (short : Bool) (value : Option String)
  /-- The value, if there is one, stands behind an equals sign. -/
  | clear (short : Bool) (value : Option String)
  | settingsPath (path : String)
  | statePath (path : String)

namespace GroupItem

/-- The arguments that make up an option. -/
def words : GroupItem → List String
  | .device short value => [if short then "-d" else "--device", value]
  | .set short value => [if short then "-s" else "--set", value]
  | .list short value => [if short then "-S" else "--list", value]
  | .print short none => [if short then "-p" else "--print"]
  | .print short (some value) => [(if short then "-p=" else "--print=") ++ value]
  | .clear short none => [if short then "-c" else "--clear"]
  | .clear short (some value) => [(if short then "-c=" else "--clear=") ++ value]
  | .settingsPath path => ["--config", path]
  | .statePath path => ["--platform", path]

/-- What the option asks to be done, or why this cannot be told; nothing for a file. -/
def reading? : GroupItem → Option (Except InputError GroupCommand)
  | .device _ value => some (GroupCommand.readSelect value)
  | .set _ value => some (GroupCommand.readSetMask value)
  | .list _ value => some (GroupCommand.readSetList value)
  | .print _ none => some (.ok .print)
  | .print _ (some value) => some
      (if value = "true" then .ok .print else .error (.malformed value (.flagWithValue "print")))
  | .clear _ none => some (.ok .clear)
  | .clear _ (some value) => some
      (if value = "true" then .ok .clear else .error (.malformed value (.flagWithValue "clear")))
  | .settingsPath _ | .statePath _ => none

/-- The settings file that the option names. -/
def settingsPath? : GroupItem → Option String
  | .settingsPath path => some path
  | _ => none

/-- The state file that the option names. -/
def statePath? : GroupItem → Option String
  | .statePath path => some path
  | _ => none

/-- The value of a print or clear action. -/
def flagValue? : GroupItem → Option String
  | .print _ value | .clear _ value => value
  | _ => none

/-- A value in an argument of its own does not begin with a dash, and a path is not empty. -/
def Admissible : GroupItem → Prop
  | .device _ value | .set _ value | .list _ value => value.toList.head? ≠ some '-'
  | .print _ _ | .clear _ _ => True
  | .settingsPath path | .statePath path => path ≠ "" ∧ path.toList.head? ≠ some '-'

/-- The setting that the option makes. -/
def setting : GroupItem → GroupSetting
  | .device _ value => .action .device value
  | .set _ value => .action .set value
  | .list _ value => .action .list value
  | .print _ value => .action .print (value.getD bareAction)
  | .clear _ value => .action .clear (value.getD bareAction)
  | .settingsPath path => .settingsPath path
  | .statePath path => .statePath path

end GroupItem

/-- Options as they are written on a line, with no file named twice. -/
structure GroupLine (items : List GroupItem) : Prop where
  admissible : ∀ item ∈ items, item.Admissible
  oneSettings : (items.filterMap GroupItem.settingsPath?).length ≤ 1
  oneState : (items.filterMap GroupItem.statePath?).length ≤ 1

/-! ## §2. Scanning such lines. -/

namespace GroupItem

open CommandLine (OptionRule WrittenOption Placement pathOption)

/-- The option of the grammar that asks for an action. -/
def actionRule (long : String) (short : Char) (takes : CommandLine.Takes) (option : ActionOption) :
    OptionRule GroupSetting :=
  ⟨long, some short, takes, true, fun value => .ok (.action option value)⟩

/-- Where the value of a print or clear action stands. -/
def flagPlacement : Option String → Placement
  | none => .bare
  | some value => .joined value

/-- The option as the scanner knows it. -/
def written : GroupItem → WrittenOption GroupSetting
  | item@(.device short value) =>
      ⟨actionRule "device" 'd' .value .device, if short then some 'd' else none, .apart value,
        item.setting⟩
  | item@(.set short value) =>
      ⟨actionRule "set" 's' .value .set, if short then some 's' else none, .apart value,
        item.setting⟩
  | item@(.list short value) =>
      ⟨actionRule "list" 'S' .value .list, if short then some 'S' else none, .apart value,
        item.setting⟩
  | item@(.print short value) =>
      ⟨actionRule "print" 'p' (.attached bareAction) .print, if short then some 'p' else none,
        flagPlacement value, item.setting⟩
  | item@(.clear short value) =>
      ⟨actionRule "clear" 'c' (.attached bareAction) .clear, if short then some 'c' else none,
        flagPlacement value, item.setting⟩
  | item@(.settingsPath path) =>
      ⟨pathOption "config" .settingsPath, none, .apart path, item.setting⟩
  | item@(.statePath path) =>
      ⟨pathOption "platform" .statePath, none, .apart path, item.setting⟩

variable {item : GroupItem} {items : List GroupItem}

@[simp] theorem setting_written (item : GroupItem) : item.written.setting = item.setting := by
  cases item <;> rfl

theorem words_written (item : GroupItem) : item.written.words = item.words := by
  cases item with
  | device short value | set short value | list short value =>
      cases short <;> simp [written, WrittenOption.words, WrittenOption.name, words, actionRule]
  | settingsPath path | statePath path =>
      simp [written, WrittenOption.words, WrittenOption.name, words, pathOption]
  | print short value | clear short value =>
      cases value with
      | none =>
          cases short <;>
            simp [written, WrittenOption.words, WrittenOption.name, words, actionRule,
              flagPlacement]
      | some value =>
          cases short <;>
            simp [written, WrittenOption.words, WrittenOption.name, words, actionRule,
              flagPlacement,
              ← String.toList_inj]

/-- An option that has two names fits under either. -/
theorem named_of (rule : OptionRule GroupSetting) (c : Char) (short : Bool)
    (hshort : c ≠ '-' ∧ groupGrammar.short? c = some rule)
    (hlong : rule.long ≠ "" ∧ '=' ∉ rule.long.toList
      ∧ groupGrammar.long? rule.long.toList = some rule) :
    match if short then some c else none with
    | some c => c ≠ '-' ∧ groupGrammar.short? c = some rule
    | none => rule.long ≠ "" ∧ '=' ∉ rule.long.toList
      ∧ groupGrammar.long? rule.long.toList = some rule := by
  cases short
  · exact hlong
  · exact hshort

theorem written_fits (h : item.Admissible) : item.written.Fits groupGrammar := by
  have hflag : ∀ value, (flagPlacement value).Suits (.attached bareAction) := by
    intro value
    cases value <;> simp [flagPlacement, Placement.Suits]
  cases item with
  | device short value =>
      exact ⟨named_of (actionRule "device" 'd' .value .device) 'd' short ⟨by decide, rfl⟩
        ⟨by decide, by decide, rfl⟩, ⟨rfl, h⟩, rfl⟩
  | set short value =>
      exact ⟨named_of (actionRule "set" 's' .value .set) 's' short ⟨by decide, rfl⟩
        ⟨by decide, by decide, rfl⟩, ⟨rfl, h⟩, rfl⟩
  | list short value =>
      exact ⟨named_of (actionRule "list" 'S' .value .list) 'S' short ⟨by decide, rfl⟩
        ⟨by decide, by decide, rfl⟩, ⟨rfl, h⟩, rfl⟩
  | print short value =>
      refine ⟨named_of (actionRule "print" 'p' (.attached bareAction) .print) 'p' short
        ⟨by decide, rfl⟩ ⟨by decide, by decide, rfl⟩, hflag value, ?_⟩
      cases value <;> rfl
  | clear short value =>
      refine ⟨named_of (actionRule "clear" 'c' (.attached bareAction) .clear) 'c' short
        ⟨by decide, rfl⟩ ⟨by decide, by decide, rfl⟩, hflag value, ?_⟩
      cases value <;> rfl
  | settingsPath path =>
      refine ⟨?_, ⟨rfl, h.2⟩, if_neg h.1⟩
      show "config" ≠ "" ∧ '=' ∉ "config".toList ∧ groupGrammar.long? "config".toList = some _
      exact ⟨by decide, by decide, rfl⟩
  | statePath path =>
      refine ⟨?_, ⟨rfl, h.2⟩, if_neg h.1⟩
      show "platform" ≠ "" ∧ '=' ∉ "platform".toList ∧ groupGrammar.long? "platform".toList = some _
      exact ⟨by decide, by decide, rfl⟩

/-- What an option asks to be done is told by its setting. -/
theorem reading?_eq (item : GroupItem) :
    item.reading? = item.setting.action?.map GroupArguments.readAction := by
  cases item with
  | print short value | clear short value => cases value <;> rfl
  | _ => rfl

end GroupItem

/-- Where something is found at most once, no two places have it. -/
theorem pairwise_of_filterMap {α β : Type} {f : α → Option β} {xs : List α}
    (h : (xs.filterMap f).length ≤ 1) : xs.Pairwise fun x y => f x = none ∨ f y = none := by
  induction xs with
  | nil => exact .nil
  | cons x xs ih =>
      cases hx : f x with
      | none =>
          rw [List.filterMap_cons_none hx] at h
          exact .cons (fun y _ => .inl hx) (ih h)
      | some b =>
          rw [List.filterMap_cons_some hx, List.length_cons] at h
          have hnil : xs.filterMap f = [] := List.eq_nil_of_length_eq_zero (by omega)
          refine .cons (fun y hy => .inr (List.filterMap_eq_nil_iff.mp hnil y hy)) (ih ?_)
          rw [hnil]
          exact Nat.zero_le 1

namespace GroupLine

variable {items : List GroupItem}

/-- Only the files may not be named twice, and they are not. -/
theorem once (h : GroupLine items) : CommandLine.Once (items.map GroupItem.written) := by
  refine List.pairwise_map.mpr ?_
  refine ((pairwise_of_filterMap h.oneSettings).and (pairwise_of_filterMap h.oneState)).imp ?_
  intro item later hapart hsame
  cases later with
  | settingsPath path =>
      cases item with
      | settingsPath other => simp [GroupItem.settingsPath?] at hapart
      | _ => simp [GroupItem.written, GroupItem.actionRule, CommandLine.pathOption] at hsame
  | statePath path =>
      cases item with
      | statePath other => simp [GroupItem.statePath?] at hapart
      | _ => simp [GroupItem.written, GroupItem.actionRule, CommandLine.pathOption] at hsame
  | _ => rfl

/-- **Such a line is read as it is written.** -/
theorem read (h : GroupLine items) (hne : items ≠ []) :
    GroupArguments.read (items.flatMap GroupItem.words)
      = .ok (.ofSettings (items.map GroupItem.setting)) := by
  have hwords : items.flatMap GroupItem.words
      = (items.map GroupItem.written).flatMap CommandLine.WrittenOption.words := by
    rw [List.flatMap_map]
    exact List.flatMap_congr fun item _ => (item.words_written).symm
  have hscan : CommandLine.scan groupGrammar (items.flatMap GroupItem.words)
      = .ok (items.map GroupItem.setting) := by
    have hfits : ∀ o ∈ items.map GroupItem.written, o.Fits groupGrammar := by
      intro o ho
      obtain ⟨item, hitem, rfl⟩ := List.mem_map.mp ho
      exact item.written_fits (h.admissible item hitem)
    rw [hwords, CommandLine.scan_words hfits h.once, List.map_map]
    exact congrArg _ (List.map_congr_left fun item _ => item.setting_written)
  have hsettings : (items.map GroupItem.setting).isEmpty = false := by
    cases items with
    | nil => exact absurd rfl hne
    | cons item items => rfl
  unfold GroupArguments.read
  rw [hscan]
  dsimp only [bind, Except.bind]
  rw [hsettings]
  rfl

/-- What the options ask to be done is what is made of their settings. -/
theorem map_readAction (items : List GroupItem) :
    ((items.map GroupItem.setting).filterMap GroupSetting.action?).map GroupArguments.readAction
      = items.filterMap GroupItem.reading? := by
  rw [List.filterMap_map, List.map_filterMap]
  refine List.filterMap_congr fun item _ => ?_
  rw [item.reading?_eq]
  rfl

end GroupLine

/-! ## §3. What a line asks for. -/

variable {items : List GroupItem}

theorem findSome?_settingsPath (items : List GroupItem) :
    (GroupArguments.ofSettings (items.map GroupItem.setting)).settingsPath
      = items.findSome? GroupItem.settingsPath? := by
  show (items.map GroupItem.setting).findSome? _ = _
  rw [List.findSome?_map]
  refine congrArg (List.findSome? · items) (funext fun item => ?_)
  cases item <;> rfl

theorem findSome?_statePath (items : List GroupItem) :
    (GroupArguments.ofSettings (items.map GroupItem.setting)).statePath
      = items.findSome? GroupItem.statePath? := by
  show (items.map GroupItem.setting).findSome? _ = _
  rw [List.findSome?_map]
  refine congrArg (List.findSome? · items) (funext fun item => ?_)
  cases item <;> rfl

/-- **A line of actions, with no file named twice, is read.  It comes to one command for each of its
actions, in the order of the line, at whatever ascending positions these are recorded; or else to
the error of the leftmost action that cannot be read.  Without any action it is a usage error, and
a print or clear action with a value is accepted only if the value is `true`.** -/
theorem line_commands (items : List GroupItem) (hline : GroupLine items) (hne : items ≠ []) :
    ∃ a, GroupArguments.read (items.flatMap GroupItem.words) = .ok a
      ∧ a.settingsPath = items.findSome? GroupItem.settingsPath?
      ∧ a.statePath = items.findSome? GroupItem.statePath?
      ∧ (items.filterMap GroupItem.reading? = [] → a.commands = .error (.usage .noActions))
      ∧ (∀ commands, items.filterMap GroupItem.reading? = commands.map .ok → commands ≠ [] →
        a.commands = .ok commands)
      ∧ (∀ (done : List GroupCommand) error rest,
        items.filterMap GroupItem.reading? = done.map .ok ++ .error error :: rest →
        a.commands = .error (.input error))
      ∧ (∀ commands, a.commands = .ok commands →
        ∀ item ∈ items, ∀ value, item.flagValue? = some value → value = "true")
      ∧ ∀ position : Nat → Nat, (∀ i j, i < j → position i < position j) →
        (a.placedAt position).commands = a.commands := by
  have hactions := GroupArguments.actions_ofSettings (items.map GroupItem.setting)
  have hreadings := GroupLine.map_readAction items
  rw [← hactions] at hreadings
  refine ⟨_, hline.read hne, findSome?_settingsPath items, findSome?_statePath items,
    ?nothing, ?all, ?leftmost, ?flags, ?positions⟩
  case nothing =>
    intro hnil
    exact GroupArguments.commands_of_none (hreadings.trans hnil)
  case all =>
    intro commands hall hcommands
    exact GroupArguments.commands_of_all (hreadings.trans hall) hcommands
  case leftmost =>
    intro done error rest hleftmost
    exact GroupArguments.commands_of_leftmost (hreadings.trans hleftmost)
  case flags =>
    intro commands hcommands item hitem value hvalue
    have hall : items.filterMap GroupItem.reading? = commands.map .ok :=
      hreadings.symm.trans (GroupArguments.map_readAction_of_commands hcommands)
    by_contra hother
    -- such an action is among the readings, and is an error there
    have herror : ∃ error, item.reading? = some (.error error) := by
      cases item with
      | print short given | clear short given =>
          obtain rfl : given = some value := hvalue
          exact ⟨_, congrArg some (if_neg hother)⟩
      | _ => cases hvalue
    obtain ⟨error, hreading⟩ := herror
    have hmem : (.error error : Except InputError GroupCommand) ∈ commands.map .ok := by
      rw [← hall]
      exact List.mem_filterMap.mpr ⟨item, hitem, hreading⟩
    obtain ⟨command, -, hok⟩ := List.mem_map.mp hmem
    cases hok
  case positions =>
    intro position hascending
    rw [GroupArguments.commands_eq, GroupArguments.commands_eq, hactions,
      GroupArguments.actions_placedAt hascending]

/-- Five actions of five options with a file among them; two errors, of which the left one counts;
and a line that names a file and nothing else. -/
theorem line_commands_of_mixed_options :
    (∃ a, GroupArguments.read
        ["-S", "0:0,2", "--config", "tools.toml", "-p", "--set", "3:0xf", "--clear=true", "-d", "1"]
          = .ok a
      ∧ a.settingsPath = some "tools.toml" ∧ a.statePath = none
      ∧ a.commands = .ok [.setList 0 ⟨5⟩, .print, .setMask 3 ⟨15⟩, .clear, .select 1])
    ∧ (∃ a, GroupArguments.read ["-c", "-S", "1:40", "--platform", "state.json", "-s", "99:1"]
          = .ok a
      ∧ a.commands = .error (.input (.outOfRange .destination "40")))
    ∧ ∃ a, GroupArguments.read ["--platform", "state.json"] = .ok a
      ∧ a.commands = .error (.usage .noActions) := by
  refine ⟨?_, ?_, ?_⟩
  · obtain ⟨a, hread, hsettings, hstate, -, hall, -⟩ := line_commands
      [.list true "0:0,2", .settingsPath "tools.toml", .print true none, .set false "3:0xf",
        .clear false (some "true"), .device true "1"]
      ⟨by simp [GroupItem.Admissible], by decide, by decide⟩ (by simp)
    exact ⟨a, hread, hsettings, hstate, hall _ rfl (by simp)⟩
  · obtain ⟨a, hread, -, -, -, -, hleftmost, -⟩ := line_commands
      [.clear true none, .list true "1:40", .statePath "state.json", .set true "99:1"]
      ⟨by simp [GroupItem.Admissible], by decide, by decide⟩ (by simp)
    exact ⟨a, hread, hleftmost [.clear] _ _ rfl⟩
  · obtain ⟨a, hread, -, -, hnothing, -⟩ := line_commands [.statePath "state.json"]
      ⟨by simp [GroupItem.Admissible], by decide, by decide⟩ (by simp)
    exact ⟨a, hread, hnothing rfl⟩

end FlowProcessor
