/-
  FlowProcessor.Proofs.Tools.PortsTool — ONE RUN OF THE CROSS-REFERENCE TOOL.

  The tool only reads.  It answers when the line, the settings and the state file are accepted and
  every device to search is installed, and then it says all that there is to be said; where one of
  these fails, at whatever device of the search, it says nothing.

    • `PortsTool.Searches`   — what the line and the files lead the tool to search
    • `PortsTool.Fed`        — an interface feeds the destination from a searched device
    • `PortsTool.Twice`      — a searched device holds the destination in two groups
    • `search_fails_iff`     — a search without faults fails only over an absent device
    • `ports_tool_answers`   — the whole of a run
-/
import FlowProcessor.Proofs.CommandLine.Help
import FlowProcessor.Proofs.CrossReference.Calls
import FlowProcessor.Proofs.Tools.Session
import FlowProcessor.Tools.PortsTool

namespace FlowProcessor

namespace PortsTool

/-! ## §1. What is searched. -/

/-- The line, the settings and the state file are accepted: the destination is to be looked for on
those devices, in that state. -/
inductive Searches (invocation : Invocation) (d : Directory) :
    DestId → List DeviceId → PlatformState → Prop
  | intro {a : PortsArguments} {settings : Settings} {platform : Platform} {before : List Event}
      (line : PortsArguments.read invocation.args = .ok a)
      (settled : Settings.found d a.settingsPath invocation.settingsPath = .ok settings)
      (opened : StateFile.loaded (a.statePath.getD settings.statePath)
        (d.read (a.statePath.getD settings.statePath)) = .ok (platform, before)) :
      Searches invocation d a.dest
        (if a.devices.isEmpty then settings.searchDevices else a.devices) platform.state

/-- The first group that holds the destination on one of the devices is fed from the interface. -/
def Fed (s : PlatformState) (dest : DestId) (devices : List DeviceId) (i : InterfaceId) : Prop :=
  ∃ device ∈ devices, ∃ g, s.Holds device dest g ∧ (∀ g', s.Holds device dest g' → g ≤ g')
    ∧ ∃ rule ∈ s.rulesOf device, rule.Feeds g i

/-- One of the devices holds the destination in two groups. -/
def Twice (s : PlatformState) (dest : DestId) (devices : List DeviceId) : Prop :=
  ∃ device ∈ devices, ∃ g g', g ≠ g' ∧ s.Holds device dest g ∧ s.Holds device dest g'

variable {invocation : Invocation} {d : Directory} {dest : DestId} {devices : List DeviceId}
variable {s : PlatformState}

/-- What is searched is told by the line and the files. -/
theorem Searches.unique {dest' : DestId} {devices' : List DeviceId} {s' : PlatformState}
    (h : Searches invocation d dest devices s) (h' : Searches invocation d dest' devices' s') :
    dest' = dest ∧ devices' = devices ∧ s' = s := by
  obtain ⟨line, settled, opened⟩ := h
  obtain ⟨line', settled', opened'⟩ := h'
  obtain rfl := Except.ok.inj (line.symm.trans line')
  obtain rfl := Except.ok.inj (settled.symm.trans settled')
  obtain ⟨rfl, -⟩ := Prod.mk.inj (Except.ok.inj (opened.symm.trans opened'))
  exact ⟨rfl, rfl, rfl⟩

/-! ## §2. The search. -/

/-- A search without faults fails over a device that is not installed, and over nothing else. -/
theorem search_fails_iff (queue : String) (dest : DestId) (devices : List DeviceId)
    (s : PlatformState) :
    (∃ failure, (CrossReference.search queue dest devices
        (World.start (.ofState s) .unlimited)).1 = .error failure)
      ↔ ∃ device ∈ devices, s.device? device = none := by
  obtain ⟨-, made, -, hswept⟩ := CrossReference.search_sweeps queue dest devices
    (World.start (.ofState s) .unlimited)
  refine hswept.fails_iff.trans (or_iff_right ?_)
  rintro ⟨call, -, hfault, -⟩
  cases hfault

variable {queue : String} {r : CrossReference} {w : World}

/-- The interfaces of an exact report are those that feed the destination. -/
theorem mem_interfaces_iff (h : r.Exact s dest devices) {i : InterfaceId} :
    i ∈ r.interfaces.toList ↔ Fed s dest devices i := by
  rw [CrossReference.mem_interfaces]
  constructor
  · rintro ⟨finding, hfinding, hi⟩
    have hexact := h.findings finding hfinding
    obtain ⟨g, hgroup, hfeeds⟩ := (hexact.interfaces i).mp hi
    obtain ⟨hholds, hfirst⟩ := (hexact.group g).mp hgroup
    exact ⟨finding.device, h.mem_devices.mpr ⟨finding, hfinding, rfl⟩, g, hholds, hfirst, hfeeds⟩
  · rintro ⟨device, hdevice, g, hholds, hfirst, hfeeds⟩
    obtain ⟨finding, hfinding, rfl⟩ := h.mem_devices.mp hdevice
    have hexact := h.findings finding hfinding
    have hgroup := (hexact.group g).mpr ⟨hholds, hfirst⟩
    exact ⟨finding, hfinding, (hexact.interfaces i).mpr ⟨g, hgroup, hfeeds⟩⟩

/-- The warning is about the destination that was asked for, and given if a device holds it in two
groups. -/
theorem warning_of_exact (h : r.Exact s dest devices) :
    (Twice s dest devices → warning r
      = "Warning: host dest " ++ idText dest ++ " is in more than one load balance group\n")
    ∧ (¬ Twice s dest devices → warning r = "") := by
  have hambiguous : r.isAmbiguous ↔ Twice s dest devices := h.isAmbiguous_iff
  unfold warning
  rw [h.asked]
  constructor
  · intro htwice
    exact if_pos (hambiguous.mpr htwice)
  · intro htwice
    exact if_neg (mt hambiguous.mp htwice)

/-- The report that the tool gives of a destination in a state. -/
structure Answers (s : PlatformState) (dest : DestId) (devices : List DeviceId)
    (report : ToolReport) : Prop where
  stdout : ∃ ids : List InterfaceId, ids.Pairwise (fun i j => i.word < j.word)
    ∧ (∀ i, i ∈ ids ↔ Fed s dest devices i)
    ∧ report.stdout = "Interface IDs feeding host dest " ++ idText dest ++ ":\n"
      ++ " ".intercalate (ids.map InterfaceId.text) ++ "\n"
  twice : Twice s dest devices → report.stderr
    = "Warning: host dest " ++ idText dest ++ " is in more than one load balance group\n"
  once : ¬ Twice s dest devices → report.stderr = ""

/-- The report of a search that succeeds answers. -/
theorem answers_of_search (filter : Filter) (before : List Event)
    (h : CrossReference.search queue dest devices (World.start (.ofState s) .unlimited) = (.ok r, w)) :
    Answers s dest devices (report filter before (.ok r, w)) := by
  have hexact : r.Exact s dest devices := CrossReference.search_isExact h
  obtain ⟨htwice, honce⟩ := warning_of_exact hexact
  refine ⟨⟨r.interfaces.toList, r.interfaces.toList_ascending, fun i => mem_interfaces_iff hexact, ?_⟩,
    htwice, honce⟩
  show r.text = _
  unfold CrossReference.text
  rw [hexact.asked]

/-! ## §3. The whole run. -/

/-- Nothing was printed, and nothing warned about. -/
structure Silent (report : ToolReport) : Prop where
  failed : report.ending ≠ .succeeded
  stdout : report.stdout = ""
  warnings : report.warnings = ""

/-- How a run ends: before the search, over a device that is absent, or with an answer. -/
inductive Concludes (invocation : Invocation) (d : Directory) (report : ToolReport) : Prop
  | stopped (nothing : ∀ dest devices s, ¬ Searches invocation d dest devices s)
      (silent : Silent report) (help : report.ending = .rejected .help →
        PortsArguments.read invocation.args = .error .help)
  | failed {dest : DestId} {devices : List DeviceId} {s : PlatformState} {device : DeviceId}
      {error : ToolError} (searches : Searches invocation d dest devices s)
      (mem : device ∈ devices) (absent : s.device? device = none) (silent : Silent report)
      (ending : report.ending = .failed error)
  | answered {dest : DestId} {devices : List DeviceId} {s : PlatformState}
      (searches : Searches invocation d dest devices s)
      (present : ∀ device ∈ devices, s.device? device ≠ none)
      (ending : report.ending = .succeeded) (answers : Answers s dest devices report)

/-- What the search comes to is reported. -/
theorem concludes_of_searches (filter : Filter) (queue : String) (before : List Event)
    (h : Searches invocation d dest devices s) :
    Concludes invocation d (report filter before
      (CrossReference.search queue dest devices (World.start (.ofState s) .unlimited))) := by
  have hfails := search_fails_iff queue dest devices s
  obtain ⟨⟨result, w⟩, hsearch⟩ : ∃ searched, CrossReference.search queue dest devices
      (World.start (.ofState s) .unlimited) = searched := ⟨_, rfl⟩
  rw [hsearch] at hfails ⊢
  cases result with
  | ok r =>
      refine .answered h (fun device hdevice habsent => ?_) rfl
        (answers_of_search filter before hsearch)
      obtain ⟨failure, hfailed⟩ := hfails.mpr ⟨device, hdevice, habsent⟩
      cases hfailed
  | error error =>
      obtain ⟨device, hdevice, habsent⟩ := hfails.mp ⟨error, rfl⟩
      exact .failed h hdevice habsent ⟨fun hending => (nomatch hending), rfl, rfl⟩ rfl

/-- A run writes no file. -/
theorem run_concludes (invocation : Invocation) (d : Directory) :
    ∃ report, (PortsTool.run invocation).runIn d = (report, d) ∧ Concludes invocation d report := by
  unfold run
  cases hline : PortsArguments.read invocation.args with
  | error rejection =>
      refine ⟨_, rfl, .stopped ?_ ⟨fun h => (nomatch h), rfl, rfl⟩ fun h => ?_⟩
      · rintro dest devices s ⟨line, -, -⟩
        cases hline.symm.trans line
      · obtain rfl := Ending.rejected.inj h
        exact hline
  | ok a =>
      dsimp only
      rw [Interaction.runIn_bind, Settings.runIn_resolve]
      cases hsettings : Settings.found d a.settingsPath invocation.settingsPath with
      | error error =>
          refine ⟨_, rfl, .stopped ?_ ⟨fun h => (nomatch h), rfl, rfl⟩ fun h => (nomatch h)⟩
          rintro dest devices s ⟨line, settled, -⟩
          obtain rfl := Except.ok.inj (hline.symm.trans line)
          cases hsettings.symm.trans settled
      | ok settings =>
          dsimp only
          unfold runOn
          rw [Interaction.runIn_bind, StateFile.runIn_open]
          cases hopened : StateFile.loaded (a.statePath.getD settings.statePath)
              (d.read (a.statePath.getD settings.statePath)) with
          | error error =>
              refine ⟨_, rfl, .stopped ?_ ⟨fun h => (nomatch h), rfl, rfl⟩ fun h => (nomatch h)⟩
              rintro dest devices s ⟨line, settled, opened⟩
              obtain rfl := Except.ok.inj (hline.symm.trans line)
              obtain rfl := Except.ok.inj (hsettings.symm.trans settled)
              cases hopened.symm.trans opened
          | ok opened =>
              obtain ⟨platform, before⟩ := opened
              have hplatform := StateFile.ofState_of_loaded hopened
              refine ⟨_, rfl, ?_⟩
              rw [hplatform]
              exact concludes_of_searches _ _ _ (.intro hline hsettings hopened)

/-- No option of the tool gives the help, whatever its value. -/
theorem noHelp : ∀ rule ∈ portsGrammar, rule.NoHelp := by
  simp [portsGrammar]

/-- The help is given to those who asked for it. -/
theorem asksForHelp_of_read (h : PortsArguments.read invocation.args = .error .help) :
    ∃ text ∈ invocation.args, portsGrammar.AsksForHelp text := by
  refine CommandLine.asksForHelp_of_read noHelp (fun settings hread => ?_) h
  unfold PortsArguments.ofSettings at hread
  dsimp only at hread
  split at hread <;> cases hread

end PortsTool

end FlowProcessor
