/-
  FlowProcessor.Proofs.Tools.GroupTool — ONE RUN OF THE LOAD-BALANCE TOOL.

  The tool looks at everything before it does anything: the whole line, the settings, every action
  and the state file.  Where it finds fault with one of them, or nothing to do, no file changes.
  Otherwise, once its output is flushed, it saves exactly what its actions did, also where one of them
  failed.

    • `GroupTool.Refused`   — the conditions under which it does nothing
    • `GroupTool.Asks`      — what a line asks for
    • `run_stops`           — actions are carried out up to the first that fails
    • `tool_saves_its_work` — the whole of a run
-/
import FlowProcessor.Proofs.CommandLine.Actions
import FlowProcessor.Proofs.CommandLine.Help
import FlowProcessor.Proofs.Tools.Session

namespace FlowProcessor

/-! ## §1. Lines that are not carried out. -/

/-- A condition under which the load-balance tool does nothing. -/
inductive GroupTool.Refused (invocation : Invocation) (d : Directory) : Prop
  /-- The line is rejected. -/
  | line {rejection : CommandLine.Rejection}
      (rejected : GroupArguments.read invocation.args = .error rejection)
  /-- The settings cannot be loaded. -/
  | settings {a : GroupArguments} {error : ToolError}
      (line : GroupArguments.read invocation.args = .ok a)
      (unsettled : Settings.found d a.settingsPath invocation.settingsPath = .error error)
  /-- Some action on the line cannot be read. -/
  | action {a : GroupArguments} {action : ActionOption × String} {error : InputError}
      (line : GroupArguments.read invocation.args = .ok a) (mem : action ∈ a.actions)
      (unread : GroupArguments.readAction action = .error error)
  /-- There is no action on the line. -/
  | nothing {a : GroupArguments} (line : GroupArguments.read invocation.args = .ok a)
      (none : a.actions = [])
  /-- The state file cannot be loaded. -/
  | state {a : GroupArguments} {settings : Settings} {error : ToolError}
      (line : GroupArguments.read invocation.args = .ok a)
      (settled : Settings.found d a.settingsPath invocation.settingsPath = .ok settings)
      (unopened : StateFile.loaded (a.statePath.getD settings.statePath)
        (d.read (a.statePath.getD settings.statePath)) = .error error)

namespace GroupTool

variable {invocation : Invocation} {d : Directory} {path : String} {room : Option Nat}
variable {commands : List GroupCommand} {platform : Platform}

/-- What is accepted is not refused. -/
theorem Refused.not_accepted (h : Refused invocation d) :
    ¬ groupTool.Accepted invocation d path commands platform := by
  rintro ⟨line, settled, asked, opened⟩
  cases h with
  | line rejected => cases rejected.symm.trans line
  | settings line' unsettled =>
      obtain rfl := Except.ok.inj (line.symm.trans line')
      cases unsettled.symm.trans settled
  | @action a action error line' mem unread =>
      obtain rfl := Except.ok.inj (line.symm.trans line')
      -- all actions were read when the commands were
      have hread := GroupArguments.map_readAction_of_commands asked
      obtain ⟨command, -, hok⟩ := exists_of_map_eq hread mem
      rw [unread] at hok
      cases hok
  | nothing line' none =>
      obtain rfl := Except.ok.inj (line.symm.trans line')
      have hnone := GroupArguments.commands_of_none (by rw [none]; rfl)
      cases hnone.symm.trans asked
  | state line' settled' unopened =>
      obtain rfl := Except.ok.inj (line.symm.trans line')
      obtain rfl := Except.ok.inj (settled.symm.trans settled')
      cases unopened.symm.trans opened

/-- Whatever stops the tool before the work is such a condition. -/
theorem refused_of_stopped {ending : Ending} (h : groupTool.Refused invocation d ending) :
    Refused invocation d := by
  cases h with
  | line rejected => exact .line rejected
  | settings line unsettled => exact .settings line unsettled
  | task line settled unasked =>
      rcases GroupArguments.commands_eq_error unasked with hnone | ⟨action, hmem, error, hread⟩
      · exact .nothing line hnone
      · exact .action line hmem hread
  | state line settled asked unopened => exact .state line settled unopened

/-- A line is refused, or carried out. -/
theorem accepted_of_not_refused (h : ¬ Refused invocation d) :
    ∃ path commands platform, groupTool.Accepted invocation d path commands platform := by
  rcases groupTool.accepted_or_refused invocation d with haccepted | ⟨ending, hrefused⟩
  · exact haccepted
  · exact absurd (refused_of_stopped hrefused) h

/-- The line names those files, and asks for those actions. -/
def Asks (args : List String) (settingsPath statePath : Option String)
    (commands : List GroupCommand) : Prop :=
  ∃ a, GroupArguments.read args = .ok a ∧ a.settingsPath = settingsPath ∧ a.statePath = statePath
    ∧ a.actions.map GroupArguments.readAction = commands.map .ok

/-- What is asked for is carried out, where the files can be loaded. -/
theorem Asks.accepted {args : List String} {settingsPath statePath environment : Option String}
    {settings : Settings} {before : List Event} (h : Asks args settingsPath statePath commands)
    (hne : commands ≠ []) (hsettled : Settings.found d settingsPath environment = .ok settings)
    (hpath : statePath.getD settings.statePath = path)
    (hopened : StateFile.loaded path (d.read path) = .ok (platform, before))
    (logFilter : Option String) :
    groupTool.Accepted ⟨args, environment, logFilter⟩ d path commands platform := by
  obtain ⟨a, hread, rfl, rfl, hactions⟩ := h
  exact StateTool.accepted_at hread hsettled (GroupArguments.commands_of_all hactions hne) hpath
    hopened

/-- What the tool does where it comes to the work is what the line asks for. -/
theorem Asks.inversion {args : List String}
    {settingsPath statePath environment logFilter : Option String} {asked : List GroupCommand}
    (h : Asks args settingsPath statePath asked)
    (haccepted : groupTool.Accepted ⟨args, environment, logFilter⟩ d path commands platform) :
    commands = asked ∧ ∃ settings before,
      Settings.found d settingsPath environment = .ok settings
      ∧ statePath.getD settings.statePath = path
      ∧ StateFile.loaded path (d.read path) = .ok (platform, before) := by
  obtain ⟨a, hread, rfl, rfl, hactions⟩ := h
  obtain ⟨line, settled, task, opened⟩ := haccepted
  obtain rfl := Except.ok.inj (hread.symm.trans line)
  refine ⟨?_, _, _, settled, rfl, opened⟩
  have hcommands := GroupArguments.map_readAction_of_commands task
  exact List.map_injective_iff.mpr (fun _ _ => Except.ok.inj) (hcommands.symm.trans hactions)

/-- A line of actions that can all be read asks for them, in that order. -/
theorem asks_of_line {items : List GroupItem} (hline : GroupLine items)
    (hreadings : items.filterMap GroupItem.reading? = commands.map .ok) (hne : commands ≠ []) :
    Asks (items.flatMap GroupItem.words) (items.findSome? GroupItem.settingsPath?)
      (items.findSome? GroupItem.statePath?) commands := by
  have hitems : items ≠ [] := by
    rintro rfl
    exact hne (List.map_eq_nil_iff.mp hreadings.symm)
  refine ⟨_, hline.read hitems, findSome?_settingsPath items, findSome?_statePath items, ?_⟩
  rw [GroupArguments.actions_ofSettings, GroupLine.map_readAction]
  exact hreadings

/-- No option of the tool gives the help, whatever its value. -/
theorem noHelp : ∀ rule ∈ groupGrammar, rule.NoHelp := by
  simp [groupGrammar]

/-- The help is given to those who asked for it. -/
theorem asksForHelp_of_read (h : GroupArguments.read invocation.args = .error .help) :
    ∃ text ∈ invocation.args, groupGrammar.AsksForHelp text := by
  refine CommandLine.asksForHelp_of_read noHelp (fun settings hread => ?_) h
  split at hread <;> cases hread

/-- **A line that is refused prints nothing and changes no file.** -/
theorem run_of_refused (h : Refused invocation d) :
    ∃ report, (GroupTool.run room invocation).runIn d = (report, d) ∧ report.stdout = ""
      ∧ (report.exitCode = 0 → ∃ text ∈ invocation.args, groupGrammar.AsksForHelp text) := by
  rcases groupTool.accepted_or_refused invocation d with ⟨_, _, _, haccepted⟩ | ⟨ending, hstopped⟩
  · exact absurd haccepted h.not_accepted
  · obtain ⟨report, hrun, hending, hstdout⟩ := StateTool.run_of_refused hstopped
    rw [groupTool_run] at hrun
    subst hending
    exact ⟨report, hrun, hstdout, fun hexit => asksForHelp_of_read (hstopped.read_eq_help hexit)⟩

end GroupTool

/-! ## §2. What actions leave. -/

namespace GroupRun

/-- Actions have all been carried out, or those before the first that fails: it is blocked, or it
prints what the output does not take. -/
def Stops (platform : Platform) (room : Option Nat) (commands : List GroupCommand)
    (result : Except ToolError Nat) (state : PlatformState) : Prop :=
  result = .ok commands.length
    ∨ ∃ done command rest error between, commands = done ++ command :: rest
      ∧ (∀ step ∈ addressed .first done, ¬ Blocked platform step)
      ∧ run .first done (World.start platform (.ofRoom room))
        = ((deviceAfter .first done, .ok done.length), between)
      ∧ (Blocked platform (deviceAfter .first done, command)
        ∨ command = .print ∧ room ≠ none ∧ ∃ reason, error = .output reason)
      ∧ result = .error error ∧ state = between.platform.state

theorem run_stops {commands : List GroupCommand} {platform : Platform} {room : Option Nat}
    {current : DeviceId} {result : Except ToolError Nat} {w : World}
    (h : run .first commands (World.start platform (.ofRoom room)) = ((current, result), w)) :
    Stops platform room commands result w.platform.state := by
  cases run_concludes h with
  | completed achieved => exact .inl rfl
  | @stopped done rest command error between ended split alone achieved failed =>
      cases failed with
      | @unwritten out error admitted unwritable =>
          have hroom : room ≠ none := fun hnone => by
            rw [Sink.write_of_endless (achieved.endless hnone)] at unwritable
            cases unwritable
          obtain rfl : command = .print := by
            refine Decidable.byContradiction fun hsilent => ?_
            rw [GroupCommand.output_of_ne_print hsilent, Sink.write_empty] at unwritable
            cases unwritable
          refine .inr ⟨done, .print, rest, _, _, split, achieved.not_blocked, alone,
            .inr ⟨rfl, hroom, error, rfl⟩, rfl, ?_⟩
          -- a listing that was read has changed nothing
          split <;> rfl
      | refused action makes refusal =>
          rw [refusal?_eq achieved.same achieved.faults] at refusal
          refine .inr ⟨done, command, rest, _, _, split, achieved.not_blocked, alone,
            .inl (blocked_of_refusal? refusal), rfl, ?_⟩
          split <;> rfl

end GroupRun

/-! ## §3. The whole run. -/

namespace GroupTool

variable {invocation : Invocation} {d : Directory} {path : String} {room : Option Nat}
variable {commands : List GroupCommand} {platform : Platform} {current : DeviceId}
variable {result : Except ToolError Nat} {w : World}

/-- What is saved reads back, since no action takes a device away. -/
theorem complete_of_run (haccepted : groupTool.Accepted invocation d path commands platform)
    (hrun : GroupRun.run .first commands (World.start platform (.ofRoom room))
      = ((current, result), w)) :
    w.platform.state.Complete := by
  have hsame := Workspace.sameButGroups_run .first commands (World.start platform (.ofRoom room))
  rw [hrun] at hsame
  exact haccepted.loaded.1.sameButGroups hsame

/-- The work of the tool is a run of its actions. -/
theorem work_of_run
    (h : GroupRun.run .first commands (World.start platform (.ofRoom room))
      = ((current, result), w)) :
    groupTool.work room commands platform = (result, w) := by
  show GroupTool.perform room platform commands = (result, w)
  rw [GroupTool.perform, h]

/-- An output that takes all that the actions print can be flushed. -/
theorem flush_of_written
    (h : GroupRun.run .first commands (World.start platform (.ofRoom room))
      = ((current, result), w))
    (hwritten : ∀ error, result ≠ .error (.output error)) : w.out.flush = .ok () :=
  Sink.flush_eq_ok.mpr (GroupRun.stuck_of_written h hwritten)

/-- Once the output is flushed, the tool saves what its actions leave, and reports what has failed. -/
theorem run_of_accepted (haccepted : groupTool.Accepted invocation d path commands platform)
    (hrun : GroupRun.run .first commands (World.start platform (.ofRoom room))
      = ((current, result), w)) (hflush : w.out.flush = .ok ()) :
    ∃ report d', (GroupTool.run room invocation).runIn d = (report, d')
      ∧ report.stdout = w.out.text
      ∧ (∀ error, result = .error error → report.ending = .failed error)
      ∧ (report.exitCode = 0 ↔ (∃ count, result = .ok count) ∧ d.Writable path)
      ∧ (d.Writable path → d.write path w.platform.state.text = .ok d')
      ∧ (¬ d.Writable path → d' = d ∧ ∀ count, result = .ok count →
        ∃ error, report.ending = .failed (.state (.unwritable path error))) := by
  rw [← groupTool_run]
  exact StateTool.run_saves haccepted (work_of_run hrun) hflush

/-- Where the output cannot be flushed, no file changes. -/
theorem run_of_unflushed (haccepted : groupTool.Accepted invocation d path commands platform)
    (hrun : GroupRun.run .first commands (World.start platform (.ofRoom room))
      = ((current, result), w)) {error : FileError} (hflush : w.out.flush = .error error) :
    ∃ report, (GroupTool.run room invocation).runIn d = (report, d)
      ∧ report.ending = .unflushed error ∧ report.stdout = w.out.text := by
  rw [← groupTool_run]
  exact StateTool.run_of_unflushed haccepted (work_of_run hrun) hflush

/-- A line that is carried out prints what its actions print, whatever comes of it, and succeeds
exactly if they did and their work can be saved. -/
theorem run_prints (haccepted : groupTool.Accepted invocation d path commands platform)
    (hrun : GroupRun.run .first commands (World.start platform (.ofRoom room))
      = ((current, result), w)) :
    ∃ report d', (GroupTool.run room invocation).runIn d = (report, d')
      ∧ report.stdout = w.out.text
      ∧ (report.exitCode = 0 ↔ (∃ count, result = .ok count) ∧ d.Writable path) := by
  cases hflush : w.out.flush with
  | ok u =>
      obtain ⟨report, d', hreport, hstdout, -, hexit, -⟩ := run_of_accepted haccepted hrun hflush
      exact ⟨report, d', hreport, hstdout, hexit⟩
  | error error =>
      obtain ⟨report, hreport, hending, hstdout⟩ := run_of_unflushed haccepted hrun hflush
      refine ⟨report, d, hreport, hstdout, ?_⟩
      rw [ToolReport.exitCode, hending]
      refine ⟨fun hzero => absurd hzero Nat.one_ne_zero, ?_⟩
      -- actions that were all carried out leave nothing to flush
      rintro ⟨⟨count, rfl⟩, -⟩
      rw [flush_of_written hrun fun failure hfailure => by cases hfailure] at hflush
      cases hflush

end GroupTool

/-- **The tool looks at everything before it does anything.  If the line is rejected, the settings
or the state file cannot be loaded, an action anywhere on the line cannot be read, or there is none,
no file changes, and only the help exits with success.  Otherwise the actions run on the loaded
platform, up to the first that is blocked or prints what the output does not take; the output is
theirs, and the tool succeeds exactly if they did and their work can be saved.  Where the output is
flushed, as it is if all that they print is taken, what they leave is saved where files can be
written and reads back as it was, and their own error counts before that of saving.** -/
theorem tool_saves_its_work (room : Option Nat) (invocation : Invocation) (d : Directory) :
    ∃ report d', (GroupTool.run room invocation).runIn d = (report, d')
      ∧ (GroupTool.Refused invocation d → d' = d ∧ report.stdout = ""
        ∧ (report.exitCode = 0 → ∃ text ∈ invocation.args, groupGrammar.AsksForHelp text))
      ∧ (¬ GroupTool.Refused invocation d →
        ∃ path commands platform, groupTool.Accepted invocation d path commands platform)
      ∧ ∀ path commands platform, groupTool.Accepted invocation d path commands platform →
        ∃ current result w,
          GroupRun.run .first commands (World.start platform (.ofRoom room))
            = ((current, result), w)
          ∧ GroupRun.Stops platform room commands result w.platform.state
          ∧ report.stdout = w.out.text
          ∧ (report.exitCode = 0 ↔ (∃ count, result = .ok count) ∧ d.Writable path)
          ∧ (room = none → ∀ error, result ≠ .error (.output error))
          ∧ ((∀ error, result ≠ .error (.output error)) → w.out.flush = .ok ())
          ∧ (w.out.flush = .ok () →
            (∀ error, result = .error error → report.ending = .failed error)
            ∧ (d.Writable path → d.write path w.platform.state.text = .ok d'
              ∧ d'.read path = .ok w.platform.state.text
              ∧ PlatformState.load path w.platform.state.text = .ok w.platform.state)
            ∧ (¬ d.Writable path → d' = d ∧ ∀ count, result = .ok count →
              ∃ error, report.ending = .failed (.state (.unwritable path error)))) := by
  obtain ⟨⟨report, d'⟩, hran⟩ : ∃ ran, (GroupTool.run room invocation).runIn d = ran := ⟨_, rfl⟩
  refine ⟨report, d', hran, fun hrefused => ?_, GroupTool.accepted_of_not_refused, ?_⟩
  · obtain ⟨report', hrun, hstdout, hexit⟩ := GroupTool.run_of_refused hrefused
    obtain ⟨rfl, rfl⟩ := Prod.mk.inj (hran.symm.trans hrun)
    exact ⟨rfl, hstdout, hexit⟩
  · intro path commands platform haccepted
    obtain ⟨⟨⟨current, result⟩, w⟩, hwork⟩ : ∃ worked,
      GroupRun.run .first commands (World.start platform (.ofRoom room)) = worked := ⟨_, rfl⟩
    obtain ⟨report', d'', hprints, hstdout, hexit⟩ := GroupTool.run_prints haccepted hwork
    obtain ⟨rfl, rfl⟩ := Prod.mk.inj (hran.symm.trans hprints)
    refine ⟨current, result, w, hwork, GroupRun.run_stops hwork, hstdout, hexit,
      fun hnone => GroupRun.not_unwritten_of_endless hwork hnone,
      GroupTool.flush_of_written hwork, fun hflush => ?_⟩
    obtain ⟨report', d'', hrun, -, herror, -, hsaved, hunsaved⟩ :=
      GroupTool.run_of_accepted haccepted hwork hflush
    obtain ⟨rfl, rfl⟩ := Prod.mk.inj (hran.symm.trans hrun)
    refine ⟨herror, ?_, hunsaved⟩
    intro hwritable
    have hwrite := hsaved hwritable
    exact ⟨hwrite, Directory.read_of_write hwrite,
      PlatformState.load_text (GroupTool.complete_of_run haccepted hwork)⟩

/-- An error at the end of a line keeps the write in front of it from being done.  An action
directed at an absent device keeps nothing from being saved that was done before. -/
theorem tool_saves_its_work_before_absent_device :
    (∃ report, (GroupTool.run none ⟨["-s", "0:1", "-S", "1:40"], none, none⟩).runIn ⟨[]⟩
      = (report, ⟨[]⟩) ∧ report.stdout = "")
    ∧ ∃ d report d' s, (⟨[]⟩ : Directory).write "state.json"
        (PlatformState.initial.setPresent 3 false).text = .ok d
      ∧ (GroupTool.run none ⟨["--platform", "state.json", "-s", "0:1", "-d", "3", "-c"], none,
        none⟩).runIn d = (report, d')
      ∧ (∃ action, report.ending = .failed (.device action 3 (.noDevice 3)))
      ∧ d'.read "state.json" = .ok s.text ∧ PlatformState.load "state.json" s.text = .ok s
      ∧ (s.groupsOf 0).get 0 = ⟨1⟩ := by
  refine ⟨?_, ?_⟩
  · have hline : GroupLine [.set true "0:1", .list true "1:40"] :=
      ⟨by simp [GroupItem.Admissible], by decide, by decide⟩
    have hmem : (ActionOption.list, "1:40") ∈ (GroupArguments.ofSettings
        ([GroupItem.set true "0:1", .list true "1:40"].map GroupItem.setting)).actions := by
      rw [GroupArguments.actions_ofSettings]
      exact List.mem_cons_of_mem _ List.mem_cons_self
    have hrefused : GroupTool.Refused ⟨["-s", "0:1", "-S", "1:40"], none, none⟩ ⟨[]⟩ :=
      .action (hline.read (by simp)) hmem rfl
    obtain ⟨report, d', hrun, hnothing, -⟩ :=
      tool_saves_its_work none ⟨["-s", "0:1", "-S", "1:40"], none, none⟩ ⟨[]⟩
    obtain ⟨rfl, hstdout, -⟩ := hnothing hrefused
    exact ⟨report, hrun, hstdout⟩
  · obtain ⟨d, hwrite⟩ : ∃ d, (⟨[]⟩ : Directory).write "state.json"
        (PlatformState.initial.setPresent 3 false).text = .ok d := ⟨_, rfl⟩
    have hread := Directory.read_of_write hwrite
    have hload : PlatformState.load "state.json" (PlatformState.initial.setPresent 3 false).text
        = .ok (PlatformState.initial.setPresent 3 false) := PlatformState.load_text rfl
    have hline : GroupLine [.statePath "state.json", .set true "0:1", .device true "3",
        .clear true none] := ⟨by simp [GroupItem.Admissible], by decide, by decide⟩
    have haccepted : groupTool.Accepted
        ⟨["--platform", "state.json", "-s", "0:1", "-d", "3", "-c"], none, none⟩ d "state.json"
        [.setMask 0 ⟨1⟩, .select 3, .clear]
        (.ofState (PlatformState.initial.setPresent 3 false)) :=
      (GroupTool.asks_of_line hline rfl (by simp)).accepted (by simp) rfl rfl
        (StateFile.loaded_of_load hread hload) none
    obtain ⟨report, d', hrun, -, -, hworks⟩ := tool_saves_its_work none
      ⟨["--platform", "state.json", "-s", "0:1", "-d", "3", "-c"], none, none⟩ d
    obtain ⟨current, result, w, hwork, -, -, -, hwritten, hflush, hends⟩ := hworks _ _ _ haccepted
    obtain ⟨herror, hsaved, -⟩ := hends (hflush (hwritten rfl))
    obtain ⟨-, hsaved, hloaded⟩ := hsaved (Directory.write_of_read hread)
    refine ⟨d, report, d', w.platform.state, hwrite, hrun, ?_, hsaved, hloaded, ?_⟩
    · have hresult := congrArg (fun ran => ran.1.2) hwork
      exact ⟨_, herror _ hresult.symm⟩
    · have hstate := congrArg (fun ran => (ran.2.platform.state.groupsOf 0).get 0) hwork
      exact hstate.symm.trans rfl

/-- A line that names a file and nothing else: the line is accepted, there are settings, no action
is at fault, the state can be loaded and saved, and carrying out nothing would succeed.  The tool fails
all the same, and there is no state file afterwards. -/
theorem tool_fails_without_actions :
    ∃ a report, GroupArguments.read ["--platform", "state.json"] = .ok a
      ∧ a.statePath = some "state.json"
      ∧ Settings.found ⟨[]⟩ a.settingsPath none = .ok .default
      ∧ (∀ action ∈ a.actions, ∃ command, GroupArguments.readAction action = .ok command)
      ∧ (∃ before, StateFile.loaded "state.json" ((⟨[]⟩ : Directory).read "state.json")
        = .ok (.initial, before))
      ∧ (⟨[]⟩ : Directory).Writable "state.json"
      ∧ (GroupRun.run .first [] (World.start .initial .unlimited)).1 = (.first, .ok 0)
      ∧ (GroupTool.run none ⟨["--platform", "state.json"], none, none⟩).runIn ⟨[]⟩ = (report, ⟨[]⟩)
      ∧ report.ending = .failed (.usage .noActions) ∧ report.exitCode = 1
      ∧ (⟨[]⟩ : Directory).read "state.json" = .error .missing := by
  have hline : GroupLine [.statePath "state.json"] :=
    ⟨by simp [GroupItem.Admissible], by decide, by decide⟩
  have hread : GroupArguments.read ["--platform", "state.json"]
      = .ok (.ofSettings ([GroupItem.statePath "state.json"].map GroupItem.setting)) :=
    hline.read (by simp)
  have hactions : (GroupArguments.ofSettings
      ([GroupItem.statePath "state.json"].map GroupItem.setting)).actions = [] :=
    GroupArguments.actions_ofSettings _
  have hcommands : (GroupArguments.ofSettings
      ([GroupItem.statePath "state.json"].map GroupItem.setting)).commands
        = .error (.usage .noActions) := GroupArguments.commands_of_none (by rw [hactions]; rfl)
  have hrefused : groupTool.Refused ⟨["--platform", "state.json"], none, none⟩ ⟨[]⟩
      (.failed (.usage .noActions)) :=
    .task hread rfl hcommands
  obtain ⟨report, hrun, hending, -⟩ := StateTool.run_of_refused hrefused
  rw [groupTool_run] at hrun
  refine ⟨_, report, hread, findSome?_statePath [.statePath "state.json"], rfl, ?_, ⟨_, rfl⟩,
    fun _ => ⟨_, rfl⟩, rfl, hrun, hending, ?_, rfl⟩
  · rw [hactions]
    exact fun _ hmem => absurd hmem List.not_mem_nil
  · rw [ToolReport.exitCode, hending]

end FlowProcessor
