/-
  FlowProcessor.Proofs.Tools.Processes — ONE RUN OF THE LOAD-BALANCE TOOL, OR TWO.

  Between two runs of the tool the platform is a text in a file, and the second run begins with the
  first device.  Neither is noticed: the state is loaded as it was saved, the settings are where
  they were, and a selection at the beginning of the second line does the rest.  What can make a
  difference is the output: the second run has one of its own, and one run of all actions has a
  single output for all that is printed.

    • `written_iff`     — a run has written everything unless an action was cut off
    • `accepted_after`  — the second line is carried out, on the state that the first one has left
    • `split_across_processes` — the two runs do what one would have done
    • `split_takes_more_output` — two outputs of a limited size take what one of them does not
-/
import FlowProcessor.Proofs.Groups.Continuation
import FlowProcessor.Proofs.Tools.GroupTool

namespace FlowProcessor

/-! ## §1. Runs of the tool that can write. -/

/-- The tool did not fail for its output. -/
def ToolReport.Written (report : ToolReport) : Prop :=
  ∀ error, report.ending ≠ .failed (.output error) ∧ report.ending ≠ .unflushed error

theorem ToolReport.exitCode_of_not_written {report : ToolReport} (h : ¬ report.Written) :
    report.exitCode = 1 := by
  obtain ⟨error, hending⟩ := not_forall.mp h
  rw [exitCode]
  by_cases hfailed : report.ending = .failed (.output error)
  · rw [hfailed]
  · rw [not_not.mp fun hflushed => hending ⟨hfailed, hflushed⟩]

namespace GroupTool

variable {args more : List String} {settingsPath statePath environment : Option String}
variable {logFilter : Option String} {d d' : Directory} {path : String}
variable {commands asked : List GroupCommand} {platform : Platform} {first : ToolReport}
variable {room : Option Nat}

/-- A run that succeeds has come to the work and has saved it. -/
theorem saved_of_succeeded (hasks : Asks args settingsPath statePath commands)
    (hran : (GroupTool.run room ⟨args, environment, logFilter⟩).runIn d = (first, d'))
    (hsucceeded : first.ending = .succeeded) :
    ∃ path platform current count w,
      groupTool.Accepted ⟨args, environment, logFilter⟩ d path commands platform
      ∧ GroupRun.run .first commands (World.start platform (.ofRoom room))
        = ((current, .ok count), w)
      ∧ d.write path w.platform.state.text = .ok d' ∧ first.stdout = w.out.text := by
  rcases groupTool.accepted_or_refused ⟨args, environment, logFilter⟩ d with
    ⟨path, task, platform, haccepted⟩ | ⟨ending, hrefused⟩
  · obtain ⟨rfl, -⟩ := hasks.inversion haccepted
    obtain ⟨⟨⟨current, result⟩, w⟩, hwork⟩ :
      ∃ worked, GroupRun.run .first task (World.start platform (.ofRoom room)) = worked := ⟨_, rfl⟩
    cases hflush : w.out.flush with
    | error error =>
        -- a run whose output cannot be flushed does not succeed
        obtain ⟨report, hrun, hending, -⟩ := run_of_unflushed haccepted hwork hflush
        obtain ⟨rfl, -⟩ := Prod.mk.inj (hran.symm.trans hrun)
        cases hending.symm.trans hsucceeded
    | ok u =>
        obtain ⟨report, saved, hrun, hstdout, -, hexit, hsaved, -⟩ :=
          run_of_accepted haccepted hwork hflush
        obtain ⟨rfl, rfl⟩ := Prod.mk.inj (hran.symm.trans hrun)
        obtain ⟨⟨count, rfl⟩, hwritable⟩ :=
          hexit.mp (ToolReport.exitCode_eq_zero.mpr (.inl hsucceeded))
        exact ⟨path, platform, current, count, w, haccepted, hwork, hsaved hwritable, hstdout⟩
  · -- a run that was refused does not succeed
    obtain ⟨report, hrun, hending, -⟩ := StateTool.run_of_refused hrefused
    rw [groupTool_run] at hrun
    obtain ⟨rfl, -⟩ := Prod.mk.inj (hran.symm.trans hrun)
    obtain rfl := hending.symm.trans hsucceeded
    cases hrefused

/-- **Where a run has saved a state, one with the same files is carried out on this state.** -/
theorem accepted_after {s : PlatformState}
    (hasks : Asks args settingsPath statePath commands)
    (haccepted : groupTool.Accepted ⟨args, environment, logFilter⟩ d path commands platform)
    (hcomplete : s.Complete) (hwrite : d.write path s.text = .ok d')
    (hmore : Asks more settingsPath statePath asked) (hne : asked ≠ [])
    (logFilter' : Option String) :
    groupTool.Accepted ⟨more, environment, logFilter'⟩ d' path asked (.ofState s) := by
  obtain ⟨-, settings, before, hsettled, hpath, hopened⟩ := hasks.inversion haccepted
  have hsettled' : Settings.found d' settingsPath environment = .ok settings :=
    Settings.found_of_write hsettled hopened hwrite
  have hopened' := StateFile.loaded_of_load (Directory.read_of_write hwrite)
    (PlatformState.load_text hcomplete)
  exact hmore.accepted hne hsettled' hpath hopened' logFilter'

/-- A line with more actions is carried out where the shorter one is. -/
theorem accepted_instead (hasks : Asks args settingsPath statePath commands)
    (haccepted : groupTool.Accepted ⟨args, environment, logFilter⟩ d path commands platform)
    (hmore : Asks more settingsPath statePath asked) (hne : asked ≠ [])
    (logFilter' : Option String) :
    groupTool.Accepted ⟨more, environment, logFilter'⟩ d path asked platform := by
  obtain ⟨-, settings, before, hsettled, hpath, hopened⟩ := hasks.inversion haccepted
  exact hmore.accepted hne hsettled hpath hopened logFilter'

variable {current : DeviceId} {result : Except ToolError Nat} {w : World}

/-- Whether everything was written is told by how the actions have ended. -/
theorem written_iff {report : ToolReport}
    (haccepted : groupTool.Accepted ⟨args, environment, logFilter⟩ d path commands platform)
    (hwork : GroupRun.run .first commands (World.start platform (.ofRoom room))
      = ((current, result), w))
    (hran : (GroupTool.run room ⟨args, environment, logFilter⟩).runIn d = (report, d')) :
    report.Written ↔ ¬ CutOff result := by
  cases hflush : w.out.flush with
  | error stopped =>
      obtain ⟨report', hrun, hending, -⟩ := run_of_unflushed haccepted hwork hflush
      obtain ⟨rfl, -⟩ := Prod.mk.inj (hran.symm.trans hrun)
      refine ⟨fun hwritten => absurd hending (hwritten stopped).2, fun hwhole => ?_⟩
      -- what is held back is so since the output came to its end
      rw [flush_of_written hwork fun error herror => hwhole ⟨error, herror⟩] at hflush
      cases hflush
  | ok u =>
      obtain ⟨report', saved, hrun, -, hfailed, hexit, -, hunsaved⟩ :=
        run_of_accepted haccepted hwork hflush
      obtain ⟨rfl, -⟩ := Prod.mk.inj (hran.symm.trans hrun)
      constructor
      · rintro hwritten ⟨error, rfl⟩
        exact (hwritten error).1 (hfailed _ rfl)
      · intro hwhole error
        cases result with
        | error failure =>
            rw [hfailed failure rfl]
            refine ⟨fun hcut => hwhole ⟨error, ?_⟩, fun hcut => by cases hcut⟩
            rw [Ending.failed.inj hcut]
        | ok count =>
            by_cases hwritable : d.Writable path
            · have hzero := hexit.mpr ⟨⟨count, rfl⟩, hwritable⟩
              rcases ToolReport.exitCode_eq_zero.mp hzero with hending | hending <;>
                simp [hending]
            · obtain ⟨stopped, hending⟩ := (hunsaved hwritable).2 count rfl
              simp [hending]

/-- One that is not cut off, and whose state can be saved, ends as its actions did. -/
theorem run_of_work
    (haccepted : groupTool.Accepted ⟨args, environment, logFilter⟩ d path commands platform)
    (hwork : GroupRun.run .first commands (World.start platform (.ofRoom room))
      = ((current, result), w)) (hwhole : ¬ CutOff result)
    (hwrite : d.write path w.platform.state.text = .ok d') :
    ∃ report, (GroupTool.run room ⟨args, environment, logFilter⟩).runIn d = (report, d')
      ∧ report.ending = .of (result.map fun _ => ()) ∧ report.stdout = w.out.text := by
  have hflush : w.out.flush = .ok () :=
    flush_of_written hwork fun error herror => hwhole ⟨error, herror⟩
  obtain ⟨report, hrun, hending, hstdout⟩ :=
    StateTool.run_of_saved haccepted (work_of_run hwork) hflush hwrite
  rw [groupTool_run] at hrun
  exact ⟨report, hrun, hending.trans (Ending.of_map _ _).symm, hstdout⟩

/-- With an output without limit, everything is written. -/
theorem written_of_endless {report : ToolReport}
    (haccepted : groupTool.Accepted ⟨args, environment, logFilter⟩ d path commands platform)
    (hran : (GroupTool.run none ⟨args, environment, logFilter⟩).runIn d = (report, d')) :
    report.Written := by
  obtain ⟨⟨⟨current, result⟩, w⟩, hwork⟩ :
    ∃ worked, GroupRun.run .first commands (World.start platform (.ofRoom none)) = worked :=
    ⟨_, rfl⟩
  rw [written_iff haccepted hwork hran]
  rintro ⟨error, herror⟩
  exact GroupRun.not_unwritten_of_endless hwork rfl error herror

end GroupTool

/-! ## §2. An output that takes one listing. -/

/-- The listing of the first device where no group has a destination. -/
def GroupListing.blank : GroupListing := ⟨.first, .empty⟩

/-- Every listing has a heading. -/
theorem GroupListing.length_text_pos (l : GroupListing) : 0 < l.text.length := by
  unfold text lines
  rw [List.cons_append, List.map_cons, String.join_cons, String.length_append, String.length_append]
  have hbreak : "\n".length = 1 := rfl
  omega

section Blank

variable {w : World} (hstate : w.platform.state = .initial) (hfaults : w.platform.faults = .empty)
include hstate hfaults

/-- What printing does on a fresh platform. -/
theorem GroupListing.print_blank :
    GroupCommand.print.refusal? w.platform 0 = none
      ∧ GroupCommand.print.output w.platform.state 0 = blank.text := by
  constructor
  · unfold GroupCommand.refusal? Platform.deviceRefusal?
    rw [hstate, hfaults]
    rfl
  · have hlisting : GroupListing.mk 0 (w.platform.state.groupsOf 0) = blank := by
      rw [hstate]
      rfl
    exact congrArg GroupListing.text hlisting

/-- An output that takes such a listing and no more takes it. -/
theorem GroupListing.print_fits (hroom : w.out.room = some blank.text.length) :
    ∃ w', GroupCommand.print.apply 0 w = (.ok 0, w') ∧ w'.platform.state = .initial
      ∧ w'.platform.faults = .empty ∧ w'.out.room = some 0 := by
  obtain ⟨hadmitted, houtput⟩ := print_blank hstate hfaults
  have hfits : w.out.write blank.text
      = (.ok (), ⟨w.out.text ++ blank.text, some 0, w.out.stuck⟩) := by
    rw [Sink.write_of_fits hroom (Nat.le_refl _), Nat.sub_self]
  rw [← houtput] at hfits
  exact ⟨_, GroupCommand.apply_of_written hadmitted hfits, hstate, hfaults, rfl⟩

/-- It takes no other listing after it. -/
theorem GroupListing.print_full (hroom : w.out.room = some 0) :
    ∃ w' error, GroupCommand.print.apply 0 w = (.error (.output error), w') := by
  obtain ⟨hadmitted, houtput⟩ := print_blank hstate hfaults
  obtain ⟨out, hfull⟩ := Sink.write_of_full hroom blank.length_text_pos
  rw [← houtput] at hfull
  exact ⟨_, _, GroupCommand.apply_of_unwritten hadmitted hfull⟩

end Blank

/-- A fresh platform, and an output that takes one such listing. -/
def World.onePage : World := World.start .initial (.ofRoom (some GroupListing.blank.text.length))

namespace GroupRun

/-- One listing can be printed. -/
theorem run_print_onePage :
    ∃ w, run .first [.print] .onePage = ((0, .ok 1), w) ∧ w.platform.state = .initial := by
  obtain ⟨w, hprint, hstate, -⟩ := GroupListing.print_fits (w := .onePage) rfl rfl rfl
  exact ⟨_, run_of_completed (sequenceFrom_cons_of_ok hprint), hstate⟩

/-- So it can after a selection. -/
theorem run_select_print_onePage :
    ∃ w, run .first [.select 0, .print] .onePage = ((0, .ok 2), w)
      ∧ w.platform.state = .initial := by
  obtain ⟨w, hprint, hstate, -⟩ :=
    GroupListing.print_fits (w := World.onePage.note (.selected 0)) rfl rfl rfl
  exact ⟨_, run_of_completed ((sequenceFrom_cons_of_ok rfl).trans (sequenceFrom_cons_of_ok hprint)),
    hstate⟩

/-- Two listings cannot. -/
theorem run_print_twice_onePage :
    ∃ error w, run .first ([.print] ++ [.select 0, .print]) .onePage
      = ((0, .error (.output error)), w) := by
  obtain ⟨w, hprint, hstate, hfaults, hroom⟩ :=
    GroupListing.print_fits (w := .onePage) rfl rfl rfl
  obtain ⟨w', error, hfull⟩ :=
    GroupListing.print_full (w := w.note (.selected 0)) hstate hfaults hroom
  have hstops : sequence .first ([.print] ++ [.select 0, .print]) .onePage
      = (⟨0, some ⟨0 + [GroupCommand.print, .select 0].length, .print, .output error⟩⟩, w') := by
    refine (sequenceFrom_cons_of_ok hprint).trans ((sequenceFrom_cons_of_ok rfl).trans ?_)
    rw [sequenceFrom, hfull]
    rfl
  exact ⟨error, _, run_of_stopped hstops rfl⟩

end GroupRun

/-! ## §3. Two runs, or one. -/

/-- **Actions can be given to two runs of the tool instead of one, if those of the second begin with
the selection of a device.  Where the first run succeeds, and the second one and one run of all
actions can write what they print, the second run leaves the files as the one run of all actions
leaves them, fails where this fails and with the same error, and the two have printed what it has
printed.** -/
theorem split_across_processes {args args' args'' : List String}
    {settingsPath statePath environment logFilter logFilter' logFilter'' : Option String}
    {room room' room'' : Option Nat} {commands more : List GroupCommand} {device : DeviceId}
    {d d₁ : Directory} {first : ToolReport}
    (hfirst : GroupTool.Asks args settingsPath statePath commands)
    (hsecond : GroupTool.Asks args' settingsPath statePath (.select device :: more))
    (hboth : GroupTool.Asks args'' settingsPath statePath (commands ++ .select device :: more))
    (hran : (GroupTool.run room ⟨args, environment, logFilter⟩).runIn d = (first, d₁))
    (hsucceeded : first.ending = .succeeded) :
    ∃ second both d₂ d₃,
      (GroupTool.run room' ⟨args', environment, logFilter'⟩).runIn d₁ = (second, d₂)
      ∧ (GroupTool.run room'' ⟨args'', environment, logFilter''⟩).runIn d = (both, d₃)
      ∧ (room' = none → second.Written) ∧ (room'' = none → both.Written)
      ∧ (second.Written → both.Written →
        d₂ = d₃ ∧ first.stdout ++ second.stdout = both.stdout
        ∧ second.ending = both.ending ∧ second.exitCode = both.exitCode) := by
  obtain ⟨path, platform, current, count, w, haccepted, hwork, hwrite, hstdout⟩ :=
    GroupTool.saved_of_succeeded hfirst hran hsucceeded
  -- the platform of a file is told by its state
  obtain ⟨s, rfl⟩ : ∃ s, platform = .ofState s := ⟨_, haccepted.loaded.2⟩
  have hcomplete := GroupTool.complete_of_run haccepted hwork
  have haccepted₂ := GroupTool.accepted_after hfirst haccepted hcomplete hwrite hsecond (by simp)
    logFilter'
  have haccepted₃ := GroupTool.accepted_instead hfirst haccepted hboth (by simp) logFilter''
  obtain ⟨⟨second, d₂⟩, hran₂⟩ : ∃ ran,
    (GroupTool.run room' ⟨args', environment, logFilter'⟩).runIn d₁ = ran := ⟨_, rfl⟩
  obtain ⟨⟨both, d₃⟩, hran₃⟩ : ∃ ran,
    (GroupTool.run room'' ⟨args'', environment, logFilter''⟩).runIn d = ran := ⟨_, rfl⟩
  refine ⟨second, both, d₂, d₃, hran₂, hran₃, ?_, ?_, fun hwritten₂ hwritten₃ => ?_⟩
  · rintro rfl
    exact GroupTool.written_of_endless haccepted₂ hran₂
  · rintro rfl
    exact GroupTool.written_of_endless haccepted₃ hran₃
  · obtain ⟨⟨⟨current₂, result₂⟩, v⟩, hwork₂⟩ : ∃ worked, GroupRun.run .first
        (.select device :: more) (World.start (.ofState w.platform.state) (.ofRoom room')) = worked :=
      ⟨_, rfl⟩
    obtain ⟨⟨⟨current₃, result₃⟩, u⟩, hwork₃⟩ : ∃ worked, GroupRun.run .first
        (commands ++ .select device :: more) (World.start (.ofState s) (.ofRoom room'')) = worked :=
      ⟨_, rfl⟩
    have hwhole₂ := (GroupTool.written_iff haccepted₂ hwork₂ hran₂).mp hwritten₂
    have hwhole₃ := (GroupTool.written_iff haccepted₃ hwork₃ hran₃).mp hwritten₃
    obtain ⟨hresult, hstate, hprinted⟩ :=
      GroupRun.run_in_two hwork hwork₂ hwork₃ hwhole₂ hwhole₃
    -- both save the same state, the one over that of the first run
    obtain ⟨saved, hwrite'⟩ := Directory.writable_of_write hwrite v.platform.state.text
    obtain ⟨report₂, hrun₂, hending₂, hstdout₂⟩ := GroupTool.run_of_work haccepted₂ hwork₂ hwhole₂
      ((Directory.write_again hwrite _).trans hwrite')
    obtain ⟨report₃, hrun₃, hending₃, hstdout₃⟩ := GroupTool.run_of_work haccepted₃ hwork₃ hwhole₃
      (by rw [hstate]; exact hwrite')
    obtain ⟨rfl, rfl⟩ := Prod.mk.inj (hran₂.symm.trans hrun₂)
    obtain ⟨rfl, rfl⟩ := Prod.mk.inj (hran₃.symm.trans hrun₃)
    have hsame : second.ending = both.ending := by
      rw [hending₂, hending₃]
      exact congrArg Ending.of hresult.symm
    refine ⟨rfl, ?_, hsame, ?_⟩
    · rw [hstdout, hstdout₂, hstdout₃, hprinted]
    · unfold ToolReport.exitCode
      rw [hsame]

/-- Device 3 is not installed: what clears it fails in both cases, and what was set before stays. -/
theorem split_across_processes_before_absent_device :
    ∃ d first d₁ second both d₂, (⟨[]⟩ : Directory).write "state.json"
        (PlatformState.initial.setPresent 3 false).text = .ok d
      ∧ (GroupTool.run none ⟨["--platform", "state.json", "-s", "0:1", "-p"], none, none⟩).runIn d
        = (first, d₁)
      ∧ (GroupTool.run none ⟨["-d", "1", "-s", "2:6", "-d", "3", "-c", "--platform", "state.json"],
        none, none⟩).runIn d₁ = (second, d₂)
      ∧ (GroupTool.run none ⟨["-s", "0:1", "-p", "--platform", "state.json", "-d", "1", "-s", "2:6",
        "-d", "3", "-c"], none, none⟩).runIn d = (both, d₂)
      ∧ first.ending = .succeeded ∧ first.stdout ++ second.stdout = both.stdout
      ∧ second.ending = both.ending
      ∧ ∃ action, both.ending = .failed (.device action 3 (.noDevice 3)) := by
  obtain ⟨d, hwrite⟩ : ∃ d, (⟨[]⟩ : Directory).write "state.json"
      (PlatformState.initial.setPresent 3 false).text = .ok d := ⟨_, rfl⟩
  have hread := Directory.read_of_write hwrite
  have hload : PlatformState.load "state.json" (PlatformState.initial.setPresent 3 false).text
      = .ok (PlatformState.initial.setPresent 3 false) := PlatformState.load_text rfl
  have hline : GroupLine [.statePath "state.json", .set true "0:1", .print true none] :=
    ⟨by simp [GroupItem.Admissible], by decide, by decide⟩
  have hline' : GroupLine [.device true "1", .set true "2:6", .device true "3", .clear true none,
      .statePath "state.json"] := ⟨by simp [GroupItem.Admissible], by decide, by decide⟩
  have hline'' : GroupLine [.set true "0:1", .print true none, .statePath "state.json",
      .device true "1", .set true "2:6", .device true "3", .clear true none] :=
    ⟨by simp [GroupItem.Admissible], by decide, by decide⟩
  have hfirst : GroupTool.Asks ["--platform", "state.json", "-s", "0:1", "-p"] none
      (some "state.json") [.setMask 0 ⟨1⟩, .print] := GroupTool.asks_of_line hline rfl (by simp)
  have hsecond : GroupTool.Asks
      ["-d", "1", "-s", "2:6", "-d", "3", "-c", "--platform", "state.json"] none
      (some "state.json") [.select 1, .setMask 2 ⟨6⟩, .select 3, .clear] :=
    GroupTool.asks_of_line hline' rfl (by simp)
  have hboth : GroupTool.Asks ["-s", "0:1", "-p", "--platform", "state.json", "-d", "1", "-s",
      "2:6", "-d", "3", "-c"] none (some "state.json")
      ([.setMask 0 ⟨1⟩, .print] ++ [.select 1, .setMask 2 ⟨6⟩, .select 3, .clear]) :=
    GroupTool.asks_of_line hline'' rfl (by simp)
  -- the first run succeeds, since device 0 is installed
  have haccepted : groupTool.Accepted
      ⟨["--platform", "state.json", "-s", "0:1", "-p"], none, none⟩ d "state.json"
      [.setMask 0 ⟨1⟩, .print] (.ofState (PlatformState.initial.setPresent 3 false)) :=
    hfirst.accepted (by simp) rfl rfl (StateFile.loaded_of_load hread hload) none
  obtain ⟨⟨⟨current, result⟩, w⟩, hwork⟩ : ∃ worked, GroupRun.run .first [.setMask 0 ⟨1⟩, .print]
      (World.start (.ofState (PlatformState.initial.setPresent 3 false)) (.ofRoom none)) = worked :=
    ⟨_, rfl⟩
  obtain rfl : result = .ok 2 := (congrArg (fun ran => ran.1.2) hwork).symm
  obtain ⟨d₁, hwrite₁⟩ := Directory.write_of_read hread w.platform.state.text
  obtain ⟨first, hran, hending, -⟩ := GroupTool.run_of_work haccepted hwork (not_cutOff_ok 2) hwrite₁
  obtain ⟨second, both, d₂, d₃, hran', hran'', hwritten, hwritten', hends⟩ :=
    split_across_processes hfirst hsecond hboth hran hending
  obtain ⟨rfl, hstdout, hsame, -⟩ := hends (hwritten rfl) (hwritten' rfl)
  refine ⟨d, first, d₁, second, both, d₂, hwrite, hran, hran', hran'', hending, hstdout, hsame, ?_⟩
  -- all actions in one run: the last of them fails
  obtain ⟨⟨⟨current', result'⟩, w'⟩, hwork'⟩ : ∃ worked, GroupRun.run .first
      ([.setMask 0 ⟨1⟩, .print] ++ [.select 1, .setMask 2 ⟨6⟩, .select 3, .clear])
      (World.start (.ofState (PlatformState.initial.setPresent 3 false)) (.ofRoom none)) = worked :=
    ⟨_, rfl⟩
  have hflush := GroupTool.flush_of_written hwork' (GroupRun.not_unwritten_of_endless hwork' rfl)
  obtain ⟨report, d', hrun, -, herror, -⟩ := GroupTool.run_of_accepted
    (GroupTool.accepted_instead hfirst haccepted hboth (by simp) none) hwork' hflush
  obtain ⟨rfl, -⟩ := Prod.mk.inj (hran''.symm.trans hrun)
  exact ⟨_, herror _ (congrArg (fun ran => ran.1.2) hwork').symm⟩

/-- Outputs that take one listing each: the first run prints one and succeeds, and so does the second;
one run that is to print both fails. -/
theorem split_takes_more_output :
    ∃ first second both d₁ d₂ d₃,
      GroupTool.Asks ["-p"] none none [.print]
      ∧ GroupTool.Asks ["-d", "0", "-p"] none none [.select 0, .print]
      ∧ GroupTool.Asks ["-p", "-d", "0", "-p"] none none ([.print] ++ [.select 0, .print])
      ∧ (GroupTool.run (some GroupListing.blank.text.length) ⟨["-p"], none, none⟩).runIn ⟨[]⟩
        = (first, d₁)
      ∧ (GroupTool.run (some GroupListing.blank.text.length)
          ⟨["-d", "0", "-p"], none, none⟩).runIn d₁ = (second, d₂)
      ∧ (GroupTool.run (some GroupListing.blank.text.length)
          ⟨["-p", "-d", "0", "-p"], none, none⟩).runIn ⟨[]⟩ = (both, d₃)
      ∧ first.ending = .succeeded ∧ second.exitCode = 0 ∧ both.exitCode = 1 := by
  have hline : GroupLine [.print true none] :=
    ⟨by simp [GroupItem.Admissible], by decide, by decide⟩
  have hline' : GroupLine [.device true "0", .print true none] :=
    ⟨by simp [GroupItem.Admissible], by decide, by decide⟩
  have hline'' : GroupLine [.print true none, .device true "0", .print true none] :=
    ⟨by simp [GroupItem.Admissible], by decide, by decide⟩
  have hfirst : GroupTool.Asks ["-p"] none none [.print] :=
    GroupTool.asks_of_line hline rfl (by simp)
  have hsecond : GroupTool.Asks ["-d", "0", "-p"] none none [.select 0, .print] :=
    GroupTool.asks_of_line hline' rfl (by simp)
  have hboth : GroupTool.Asks ["-p", "-d", "0", "-p"] none none ([.print] ++ [.select 0, .print]) :=
    GroupTool.asks_of_line hline'' rfl (by simp)
  -- the first run, and what it saves
  have haccepted : groupTool.Accepted ⟨["-p"], none, none⟩ ⟨[]⟩ Settings.default.statePath [.print]
      (.ofState .initial) := hfirst.accepted (by simp) rfl rfl rfl none
  obtain ⟨w, hwork, hstate⟩ := GroupRun.run_print_onePage
  obtain ⟨d₁, hwrite⟩ : ∃ d₁, (⟨[]⟩ : Directory).write Settings.default.statePath
      PlatformState.initial.text = .ok d₁ := ⟨_, rfl⟩
  obtain ⟨first, hran, hending, -⟩ := GroupTool.run_of_work haccepted hwork (not_cutOff_ok 1)
    (by rw [hstate]; exact hwrite)
  -- the second one has an output of its own
  have haccepted' := GroupTool.accepted_after hfirst haccepted
    (show PlatformState.initial.Complete from rfl) hwrite hsecond (by simp) none
  obtain ⟨w', hwork', hstate'⟩ := GroupRun.run_select_print_onePage
  obtain ⟨second, hran', hending', -⟩ := GroupTool.run_of_work haccepted' hwork' (not_cutOff_ok 2)
    (by rw [hstate']; exact (Directory.write_again hwrite _).trans hwrite)
  -- one run of both finds its output used up
  have haccepted'' := GroupTool.accepted_instead hfirst haccepted hboth (by simp) none
  obtain ⟨error, u, hwork''⟩ := GroupRun.run_print_twice_onePage
  obtain ⟨⟨both, d₃⟩, hran''⟩ : ∃ ran,
    (GroupTool.run (some GroupListing.blank.text.length)
      ⟨["-p", "-d", "0", "-p"], none, none⟩).runIn ⟨[]⟩ = ran := ⟨_, rfl⟩
  refine ⟨first, second, both, d₁, d₁, d₃, hfirst, hsecond, hboth, hran, hran', hran'', hending,
    ToolReport.exitCode_eq_zero.mpr (.inl hending'), ToolReport.exitCode_of_not_written fun hwritten =>
      (GroupTool.written_iff haccepted'' hwork'' hran'').mp hwritten ⟨error, rfl⟩⟩

end FlowProcessor
