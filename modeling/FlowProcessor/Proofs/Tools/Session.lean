/-
  FlowProcessor.Proofs.Tools.Session — TOOLS THAT SAVE WHAT THEY DID.

  The load-balance tool and the forwarding tool go through the same stages: the line, the settings,
  what is asked for, the state file, the work itself, flushing the output, and saving.  A tool that
  stops before the last of them has not written any file; one that comes to saving saves the platform
  whatever has become of the work.

    • `StateTool`             — the stages of such a tool
    • `StateTool.Refused`     — a stage before the work at which it stops
    • `accepted_or_refused`   — it does, or it comes to the work
    • `run_of_refused`        — nothing is written before the work
    • `run_of_saved`, `run_of_unsaved`, `run_saves` — what is left of the work
    • `run_of_unflushed`      — nothing is written either where the output cannot be flushed
-/
import FlowProcessor.Proofs.Platform.Persistence
import FlowProcessor.Proofs.Settings
import FlowProcessor.Tools.ForwardingTool
import FlowProcessor.Tools.GroupTool

namespace FlowProcessor

/-! ## §1. Interactions. -/

theorem Interaction.runIn_bind {α β : Type} (i : Interaction α) (f : α → Interaction β)
    (d : Directory) : (i >>= f).runIn d = (f (i.runIn d).1).runIn (i.runIn d).2 := by
  show (i.bind f).runIn d = _
  induction i generalizing d with
  | done a => rfl
  | read path next ih => exact ih _ _
  | write path text next ih =>
      simp only [Interaction.bind, Interaction.runIn]
      cases d.write path text with
      | ok d' => exact ih _ _
      | error error => exact ih _ _

namespace Settings

variable {d d' : Directory} {path text : String} {settings : Settings}

/-- The settings in a file. -/
def inFile (d : Directory) (path : String) : Except ToolError Settings :=
  match d.read path with
  | .error error => .error (.settings path (.unreadable error))
  | .ok text =>
      match Settings.read text with
      | some settings => .ok settings
      | none => .error (.settings path .malformed)

/-- The settings of a run, given the file that the line names and the one that the environment
does. -/
def found (d : Directory) (explicit environment : Option String) : Except ToolError Settings :=
  match explicit, environment with
  | some path, _ => inFile d path
  | none, some path => if path = "" then .ok .default else inFile d path
  | none, none => .ok .default

/-- Looking for the settings finds them, and writes nothing. -/
theorem runIn_resolve (explicit environment : Option String) (d : Directory) :
    (resolve explicit environment).runIn d = (found d explicit environment, d) := by
  have hfile : ∀ path, (fromFile path).runIn d = (inFile d path, d) := by
    intro path
    unfold fromFile inFile
    rw [Interaction.runIn_bind]
    show Interaction.runIn _ d = _
    dsimp only [Interaction.readFile, Interaction.runIn]
    cases d.read path with
    | error error => rfl
    | ok text =>
        dsimp only
        cases Settings.read text <;> rfl
  unfold resolve found
  cases explicit with
  | some path => exact hfile path
  | none =>
      cases environment with
      | none => rfl
      | some path =>
          dsimp only
          split
          · rfl
          · exact hfile path

/-- **Saving the state of a platform where one was loaded leaves the settings as they are.** -/
theorem found_of_write {explicit environment : Option String} {platform : Platform}
    {before : List Event} (h : found d explicit environment = .ok settings)
    (hloaded : StateFile.loaded path (d.read path) = .ok (platform, before))
    (hwrite : d.write path text = .ok d') : found d' explicit environment = .ok settings := by
  have hfile : ∀ file, inFile d file = .ok settings → inFile d' file = .ok settings := by
    intro file hfile
    unfold inFile at hfile ⊢
    split at hfile
    · cases hfile
    · rename_i found hread
      rcases Directory.read_other hwrite hread with hkept | hstate
      · rw [hkept]
        exact hfile
      · -- the file with the settings would be that of the platform
        rw [hstate] at hloaded
        unfold StateFile.loaded PlatformState.load at hloaded
        dsimp only at hloaded
        cases hplatform : PlatformState.read found with
        | none => rw [hplatform] at hloaded; cases hloaded
        | some s =>
            rw [(PlatformState.opens_of_read hplatform).read_eq_none] at hfile
            cases hfile
  unfold found at h ⊢
  cases explicit with
  | some file => exact hfile file h
  | none =>
      cases environment with
      | none => exact h
      | some file =>
          dsimp only at h ⊢
          split at h
          · rename_i hempty
            rw [if_pos hempty]
            exact h
          · rename_i hnot
            rw [if_neg hnot]
            exact hfile file h

end Settings

/-! ## §2. The stages of a tool. -/

/-- How a tool ends that comes to a result. -/
def Ending.of {γ : Type} : Except ToolError γ → Ending
  | .ok _ => .succeeded
  | .error error => .failed error

/-- The result itself does not matter, only the error. -/
theorem Ending.of_map {γ δ : Type} (f : γ → δ) (result : Except ToolError γ) :
    Ending.of (result.map f) = Ending.of result := by
  cases result <;> rfl

/-- A tool that reads its line into `α`, which asks for a `β` to be done to the platform of the
state file; the result is a `γ`. -/
structure StateTool (α β γ : Type) where
  read : List String → Except CommandLine.Rejection α
  settingsPath : α → Option String
  statePath : α → Option String
  task : α → Except ToolError β
  filter : Invocation → α → Settings → Filter
  /-- The work, with an output of so much room. -/
  work : Option Nat → β → Platform → Except ToolError γ × World
  report : Filter → List Event → World → Except ToolError γ → List Event → ToolReport
  ending_report : ∀ filter before w result saving,
    (report filter before w result saving).ending = .of result
  stdout_report : ∀ filter before w result saving,
    (report filter before w result saving).stdout = w.out.text

namespace StateTool

variable {α β γ : Type}

/-- Does what is asked for to the platform of a state file. -/
def runOn (t : StateTool α β γ) (room : Option Nat) (filter : Filter) (path : String) (task : β) :
    Interaction ToolReport := do
  match ← StateFile.open path with
  | .error error => return .failed error []
  | .ok (platform, before) =>
      let worked := t.work room task platform
      match worked.2.out.flush with
      | .error error =>
          return .unflushed error worked.2.out.text
            (filter.shown (before.map .plain ++ worked.2.log))
      | .ok () =>
          let (result, saving) ← StateFile.finish path worked.2.platform.state worked.1
          return t.report filter before worked.2 result saving

/-- Runs the tool, with a standard output of so much room. -/
def run (t : StateTool α β γ) (room : Option Nat) (invocation : Invocation) :
    Interaction ToolReport := do
  match t.read invocation.args with
  | .error rejection => return .rejected rejection
  | .ok a =>
      match ← Settings.resolve (t.settingsPath a) invocation.settingsPath with
      | .error error => return .failed error []
      | .ok settings =>
          match t.task a with
          | .error error => return .failed error []
          | .ok task =>
              t.runOn room (t.filter invocation a settings)
                ((t.statePath a).getD settings.statePath) task

end StateTool

/-- The load-balance tool. -/
def groupTool : StateTool GroupArguments (List GroupCommand) Nat where
  read := GroupArguments.read
  settingsPath a := a.settingsPath
  statePath a := a.statePath
  task := GroupArguments.commands
  filter invocation _ settings := .choose invocation.logFilter settings.logLevel
  work room commands platform := GroupTool.perform room platform commands
  report := GroupTool.report
  ending_report _ _ _ result _ := by cases result <;> rfl
  stdout_report _ _ _ result _ := by cases result <;> rfl

theorem groupTool_runOn (room : Option Nat) (filter : Filter) (path : String)
    (commands : List GroupCommand) :
    groupTool.runOn room filter path commands = GroupTool.runOn room filter path commands := by
  unfold StateTool.runOn GroupTool.runOn
  rfl

theorem groupTool_run (room : Option Nat) (invocation : Invocation) :
    groupTool.run room invocation = GroupTool.run room invocation := by
  unfold StateTool.run GroupTool.run
  simp only [groupTool_runOn]
  simp only [groupTool]
  cases GroupArguments.read invocation.args with
  | error rejection => rfl
  | ok a =>
      refine congrArg (Bind.bind _) (funext fun found => ?_)
      cases found with
      | error error => rfl
      | ok settings =>
          dsimp only
          cases a.commands <;> rfl

/-- The forwarding tool. -/
def forwardingTool : StateTool ForwardingArguments ForwardingPlan ForwardingReport where
  read := ForwardingArguments.read
  settingsPath a := a.settingsPath
  statePath a := a.statePath
  task := ForwardingArguments.plan
  filter invocation a settings :=
    .choose invocation.logFilter (a.logLevel.getD settings.logLevel)
  work room plan platform :=
    match plan.apply id (World.start platform (.ofRoom room)) with
    | (outcome, w) => (outcome.result, w)
  report := ForwardingTool.report
  ending_report _ _ _ result _ := by cases result <;> rfl
  stdout_report _ _ _ result _ := by cases result <;> rfl

theorem forwardingTool_runOn (room : Option Nat) (filter : Filter) (path : String)
    (plan : ForwardingPlan) :
    forwardingTool.runOn room filter path plan = ForwardingTool.runOn room filter path plan := by
  unfold StateTool.runOn ForwardingTool.runOn
  rfl

theorem forwardingTool_run (room : Option Nat) (invocation : Invocation) :
    forwardingTool.run room invocation = ForwardingTool.run room invocation := by
  unfold StateTool.run ForwardingTool.run
  simp only [forwardingTool_runOn]
  simp only [forwardingTool]
  cases ForwardingArguments.read invocation.args with
  | error rejection => rfl
  | ok a =>
      refine congrArg (Bind.bind _) (funext fun found => ?_)
      cases found with
      | error error => rfl
      | ok settings =>
          dsimp only
          cases a.plan <;> rfl

/-! ## §3. How a tool ends. -/

/-- A tool exits with success if it has succeeded, or if it was asked for the help. -/
theorem ToolReport.exitCode_eq_zero {report : ToolReport} :
    report.exitCode = 0 ↔ report.ending = .succeeded ∨ report.ending = .rejected .help := by
  unfold exitCode
  split
  · rename_i hending
    simp [hending]
  · rename_i hending
    simp [hending]
  · rename_i hending
    simp [hending]
  · rename_i hending
    simp [hending]
  · rename_i rejection hother hending
    rw [hending]
    refine ⟨fun h => (by cases h), ?_⟩
    rintro (h | h)
    · cases h
    · exact absurd (Ending.rejected.inj h) hother

namespace StateTool

variable {α β γ : Type}

/-- The line, the settings, what is asked for and the state file are accepted: it is to be done to
the platform of the file at that path. -/
inductive Accepted (t : StateTool α β γ) (invocation : Invocation) (d : Directory) :
    String → β → Platform → Prop
  | intro {a : α} {settings : Settings} {task : β} {platform : Platform} {before : List Event}
      (line : t.read invocation.args = .ok a)
      (settled : Settings.found d (t.settingsPath a) invocation.settingsPath = .ok settings)
      (asked : t.task a = .ok task)
      (opened : StateFile.loaded ((t.statePath a).getD settings.statePath)
        (d.read ((t.statePath a).getD settings.statePath)) = .ok (platform, before)) :
      Accepted t invocation d ((t.statePath a).getD settings.statePath) task platform

/-- The tool stops before the work, and ends in that way. -/
inductive Refused (t : StateTool α β γ) (invocation : Invocation) (d : Directory) : Ending → Prop
  | line {rejection : CommandLine.Rejection}
      (rejected : t.read invocation.args = .error rejection) :
      Refused t invocation d (.rejected rejection)
  | settings {a : α} {error : ToolError} (line : t.read invocation.args = .ok a)
      (unsettled : Settings.found d (t.settingsPath a) invocation.settingsPath = .error error) :
      Refused t invocation d (.failed error)
  | task {a : α} {settings : Settings} {error : ToolError}
      (line : t.read invocation.args = .ok a)
      (settled : Settings.found d (t.settingsPath a) invocation.settingsPath = .ok settings)
      (unasked : t.task a = .error error) :
      Refused t invocation d (.failed error)
  | state {a : α} {settings : Settings} {task : β} {error : ToolError}
      (line : t.read invocation.args = .ok a)
      (settled : Settings.found d (t.settingsPath a) invocation.settingsPath = .ok settings)
      (asked : t.task a = .ok task)
      (unopened : StateFile.loaded ((t.statePath a).getD settings.statePath)
        (d.read ((t.statePath a).getD settings.statePath)) = .error error) :
      Refused t invocation d (.failed error)

variable {t : StateTool α β γ} {invocation : Invocation} {d d' : Directory}
variable {path : String} {task : β} {platform : Platform} {result : Except ToolError γ} {w : World}
variable {room : Option Nat}

/-- The same, where it is known which file the line and the settings lead to. -/
theorem accepted_at {a : α} {settings : Settings} {before : List Event}
    (line : t.read invocation.args = .ok a)
    (settled : Settings.found d (t.settingsPath a) invocation.settingsPath = .ok settings)
    (asked : t.task a = .ok task) (hpath : (t.statePath a).getD settings.statePath = path)
    (opened : StateFile.loaded path (d.read path) = .ok (platform, before)) :
    t.Accepted invocation d path task platform := by
  subst hpath
  exact .intro line settled asked opened

/-- A platform that was loaded lists all its devices, and no fault is registered on it. -/
theorem Accepted.loaded (h : t.Accepted invocation d path task platform) :
    platform.state.Complete ∧ platform = .ofState platform.state := by
  cases h with
  | @intro a settings _ _ before line settled asked opened =>
      have hopen := StateFile.runIn_open ((t.statePath a).getD settings.statePath) d
      rw [opened] at hopen
      exact ⟨(Platform.Obtained.opened hopen).complete, StateFile.ofState_of_loaded opened⟩

/-- What is to be done is told by the line and the files. -/
theorem Accepted.unique {path' : String} {task' : β} {platform' : Platform}
    (h : t.Accepted invocation d path task platform)
    (h' : t.Accepted invocation d path' task' platform') :
    path = path' ∧ task = task' ∧ platform = platform' := by
  obtain ⟨line, settled, asked, opened⟩ := h
  obtain ⟨line', settled', asked', opened'⟩ := h'
  obtain rfl := Except.ok.inj (line.symm.trans line')
  obtain rfl := Except.ok.inj (settled.symm.trans settled')
  exact ⟨rfl, Except.ok.inj (asked.symm.trans asked'),
    (Prod.mk.inj (Except.ok.inj (opened.symm.trans opened'))).1⟩

/-- A tool stops before the work, or comes to it. -/
theorem accepted_or_refused (t : StateTool α β γ) (invocation : Invocation) (d : Directory) :
    (∃ path task platform, t.Accepted invocation d path task platform)
      ∨ ∃ ending, t.Refused invocation d ending := by
  cases hline : t.read invocation.args with
  | error rejection => exact .inr ⟨_, .line hline⟩
  | ok a =>
      cases hsettings : Settings.found d (t.settingsPath a) invocation.settingsPath with
      | error error => exact .inr ⟨_, .settings hline hsettings⟩
      | ok settings =>
          cases htask : t.task a with
          | error error => exact .inr ⟨_, .task hline hsettings htask⟩
          | ok task =>
              cases hstate : StateFile.loaded ((t.statePath a).getD settings.statePath)
                  (d.read ((t.statePath a).getD settings.statePath)) with
              | error error => exact .inr ⟨_, .state hline hsettings htask hstate⟩
              | ok opened => exact .inl ⟨_, _, _, .intro hline hsettings htask hstate⟩

/-- It does not do both. -/
theorem Refused.not_accepted {ending : Ending} (h : t.Refused invocation d ending) :
    ¬ t.Accepted invocation d path task platform := by
  rintro ⟨line, settled, asked, opened⟩
  cases h with
  | line rejected => cases rejected.symm.trans line
  | settings line' unsettled =>
      obtain rfl := Except.ok.inj (line.symm.trans line')
      cases unsettled.symm.trans settled
  | task line' settled' unasked =>
      obtain rfl := Except.ok.inj (line.symm.trans line')
      cases unasked.symm.trans asked
  | state line' settled' asked' unopened =>
      obtain rfl := Except.ok.inj (line.symm.trans line')
      obtain rfl := Except.ok.inj (settled.symm.trans settled')
      cases unopened.symm.trans opened

/-- **A tool that stops before the work prints nothing and writes nothing.** -/
theorem run_of_refused {ending : Ending} (h : t.Refused invocation d ending) :
    ∃ report, (t.run room invocation).runIn d = (report, d) ∧ report.ending = ending
      ∧ report.stdout = "" := by
  unfold run
  -- the stages in front of the one that fails only read
  cases h with
  | line rejected =>
      rw [rejected]
      exact ⟨_, rfl, rfl, rfl⟩
  | settings line unsettled =>
      rw [line]
      dsimp only
      rw [Interaction.runIn_bind, Settings.runIn_resolve, unsettled]
      exact ⟨_, rfl, rfl, rfl⟩
  | task line settled unasked =>
      rw [line]
      dsimp only
      rw [Interaction.runIn_bind, Settings.runIn_resolve, settled]
      dsimp only
      rw [unasked]
      exact ⟨_, rfl, rfl, rfl⟩
  | state line settled asked unopened =>
      rw [line]
      dsimp only
      rw [Interaction.runIn_bind, Settings.runIn_resolve, settled]
      dsimp only
      rw [asked]
      dsimp only
      rw [runOn, Interaction.runIn_bind, StateFile.runIn_open, unopened]
      exact ⟨_, rfl, rfl, rfl⟩

/-- One that exits with success all the same was asked for the help. -/
theorem Refused.read_eq_help {report : ToolReport} (h : t.Refused invocation d report.ending)
    (hexit : report.exitCode = 0) : t.read invocation.args = .error .help := by
  obtain ⟨ending, hending⟩ : ∃ ending, report.ending = ending := ⟨_, rfl⟩
  rw [ToolReport.exitCode_eq_zero, hending] at hexit
  rw [hending] at h
  rcases hexit with rfl | rfl
  · cases h
  · cases h with
    | line rejected => exact rejected

/-- What a tool does that comes to the work: it flushes the output, and saves what the work has
left. -/
theorem runOn_of_accepted (h : t.Accepted invocation d path task platform) (room : Option Nat) :
    ∃ filter before, (t.run room invocation).runIn d = (t.runOn room filter path task).runIn d
      ∧ StateFile.loaded path (d.read path) = .ok (platform, before) := by
  obtain ⟨line, settled, asked, opened⟩ := h
  unfold run
  rw [line]
  dsimp only
  rw [Interaction.runIn_bind, Settings.runIn_resolve, settled]
  dsimp only
  rw [asked]
  exact ⟨_, _, rfl, opened⟩

/-- A tool whose output is flushed saves the platform that the work leaves. -/
theorem run_of_flushed (h : t.Accepted invocation d path task platform)
    (hwork : t.work room task platform = (result, w)) (hflush : w.out.flush = .ok ()) :
    ∃ filter before, (t.run room invocation).runIn d
      = ((t.report filter before w
            (StateFile.settle path ((StateFile.save path w.platform.state).runIn d).1 result).1
            (StateFile.settle path ((StateFile.save path w.platform.state).runIn d).1 result).2),
          ((StateFile.save path w.platform.state).runIn d).2) := by
  obtain ⟨filter, before, hrun, opened⟩ := runOn_of_accepted h room
  refine ⟨filter, before, hrun.trans ?_⟩
  rw [runOn, Interaction.runIn_bind, StateFile.runIn_open, opened]
  dsimp only
  rw [hwork]
  dsimp only
  rw [hflush]
  dsimp only
  rw [Interaction.runIn_bind, StateFile.finish, Interaction.runIn_bind]
  rfl

/-- **Where the output cannot be flushed, nothing is written to any file, and the tool fails with
that.** -/
theorem run_of_unflushed (h : t.Accepted invocation d path task platform)
    (hwork : t.work room task platform = (result, w)) {error : FileError}
    (hflush : w.out.flush = .error error) :
    ∃ report, (t.run room invocation).runIn d = (report, d) ∧ report.ending = .unflushed error
      ∧ report.stdout = w.out.text := by
  obtain ⟨filter, before, hrun, opened⟩ := runOn_of_accepted h room
  refine ⟨.unflushed error w.out.text (filter.shown (before.map .plain ++ w.log)), hrun.trans ?_,
    rfl, rfl⟩
  rw [runOn, Interaction.runIn_bind, StateFile.runIn_open, opened]
  dsimp only
  rw [hwork]
  dsimp only
  rw [hflush]
  rfl

/-- **Where the state can be saved, the tool ends as the work did.** -/
theorem run_of_saved (h : t.Accepted invocation d path task platform)
    (hwork : t.work room task platform = (result, w)) (hflush : w.out.flush = .ok ())
    (hwrite : d.write path w.platform.state.text = .ok d') :
    ∃ report, (t.run room invocation).runIn d = (report, d') ∧ report.ending = .of result
      ∧ report.stdout = w.out.text := by
  obtain ⟨filter, before, hrun⟩ := run_of_flushed h hwork hflush
  rw [StateFile.save_of_write hwrite] at hrun
  refine ⟨_, hrun, ?_, t.stdout_report ..⟩
  rw [t.ending_report]
  rfl

/-- **Where it cannot, nothing is written, and the tool fails: with the error of the work, or else
with that of saving.** -/
theorem run_of_unsaved (h : t.Accepted invocation d path task platform)
    (hwork : t.work room task platform = (result, w)) (hflush : w.out.flush = .ok ())
    {error : FileError} (hwrite : d.write path w.platform.state.text = .error error) :
    ∃ report, (t.run room invocation).runIn d = (report, d)
      ∧ report.ending = .of (result.bind fun _ => .error (.state (.unwritable path error)) :
        Except ToolError γ)
      ∧ report.stdout = w.out.text := by
  have hsave : (StateFile.save path w.platform.state).runIn d
      = (.error (.state (.unwritable path error)), d) := by
    rw [StateFile.runIn_save, hwrite]
  obtain ⟨filter, before, hrun⟩ := run_of_flushed h hwork hflush
  rw [hsave] at hrun
  refine ⟨_, hrun, ?_, t.stdout_report ..⟩
  rw [t.ending_report]
  cases result <;> rfl

/-- **A line that is carried out, with an output that is flushed: the tool succeeds if the work does
and can be saved.  What the work has left is saved wherever a file can be written, and the error of
the work counts before that of saving.** -/
theorem run_saves (h : t.Accepted invocation d path task platform)
    (hwork : t.work room task platform = (result, w)) (hflush : w.out.flush = .ok ()) :
    ∃ report d', (t.run room invocation).runIn d = (report, d')
      ∧ report.stdout = w.out.text
      ∧ (∀ error, result = .error error → report.ending = .failed error)
      ∧ (report.exitCode = 0 ↔ (∃ answer, result = .ok answer) ∧ d.Writable path)
      ∧ (d.Writable path → d.write path w.platform.state.text = .ok d')
      ∧ (¬ d.Writable path → d' = d ∧ ∀ answer, result = .ok answer →
        ∃ error, report.ending = .failed (.state (.unwritable path error))) := by
  cases hwrite : d.write path w.platform.state.text with
  | ok d' =>
      have hwritable := Directory.writable_of_write hwrite
      obtain ⟨report, hreport, hending, hstdout⟩ := run_of_saved h hwork hflush hwrite
      refine ⟨report, d', hreport, hstdout, ?_, ?_, fun _ => rfl, fun hnot => absurd hwritable hnot⟩
      · rintro error rfl
        exact hending
      · rw [ToolReport.exitCode_eq_zero, hending]
        -- saving changes nothing about how the work has ended
        cases result with
        | ok answer => exact ⟨fun _ => ⟨⟨answer, rfl⟩, hwritable⟩, fun _ => .inl rfl⟩
        | error error => simp [Ending.of]
  | error error =>
      have hnot := Directory.not_writable_of_write hwrite
      obtain ⟨report, hreport, hending, hstdout⟩ := run_of_unsaved h hwork hflush hwrite
      refine ⟨report, d, hreport, hstdout, ?_, ?_, fun hwritable => absurd hwritable hnot,
        fun _ => ⟨rfl, ?_⟩⟩
      · rintro error rfl
        exact hending
      · rw [ToolReport.exitCode_eq_zero, hending]
        refine ⟨fun hexit => ?_, fun hboth => absurd hboth.2 hnot⟩
        -- a success has become the failure to save
        cases result <;> rcases hexit with hexit | hexit <;> cases hexit
      · rintro answer rfl
        exact ⟨error, hending⟩

end StateTool

end FlowProcessor
