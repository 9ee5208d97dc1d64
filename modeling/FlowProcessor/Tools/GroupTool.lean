/-
  FlowProcessor.Tools.GroupTool — THE LOAD-BALANCE TOOL.

  All actions are read before the state file is opened.  After the run the output is flushed, and
  then the state is saved, whether the run succeeded or not, so that a failed run keeps exactly what
  it did.  Where the output cannot be flushed, nothing is saved.
-/
import FlowProcessor.CommandLine.GroupTool
import FlowProcessor.GroupRun
import FlowProcessor.StateFile
import FlowProcessor.Tools.Session

namespace FlowProcessor.GroupTool

/-- Runs actions on a platform, starting with the first device, with an output of so much room. -/
def perform (room : Option Nat) (platform : Platform) (commands : List GroupCommand) :
    Except ToolError Nat × World :=
  match GroupRun.run .first commands (World.start platform (.ofRoom room)) with
  | ((_, result), w) => (result, w)

/-- The report of a run after saving. -/
def report (filter : Filter) (before : List Event) (w : World)
    (result : Except ToolError Nat) (saving : List Event) : ToolReport :=
  let log := before.map .plain ++ w.log ++ saving.map .plain
  match result with
  | .ok count => ⟨.succeeded, w.out.text, "", filter.shown (log ++ [.plain (.finished count)])⟩
  | .error error => ⟨.failed error, w.out.text, "", filter.shown log⟩

/-- Runs actions on the platform of a state file. -/
def runOn (room : Option Nat) (filter : Filter) (path : String) (commands : List GroupCommand) :
    Interaction ToolReport := do
  match ← StateFile.open path with
  | .error error => return .failed error []
  | .ok (platform, before) =>
      let (result, w) := perform room platform commands
      match w.out.flush with
      | .error error =>
          return .unflushed error w.out.text (filter.shown (before.map .plain ++ w.log))
      | .ok () =>
          let (result, saving) ← StateFile.finish path w.platform.state result
          return report filter before w result saving

/-- Runs the tool, with a standard output of so much room. -/
def run (room : Option Nat) (invocation : Invocation) : Interaction ToolReport := do
  match GroupArguments.read invocation.args with
  | .error rejection => return .rejected rejection
  | .ok a =>
      match ← Settings.resolve a.settingsPath invocation.settingsPath with
      | .error error => return .failed error []
      | .ok settings =>
          match a.commands with
          | .error error => return .failed error []
          | .ok commands =>
              runOn room (.choose invocation.logFilter settings.logLevel)
                (a.statePath.getD settings.statePath) commands

end FlowProcessor.GroupTool
