/-
  FlowProcessor.Tools.ForwardingTool — THE FORWARDING TOOL.

  Applies the plan that the command line describes to the platform of the state file.  After the run
  the output is flushed, and then the state is saved, whether the run succeeded or not.  Where the
  output cannot be flushed, nothing is saved.
-/
import FlowProcessor.CommandLine.ForwardingTool
import FlowProcessor.ForwardingRun
import FlowProcessor.StateFile
import FlowProcessor.Tools.Session

namespace FlowProcessor.ForwardingTool

/-- The report of a run after saving. -/
def report (filter : Filter) (before : List Event) (w : World)
    (result : Except ToolError ForwardingReport) (saving : List Event) : ToolReport :=
  let log := filter.shown (before.map .plain ++ w.log ++ saving.map .plain)
  match result with
  | .ok _ => ⟨.succeeded, w.out.text, "", log⟩
  | .error error => ⟨.failed error, w.out.text, "", log⟩

/-- Applies a plan to the platform of a state file. -/
def runOn (room : Option Nat) (filter : Filter) (path : String) (plan : ForwardingPlan) :
    Interaction ToolReport := do
  match ← StateFile.open path with
  | .error error => return .failed error []
  | .ok (platform, before) =>
      let (outcome, w) := plan.apply id (World.start platform (.ofRoom room))
      match w.out.flush with
      | .error error =>
          return .unflushed error w.out.text (filter.shown (before.map .plain ++ w.log))
      | .ok () =>
          let (result, saving) ← StateFile.finish path w.platform.state outcome.result
          return report filter before w result saving

/-- Runs the tool, with a standard output of so much room. -/
def run (room : Option Nat) (invocation : Invocation) : Interaction ToolReport := do
  match ForwardingArguments.read invocation.args with
  | .error rejection => return .rejected rejection
  | .ok a =>
      match ← Settings.resolve a.settingsPath invocation.settingsPath with
      | .error error => return .failed error []
      | .ok settings =>
          match a.plan with
          | .error error => return .failed error []
          | .ok plan =>
              runOn room (.choose invocation.logFilter (a.logLevel.getD settings.logLevel))
                (a.statePath.getD settings.statePath) plan

end FlowProcessor.ForwardingTool
