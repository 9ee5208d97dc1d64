/-
  FlowProcessor.Tools.Session — WHAT THE TOOLS HAVE IN COMMON.

  A tool is invoked with arguments and two variables of the environment, and ends with a report:
  whether it succeeded, what it printed, and what it logged.
-/
import FlowProcessor.CommandLine.Scanner
import FlowProcessor.Interaction
import FlowProcessor.Logging.Filter
import FlowProcessor.Settings

namespace FlowProcessor

/-- How a tool is invoked. -/
structure Invocation where
  args : List String
  /-- The settings file that the environment names. -/
  settingsPath : Option String
  /-- The log filter that the environment asks for. -/
  logFilter : Option String
  deriving DecidableEq, Repr

/-- How a tool ends. -/
inductive Ending
  | succeeded
  | failed (error : ToolError)
  /-- The output did not take everything, so that nothing was saved. -/
  | unflushed (error : FileError)
  /-- The command line was rejected. -/
  | rejected (rejection : CommandLine.Rejection)
  deriving DecidableEq, Repr

/-- What a tool leaves behind, apart from files. -/
structure ToolReport where
  ending : Ending
  stdout : String
  /-- The warnings, which go to the same place as the diagnostic. -/
  warnings : String
  /-- The events that the log shows, oldest first. -/
  log : List Event
  deriving DecidableEq, Repr

namespace ToolReport

/-- The report of a rejected command line. -/
def rejected (rejection : CommandLine.Rejection) : ToolReport := ⟨.rejected rejection, "", "", []⟩

/-- The report of a run that failed before it printed anything. -/
def failed (error : ToolError) (log : List Event) : ToolReport := ⟨.failed error, "", "", log⟩

/-- The report of a run whose output could not be flushed. -/
def unflushed (error : FileError) (stdout : String) (log : List Event) : ToolReport :=
  ⟨.unflushed error, stdout, "", log⟩

/-- The exit code.  Asking for the help is no mistake, a rejected command line is one of its own. -/
def exitCode (r : ToolReport) : Nat :=
  match r.ending with
  | .succeeded => 0
  | .failed _ | .unflushed _ => 1
  | .rejected .help => 0
  | .rejected _ => 2

/-- The diagnostics: the warnings, and one line for the error of a run that failed. -/
def stderr (r : ToolReport) : String :=
  match r.ending with
  | .failed error => r.warnings ++ error.message ++ "\n"
  | .unflushed error => r.warnings ++ error.message ++ "\n"
  | _ => r.warnings

end ToolReport

namespace Settings

/-- The settings in a file, which has to exist. -/
def fromFile (path : String) : Interaction (Except ToolError Settings) := do
  match ← Interaction.readFile path with
  | .error error => return .error (.settings path (.unreadable error))
  | .ok text =>
      match Settings.read text with
      | some settings => return .ok settings
      | none => return .error (.settings path .malformed)

/-- The settings of a run: from the file the command line names, else from the file the
environment names, else the defaults. -/
def resolve (explicit environment : Option String) :
    Interaction (Except ToolError Settings) :=
  match explicit, environment with
  | some path, _ => fromFile path
  | none, some path => if path = "" then pure (.ok .default) else fromFile path
  | none, none => pure (.ok .default)

end Settings

end FlowProcessor
