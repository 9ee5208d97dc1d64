/-
  FlowProcessor.Main — THE COMMAND LINE PROGRAM.

  The first argument names the tool, the others are its arguments.  Files are those of the file
  system; the two variables of the environment name a settings file and a log filter.
-/
import FlowProcessor.Tools.ForwardingTool
import FlowProcessor.Tools.GroupTool
import FlowProcessor.Tools.PortsTool

namespace FlowProcessor.Program

/-- The reason of a failed file access. -/
def reason : IO.Error → FileError
  | .noFileOrDirectory .. => .missing
  | error => .other (toString error)

/-- Reads a file as text. -/
def readText (path : String) : IO (Except FileError String) := do
  try
    match String.fromUTF8? (← IO.FS.readBinFile path) with
    | some text => return .ok text
    | none => return .error .notText
  catch error => return .error (reason error)

/-- Writes a text to a file. -/
def writeText (path text : String) : IO (Except FileError Unit) := do
  try
    IO.FS.writeFile path text
    return .ok ()
  catch error => return .error (reason error)

/-- Carries out an interaction with the file system. -/
def perform {α : Type} : Interaction α → IO α
  | .done a => return a
  | .read path next => do perform (next (← readText path))
  | .write path text next => do perform (next (← writeText path text))

/-- A tool: the lines of its help and what it does. -/
structure Tool where
  name : String
  help : String
  run : Invocation → Interaction ToolReport

/-- The tools of the program. -/
def tools : List Tool :=
  [⟨"nfm-lb", groupGrammar.help, GroupTool.run none⟩,
    ⟨"nfm-get-ports", portsGrammar.help, PortsTool.run⟩,
    ⟨"nfm-configure-forwarding", forwardingGrammar.help, ForwardingTool.run none⟩]

/-- Prints a report and answers with the exit code. -/
def printReport (tool : Tool) (report : ToolReport) : IO UInt32 := do
  for event in report.log do
    IO.eprintln (event.severity.label ++ " " ++ event.text)
  match report.ending with
  | .rejected .help => IO.print (tool.name ++ "\n" ++ tool.help)
  | .rejected rejection => IO.eprint (rejection.message ++ "\n" ++ tool.help)
  | _ => pure ()
  IO.print report.stdout
  IO.eprint report.stderr
  return UInt32.ofNat report.exitCode

/-- Runs a tool. -/
def runTool (tool : Tool) (args : List String) : IO UInt32 := do
  let invocation : Invocation :=
    ⟨args, ← IO.getEnv "NFM_TOOLS_CONFIG", ← IO.getEnv "RUST_LOG"⟩
  printReport tool (← perform (tool.run invocation))

end FlowProcessor.Program

/-- Runs the tool that the first argument names. -/
def main (args : List String) : IO UInt32 := do
  match args with
  | [] =>
      IO.eprintln "no tool is named"
      return 2
  | name :: rest =>
      match FlowProcessor.Program.tools.find? (·.name == name) with
      | some tool => FlowProcessor.Program.runTool tool rest
      | none =>
          IO.eprintln ("no such tool: " ++ name)
          return 2
