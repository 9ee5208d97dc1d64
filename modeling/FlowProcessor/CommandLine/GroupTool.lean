/-
  FlowProcessor.CommandLine.GroupTool — THE COMMAND LINE OF THE LOAD-BALANCE TOOL.

  Every option but the two file names asks for an action, and the actions are carried out in the
  order of the command line.  A line is kept option by option, so that the order is rebuilt from
  the positions of the values.  All actions are read before the first is carried out; the leftmost
  that cannot be read is the one reported.

    • `GroupArguments.read`     — the values of every option, with their positions
    • `GroupArguments.actions`  — the actions in the order of the line
    • `GroupArguments.commands` — the actions, read
-/
import FlowProcessor.CommandLine.Value
import FlowProcessor.GroupCommand
import FlowProcessor.ToolError

namespace FlowProcessor

/-- An option that asks for an action. -/
inductive ActionOption
  | device
  | print
  | set
  | list
  | clear
  deriving DecidableEq, Repr

/-- A setting of the load-balance tool. -/
inductive GroupSetting
  | action (option : ActionOption) (value : String)
  | settingsPath (path : String)
  | statePath (path : String)
  deriving DecidableEq, Repr

/-- The value of a print or clear action that is given none. -/
def bareAction : String := "true"

/-- The options of the load-balance tool. -/
def groupGrammar : CommandLine.Grammar GroupSetting :=
  [⟨"device", some 'd', .value, true, fun v => .ok (.action .device v)⟩,
    ⟨"print", some 'p', .attached bareAction, true, fun v => .ok (.action .print v)⟩,
    ⟨"set", some 's', .value, true, fun v => .ok (.action .set v)⟩,
    ⟨"list", some 'S', .value, true, fun v => .ok (.action .list v)⟩,
    ⟨"clear", some 'c', .attached bareAction, true, fun v => .ok (.action .clear v)⟩,
    CommandLine.pathOption "config" .settingsPath,
    CommandLine.pathOption "platform" .statePath]

/-- What the command line of the load-balance tool asks for. -/
structure GroupArguments where
  /-- The values given to an option, each with its position on the line. -/
  values : ActionOption → List (Nat × String)
  settingsPath : Option String
  statePath : Option String

/-- The options that ask for actions. -/
def ActionOption.all : List ActionOption := [.device, .set, .list, .print, .clear]

/-- The value that a setting gives to an option. -/
def GroupSetting.valueFor? (option : ActionOption) : GroupSetting → Option String
  | .action other value => if other = option then some value else none
  | _ => none

namespace GroupArguments

/-- Sorts the settings of a command line by their options. -/
def ofSettings (settings : List GroupSetting) : GroupArguments where
  values option := settings.zipIdx.filterMap fun (setting, position) =>
    (setting.valueFor? option).map fun value => (position, value)
  settingsPath := settings.findSome? fun
    | .settingsPath path => some path
    | _ => none
  statePath := settings.findSome? fun
    | .statePath path => some path
    | _ => none

/-- Reads a command line; without any option the help is shown. -/
def read (args : List String) : Except CommandLine.Rejection GroupArguments := do
  let settings ← CommandLine.scan groupGrammar args
  if settings.isEmpty then .error .helpOnMissing else .ok (ofSettings settings)

/-- The values given to an option, in order. -/
def valuesOf (a : GroupArguments) (option : ActionOption) : List String :=
  (a.values option).map (·.2)

/-- The actions with their values and positions, one option after the other. -/
def gathered (a : GroupArguments) : List (Nat × ActionOption × String) :=
  ActionOption.all.flatMap fun option =>
    (a.values option).map fun (position, value) => (position, option, value)

/-- The actions with their values, by ascending position. -/
def actions (a : GroupArguments) : List (ActionOption × String) :=
  (a.gathered.mergeSort fun x y => x.1 ≤ y.1).map (·.2)

/-- Reads the value of a print or clear action. -/
def readBare (name : String) (command : GroupCommand) (value : String) :
    Except InputError GroupCommand :=
  if value = bareAction then .ok command else .error (.malformed value (.flagWithValue name))

/-- Reads an action. -/
def readAction : ActionOption × String → Except InputError GroupCommand
  | (.device, value) => GroupCommand.readSelect value
  | (.set, value) => GroupCommand.readSetMask value
  | (.list, value) => GroupCommand.readSetList value
  | (.print, value) => readBare "print" .print value
  | (.clear, value) => readBare "clear" .clear value

/-- Reads the actions in the order of the line; there has to be one at least. -/
def commands (a : GroupArguments) : Except ToolError (List GroupCommand) :=
  if a.gathered.isEmpty then .error (.usage .noActions)
  else (a.actions.mapM readAction).mapError .input

end GroupArguments

end FlowProcessor
