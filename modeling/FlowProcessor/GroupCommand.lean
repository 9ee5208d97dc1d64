/-
  FlowProcessor.GroupCommand — THE ACTIONS OF THE LOAD-BALANCE TOOL.

  An action selects the device of the actions after it, empties all groups of the current device,
  sets one group, or prints all groups.  Actions are read from the arguments of the options that
  ask for them, before any device is touched.
-/
import FlowProcessor.Destinations

namespace FlowProcessor

/-- One action of the load-balance tool. -/
inductive GroupCommand
  /-- Direct the following actions at a device. -/
  | select (device : DeviceId)
  /-- Empty all groups of the current device. -/
  | clear
  /-- Set a group, given a bitmask. -/
  | setMask (group : GroupId) (dests : DestSet)
  /-- Set a group, given a list. -/
  | setList (group : GroupId) (dests : DestSet)
  /-- Print all groups of the current device. -/
  | print
  deriving DecidableEq, Repr

namespace GroupCommand

/-- Cuts a text at the first occurrence of a separator. -/
def cut (sep : Char) (cs : List Char) : Option (List Char × List Char) :=
  match cs.dropWhile (· != sep) with
  | [] => none
  | _ :: rest => some (cs.takeWhile (· != sep), rest)

/-- Reads the group before the first colon; what follows the colon is left. -/
def readGroup (defect : Defect) (argument : String) : Except InputError (GroupId × String) :=
  match cut ':' argument.toList with
  | none => .error (.malformed argument defect)
  | some (group, rest) =>
      (GroupId.read (String.ofList group)).map fun group => (group, String.ofList rest)

/-- Reads the argument of a device selection, such as `1`. -/
def readSelect (argument : String) : Except InputError GroupCommand :=
  (DeviceId.read argument).map .select

/-- Reads a group and a bitmask, such as `3:0x3f`. -/
def readSetMask (argument : String) : Except InputError GroupCommand := do
  let (group, mask) ← readGroup .notGroupBitmask argument
  (DestSet.readBitmask mask).map (.setMask group)

/-- Reads a group and a list, such as `0:0,1,2`. -/
def readSetList (argument : String) : Except InputError GroupCommand := do
  let (group, list) ← readGroup .notGroupList argument
  (DestSet.readList list).map (.setList group)

/-- Whether an action changes a device. -/
def isWrite : GroupCommand → Bool
  | .clear | .setMask _ _ | .setList _ _ => true
  | .select _ | .print => false

/-- An action in words. -/
def text : GroupCommand → String
  | .select device => "select device " ++ idText device
  | .clear => "clear all groups"
  | .setMask group dests | .setList group dests =>
      "set group " ++ idText group ++ " to " ++ dests.text
  | .print => "print groups"

end GroupCommand

end FlowProcessor
