/-
  FlowProcessor.StateFile — THE FILE THAT KEEPS A PLATFORM.

  A tool loads the platform from its file.  A run that is not only to look saves it again, even if it
  has failed, so that what was done before the failure is kept.

    • `PlatformState.load`    — from the text of a file to four devices
    • `StateFile.open`        — the platform of a file; a missing file gives a fresh one
    • `StateFile.finish`      — saving, and which error counts
-/
import FlowProcessor.Interaction
import FlowProcessor.Platform.StateText
import FlowProcessor.Run

namespace FlowProcessor

/-! ## §1. Loading. -/

/-- The state with absent devices in the slots that are not listed. -/
def PlatformState.completed (s : PlatformState) : PlatformState :=
  { s with devices := s.devices.rightpad deviceCount .absent }

/-- The state that the text of a file describes, with a device in every slot. -/
def PlatformState.load (path text : String) : Except StateError PlatformState :=
  match PlatformState.read text with
  | none => .error (.malformed path)
  | some s =>
      if deviceCount < s.devices.length then .error (.tooManyDevices path s.devices.length)
      else .ok s.completed

namespace StateFile

/-- What reading a file says about the platform, with the events of it. -/
def loaded (path : String) : Except FileError String → Except ToolError (Platform × List Event)
  | .ok text =>
      match PlatformState.load path text with
      | .ok s => .ok (.ofState s, [.stateLoaded path, .platformOpened path])
      | .error error => .error (.state error)
  | .error .missing => .ok (.initial, [.stateMissing path, .platformOpened path])
  | .error error => .error (.state (.unreadable path error))

/-- Loads a platform from its file, or starts with a fresh one if there is no file. -/
def «open» (path : String) : Interaction (Except ToolError (Platform × List Event)) := do
  let answer ← Interaction.readFile path
  return loaded path answer

/-! ## §2. Saving. -/

/-- Writes a state to its file. -/
def save (path : String) (s : PlatformState) : Interaction (Except ToolError Unit) := do
  let answer ← Interaction.writeFile path s.text
  return answer.mapError fun error => .state (.unwritable path error)

/-- What is left of the result of a run after saving.  An error of saving takes the place of a
success; after a failure it is only logged. -/
def settle {α : Type} (path : String) (saved : Except ToolError Unit)
    (result : Except ToolError α) : Except ToolError α × List Event :=
  match saved, result with
  | .ok (), result => (result, [.stateSaved path, .platformSaved path])
  | .error error, .ok _ => (.error error, [])
  | .error error, .error first => (.error first, [.saveFailed error])

/-- Saves the state after a run and passes its result on. -/
def finish {α : Type} (path : String) (s : PlatformState) (result : Except ToolError α) :
    Interaction (Except ToolError α × List Event) := do
  let saved ← save path s
  return settle path saved result

end StateFile

end FlowProcessor
