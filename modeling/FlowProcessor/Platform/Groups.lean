/-
  FlowProcessor.Platform.Groups — THE LOAD-BALANCE SERVICE.

  Reads all group masks of a device, and replaces the mask of one group or of all groups.  A write
  replaces the whole mask; nothing is added bit by bit.
-/
import FlowProcessor.Platform.Basic

namespace FlowProcessor.Platform

/-- Reads the masks of all groups. -/
def readGroups (p : Platform) (device : DeviceId) : Except PlatformError GroupTable × Platform :=
  p.perform (.readGroups device) do
    let d ← .check (·.installed device)
    return d.groups

/-- Replaces the mask of one group. -/
def writeGroup (p : Platform) (device : DeviceId) (group : GroupId) (dests : DestSet) :
    Except PlatformError Unit × Platform :=
  p.perform (.writeGroup device group) do
    let _ ← .check (·.installed device)
    .change (·.modifyDevice device fun d =>
      { d with groups := d.groups.set group.val dests group.isLt })

/-- Replaces the masks of all groups. -/
def writeAllGroups (p : Platform) (device : DeviceId) (groups : GroupTable) :
    Except PlatformError Unit × Platform :=
  p.perform (.writeAllGroups device) do
    let _ ← .check (·.installed device)
    .change (·.modifyDevice device fun d => { d with groups := groups })

/-- Empties all groups. -/
def clearGroups (p : Platform) (device : DeviceId) : Except PlatformError Unit × Platform :=
  p.writeAllGroups device .empty

end FlowProcessor.Platform
