/-
  FlowProcessor.CrossReference — WHICH INTERFACES FEED A HOST DESTINATION.

  On each device the first group that holds the destination is looked up, and the rule table is
  walked for the rules that feed this group.  The interface a rule matches on counts, unless the
  rule matches every interface.

    • `holders`        — the groups that hold a destination, in ascending order
    • `searchDevice`   — the search on one device
    • `CrossReference.search` — the search on a list of devices
-/
import FlowProcessor.Platform.Groups
import FlowProcessor.Platform.Rules
import FlowProcessor.Run

namespace FlowProcessor

/-! ## §1. Reports. -/

/-- A set of interfaces that lists its members in ascending order. -/
abbrev InterfaceSet : Type := Table Unit

/-- Adds an interface. -/
def InterfaceSet.add (s : InterfaceSet) (interface : InterfaceId) : InterfaceSet :=
  s.insert interface.word ()

/-- The interfaces in ascending order. -/
def InterfaceSet.toList (s : InterfaceSet) : List InterfaceId := s.entries.map fun e => ⟨e.1⟩

/-- What was found on one device. -/
structure DeviceFinding where
  device : DeviceId
  /-- The first group that holds the destination. -/
  group : Option GroupId
  /-- The other groups that hold it; they are not searched. -/
  otherGroups : List GroupId
  interfaces : InterfaceSet
  rulesScanned : Nat
  deriving DecidableEq

/-- What was found on all searched devices. -/
structure CrossReference where
  dest : DestId
  findings : List DeviceFinding
  deriving DecidableEq

namespace CrossReference

/-- The interfaces found on any device. -/
def interfaces (r : CrossReference) : InterfaceSet :=
  r.findings.foldl (fun s finding => finding.interfaces.toList.foldl InterfaceSet.add s) .empty

/-- Whether some device has the destination in several groups. -/
def isAmbiguous (r : CrossReference) : Bool :=
  r.findings.any fun finding => !finding.otherGroups.isEmpty

/-- The report as text: a heading and one line with all interfaces. -/
def text (r : CrossReference) : String :=
  "Interface IDs feeding host dest " ++ idText r.dest ++ ":\n"
    ++ " ".intercalate (r.interfaces.toList.map InterfaceId.text) ++ "\n"

end CrossReference

/-! ## §2. The search on one device. -/

/-- The groups that hold a destination, in ascending order. -/
def holders (groups : GroupTable) (dest : DestId) : List GroupId :=
  (List.finRange groupCount).filter fun group => (groups.get group).contains dest

/-- Counts a rule, and its interface if the rule feeds the group from one interface. -/
def DeviceFinding.count (finding : DeviceFinding) (group : GroupId) (rule : Rule) : DeviceFinding :=
  let scanned := { finding with rulesScanned := finding.rulesScanned + 1 }
  if rule.groups.contains group && rule.binding.care then
    { scanned with interfaces := scanned.interfaces.add rule.binding.interface }
  else scanned

namespace CrossReference

/-- The log of a rule: a line if it feeds the group from one interface. -/
def logRule (group : GroupId) (rule : Rule) : Run Unit :=
  if rule.groups.contains group && rule.binding.care then
    Run.log (.ruleFeeds rule.name group rule.binding.interface)
  else Run.pure ()

/-- Reads rules to the end of the table; `fuel` bounds the number of rules left. -/
def scan (group : GroupId) : Nat → RuleCursor → DeviceFinding → Run DeviceFinding
  | 0, _, finding => return finding
  | fuel + 1, cursor, finding => do
      let (rule, cursor) ← Run.call cursor.read (.ruleRead finding.device)
      match rule with
      | none => return finding
      | some rule =>
          logRule group rule
          scan group fuel cursor (finding.count group rule)

/-- Walks the rule table of a session by ascending priority. -/
def scanTable (session : RuleSession) (group : GroupId) (finding : DeviceFinding) :
    Run DeviceFinding := do
  let cursor ← Run.call (session.openCursor .priority)
    (.rulesSetup finding.device "opening rule cursor")
  scan group (cursor.rules.length + 1) cursor finding

/-- Carries out a run on a session and closes the session, whatever the run's result. -/
def closing {α : Type} (session : RuleSession) (run : Run α) : Run α := fun w =>
  match run w with
  | (result, w) => (result, { w with platform := session.close w.platform })

/-- Searches the rules of a device for the interfaces that feed a group. -/
def searchRules (queue : String) (group : GroupId) (finding : DeviceFinding) :
    Run DeviceFinding := do
  let session ← Run.call (·.openRules finding.device)
    (.rulesSetup finding.device ("opening rules queue " ++ queue))
  closing session do
    Run.log (.rulesOpened finding.device queue)
    scanTable session group finding

/-- Searches one device. -/
def searchDevice (queue : String) (dest : DestId) (device : DeviceId) : Run DeviceFinding :=
    Run.within (.searchDevice dest device) do
  let groups ← Run.call (·.readGroups device)
    (.device "retrieving load balance group destinations" device)
  match holders groups dest with
  | [] =>
      Run.log (.notHeld device dest)
      return ⟨device, none, [], .empty, 0⟩
  | group :: others =>
      if others.isEmpty then Run.pure () else Run.log (.heldTwice device dest group others)
      searchRules queue group ⟨device, some group, others, .empty, 0⟩

/-! ## §3. The search on several devices. -/

/-- Searches devices one after the other; the first failure ends the search. -/
def searchAll (queue : String) (dest : DestId) : List DeviceId → Run (List DeviceFinding)
  | [] => return []
  | device :: devices => do
      let finding ← searchDevice queue dest device
      let findings ← searchAll queue dest devices
      return finding :: findings

/-- Searches devices for the interfaces that feed a destination. -/
def search (queue : String) (dest : DestId) (devices : List DeviceId) : Run CrossReference := do
  let findings ← searchAll queue dest devices
  let report : CrossReference := ⟨dest, findings⟩
  Run.log (.fed dest report.interfaces.entries.length)
  return report

end CrossReference

end FlowProcessor
