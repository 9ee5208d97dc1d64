/-
  FlowProcessor.CommandLine.ForwardingTool — THE COMMAND LINE OF THE FORWARDING TOOL.

  The interfaces are listed one by one or are those of the four-port card, never both.  The
  command line describes one plan.
-/
import FlowProcessor.CommandLine.Value
import FlowProcessor.ForwardingPlan

namespace FlowProcessor

/-- A setting of the forwarding tool. -/
inductive ForwardingSetting
  | keep
  | l3
  | interface (spec : LifSpec)
  | domain (domain : DomainId)
  | slotB
  | mtu (mtu : UInt32)
  | frameType (frameType : FrameType)
  | logLevel (text : String)
  | settingsPath (path : String)
  | statePath (path : String)
  deriving DecidableEq, Repr

/-- The options of the forwarding tool. -/
def forwardingGrammar : CommandLine.Grammar ForwardingSetting :=
  [CommandLine.flag "no_clear" 'C' .keep,
    CommandLine.flag "l3" '3' .l3,
    CommandLine.readOption "iface" 'i' true LifSpec.read
      (fun error => (ToolError.input error).message) .interface,
    CommandLine.readOption "domain" 'd' false DomainId.read InputError.message .domain,
    CommandLine.flag "B1G" 'b' .slotB,
    CommandLine.readOption "mtu" 'm' false Numeral.read InputError.message .mtu,
    CommandLine.readOption "frame-type" 'f' false FrameType.read InputError.message .frameType,
    CommandLine.textOption "loglevel" 'l' .logLevel,
    CommandLine.pathOption "config" .settingsPath,
    CommandLine.pathOption "platform" .statePath]

/-- What the command line of the forwarding tool asks for. -/
structure ForwardingArguments where
  keep : Bool
  l3 : Bool
  interfaces : List LifSpec
  domain : Option DomainId
  slotB : Bool
  mtu : Option UInt32
  frameType : Option FrameType
  logLevel : Option String
  settingsPath : Option String
  statePath : Option String
  deriving DecidableEq, Repr

namespace ForwardingArguments

/-- The domain of a command line that names none. -/
def defaultDomain : DomainId := ⟨1⟩

/-- Sorts the settings of a command line. -/
def ofSettings (settings : List ForwardingSetting) : ForwardingArguments where
  keep := settings.contains .keep
  l3 := settings.contains .l3
  interfaces := settings.filterMap fun
    | .interface spec => some spec
    | _ => none
  domain := settings.findSome? fun
    | .domain domain => some domain
    | _ => none
  slotB := settings.contains .slotB
  mtu := settings.findSome? fun
    | .mtu mtu => some mtu
    | _ => none
  frameType := settings.findSome? fun
    | .frameType frameType => some frameType
    | _ => none
  logLevel := settings.findSome? fun
    | .logLevel text => some text
    | _ => none
  settingsPath := settings.findSome? fun
    | .settingsPath path => some path
    | _ => none
  statePath := settings.findSome? fun
    | .statePath path => some path
    | _ => none

/-- Reads a command line. -/
def read (args : List String) : Except CommandLine.Rejection ForwardingArguments := do
  let settings ← CommandLine.scan forwardingGrammar args
  let a := ofSettings settings
  if a.slotB && !a.interfaces.isEmpty then .error .conflict else .ok a

/-- The plan without the choices that modify it. -/
def basePlan (a : ForwardingArguments) : Except ToolError ForwardingPlan :=
  let domain := a.domain.getD defaultDomain
  let mode := if a.l3 then .l3 else .l2
  if a.slotB then .ok (.slotB domain mode)
  else ForwardingPlan.ofInterfaces domain mode a.interfaces

/-- The plan a command line describes. -/
def plan (a : ForwardingArguments) : Except ToolError ForwardingPlan :=
  a.basePlan.map fun plan =>
    let plan := if a.keep then plan.keeping else plan
    let plan := match a.mtu with
      | none => plan
      | some mtu => plan.withMtu mtu
    match a.frameType with
    | none => plan
    | some frameType => plan.withFrameType frameType

end ForwardingArguments

end FlowProcessor
