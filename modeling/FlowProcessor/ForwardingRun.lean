/-
  FlowProcessor.ForwardingRun — CARRYING OUT A FORWARDING PLAN.

  A run opens the forwarding service, takes the steps of the plan one by one, and closes the
  service.  Every step is announced by a line of output.  The first failing step ends the run;
  the service is closed all the same, and the error of the step is the one reported.

    • `Stage`      — how far a run has come
    • `Step.take`  — one step
    • `ForwardingPlan.apply` — the whole run
    • `Configurator`         — one run after another
-/
import FlowProcessor.ForwardingPlan
import FlowProcessor.Run

namespace FlowProcessor

/-! ## §1. Stages and reports. -/

/-- The last step that a run completed. -/
inductive Stage
  | idle
  | opened
  | cleared
  | domainCreated
  | configured (lif : LifId)
  | assigned (lif : LifId)
  | attached (lif : LifId)
  | committed
  | tuned (lif : LifId)
  | closed
  deriving DecidableEq, Repr

/-- A stage in words. -/
def Stage.text : Stage → String
  | .idle => "idle"
  | .opened => "open"
  | .cleared => "cleared"
  | .domainCreated => "domain created"
  | .configured lif => "lif" ++ lif.text ++ " configured"
  | .assigned lif => "lif" ++ lif.text ++ " address space set"
  | .attached lif => "lif" ++ lif.text ++ " attached"
  | .committed => "committed"
  | .tuned lif => "lif" ++ lif.text ++ " tuned"
  | .closed => "closed"

/-- The result of a run that succeeded. -/
structure ForwardingReport where
  interfaces : Nat
  /-- The rate limits as they were read back. -/
  rateLimits : List (LifId × UInt32)
  deriving DecidableEq, Repr

/-! ## §2. Steps in words. -/

namespace Step

/-- The line that announces a step. -/
def announcement (plan : ForwardingPlan) : Step → Option String
  | .clear => some "Clear existing configuration (if any)"
  | .createDomain => some ("Configure " ++ plan.mode.text ++ " domain with ID " ++ plan.domain.text)
  | .configure spec =>
      some ("Configure logical interface " ++ spec.lif.text ++ " to represent physical port "
        ++ spec.port.text
        ++ match spec.vlan with
          | .untagged => ""
          | .tagged vlan => " " ++ (VlanTag.tagged vlan).text)
  | .assign lif =>
      some ("Assign logical interface " ++ lif.text ++ " to address space ID " ++ plan.domain.text)
  | .attach lif =>
      some ("Attach logical interface " ++ lif.text ++ " to domain " ++ plan.domain.text)
  | .commit => some "Commit changes to the NFE card(s) in the platform"
  | .setMtu lif mtu => some ("Setting MTU of lif" ++ lif.text ++ " to " ++ Numeral.decimal mtu)
  | .setFrameType lif frameType =>
      some ("Setting frame type of lif" ++ lif.text ++ " to " ++ frameType.text)
  | .setRateLimit lif limit =>
      some ("Setting lif" ++ lif.text ++ " rate limit to " ++ Numeral.decimal limit)
  | .checkRateLimit lif _ => some ("Reading back lif" ++ lif.text ++ " rate limit to verify")
  | .tuned _ => none

/-- Whether the announcement is the same in every run. -/
def isFixed : Step → Bool
  | .clear | .commit => true
  | .createDomain | .configure _ | .assign _ | .attach _ | .setMtu _ _ | .setFrameType _ _
  | .setRateLimit _ _ | .checkRateLimit _ _ | .tuned _ => false

/-- What a failing step was doing. -/
def action (plan : ForwardingPlan) : Step → String
  | .clear => "clearing existing configuration"
  | .createDomain => "configuring " ++ plan.mode.text ++ " domain " ++ plan.domain.text
  | .configure spec =>
      "configuring logical interface " ++ spec.lif.text ++ " on physical port " ++ spec.port.text
  | .assign lif =>
      "assigning logical interface " ++ lif.text ++ " to address space " ++ plan.domain.text
  | .attach lif => "attaching logical interface " ++ lif.text ++ " to domain " ++ plan.domain.text
  | .commit => "commit"
  | .setMtu lif _ => "setting MTU of lif" ++ lif.text
  | .setFrameType lif _ => "setting frame type of lif" ++ lif.text
  | .setRateLimit lif _ => "setting lif" ++ lif.text ++ " rate limit"
  | .checkRateLimit lif _ => "reading back lif" ++ lif.text ++ " rate limit"
  | .tuned lif => "tuning lif" ++ lif.text

/-- What a step asks of the handle. -/
def op? (plan : ForwardingPlan) : Step → Option ForwardingOp
  | .clear => some .clear
  | .createDomain => some (.configureDomain plan.domain plan.mode)
  | .configure spec => some (.configureLif spec.lif spec.port spec.vlan)
  | .assign lif => some (.assignAddressSpace .logical lif plan.domain.word)
  | .attach lif => some (.attach plan.domain lif)
  | .commit => some .commit
  | .setMtu lif mtu => some (.setMtu .logical lif mtu)
  | .setFrameType lif frameType => some (.setFrameType .logical lif frameType)
  | .setRateLimit lif limit => some (.setRateLimit lif limit)
  | .checkRateLimit _ _ | .tuned _ => none

/-- The stage a completed step reaches; most of the tuning reaches none of its own. -/
def stage? : Step → Option Stage
  | .clear => some .cleared
  | .createDomain => some .domainCreated
  | .configure spec => some (.configured spec.lif)
  | .assign lif => some (.assigned lif)
  | .attach lif => some (.attached lif)
  | .commit => some .committed
  | .tuned lif => some (.tuned lif)
  | .setMtu _ _ | .setFrameType _ _ | .setRateLimit _ _ | .checkRateLimit _ _ => none

end Step

/-! ## §3. Taking steps. -/

/-- How far a run has come. -/
structure Progress where
  stage : Stage
  handle : ForwardingHandle
  /-- The rate limits read back so far. -/
  rateLimits : List (LifId × UInt32)
  deriving DecidableEq

/-- How the platform reports a stored rate limit; a faithful platform reports it as it is. -/
abbrev Readback : Type := UInt32 → UInt32

namespace Step

/-- The error of a step that the platform refused. -/
def cause (plan : ForwardingPlan) (step : Step) : PlatformError → ToolError :=
  .forwarding (step.action plan)

/-- Asks the handle for what the step needs and notes what was read back. -/
def perform (plan : ForwardingPlan) (readback : Readback) (step : Step) (progress : Progress) :
    Run Progress :=
  match step.op? plan with
  | some op => do
      let handle ← Run.call (progress.handle.run op) (step.cause plan)
      return { progress with handle := handle }
  | none =>
      match step with
      | .checkRateLimit lif limit => do
          let stored ← Run.call (progress.handle.readRateLimit lif) (step.cause plan)
          let actual := readback stored
          Run.writeLine false
            ("L3 exception rate limit for lif" ++ lif.text ++ " is " ++ Numeral.decimal actual)
          if actual = limit then Run.pure () else Run.log (.limitDiffers lif actual limit)
          return { progress with rateLimits := progress.rateLimits ++ [(lif, actual)] }
      | _ => return progress

/-- Takes a step: announces it, performs it and moves on to its stage. -/
def take (plan : ForwardingPlan) (readback : Readback) (step : Step) (progress : Progress) :
    Run Progress := do
  match step.announcement plan with
  | some line => Run.writeLine step.isFixed line
  | none => Run.pure ()
  let progress ← step.perform plan readback progress
  return { progress with stage := step.stage?.getD progress.stage }

end Step

/-- Takes steps up to the first failure. -/
def takeSteps (plan : ForwardingPlan) (readback : Readback) :
    List Step → Progress → World → (Progress × Option ToolError) × World
  | [], progress, w => ((progress, none), w)
  | step :: steps, progress, w =>
      match step.take plan readback progress w with
      | (.ok progress, w) => takeSteps plan readback steps progress w
      | (.error error, w) => ((progress, some error), w)

/-! ## §4. The whole run. -/

/-- How a run ended. -/
structure ForwardingOutcome where
  stage : Stage
  result : Except ToolError ForwardingReport

/-- Closes the handle of a run that failed; a failure to close is only logged. -/
def abandon (handle : ForwardingHandle) (w : World) : World :=
  match (w.note .abandoning).serve handle.close with
  | (.ok (), w) => w
  | (.error error, w) => w.note (.closeFailed error)

/-- Opens the forwarding service. -/
def openService : Run ForwardingHandle := do
  Run.writeLine true "Open forwarding configuration subsystem"
  Run.call (·.openForwarding) .unavailable

/-- Takes the steps of a plan with an open handle and closes it. -/
def ForwardingPlan.applyWith (plan : ForwardingPlan) (readback : Readback)
    (handle : ForwardingHandle) (w : World) : ForwardingOutcome × World :=
  match takeSteps plan readback plan.steps ⟨.opened, handle, []⟩ w with
  | ((progress, some error), w) =>
      (⟨progress.stage, .error error⟩, abandon progress.handle w)
  | ((progress, none), w) =>
      match Run.writeLine true "Close forwarding configuration subsystem" w with
      | (.error error, w) => (⟨progress.stage, .error error⟩, abandon progress.handle w)
      | (.ok (), w) =>
          match Run.call progress.handle.close
              (.forwarding "closing forwarding configuration subsystem") w with
          | (.error error, w) => (⟨progress.stage, .error error⟩, w)
          | (.ok (), w) =>
              (⟨.closed, .ok ⟨plan.interfaces.length, progress.rateLimits⟩⟩,
                w.note (.configured plan.domain plan.interfaces.length))

/-- Opens the service and takes the steps of a plan. -/
def ForwardingPlan.carryOut (plan : ForwardingPlan) (readback : Readback) (w : World) :
    ForwardingOutcome × World :=
  match openService w with
  | (.error error, w) => (⟨.idle, .error error⟩, w)
  | (.ok handle, w) => plan.applyWith readback handle w

/-- Carries out a plan, as a span of its own. -/
def ForwardingPlan.apply (plan : ForwardingPlan) (readback : Readback) (w : World) :
    ForwardingOutcome × World :=
  match plan.carryOut readback { w with span := some (.apply plan.domain plan.mode) } with
  | (outcome, after) => (outcome, { after with span := w.span })

/-! ## §5. One run after another. -/

/-- What carries out plans; it remembers how far its latest run came. -/
structure Configurator where
  stage : Stage
  deriving DecidableEq, Repr

namespace Configurator

/-- A configurator that has not run yet. -/
def fresh : Configurator := ⟨.idle⟩

/-- Carries out a plan and remembers the stage that was reached. -/
def apply (c : Configurator) (plan : ForwardingPlan) (readback : Readback) (w : World) :
    (Except ToolError ForwardingReport × Configurator) × World :=
  match plan.apply readback w with
  | (outcome, w) => ((outcome.result, { c with stage := outcome.stage }), w)

end Configurator

end FlowProcessor
