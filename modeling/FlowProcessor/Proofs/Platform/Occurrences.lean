/-
  FlowProcessor.Proofs.Platform.Occurrences — A PLATFORM KEEPS ITS DEVICES.

  An occurrence is anything that can happen to a platform: a request, a change of its setup, a
  whole run of group commands, of a search or of a plan, and the coming and going of faults.  None
  of them adds or removes a device where all four are listed.  Only a change of the setup could
  list more, up to the device that it is about, and there is nothing left to list.

    • `Occurrence`, `Workspace.history` — what can happen, and what comes of it
    • `Workspace.complete_undergo`      — one occurrence
    • `Workspace.complete_history`      — any history
-/
import FlowProcessor.Platform.Workspace
import FlowProcessor.Proofs.CrossReference.Search
import FlowProcessor.Proofs.Forwarding.Clients
import FlowProcessor.Proofs.Forwarding.Effect
import FlowProcessor.Proofs.Groups.Runs

namespace FlowProcessor

/-! ## §1. What can happen. -/

/-- What can happen to a platform and to what is open on it. -/
inductive Occurrence
  | asked (request : Request)
  | dropped (session : SessionName)
  | presenceSet (device : DeviceId) (present : Bool)
  | ruleAdded (device : DeviceId) (rule : Rule)
  | faultInjected (call : Call) (error : PlatformError)
  | faultsCleared
  | callsCleared
  /-- Group commands are run, up to the first that fails; the output may come to an end. -/
  | commandsRun (device : DeviceId) (commands : List GroupCommand) (out : Sink)
  | searched (queue : String) (dest : DestId) (devices : List DeviceId) (out : Sink)
  /-- A plan is carried out, to whatever end. -/
  | planApplied (configurator : Configurator) (plan : ForwardingPlan) (readback : Readback)
      (out : Sink)

namespace Workspace

/-- The workspace after an occurrence. -/
def undergo (w : Workspace) : Occurrence → Workspace
  | .asked request => (w.ask request).2
  | .dropped session => w.drop session
  | .presenceSet device present => w.on (w.platform.setPresent device present)
  | .ruleAdded device rule => w.on (w.platform.addRule device rule)
  | .faultInjected call error => w.on (w.platform.injectFault call error)
  | .faultsCleared => w.on w.platform.clearFaults
  | .callsCleared => w.on w.platform.clearCalls
  | .commandsRun device commands out =>
      w.on (GroupRun.run device commands (.start w.platform out)).2.platform
  | .searched queue dest devices out =>
      w.on (CrossReference.search queue dest devices (.start w.platform out)).2.platform
  | .planApplied configurator plan readback out =>
      w.on (configurator.apply plan readback (.start w.platform out)).2.platform

/-- The workspace after a sequence of occurrences. -/
def history (w : Workspace) (occurrences : List Occurrence) : Workspace :=
  occurrences.foldl undergo w

end Workspace

/-! ## §2. Complete states. -/

namespace PlatformState

/-- Every device is listed. -/
def Complete (s : PlatformState) : Prop := s.devices.length = deviceCount

variable {s s' : PlatformState} {device : DeviceId}

theorem complete_initial : PlatformState.initial.Complete := List.length_replicate

theorem Complete.of_devices_eq (h : s.Complete) (hdevices : s'.devices = s.devices) :
    s'.Complete := by
  unfold Complete
  rw [hdevices]
  exact h

theorem Complete.modifyDevice (h : s.Complete) (f : DeviceState → DeviceState) :
    (s.modifyDevice device f).Complete :=
  (List.length_modify ..).trans h

/-- There is nothing left to list. -/
theorem Complete.extendTo (h : s.Complete) : (s.extendTo device).Complete := by
  show (s.devices.rightpad (device.val + 1) .installed).length = _
  rw [List.length_rightpad]
  have hlength : s.devices.length = 4 := h
  have hdevice : device.val < 4 := device.isLt
  show max _ _ = 4
  omega

theorem Complete.sameButGroups (h : s.Complete) (hsame : s.SameButGroups s') : s'.Complete := by
  have hlength := congrArg List.length hsame.setups
  rw [List.length_map, List.length_map] at hlength
  exact hlength.trans h

end PlatformState

/-! ## §3. One occurrence. -/

variable {p : Platform} {w : Workspace}

namespace Platform

/-- A call that changes one device keeps the devices. -/
theorem complete_perform_modify {call : Call} {device : DeviceId}
    {f : DeviceState → DeviceState} (h : p.state.Complete) :
    (p.perform call (.check (·.installed device) >>= fun _ =>
      .change (·.modifyDevice device f))).2.state.Complete := by
  cases hrefusal : p.deviceRefusal? call device with
  | some error =>
      rw [perform_of_deviceRefusal _ hrefusal]
      exact h
  | none =>
      obtain ⟨d, -, hservice⟩ :=
        perform_of_installed (fun _ => .change (·.modifyDevice device f)) hrefusal
      rw [hservice]
      exact h.modifyDevice f

theorem complete_perform_read {α : Type} {call : Call} {device : DeviceId} {f : DeviceState → α}
    (h : p.state.Complete) :
    (p.perform call (.check (·.installed device) >>= fun d =>
      Service.pure (f d))).2.state.Complete := by
  rw [perform_snd_of_read]
  exact h

end Platform

namespace Workspace

theorem conclude_platform {α : Type} {accept : α → Workspace → Answer × Workspace}
    (hkeep : ∀ a w, (accept a w).2.platform = w.platform)
    (outcome : Except PlatformError α × Platform) :
    (w.conclude accept outcome).2.platform = outcome.2 := by
  obtain ⟨result, p⟩ := outcome
  cases result with
  | error error => rfl
  | ok a => exact hkeep a _

/-- The actions of clients change no device. -/
theorem devices_of_does {c c' : Clients} {action : ClientAction} {answer : ClientAnswer}
    (h : c.Does action answer c') : c'.platform.state.devices = c.platform.state.devices := by
  cases h with
  | unknown | refused | opened | granted | answered | released | unreleased => rfl

/-- A request keeps the devices. -/
theorem complete_ask (h : w.platform.state.Complete) (request : Request) :
    (w.ask request).2.platform.state.Complete := by
  cases request with
  | readGroups device =>
      rw [ask, conclude_platform fun _ _ => rfl]
      exact Platform.complete_perform_read h
  | writeGroup device group dests =>
      rw [ask, conclude_platform fun _ _ => rfl]
      exact Platform.complete_perform_modify h
  | writeAllGroups device groups =>
      rw [ask, conclude_platform fun _ _ => rfl]
      exact Platform.complete_perform_modify h
  | clearGroups device =>
      rw [ask, conclude_platform fun _ _ => rfl]
      exact Platform.complete_perform_modify h
  | openRules name device =>
      rw [ask, conclude_platform fun _ _ => rfl]
      exact Platform.complete_perform_read h
  | openCursor name cursor order =>
      -- no call is made where the session is not open
      rw [ask]
      cases w.session? name with
      | none => exact h
      | some session =>
          dsimp only
          rw [conclude_platform fun _ _ => rfl]
          exact Platform.complete_perform_read h
  | readRule name =>
      cases hopen : w.cursor? name with
      | none =>
          simp only [ask, hopen]
          exact h
      | some cursor =>
          rw [ask_readRule hopen, cursor.next_snd]
          exact h
  | forwarding action => exact h.of_devices_eq (devices_of_does (w.clients.does_step action))

theorem complete_drop (h : w.platform.state.Complete) (name : SessionName) :
    (w.drop name).platform.state.Complete := by
  unfold drop
  split
  · exact h
  · exact h

/-- A run of group commands changes group masks at most, wherever it stops. -/
theorem sameButGroups_run (device : DeviceId) (commands : List GroupCommand) (world : World) :
    world.platform.state.SameButGroups
      (GroupRun.run device commands world).2.platform.state := by
  obtain ⟨ran, hrun⟩ : ∃ ran, GroupRun.run device commands world = ran := ⟨_, rfl⟩
  rw [hrun]
  cases GroupRun.run_concludes hrun with
  | completed achieved => exact achieved.same
  | @stopped done rest command error between ended split alone achieved failed =>
      have hlast : between.platform.state.SameButGroups ended.platform.state := by
        cases failed with
        -- the last command was refused, or done without being able to say so
        | refused action makes refusal => exact .refl _
        | unwritten admitted failed => exact command.sameButGroups_effect _ _
      have hplatform : (if done.any (·.isWrite) then
          ended.note (.stopped (done.length + 1) commands.length command)
            else ended).platform = ended.platform := by
        split <;> rfl
      rw [hplatform]
      exact achieved.same.trans hlast

/-- A plan changes the forwarding configuration at most. -/
theorem devices_of_apply (configurator : Configurator) (plan : ForwardingPlan)
    (readback : Readback) (world : World) :
    (configurator.apply plan readback world).2.platform.state.devices
      = world.platform.state.devices := by
  obtain ⟨outcome, made, f, world', hrun, -, hafter⟩ :=
    apply_ends plan readback world.over_self feasible_steps
  rw [Configurator.apply_eq hrun, hafter.platform, Platform.after_devices]

/-- **No occurrence adds or removes a device.** -/
theorem complete_undergo (h : w.platform.state.Complete) (occurrence : Occurrence) :
    (w.undergo occurrence).platform.state.Complete := by
  cases occurrence with
  | asked request => exact complete_ask h request
  | dropped session => exact complete_drop h session
  | presenceSet device present => exact h.extendTo.modifyDevice _
  | ruleAdded device rule => exact h.extendTo.modifyDevice _
  | faultInjected | faultsCleared | callsCleared => exact h
  | commandsRun device commands out =>
      exact h.sameButGroups (sameButGroups_run device commands (.start w.platform out))
  | searched queue dest devices out =>
      have hsame := CrossReference.search_keeps queue dest devices (.start w.platform out)
      exact h.of_devices_eq (congrArg PlatformState.devices hsame.state)
  | planApplied configurator plan readback out =>
      exact h.of_devices_eq
        (devices_of_apply configurator plan readback (.start w.platform out))

/-! ## §4. Any history. -/

/-- **A platform with all its devices has them after any history.** -/
theorem complete_history (h : w.platform.state.Complete) (occurrences : List Occurrence) :
    (w.history occurrences).platform.state.Complete := by
  induction occurrences generalizing w with
  | nil => exact h
  | cons occurrence occurrences ih => exact ih (complete_undergo h occurrence)

end Workspace

end FlowProcessor
