/-
  FlowProcessor.Proofs.Platform.Devices — WHAT A CHANGE OF A DEVICE LEAVES ALONE.

  The load-balance calls change group masks and nothing else.  Which devices are installed, their
  rules and the forwarding configuration stay as they are, and with them every answer that depends
  on nothing but these.

    • `SameButGroups`       — two states that differ in group masks at most
    • `mask?_modifyDevice`  — the masks after a change of one device
    • `ext_of_masks`        — a state is told by its masks and by what no load-balance call changes
    • `deviceRefusal?`      — when a call that addresses a device is refused, and with which error
-/
import FlowProcessor.Proofs.Platform.Service

namespace FlowProcessor

namespace PlatformState

/-! ## §1. States that differ in group masks at most. -/

/-- Whether a device is installed, and its rules. -/
def setup (d : DeviceState) : Bool × List Rule := (d.present, d.rules)

/-- The second state has the devices, rules and forwarding configuration of the first. -/
structure SameButGroups (s s' : PlatformState) : Prop where
  setups : s'.devices.map setup = s.devices.map setup
  forwarding : s'.forwarding = s.forwarding

variable {s s' s'' : PlatformState} {device : DeviceId}

theorem SameButGroups.refl (s : PlatformState) : SameButGroups s s := ⟨rfl, rfl⟩

theorem SameButGroups.symm (h : SameButGroups s s') : SameButGroups s' s :=
  ⟨h.setups.symm, h.forwarding.symm⟩

theorem SameButGroups.trans (h : SameButGroups s s') (h' : SameButGroups s' s'') :
    SameButGroups s s'' :=
  ⟨h'.setups.trans h.setups, h'.forwarding.trans h.forwarding⟩

theorem SameButGroups.setup_getElem? (h : SameButGroups s s') (i : Nat) :
    s'.devices[i]?.map setup = s.devices[i]?.map setup := by
  rw [← List.getElem?_map, ← List.getElem?_map, h.setups]

/-- The same devices are installed. -/
theorem SameButGroups.isSome_device? (h : SameButGroups s s') (device : DeviceId) :
    (s'.device? device).isSome = (s.device? device).isSome := by
  have hpresent : ∀ o : Option DeviceState,
      (o.filter (·.present)).isSome = ((o.map setup).map (·.1)).getD false := by
    intro o
    cases o with
    | none => rfl
    | some d => cases hd : d.present <;> simp [setup, hd]
  unfold device?
  rw [hpresent, hpresent, h.setup_getElem?]

/-- A change of the group masks of a device. -/
theorem sameButGroups_modifyDevice {f : DeviceState → DeviceState}
    (hf : ∀ d, setup (f d) = setup d) : SameButGroups s (s.modifyDevice device f) where
  setups := by
    refine List.ext_getElem? fun i => ?_
    show ((s.devices.modify device.val f).map setup)[i]? = _
    rw [List.getElem?_map, List.getElem?_map, List.getElem?_modify]
    cases s.devices[i]? with
    | none => rfl
    | some d =>
        by_cases hi : device.val = i
        · simp [hi, hf]
        · simp [hi]
  forwarding := rfl

/-! ## §2. Group tables. -/

/-- The group table in a slot, by a look-up. -/
theorem groupsOf_eq (s : PlatformState) (device : DeviceId) :
    s.groupsOf device = (s.devices[device.val]?.map (·.groups)).getD .empty := by
  unfold groupsOf
  cases s.devices[device.val]? <;> rfl

/-- An installed device is listed with its group table. -/
theorem listed_of_device? {d : DeviceState} (h : s.device? device = some d) :
    s.devices[device.val]? = some d ∧ d.present = true := by
  unfold device? at h
  exact ⟨(Option.filter_eq_some_iff.mp h).1, (Option.filter_eq_some_iff.mp h).2⟩

theorem groupsOf_of_device? {d : DeviceState} (h : s.device? device = some d) :
    s.groupsOf device = d.groups := by
  rw [groupsOf_eq, (listed_of_device? h).1]
  rfl

/-! ## §3. Masks. -/

/-- The mask of a group in a slot, if the slot is listed. -/
def mask? (s : PlatformState) (slot : Nat) (group : GroupId) : Option DestSet :=
  s.devices[slot]?.map (·.groups.get group)

/-- Two entries with the same setup and the same masks are equal. -/
theorem device_ext {d e : DeviceState} (hsetup : setup d = setup e)
    (hmasks : ∀ group : GroupId, d.groups.get group = e.groups.get group) : d = e := by
  obtain ⟨present, groups, rules⟩ := d
  obtain ⟨present', groups', rules'⟩ := e
  obtain ⟨rfl, rfl⟩ := Prod.mk.inj hsetup
  obtain rfl : groups = groups' := Vector.ext fun i hi => hmasks ⟨i, hi⟩
  rfl

/-- **States that differ in masks at most, and not in these, are equal.** -/
theorem ext_of_masks (hsame : s.SameButGroups s')
    (hmasks : ∀ slot group, s.mask? slot group = s'.mask? slot group) : s = s' := by
  have hdevices : s.devices = s'.devices := by
    refine List.ext_getElem? fun slot => ?_
    have hsetup := hsame.setup_getElem? slot
    have hslot : ∀ group : GroupId, s.devices[slot]?.map (·.groups.get group)
        = s'.devices[slot]?.map (·.groups.get group) := hmasks slot
    cases hs : s.devices[slot]? with
    | none =>
        rw [hs] at hsetup
        rw [Option.map_eq_none_iff.mp hsetup]
    | some d =>
        rw [hs] at hsetup
        obtain ⟨e, hs', hsetup'⟩ := Option.map_eq_some_iff.mp hsetup
        rw [hs']
        refine congrArg some (device_ext hsetup'.symm fun group => ?_)
        have hgroup := hslot group
        rw [hs, hs'] at hgroup
        exact Option.some.inj hgroup
  obtain ⟨devices, forwarding⟩ := s
  obtain ⟨devices', forwarding'⟩ := s'
  obtain rfl : devices = devices' := hdevices
  obtain rfl : forwarding = forwarding' := hsame.forwarding.symm
  rfl

theorem groupsOf_get (s : PlatformState) (device : DeviceId) (group : GroupId) :
    (s.groupsOf device).get group = (s.mask? device.val group).getD .empty := by
  rw [groupsOf_eq]
  unfold mask?
  cases s.devices[device.val]? with
  | none => exact Vector.getElem_replicate _
  | some d => rfl

/-- The group table of a device is told by its masks. -/
theorem groupsOf_congr (hmasks : ∀ group, s.mask? device.val group = s'.mask? device.val group) :
    s.groupsOf device = s'.groupsOf device := by
  refine Vector.ext fun i hi => ?_
  show (s.groupsOf device).get ⟨i, hi⟩ = (s'.groupsOf device).get ⟨i, hi⟩
  rw [groupsOf_get, groupsOf_get, hmasks]

/-- A change of a device changes the masks in its slot. -/
theorem mask?_modifyDevice {f : DeviceState → DeviceState} (slot : Nat) (group : GroupId) :
    (s.modifyDevice device f).mask? slot group
      = if device.val = slot then s.devices[slot]?.map (fun d => (f d).groups.get group)
        else s.mask? slot group := by
  unfold mask? modifyDevice
  rw [List.getElem?_modify]
  by_cases hslot : device.val = slot
  · rw [if_pos hslot]
    cases s.devices[slot]? with
    | none => rfl
    | some d => simp [hslot]
  · rw [if_neg hslot]
    cases s.devices[slot]? with
    | none => rfl
    | some d => simp [hslot]

end PlatformState

/-! ## §4. Calls that address a device. -/

namespace Platform

/-- The error of a call that addresses a device: that of a registered fault, or else that the
device is not installed. -/
def deviceRefusal? (p : Platform) (call : Call) (device : DeviceId) : Option PlatformError :=
  (p.faults.find? call).or
    (if (p.state.device? device).isSome then none else some (.noDevice device))

variable {p : Platform} {call : Call} {device : DeviceId} {α : Type}
variable (next : DeviceState → Service PlatformState α)

theorem perform_of_deviceRefusal {error : PlatformError}
    (h : p.deviceRefusal? call device = some error) :
    p.perform call (.check (·.installed device) >>= next) = (.error error, p.record call) := by
  unfold deviceRefusal? at h
  cases hfault : p.faults.find? call with
  | some fault =>
      rw [hfault] at h
      obtain rfl := Option.some.inj h
      exact perform_of_fault hfault
  | none =>
      rw [hfault, Option.none_or] at h
      -- the device is looked up before anything else is done
      refine perform_of_refusal hfault (Service.bind_of_error (Service.check_eq ?_))
      unfold PlatformState.installed
      cases hdevice : p.state.device? device with
      | some d => simp [hdevice] at h
      | none =>
          rw [hdevice] at h
          obtain rfl := Option.some.inj h
          rfl

theorem perform_of_installed (h : p.deviceRefusal? call device = none) :
    ∃ d, p.state.device? device = some d
      ∧ p.perform call (.check (·.installed device) >>= next)
        = ((next d p.state).1, { p.record call with state := (next d p.state).2 }) := by
  obtain ⟨hfault, hpresent⟩ := Option.or_eq_none_iff.mp h
  cases hdevice : p.state.device? device with
  | none =>
      rw [hdevice] at hpresent
      cases hpresent
  | some d =>
      refine ⟨d, rfl, attend_of_served hfault (Service.bind_of_ok (Service.check_eq ?_))⟩
      unfold PlatformState.installed
      rw [hdevice]

end Platform

end FlowProcessor
