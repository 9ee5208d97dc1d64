/-
  FlowProcessor.Proofs.Platform.Setup — CHANGES OF THE SETUP.

  A device is installed or removed, or given a rule.  This may be the first thing that is said of
  it: a platform can list fewer devices than there can be, and then every device up to that one
  is listed as well.  A device that is listed before, and one beyond all that are listed after, is
  left as it was, and so is everything that can be asked about it.  A device in between is not: it
  was not there, and is installed from then on.

    • `SetupChange`       — what can be changed
    • `devices_apply`     — the slots of the other devices
    • `sameAt_of_device?` — what is asked about a device depends on its slot and on the faults
    • `setup_frame`       — which devices are left alone, and what becomes of the others
-/
import FlowProcessor.Proofs.Platform.Queries

namespace FlowProcessor

/-! ## §1. Changes. -/

/-- A change of the setup. -/
inductive SetupChange
  | presenceSet (device : DeviceId) (present : Bool)
  | ruleAdded (device : DeviceId) (rule : Rule)

namespace SetupChange

/-- The device that a change is about. -/
def device : SetupChange → DeviceId
  | .presenceSet device _ | .ruleAdded device _ => device

/-- The platform after a change. -/
def apply (p : Platform) : SetupChange → Platform
  | .presenceSet device present => p.setPresent device present
  | .ruleAdded device rule => p.addRule device rule

/-- What a change does to its device. -/
def entry : SetupChange → DeviceState → DeviceState
  | .presenceSet _ present, d => { d with present := present }
  | .ruleAdded _ rule, d => { d with rules := d.rules ++ [rule] }

variable {p : Platform} {change : SetupChange} {other : DeviceId}

theorem apply_eq :
    change.apply p
      = { p with
          state := (p.state.extendTo change.device).modifyDevice change.device change.entry } := by
  cases change <;> rfl

theorem faults_apply : (change.apply p).faults = p.faults := by
  rw [apply_eq]

/-- The slots of the devices that a change is not about. -/
theorem devices_apply (hother : other ≠ change.device) :
    (change.apply p).state.devices[other.val]?
      = if p.state.devices.length ≤ other.val ∧ other.val < change.device.val then
          some .installed
        else p.state.devices[other.val]? := by
  have hslot : change.device.val ≠ other.val := fun heq => hother (Fin.ext heq).symm
  rw [apply_eq]
  show ((p.state.devices.rightpad (change.device.val + 1) .installed).modify change.device.val
    change.entry)[other.val]? = _
  rw [List.getElem?_modify_ne _ _ hslot, List.rightpad, List.getElem?_append,
    List.getElem?_replicate]
  by_cases hlisted : other.val < p.state.devices.length
  · rw [if_pos hlisted, if_neg (fun h => absurd h.1 (Nat.not_le_of_lt hlisted))]
  · rw [if_neg hlisted, List.getElem?_eq_none (Nat.le_of_not_lt hlisted)]
    by_cases hbefore : other.val < change.device.val
    · rw [if_pos (by omega), if_pos (by omega)]
    · rw [if_neg (by omega), if_neg (by omega)]

/-- A device that is not listed up to the device of the change is installed by it. -/
theorem device?_apply_of_between (hlist : p.state.devices.length ≤ other.val)
    (hbefore : other.val < change.device.val) :
    p.state.device? other = none
      ∧ (change.apply p).state.device? other = some .installed := by
  have hother : other ≠ change.device := by
    rintro rfl
    exact Nat.lt_irrefl _ hbefore
  unfold PlatformState.device?
  rw [devices_apply hother, if_pos ⟨hlist, hbefore⟩, List.getElem?_eq_none hlist]
  exact ⟨rfl, rfl⟩

end SetupChange

/-! ## §2. What is asked about a device. -/

/-- Whatever is asked about a device is answered the same by both platforms, and what is written
there is the same afterwards. -/
structure Platform.SameAt (device : DeviceId) (p q : Platform) : Prop where
  groups : (q.readGroups device).1 = (p.readGroups device).1
  written : ∀ group dests,
    (q.writeGroup device group dests).1 = (p.writeGroup device group dests).1
      ∧ (q.writeGroup device group dests).2.state.device? device
        = (p.writeGroup device group dests).2.state.device? device
  opened : (q.openRules device).1 = (p.openRules device).1
  /-- A cursor has the rules of the device from its opening. -/
  cursors : ∀ order, ((RuleSession.mk device).openCursor order q).1
    = ((RuleSession.mk device).openCursor order p).1
  read : ∀ cursor : RuleCursor, (cursor.read q).1 = (cursor.read p).1

section SameAt

variable {p q : Platform} {device : DeviceId} {α : Type} {call : Call}

theorem deviceRefusal?_congr (call : Call) (hfaults : q.faults = p.faults)
    (hdevice : q.state.device? device = p.state.device? device) :
    q.deviceRefusal? call device = p.deviceRefusal? call device := by
  unfold Platform.deviceRefusal?
  rw [hfaults, hdevice]

/-- A call that is about a device is answered from its slot, unless a fault answers, and leaves
there what it makes of it. -/
theorem perform_congr_of_device? (hfaults : q.faults = p.faults)
    (hdevice : q.state.device? device = p.state.device? device)
    (next : DeviceState → Service PlatformState α)
    (hanswer : ∀ d, (next d q.state).1 = (next d p.state).1)
    (hleft : ∀ d, (next d q.state).2.device? device = (next d p.state).2.device? device) :
    (q.perform call (.check (·.installed device) >>= next)).1
        = (p.perform call (.check (·.installed device) >>= next)).1
      ∧ (q.perform call (.check (·.installed device) >>= next)).2.state.device? device
        = (p.perform call (.check (·.installed device) >>= next)).2.state.device? device := by
  have hrefusal := deviceRefusal?_congr call hfaults hdevice
  cases hp : p.deviceRefusal? call device with
  | some error =>
      rw [Platform.perform_of_deviceRefusal next hp,
        Platform.perform_of_deviceRefusal next (hrefusal.trans hp)]
      exact ⟨rfl, hdevice⟩
  | none =>
      obtain ⟨d, hd, hservice⟩ := Platform.perform_of_installed next hp
      obtain ⟨e, he, hservice'⟩ := Platform.perform_of_installed next (hrefusal.trans hp)
      -- both have the same entry there
      obtain rfl : e = d := Option.some.inj (he.symm.trans (hdevice.trans hd))
      rw [hservice, hservice', hanswer]
      exact ⟨rfl, hleft e⟩

/-- A change that neither installs nor removes a device is seen in its own slot. -/
theorem PlatformState.device?_modifyDevice {s : PlatformState} {f : DeviceState → DeviceState}
    (hf : ∀ d, (f d).present = d.present) :
    (s.modifyDevice device f).device? device = (s.device? device).map f := by
  unfold PlatformState.device? PlatformState.modifyDevice
  rw [List.getElem?_modify_eq]
  cases s.devices[device.val]? with
  | none => rfl
  | some d =>
      show Option.filter (·.present) (some (f d))
        = Option.map f (Option.filter (·.present) (some d))
      rw [Option.filter_some, Option.filter_some, hf]
      cases d.present <;> rfl

/-- A call that only asks about a device is answered from its slot. -/
theorem read_congr_of_device? (hfaults : q.faults = p.faults)
    (hdevice : q.state.device? device = p.state.device? device) (f : DeviceState → α) :
    (q.perform call (.check (·.installed device) >>= fun d => Service.pure (f d))).1
      = (p.perform call (.check (·.installed device) >>= fun d => Service.pure (f d))).1 :=
  (perform_congr_of_device? hfaults hdevice (fun d => Service.pure (f d)) (fun _ => rfl)
    fun _ => hdevice).1

/-- **What is asked about a device depends on its slot and on the faults, and on nothing else.** -/
theorem sameAt_of_device? (hfaults : q.faults = p.faults)
    (hdevice : q.state.device? device = p.state.device? device) : p.SameAt device q where
  groups := read_congr_of_device? hfaults hdevice _
  written group dests := by
    refine perform_congr_of_device? hfaults hdevice _ (fun _ => rfl) fun _ => ?_
    dsimp only [Service.change]
    rw [PlatformState.device?_modifyDevice, PlatformState.device?_modifyDevice, hdevice]
    all_goals exact fun _ => rfl
  opened := read_congr_of_device? hfaults hdevice _
  cursors order := read_congr_of_device? hfaults hdevice _
  read cursor := by
    rw [RuleCursor.read_eq, RuleCursor.read_eq, RuleCursor.next_fst_congr hfaults]

end SameAt

/-! ## §3. The devices that a change is not about. -/

/-- **A change of the setup of one device leaves every other device as it was, unless this was not
listed and comes before that one: then it is there from now on, and empty.** -/
theorem setup_frame (p : Platform) (change : SetupChange) (other : DeviceId)
    (hother : other ≠ change.device) :
    (other.val < p.state.devices.length ∨ change.device.val < other.val →
        p.SameAt other (change.apply p))
      ∧ (p.state.devices.length ≤ other.val → other.val < change.device.val →
        p.state.device? other = none
          ∧ (change.apply p).state.device? other = some .installed) := by
  refine ⟨fun hkept => ?_, fun hlist hbefore => ?_⟩
  · refine sameAt_of_device? SetupChange.faults_apply ?_
    unfold PlatformState.device?
    rw [SetupChange.devices_apply hother, if_neg]
    omega
  · exact SetupChange.device?_apply_of_between hlist hbefore

/-- Of a platform that lists two devices, device 3 is given a rule: device 1 is still not
installed, and device 2 is from now on. -/
theorem setup_frame_of_two_devices :
    ∃ p q : Platform,
      p = .ofState ⟨[.installed, .absent], .initial⟩
      ∧ q = (SetupChange.ruleAdded 3 ⟨"r", 1, ⟨2⟩, ⟨⟨5⟩, true⟩⟩).apply p
      ∧ (q.readGroups 1).1 = .error (.noDevice 1)
      ∧ p.state.device? 2 = none
      ∧ q.state.device? 2 = some .installed := by
  obtain ⟨hkept, -⟩ := setup_frame (.ofState ⟨[.installed, .absent], .initial⟩)
    (.ruleAdded 3 ⟨"r", 1, ⟨2⟩, ⟨⟨5⟩, true⟩⟩) 1 (by decide)
  obtain ⟨-, hlisted⟩ := setup_frame (.ofState ⟨[.installed, .absent], .initial⟩)
    (.ruleAdded 3 ⟨"r", 1, ⟨2⟩, ⟨⟨5⟩, true⟩⟩) 2 (by decide)
  obtain ⟨hbefore, hafter⟩ := hlisted (by decide) (by decide)
  exact ⟨_, _, rfl, rfl, (hkept (.inl (by decide))).groups, hbefore, hafter⟩

/-- Of a platform that lists nothing, device 3 is installed, and with it device 0. -/
theorem setup_of_device_installs_another :
    ¬ ∀ (p : Platform) (change : SetupChange) (other : DeviceId), other ≠ change.device →
      p.SameAt other (change.apply p) := by
  intro h
  have hsame := (h (.ofState ⟨[], .initial⟩) (.presenceSet 3 true) 0 (by decide)).groups
  have hbefore : (Platform.readGroups (.ofState ⟨[], .initial⟩) 0).1
      = .error (.noDevice 0) := rfl
  have hafter : (((SetupChange.presenceSet 3 true).apply
      (.ofState ⟨[], .initial⟩)).readGroups 0).1 = .ok .empty := rfl
  rw [hbefore, hafter] at hsame
  cases hsame

end FlowProcessor
