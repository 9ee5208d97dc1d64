/-
  FlowProcessor.Proofs.Platform.Persistence — A PLATFORM SURVIVES ITS FILE.

  Loading lists an absent device in every slot that the file leaves out, so that a platform that
  was obtained in any way lists all of them.  It keeps them whatever happens, and a complete state
  is loaded from its own text as it is.

    • `PlatformState.load_of_read`   — what loading makes of a text
    • `PlatformState.load_text`      — a complete state is loaded from its text as it is
    • `StateFile.open_of_write`      — a complete state that was saved is what is opened
    • `state_survives_saving`        — loading, any history, and saving
-/
import FlowProcessor.Proofs.Files
import FlowProcessor.Proofs.Platform.Occurrences
import FlowProcessor.Proofs.Platform.RoundTrip
import FlowProcessor.StateFile

namespace FlowProcessor

/-! ## §1. Loading. -/

namespace PlatformState

variable {s : PlatformState} {path text : String}

/-- The slots that are not listed hold absent devices. -/
theorem completed_devices (s : PlatformState) :
    s.completed.devices
      = s.devices ++ List.replicate (deviceCount - s.devices.length) .absent := rfl

theorem complete_completed (h : s.devices.length ≤ deviceCount) : s.completed.Complete := by
  unfold Complete
  rw [completed_devices, List.length_append, List.length_replicate]
  omega

/-- Nothing is missing from a complete state. -/
theorem Complete.completed_eq (h : s.Complete) : s.completed = s := by
  -- no slot is left to be filled
  have hnone : deviceCount - s.devices.length = 0 := by
    rw [show s.devices.length = deviceCount from h, Nat.sub_self]
  have hdevices : s.completed.devices = s.devices := by
    rw [completed_devices, hnone]
    exact List.append_nil _
  obtain ⟨devices, forwarding⟩ := s
  exact congrArg (PlatformState.mk · forwarding) hdevices

/-- What loading makes of a text that describes a state. -/
theorem load_of_read (hread : PlatformState.read text = some s) :
    PlatformState.load path text
      = if deviceCount < s.devices.length then .error (.tooManyDevices path s.devices.length)
        else .ok s.completed := by
  unfold load
  rw [hread]

theorem load_of_few (hread : PlatformState.read text = some s)
    (hfew : s.devices.length ≤ deviceCount) :
    PlatformState.load path text = .ok s.completed := by
  rw [load_of_read hread, if_neg (Nat.not_lt.mpr hfew)]

theorem load_of_many (hread : PlatformState.read text = some s)
    (hmany : deviceCount < s.devices.length) :
    PlatformState.load path text = .error (.tooManyDevices path s.devices.length) := by
  rw [load_of_read hread, if_pos hmany]

theorem load_of_unread (hread : PlatformState.read text = none) :
    PlatformState.load path text = .error (.malformed path) := by
  unfold load
  rw [hread]

/-- Whatever is loaded is complete. -/
theorem complete_of_load (h : PlatformState.load path text = .ok s) : s.Complete := by
  cases hread : PlatformState.read text with
  | none => rw [load_of_unread hread] at h; cases h
  | some listed =>
      rw [load_of_read hread] at h
      split at h
      · cases h
      · rename_i hfits
        obtain rfl := Except.ok.inj h
        exact complete_completed (Nat.not_lt.mp hfits)

/-- A complete state is loaded from its text as it is. -/
theorem load_text (h : s.Complete) : PlatformState.load path s.text = .ok s := by
  rw [load_of_few s.read_text (Nat.le_of_eq h), h.completed_eq]

end PlatformState

/-! ## §2. Files. -/

namespace StateFile

variable {path : String} {s : PlatformState} {d d' : Directory}

/-- A file is opened by loading its text, and nothing is written. -/
theorem runIn_open (path : String) (d : Directory) :
    (StateFile.open path).runIn d = (loaded path (d.read path), d) := rfl

theorem loaded_of_load {text : String} (htext : d.read path = .ok text)
    (h : PlatformState.load path text = .ok s) :
    loaded path (d.read path) = .ok (.ofState s, [.stateLoaded path, .platformOpened path]) := by
  rw [htext]
  simp only [loaded, h]

/-- A platform that was loaded has no calls behind it, and no faults. -/
theorem ofState_of_loaded {answer : Except FileError String} {platform : Platform}
    {before : List Event} (h : loaded path answer = .ok (platform, before)) :
    platform = .ofState platform.state := by
  unfold loaded at h
  split at h
  · split at h
    · cases h
      rfl
    · cases h
  · cases h
    rfl
  · cases h

theorem open_of_load {text : String} (htext : d.read path = .ok text)
    (h : PlatformState.load path text = .ok s) :
    (StateFile.open path).runIn d
      = (.ok (.ofState s, [.stateLoaded path, .platformOpened path]), d) := by
  rw [runIn_open, loaded_of_load htext h]

theorem open_of_load_error {text : String} {error : StateError} (htext : d.read path = .ok text)
    (h : PlatformState.load path text = .error error) :
    (StateFile.open path).runIn d = (.error (.state error), d) := by
  rw [runIn_open, htext]
  simp only [loaded, h]

/-- **A file is opened exactly if its text describes a state of at most four devices.** -/
theorem opens_iff {text : String} (htext : d.read path = .ok text) :
    (∃ p events, (StateFile.open path).runIn d = (.ok (p, events), d))
      ↔ ∃ s, PlatformState.read text = some s ∧ s.devices.length ≤ deviceCount := by
  constructor
  · rintro ⟨p, events, hopen⟩
    cases hload : PlatformState.load path text with
    | error error => rw [open_of_load_error htext hload] at hopen; cases hopen
    | ok loaded =>
        cases hread : PlatformState.read text with
        | none => rw [PlatformState.load_of_unread hread] at hload; cases hload
        | some s =>
            rw [PlatformState.load_of_read hread] at hload
            refine ⟨s, rfl, Nat.not_lt.mp fun hmany => ?_⟩
            rw [if_pos hmany] at hload
            cases hload
  · rintro ⟨s, hread, hfew⟩
    exact ⟨_, _, open_of_load htext (PlatformState.load_of_few hread hfew)⟩

/-- Saving writes the text of the state. -/
theorem runIn_save (path : String) (s : PlatformState) (d : Directory) :
    (save path s).runIn d
      = match d.write path s.text with
        | .ok d' => (.ok (), d')
        | .error error => (.error (.state (.unwritable path error)), d) := by
  unfold save
  simp only [bind, Interaction.bind, Interaction.writeFile, Interaction.runIn]
  cases d.write path s.text with
  | ok d' => rfl
  | error error => rfl

theorem save_of_write (h : d.write path s.text = .ok d') :
    (save path s).runIn d = (.ok (), d') := by
  rw [runIn_save, h]

/-- **A complete state that was saved is what is opened.** -/
theorem open_of_write (hcomplete : s.Complete) (h : d.write path s.text = .ok d') :
    (StateFile.open path).runIn d'
      = (.ok (.ofState s, [.stateLoaded path, .platformOpened path]), d') :=
  open_of_load (Directory.read_of_write h) (PlatformState.load_text hcomplete)

end StateFile

/-! ## §3. From one run to the next. -/

/-- How a platform is obtained: a new one, or that of a file. -/
inductive Platform.Obtained : Platform → Prop
  | fresh : Obtained .initial
  | opened {path : String} {d d' : Directory} {p : Platform} {events : List Event}
      (opens : (StateFile.open path).runIn d = (.ok (p, events), d')) : Obtained p

theorem Platform.Obtained.complete {p : Platform} (h : p.Obtained) : p.state.Complete := by
  cases h with
  | fresh => exact PlatformState.complete_initial
  | @opened path d d' p events opens =>
      -- it was loaded from the text of the file, or there was no file
      rw [StateFile.runIn_open] at opens
      have hloaded := (Prod.mk.inj opens).1
      unfold StateFile.loaded at hloaded
      split at hloaded
      · rename_i text hread
        split at hloaded
        · rename_i s hload
          cases hloaded
          exact PlatformState.complete_of_load hload
        · cases hloaded
      · cases hloaded
        exact PlatformState.complete_initial
      · cases hloaded

/-- **A file is loaded exactly if its text describes a state of at most four devices; the platform
has four devices then, and everything else as the file has it.  Those that are not listed are not
installed, and have 24 empty masks and no rules.  Where there is no file, all four are installed,
with empty masks and without rules, and nothing was ever committed.  From then on there are four
devices whatever happens to the platform; it is saved wherever a file can be written, and what is
opened afterwards is exactly the state that was saved.** -/
theorem state_survives_saving (path : String) (d : Directory) :
    (∀ text, d.read path = .ok text →
      ((∃ p events, (StateFile.open path).runIn d = (.ok (p, events), d))
        ↔ ∃ s, PlatformState.read text = some s ∧ s.devices.length ≤ 4)
      ∧ ∀ s, PlatformState.read text = some s →
        (s.devices.length ≤ 4 → ∃ s' events,
          (StateFile.open path).runIn d = (.ok (.ofState s', events), d)
            ∧ s'.devices.length = 4
            ∧ s'.devices = s.devices
              ++ List.replicate (4 - s.devices.length) ⟨false, Vector.replicate 24 ⟨0⟩, []⟩
            ∧ s'.forwarding = s.forwarding)
        ∧ (4 < s.devices.length → (StateFile.open path).runIn d
          = (.error (.state (.tooManyDevices path s.devices.length)), d)))
    ∧ (d.read path = .error .missing → ∃ s events,
      (StateFile.open path).runIn d = (.ok (.ofState s, events), d)
        ∧ s.devices = List.replicate 4 ⟨true, Vector.replicate 24 ⟨0⟩, []⟩
        ∧ s.forwarding.active.domains.entries = [] ∧ s.forwarding.active.lifs.entries = []
        ∧ s.forwarding.commits = 0)
    ∧ ∀ (p : Platform) (occurrences : List Occurrence), p.Obtained →
      ∀ s, ((Workspace.idle p).history occurrences).platform.state = s →
        s.devices.length = 4
        ∧ ∀ d', d.write path s.text = .ok d' →
          (StateFile.save path s).runIn d = (.ok (), d')
          ∧ ∃ events, (StateFile.open path).runIn d' = (.ok (.ofState s, events), d') := by
  refine ⟨fun text htext => ⟨StateFile.opens_iff htext, fun s hread => ⟨?few, ?many⟩⟩,
    fun hmissing => ?fresh, fun p occurrences hobtained s hs => ?saved⟩
  case few =>
    intro hfew
    exact ⟨s.completed, _, StateFile.open_of_load htext (PlatformState.load_of_few hread hfew),
      PlatformState.complete_completed hfew, rfl, rfl⟩
  case many =>
    intro hmany
    exact StateFile.open_of_load_error htext (PlatformState.load_of_many hread hmany)
  case fresh =>
    rw [StateFile.runIn_open, hmissing]
    exact ⟨.initial, _, rfl, rfl, rfl, rfl, rfl⟩
  case saved =>
    -- whatever was done since it was obtained, no device was added or removed
    have hcomplete : s.Complete := by
      rw [← hs]
      exact Workspace.complete_history (w := .idle p) hobtained.complete occurrences
    exact ⟨hcomplete, fun d' hwrite =>
      ⟨StateFile.save_of_write hwrite, _, StateFile.open_of_write hcomplete hwrite⟩⟩

/-- Two installed devices, and no slots for others. -/
def PlatformState.twoDevices : PlatformState := ⟨[.installed, .installed], .initial⟩

/-- Without a file the platform is a fresh one.  A file of two devices becomes one of four, with a
third one installed, when that is done and the platform is saved. -/
theorem state_survives_saving_of_two_devices :
    (∃ s events, (StateFile.open "platform.json").runIn ⟨[]⟩ = (.ok (.ofState s, events), ⟨[]⟩)
      ∧ s.devices = List.replicate 4 ⟨true, Vector.replicate 24 ⟨0⟩, []⟩
      ∧ s.forwarding.active.domains.entries = [] ∧ s.forwarding.active.lifs.entries = []
      ∧ s.forwarding.commits = 0)
    ∧ ∃ d s d', (⟨[]⟩ : Directory).write "platform.json" PlatformState.twoDevices.text = .ok d
      ∧ (∃ events, (StateFile.open "platform.json").runIn d = (.ok (.ofState s, events), d)
        ∧ s.devices = [⟨true, Vector.replicate 24 ⟨0⟩, []⟩, ⟨true, Vector.replicate 24 ⟨0⟩, []⟩,
          ⟨false, Vector.replicate 24 ⟨0⟩, []⟩, ⟨false, Vector.replicate 24 ⟨0⟩, []⟩])
      ∧ (StateFile.save "platform.json" (s.setPresent 2 true)).runIn d = (.ok (), d')
      ∧ ∃ events, (StateFile.open "platform.json").runIn d'
        = (.ok (.ofState (s.setPresent 2 true), events), d') := by
  obtain ⟨d, hwrite⟩ :
      ∃ d, (⟨[]⟩ : Directory).write "platform.json" PlatformState.twoDevices.text = .ok d :=
    ⟨_, rfl⟩
  have htext : d.read "platform.json" = .ok PlatformState.twoDevices.text :=
    Directory.read_of_write hwrite
  obtain ⟨hloads, -, hsaves⟩ := state_survives_saving "platform.json" d
  obtain ⟨s, events, hopen, -, hdevices, -⟩ :=
    ((hloads _ htext).2 .twoDevices PlatformState.twoDevices.read_text).1 (by decide)
  -- the file is there, so it can be replaced
  obtain ⟨d', hwrite'⟩ := Directory.write_of_read htext (s.setPresent 2 true).text
  obtain ⟨-, hkept⟩ :=
    hsaves (.ofState s) [.presenceSet 2 true] (.opened hopen) (s.setPresent 2 true) rfl
  exact ⟨(state_survives_saving "platform.json" ⟨[]⟩).2.1 rfl,
    d, s, d', hwrite, ⟨events, hopen, hdevices⟩, hkept d' hwrite'⟩

end FlowProcessor
