/-
  FlowProcessor.Proofs.Files — WHAT WAS WRITTEN IS READ.

  Writing a file puts it where the path leads.  The directories on the way are not files, so that
  the path leads there afterwards as well, and finds the text.

    • `Directory.walk_put`      — a new file is in nobody's way
    • `Directory.target`        — where a text goes, whatever it says
    • `Directory.write_eq_ok`   — what a successful write does
    • `Directory.read_of_write` — a text that was written is read
    • `Directory.write_of_read` — what can be read can be written
    • `Directory.read_other`    — a file that is read under another path
-/
import FlowProcessor.Interaction

namespace FlowProcessor

namespace Directory

variable {d d' : Directory} {path text : String}

/-! ## §1. Places. -/

section Places

variable {place other target : Place} {node : Node}

theorem node?_put_of_ne (h : other ≠ place) : (d.put place node).node? other = d.node? other := by
  have hlast : [(place, node)].find? (fun entry => entry.1 == other) = none := by
    simp [Ne.symm h]
  have hothers : ∀ entry : Place × Node,
      decide ((entry.1 != place) = true ∧ (entry.1 == other) = true) = (entry.1 == other) := by
    intro entry
    by_cases hentry : entry.1 = other
    · simp [hentry, h]
    · simp [hentry]
  unfold node? put
  rw [List.find?_append, List.find?_filter, hlast, Option.or_none, funext hothers]

theorem node?_put_self (h : isAbove place = false) :
    (d.put place node).node? place = some node := by
  have hnone : (d.nodes.filter fun entry => entry.1 != place).find?
      (fun entry => entry.1 == place) = none := by
    simp
  unfold node? put
  rw [List.find?_append, hnone, h]
  simp

theorem put_put (place : Place) (node node' : Node) :
    (d.put place node).put place node' = d.put place node' := by
  unfold put
  simp [List.filter_append, List.filter_filter]

/-- The places on the way are directories, and a file is put at none of them. -/
theorem walk_put (hfile : d.node? target ≠ some .directory) {start : Place} {names : List String}
    (h : d.walk start names = .ok place) : (d.put target node).walk start names = .ok place := by
  induction names generalizing start with
  | nil => exact h
  | cons name names ih =>
      rw [walk] at h ⊢
      cases hnode : d.node? start with
      | none => rw [hnode] at h; cases h
      | some found =>
          rw [hnode] at h
          cases found with
          | file content => cases h
          | directory =>
              have hne : start ≠ target := by
                rintro rfl
                exact hfile hnode
              rw [node?_put_of_ne hne, hnode]
              dsimp only at h ⊢
              -- where the next name leads does not depend on the files
              by_cases hstay : name = "" ∨ name = "."
              · rw [if_pos hstay] at h ⊢
                exact ih h
              · rw [if_neg hstay] at h ⊢
                by_cases hup : name = ".."
                · rw [if_pos hup] at h ⊢
                  exact ih h
                · rw [if_neg hup] at h ⊢
                  by_cases hlong : nameLimit < name.utf8ByteSize
                  · rw [if_pos hlong] at h
                    cases h
                  · rw [if_neg hlong] at h ⊢
                    exact ih h

/-- Names that end in an empty one lead to a directory. -/
theorem node?_of_walk_slash {start : Place} {names : List String}
    (h : d.walk start names = .ok place) (hlast : names.getLast? = some "") :
    d.node? place = some .directory := by
  induction names generalizing start with
  | nil => cases hlast
  | cons name names ih =>
      rw [walk] at h
      cases hnode : d.node? start with
      | none => rw [hnode] at h; cases h
      | some found =>
          rw [hnode] at h
          cases found with
          | file content => cases h
          | directory =>
              dsimp only at h
              cases names with
              | nil =>
                  -- the empty name stays where it is, and only a directory has names in it
                  obtain rfl : name = "" := Option.some.inj hlast
                  rw [if_pos (.inl rfl)] at h
                  obtain rfl : start = place := Except.ok.inj h
                  exact hnode
              | cons next names =>
                  have hrest : (next :: names).getLast? = some "" := hlast
                  split at h
                  · exact ih h hrest
                  · split at h
                    · exact ih h hrest
                    · split at h
                      · cases h
                      · exact ih h hrest

end Places

/-! ## §2. Where a text goes. -/

/-- The place where a text for a path is put. -/
def target (d : Directory) (path : String) : Except FileError Place := do
  let (start, names) ← route path
  if names.getLast? = some "" then
    let _ ← d.walk start (container names)
    .error .isDirectory
  else
    let place ← d.walk start names
    match d.node? place with
    | some .directory => .error .isDirectory
    | _ => .ok place

/-- Where a text goes, and whether it can, does not depend on the text. -/
theorem write_eq (d : Directory) (path text : String) :
    d.write path text
      = (d.target path).map fun place => d.put place (.file text.toUTF8) := by
  unfold write target
  cases hroute : route path with
  | error error => rfl
  | ok result =>
      obtain ⟨start, names⟩ := result
      dsimp only [bind, Except.bind]
      split
      · cases d.walk start (container names) <;> rfl
      · cases d.walk start names with
        | error error => rfl
        | ok place =>
            dsimp only
            cases d.node? place with
            | none => rfl
            | some node => cases node <;> rfl

/-- A text goes where the path leads, unless there is a directory. -/
theorem target_eq_ok_iff {place : Place} :
    d.target path = .ok place ↔ ∃ start names, route path = .ok (start, names)
      ∧ d.walk start names = .ok place ∧ d.node? place ≠ some .directory := by
  constructor
  · intro h
    unfold target at h
    cases hroute : route path with
    | error error => rw [hroute] at h; cases h
    | ok result =>
        obtain ⟨start, names⟩ := result
        rw [hroute] at h
        dsimp only [bind, Except.bind] at h
        split at h
        · cases hwalk : d.walk start (container names) with
          | error error => rw [hwalk] at h; cases h
          | ok place => rw [hwalk] at h; cases h
        · cases hwalk : d.walk start names with
          | error error => rw [hwalk] at h; cases h
          | ok found =>
              rw [hwalk] at h
              dsimp only at h
              split at h
              · cases h
              · rename_i hnode
                obtain rfl := Except.ok.inj h
                exact ⟨start, names, rfl, hwalk, hnode⟩
  · rintro ⟨start, names, hroute, hwalk, hnode⟩
    have hslash : names.getLast? ≠ some "" := fun hlast => hnode (node?_of_walk_slash hwalk hlast)
    unfold target
    rw [hroute]
    dsimp only [bind, Except.bind]
    rw [if_neg hslash, hwalk]
    dsimp only
    split
    · rename_i hdirectory
      exact absurd hdirectory hnode
    · rfl

/-- A write that succeeds puts the text where the path leads, which is no directory. -/
theorem write_eq_ok (h : d.write path text = .ok d') :
    ∃ start names place, route path = .ok (start, names) ∧ d.walk start names = .ok place
      ∧ d.node? place ≠ some .directory ∧ d' = d.put place (.file text.toUTF8) := by
  rw [write_eq] at h
  cases htarget : d.target path with
  | error error => rw [htarget] at h; cases h
  | ok place =>
      rw [htarget] at h
      obtain ⟨start, names, hroute, hwalk, hnode⟩ := target_eq_ok_iff.mp htarget
      exact ⟨start, names, place, hroute, hwalk, hnode, (Except.ok.inj h).symm⟩

/-- The directories above are none of the places where a file can be put. -/
theorem isAbove_of_node? {place : Place} (h : d.node? place ≠ some .directory) :
    isAbove place = false := by
  cases habove : isAbove place with
  | false => rfl
  | true => exact absurd (if_pos habove) h

/-- Files can be written under the path. -/
def Writable (d : Directory) (path : String) : Prop :=
  ∀ text : String, ∃ d', d.write path text = .ok d'

/-- Where one text can be written, all can. -/
theorem writable_of_write (h : d.write path text = .ok d') : d.Writable path := by
  intro other
  rw [write_eq] at h ⊢
  cases htarget : d.target path with
  | error error => rw [htarget] at h; cases h
  | ok place => exact ⟨_, rfl⟩

/-- Where one text cannot be written, none can. -/
theorem not_writable_of_write {error : FileError} (h : d.write path text = .error error) :
    ¬ d.Writable path := by
  intro hwritable
  obtain ⟨d', hwrite⟩ := hwritable text
  rw [hwrite] at h
  cases h

/-- A text that is written once more takes the place of the first one. -/
theorem write_again (h : d.write path text = .ok d') (text' : String) :
    d'.write path text' = d.write path text' := by
  obtain ⟨start, names, place, hroute, hwalk, hnode, rfl⟩ := write_eq_ok h
  have hput : (d.put place (.file text.toUTF8)).node? place = some (.file text.toUTF8) :=
    node?_put_self (isAbove_of_node? hnode)
  have htarget : d.target path = .ok place :=
    target_eq_ok_iff.mpr ⟨start, names, hroute, hwalk, hnode⟩
  have htarget' : (d.put place (.file text.toUTF8)).target path = .ok place :=
    target_eq_ok_iff.mpr ⟨start, names, hroute, walk_put hnode hwalk, by rw [hput]; simp⟩
  rw [write_eq, write_eq, htarget, htarget']
  exact congrArg Except.ok (put_put place _ _)

/-! ## §3. Files. -/

theorem fromUTF8?_toUTF8 (text : String) : String.fromUTF8? text.toUTF8 = some text := by
  unfold String.fromUTF8?
  rw [String.toUTF8_eq_toByteArray, dif_pos text.isValidUTF8]
  rfl

/-- **A text that was written to a path is read from it.** -/
theorem read_of_write (h : d.write path text = .ok d') : d'.read path = .ok text := by
  obtain ⟨start, names, place, hroute, hwalk, hnode, rfl⟩ := write_eq_ok h
  have hwalk' : (d.put place (.file text.toUTF8)).walk start names = .ok place :=
    walk_put hnode hwalk
  have hnode' : (d.put place (.file text.toUTF8)).node? place = some (.file text.toUTF8) :=
    node?_put_self (isAbove_of_node? hnode)
  simp only [read, hroute, bind, Except.bind, hwalk', hnode', fromUTF8?_toUTF8]

/-- A text that is read is that of a file where the path leads. -/
theorem read_eq_ok (h : d.read path = .ok text) :
    ∃ start names place content, route path = .ok (start, names)
      ∧ d.walk start names = .ok place ∧ d.node? place = some (.file content)
      ∧ String.fromUTF8? content = some text := by
  unfold read at h
  cases hroute : route path with
  | error error => rw [hroute] at h; cases h
  | ok result =>
      obtain ⟨start, names⟩ := result
      rw [hroute] at h
      dsimp only [bind, Except.bind] at h
      cases hwalk : d.walk start names with
      | error error => rw [hwalk] at h; cases h
      | ok place =>
          rw [hwalk] at h
          dsimp only at h
          split at h
          · cases h
          · cases h
          · rename_i content hnode
            split at h
            · cases h
            · rename_i found hfound
              obtain rfl := Except.ok.inj h
              exact ⟨start, names, place, content, rfl, hwalk, hnode, hfound⟩

/-- A file that can be read can be written. -/
theorem write_of_read (h : d.read path = .ok text) (text' : String) :
    ∃ d', d.write path text' = .ok d' := by
  obtain ⟨start, names, place, content, hroute, hwalk, hnode, -⟩ := read_eq_ok h
  have htarget : d.target path = .ok place :=
    target_eq_ok_iff.mpr ⟨start, names, hroute, hwalk, by simp [hnode]⟩
  rw [write_eq, htarget]
  exact ⟨_, rfl⟩

/-- **A file that can be read stays as it is, unless it is the one that is written.** -/
theorem read_other {other text' : String} (h : d.write path text' = .ok d')
    (hread : d.read other = .ok text) : d'.read other = .ok text ∨ d.read path = .ok text := by
  obtain ⟨start, names, place, hroute, hwalk, hnode, rfl⟩ := write_eq_ok h
  obtain ⟨start', names', place', content, hroute', hwalk', hnode', htext⟩ := read_eq_ok hread
  by_cases hsame : place' = place
  · -- both paths lead to the same file
    subst hsame
    right
    simp only [read, hroute, bind, Except.bind, hwalk, hnode', htext]
  · left
    have hkept : (d.put place (.file text'.toUTF8)).walk start' names' = .ok place' :=
      walk_put hnode hwalk'
    simp only [read, hroute', bind, Except.bind, hkept, node?_put_of_ne hsame, hnode', htext]

end Directory

end FlowProcessor
