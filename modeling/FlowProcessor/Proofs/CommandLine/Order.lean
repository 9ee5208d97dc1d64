/-
  FlowProcessor.Proofs.CommandLine.Order — ACTIONS KEEP THE ORDER OF THE LINE.

  The actions of a line are kept option by option and put together again by their positions.  It
  does not matter what the positions are, as long as they ascend: the values of the options are
  those of the line, and two lists of the same actions by ascending position are the same.

    • `GroupArguments.mergeSort_spread` — actions at ascending positions, put together again
    • `GroupArguments.actions_placedAt` — the actions of a line, wherever they are recorded
    • `GroupArguments.commands_of_all`, `commands_of_leftmost` — what reading them in order gives
-/
import FlowProcessor.CommandLine.GroupTool
import FlowProcessor.Proofs.Reading.Pieces
import Mathlib.Data.List.Nodup
import Mathlib.Data.List.Perm.Basic

namespace FlowProcessor

/-! ## §1. Putting the options together. -/

/-- The action that a setting asks for, with its value. -/
def GroupSetting.action? : GroupSetting → Option (ActionOption × String)
  | .action option value => some (option, value)
  | .settingsPath _ | .statePath _ => none

namespace GroupArguments

/-- The same arguments, with other positions for their values. -/
def placedAt (a : GroupArguments) (position : Nat → Nat) : GroupArguments :=
  { a with values := fun option => (a.values option).map fun (i, value) => (position i, value) }

/-- What the options get from settings at given positions, one option after the other. -/
def spread (placed : List (GroupSetting × Nat)) : List (Nat × ActionOption × String) :=
  ActionOption.all.flatMap fun option => placed.filterMap fun (setting, position) =>
    (setting.valueFor? option).map fun value => (position, option, value)

/-- The actions at given positions, in the order of the line. -/
def inOrder (placed : List (GroupSetting × Nat)) : List (Nat × ActionOption × String) :=
  placed.filterMap fun (setting, position) => setting.action?.map fun action => (position, action)

variable {settings : List GroupSetting} {placed : List (GroupSetting × Nat)}

/-- A setting gives a value to the option of its action and to no other. -/
theorem flatMap_valueFor? (setting : GroupSetting) (position : Nat) :
    (ActionOption.all.flatMap fun option =>
      ((setting.valueFor? option).map fun value => (position, option, value)).toList)
      = (setting.action?.map fun action => (position, action)).toList := by
  cases setting with
  | action option value => cases option <;> rfl
  | settingsPath path | statePath path => rfl

/-- No action is lost or doubled by keeping the options apart. -/
theorem spread_perm (placed : List (GroupSetting × Nat)) :
    (spread placed).Perm (inOrder placed) := by
  induction placed with
  | nil => exact .refl _
  | cons entry placed ih =>
      obtain ⟨setting, position⟩ := entry
      have hfirst := flatMap_valueFor? setting position
      unfold spread inOrder at ih ⊢
      simp only [List.filterMap_eq_flatMap_toList, List.flatMap_cons] at ih ⊢
      rw [← hfirst]
      exact (List.flatMap_append_perm ..).symm.trans (ih.append_left _)

/-- **Actions at ascending positions are put back into the order of the line.** -/
theorem mergeSort_spread (h : placed.Pairwise fun x y => x.2 < y.2) :
    (spread placed).mergeSort (fun x y => x.1 ≤ y.1) = inOrder placed := by
  have hascending : (inOrder placed).Pairwise fun x y => x.1 < y.1 := by
    refine List.Pairwise.filterMap _ ?_ h
    intro x y hlt found hfound other hother
    obtain ⟨-, -, rfl⟩ := Option.map_eq_some_iff.mp hfound
    obtain ⟨-, -, rfl⟩ := Option.map_eq_some_iff.mp hother
    exact hlt
  have hperm : ((spread placed).mergeSort fun x y => x.1 ≤ y.1).Perm (inOrder placed) :=
    (List.mergeSort_perm _ _).trans (spread_perm placed)
  have hsorted : ((spread placed).mergeSort fun x y => x.1 ≤ y.1).Pairwise
      fun x y => x.1 ≤ y.1 := by
    refine (List.pairwise_mergeSort ?_ ?_ _).imp fun hle => of_decide_eq_true hle
    · intro x y z hxy hyz
      simp only [decide_eq_true_eq] at hxy hyz ⊢
      omega
    · intro x y
      simp only [Bool.or_eq_true, decide_eq_true_eq]
      omega
  -- no two actions of the line have the same position
  have hdistinct : ((inOrder placed).map (·.1)).Nodup :=
    List.pairwise_map.mpr (hascending.imp fun hlt => Nat.ne_of_lt hlt)
  refine List.Perm.eq_of_pairwise ?_ hsorted (hascending.imp fun hlt => Nat.le_of_lt hlt) hperm
  intro x y hx hy hxy hyx
  exact List.inj_on_of_nodup_map hdistinct (hperm.mem_iff.mp hx) hy (Nat.le_antisymm hxy hyx)

/-- The actions of a line, at whatever ascending positions their values are recorded. -/
theorem actions_placedAt {position : Nat → Nat} (h : ∀ i j, i < j → position i < position j)
    (settings : List GroupSetting) :
    ((ofSettings settings).placedAt position).actions
      = settings.filterMap GroupSetting.action? := by
  have hascending : (settings.zipIdx.map fun x => (x.1, position x.2)).Pairwise
      fun x y => x.2 < y.2 := by
    have hindices : settings.zipIdx.Pairwise fun x y => x.2 < y.2 := by
      have hrange : (settings.zipIdx.map Prod.snd).Pairwise (· < ·) := by
        rw [List.zipIdx_map_snd]
        exact List.pairwise_lt_range'
      exact List.pairwise_map.mp hrange
    exact List.pairwise_map.mpr (hindices.imp fun hlt => h _ _ hlt)
  have hgathered : ((ofSettings settings).placedAt position).gathered
      = spread (settings.zipIdx.map fun x => (x.1, position x.2)) := by
    unfold gathered spread placedAt ofSettings
    simp only [List.map_filterMap, List.filterMap_map, Option.map_map,
      Function.comp_def]
  unfold actions
  rw [hgathered, mergeSort_spread hascending, inOrder]
  -- without the positions it is the settings that are gone through
  have hfst : settings = settings.zipIdx.map Prod.fst := (List.zipIdx_map_fst 0 settings).symm
  conv_rhs => rw [hfst]
  simp only [List.map_filterMap, List.filterMap_map, Option.map_map, Function.comp_def,
    Option.map_id']

/-- The actions of all options, put together again, are those of the line. -/
theorem actions_ofSettings (settings : List GroupSetting) :
    (ofSettings settings).actions = settings.filterMap GroupSetting.action? := by
  have hsame : (ofSettings settings).placedAt id = ofSettings settings := by
    unfold placedAt
    simp
  have hactions := actions_placedAt (fun i j hlt => show id i < id j from hlt) settings
  rw [hsame] at hactions
  exact hactions

/-- Nothing is asked for if there are no actions; else they are read in order. -/
theorem commands_eq (a : GroupArguments) :
    a.commands = if a.actions.isEmpty then .error (.usage .noActions)
      else (a.actions.mapM readAction).mapError .input := by
  have hempty : a.actions.isEmpty = a.gathered.isEmpty := by
    have hperm := List.mergeSort_perm a.gathered fun x y => x.1 ≤ y.1
    rw [actions, List.isEmpty_map, hperm.isEmpty_eq]
  rw [commands, hempty]

end GroupArguments

/-! ## §2. The commands of a line. -/

namespace GroupArguments

variable {a : GroupArguments}

theorem commands_of_none (h : a.actions.map readAction = []) :
    a.commands = .error (.usage .noActions) := by
  have hnil : a.actions = [] := List.map_eq_nil_iff.mp h
  rw [commands_eq, hnil]
  rfl

theorem commands_of_ne_nil (h : a.actions ≠ []) :
    a.commands = (a.actions.mapM readAction).mapError .input := by
  rw [commands_eq, if_neg fun hempty => h (List.isEmpty_iff.mp hempty)]

theorem commands_of_all {commands : List GroupCommand}
    (h : a.actions.map readAction = commands.map .ok) (hne : commands ≠ []) :
    a.commands = .ok commands := by
  have hactions : a.actions ≠ [] := by
    intro hnil
    rw [hnil] at h
    exact hne (List.map_eq_nil_iff.mp h.symm)
  rw [commands_of_ne_nil hactions, mapM_eq_ok_iff.mpr h]
  rfl

theorem commands_of_leftmost {done : List GroupCommand} {error : InputError}
    {rest : List (Except InputError GroupCommand)}
    (h : a.actions.map readAction = done.map .ok ++ .error error :: rest) :
    a.commands = .error (.input error) := by
  have hactions : a.actions ≠ [] := by
    intro hnil
    rw [hnil] at h
    cases done <;> cases h
  rw [commands_of_ne_nil hactions, mapM_eq_error_iff.mpr ⟨done, rest, h⟩]
  rfl

/-- What is read as commands was read action by action. -/
theorem map_readAction_of_commands {commands : List GroupCommand} (h : a.commands = .ok commands) :
    a.actions.map readAction = commands.map .ok := by
  rw [commands_eq] at h
  split at h
  · cases h
  · cases hread : a.actions.mapM readAction with
    | error error => rw [hread] at h; cases h
    | ok read =>
        rw [hread] at h
        obtain rfl := Except.ok.inj h
        exact mapM_eq_ok_iff.mp hread

/-- Where no commands come out, there are no actions, or one that cannot be read. -/
theorem commands_eq_error {error : ToolError} (h : a.commands = .error error) :
    a.actions = [] ∨ ∃ action ∈ a.actions, ∃ error, readAction action = .error error := by
  rw [commands_eq] at h
  split at h
  · rename_i hempty
    exact .inl (List.isEmpty_iff.mp hempty)
  · cases hread : a.actions.mapM readAction with
    | ok commands => rw [hread] at h; cases h
    | error first =>
        obtain ⟨done, rest, hmap⟩ := mapM_eq_error_iff.mp hread
        have hfirst : .error first ∈ a.actions.map readAction := by
          rw [hmap]
          exact List.mem_append_right _ List.mem_cons_self
        obtain ⟨action, hmem, haction⟩ := List.mem_map.mp hfirst
        exact .inr ⟨action, hmem, first, haction⟩

end GroupArguments

end FlowProcessor
