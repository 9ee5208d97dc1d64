/-
  FlowProcessor.Proofs.Groups.Listings — LISTINGS LOSE NOTHING.

  A printed listing tells what to ask for to have its groups again: clear all of them, and set each
  group that is listed with identifiers to these.  What is asked for so is read as it was meant,
  and carried out it leaves the table that was printed, on whatever device.

    • `GroupListing.arguments`   — what a text asks for, line by line
    • `GroupListing.restoring`   — the actions that set up a table
    • `arguments_text`           — the arguments of a listing are those of its groups
    • `readSetList_argument`     — and each is read as its group
    • `groupsOf_restored`        — what the actions leave
    • `listing_lossless`         — from the table to the text and back
-/
import FlowProcessor.Proofs.Groups.Runs
import FlowProcessor.Proofs.Reading.Lists
import FlowProcessor.Proofs.Tools.GroupTool

namespace FlowProcessor

open Numeral (Denotes denotes_repr)

/-! ## §1. What a listing asks for. -/

namespace GroupListing

/-- The argument that asks for the group of a line as it is listed, such as `3:0,12` for
`Group 3: 0 12`.  Nothing is asked for by a line without destinations, or of another kind. -/
def argument? (line : List Char) : Option String :=
  (line.dropPrefix? "Group ".toList).bind fun named =>
    let group := named.takeWhile (· != ':')
    let listed := (named.dropWhile (· != ':')).drop 2
    if listed = "No destinations defined".toList then none
    else some (String.ofList (group ++ ':' :: listed.map fun c => if c = ' ' then ',' else c))

/-- The arguments that the lines of a text ask for. -/
def arguments (text : String) : List String := (text.toList.splitOn '\n').filterMap argument?

/-- The argument that sets a group to the given destinations. -/
def argument (group : GroupId) (dests : DestSet) : String :=
  idText group ++ ":" ++ ",".intercalate (dests.members.map idText)

/-- What has to be done about a group in an empty table. -/
def restore? (groups : GroupTable) (group : GroupId) : Option GroupCommand :=
  if (groups.get group).isEmpty then none else some (.setList group (groups.get group))

/-- The actions that set up a table where all groups are empty. -/
def restoring (groups : GroupTable) : List GroupCommand :=
  (List.finRange groupCount).filterMap (restore? groups)

end GroupListing

/-! ## §2. The lines of a listing. -/

section Texts

variable {n : Nat} {i : Fin n} {c : Char}

/-- An identifier is written with digits. -/
theorem isDigit_of_mem_idText (h : c ∈ (idText i).toList) : c.isDigit = true := by
  unfold idText at h
  rw [Nat.repr_eq_ofList_toDigits, String.toList_ofList] at h
  exact Numeral.isDigit_of_mem_toDigits h

theorem not_mem_idText (hc : c.isDigit = false) : c ∉ (idText i).toList :=
  fun h => Numeral.ne_of_isDigit (isDigit_of_mem_idText h) hc rfl

theorem idText_eq_cons (i : Fin n) :
    ∃ c digits, (idText i).toList = c :: digits ∧ c.isDigit = true := by
  have hne : (idText i).toList ≠ [] := (denotes_repr i.val).ne_nil
  obtain ⟨c, digits, hdigits⟩ := List.exists_cons_of_ne_nil hne
  exact ⟨c, digits, hdigits, isDigit_of_mem_idText (hdigits ▸ List.mem_cons_self)⟩

end Texts

namespace Listing

/-- A set of destinations is shown without members only if it is empty. -/
theorem members_ne_nil {dests : DestSet} (h : dests.isEmpty = false) : dests.members ≠ [] := by
  intro hnil
  have hdests := IdSet.ofList_members dests
  rw [hnil] at hdests
  rw [← hdests] at h
  cases h

theorem toList_text_members (ids : List DestId) :
    (Listing.members ids).text.toList = [' '].intercalate (ids.map fun i => (idText i).toList) := by
  unfold text
  rw [String.toList_intercalate, List.map_map]
  rfl

/-- No line end is in what is shown. -/
theorem newline_not_mem_text (listing : Listing) : '\n' ∉ listing.text.toList := by
  cases listing with
  | noDestinations => decide
  | members ids =>
      intro h
      rw [toList_text_members] at h
      rcases mem_intercalate h with hsep | ⟨piece, hpiece, hmem⟩
      · cases hsep
      · obtain ⟨i, -, rfl⟩ := List.mem_map.mp hpiece
        exact not_mem_idText rfl hmem

/-- Members are not shown as if there were none. -/
theorem text_members_ne {ids : List DestId} (h : ids ≠ []) :
    (Listing.members ids).text.toList ≠ "No destinations defined".toList := by
  intro hsame
  obtain ⟨i, rest, rfl⟩ := List.exists_cons_of_ne_nil h
  -- what is shown begins with a digit
  obtain ⟨c, digits, hdigits, hdigit⟩ := idText_eq_cons i
  have hfirst : (Listing.members (i :: rest)).text.toList.head? = some c := by
    rw [toList_text_members, List.map_cons, hdigits]
    cases rest <;> rfl
  rw [hsame] at hfirst
  obtain rfl := Option.some.inj hfirst
  cases hdigit

end Listing

namespace GroupListing

variable {group : GroupId} {dests : DestSet}

theorem toList_line (group : GroupId) (dests : DestSet) :
    (line group dests).toList = "Group ".toList
      ++ ((idText group).toList ++ ':' :: ' ' :: (Listing.ofSet dests).text.toList) := by
  unfold line
  simp [String.toList_append]

theorem newline_not_mem_line (group : GroupId) (dests : DestSet) :
    '\n' ∉ (line group dests).toList := by
  rw [toList_line]
  simp [not_mem_idText, Listing.newline_not_mem_text, Char.isDigit]

/-- No line of a listing has a line end in it. -/
theorem newline_not_mem_lines (l : GroupListing) :
    ∀ text ∈ l.lines.map String.toList, '\n' ∉ text := by
  intro text htext
  obtain ⟨shown, hshown, rfl⟩ := List.mem_map.mp htext
  unfold lines at hshown
  rcases List.mem_append.mp hshown with hline | hlast
  · rcases List.mem_cons.mp hline with rfl | hgroup
    · simp [String.toList_append, not_mem_idText, Char.isDigit]
    · obtain ⟨group, -, rfl⟩ := List.mem_map.mp hgroup
      exact newline_not_mem_line group _
  · obtain rfl := List.mem_singleton.mp hlast
    exact List.not_mem_nil

/-- A text is cut into the lines it is made of, and the empty text after the last one. -/
theorem splitOn_text (l : GroupListing) :
    l.text.toList.splitOn '\n' = l.lines.map String.toList ++ [[]] := by
  have hclear : ∀ piece ∈ l.lines.map String.toList ++ [[]], '\n' ∉ piece := by
    intro piece hpiece
    rcases List.mem_append.mp hpiece with hline | hlast
    · exact l.newline_not_mem_lines piece hline
    · obtain rfl := List.mem_singleton.mp hlast
      exact List.not_mem_nil
  have hwhole : ['\n'].intercalate (l.lines.map String.toList ++ [[]]) = l.text.toList := by
    unfold text
    rw [intercalate_concat_nil, String.toList_join, List.flatMap_map, List.flatMap_map]
    simp only [String.toList_append]
    rfl
  rw [← hwhole]
  exact List.splitOn_intercalate '\n' hclear (by simp)

/-! ## §3. What the lines ask for. -/

/-- The line of a group asks for the members of the group, if it has any. -/
theorem argument?_line (group : GroupId) (dests : DestSet) :
    argument? (line group dests).toList
      = if dests.isEmpty then none else some (argument group dests) := by
  have hgroup : ∀ c ∈ (idText group).toList, (c != ':') = true := by
    intro c hc
    refine bne_iff_ne.mpr ?_
    rintro rfl
    exact not_mem_idText rfl hc
  unfold argument?
  rw [toList_line, List.dropPrefix?_append_of_beq _ BEq.rfl, Option.bind_some]
  simp only [List.takeWhile_append_of_pos hgroup, List.dropWhile_append_of_pos hgroup]
  have hmark : ∀ shown : List Char, (':' :: ' ' :: shown).takeWhile (· != ':') = []
      ∧ ((':' :: ' ' :: shown).dropWhile (· != ':')).drop 2 = shown := fun shown => ⟨rfl, rfl⟩
  rw [(hmark _).1, (hmark _).2, List.append_nil]
  unfold Listing.ofSet
  cases hempty : dests.isEmpty with
  | true =>
      rw [if_pos rfl, if_pos rfl]
      exact if_pos rfl
  | false =>
      have hmembers := Listing.text_members_ne (Listing.members_ne_nil hempty)
      simp only [Bool.false_eq_true, if_false]
      rw [if_neg hmembers, Listing.toList_text_members, map_intercalate ?clear]
      case clear =>
        intro piece hpiece
        obtain ⟨i, -, rfl⟩ := List.mem_map.mp hpiece
        exact not_mem_idText rfl
      refine congrArg some (String.toList_inj.mp ?_)
      unfold argument
      simp [String.toList_append, String.toList_intercalate, Function.comp_def]

/-- The arguments of a listing are those of its groups. -/
theorem arguments_text (l : GroupListing) :
    arguments l.text = (List.finRange groupCount).filterMap fun group =>
      if (l.groups.get group).isEmpty then none else some (argument group (l.groups.get group)) := by
  have hheading : argument? ("Load balance group destinations for NFE "
      ++ idText l.device).toList = none := by
    rw [String.toList_append]
    rfl
  have hlast : argument? "".toList = none := rfl
  have hnothing : argument? [] = none := rfl
  unfold arguments
  rw [splitOn_text]
  unfold lines
  simp only [List.map_append, List.map_cons, List.map_nil, List.cons_append, List.filterMap_append,
    List.filterMap_cons, List.filterMap_nil, hheading, hlast, hnothing, List.append_nil,
    List.map_map, List.filterMap_map]
  exact List.filterMap_congr fun group _ => argument?_line group _

end GroupListing

/-! ## §4. Reading the arguments. -/

/-- A text is cut at the first separator. -/
theorem GroupCommand.cut_append {sep : Char} {cs : List Char} (h : sep ∉ cs) (rest : List Char) :
    cut sep (cs ++ sep :: rest) = some (cs, rest) := by
  have hother : ∀ c ∈ cs, (c != sep) = true := by
    intro c hc
    refine bne_iff_ne.mpr ?_
    rintro rfl
    exact h hc
  unfold cut
  rw [List.dropWhile_append_of_pos hother, List.takeWhile_append_of_pos hother]
  simp

/-- The group is the one that is denoted before the first colon. -/
theorem GroupCommand.readGroup_of_denotes {name : String} {group : GroupId}
    (h : Denotes name.toList group.val) (defect : Defect) (rest : String) :
    readGroup defect (name ++ ":" ++ rest) = .ok (group, rest) := by
  have hparts : (name ++ ":" ++ rest).toList = name.toList ++ ':' :: rest.toList := by
    simp [String.toList_append]
  have hgroup : GroupId.read (String.ofList name.toList) = .ok group := by
    refine read_bounded (by decide) ?_
    rwa [String.toList_ofList]
  unfold readGroup
  rw [hparts, cut_append (h.not_mem rfl)]
  dsimp only
  rw [hgroup, String.ofList_toList]
  rfl

namespace GroupListing

variable {group : GroupId} {dests : DestSet}

/-- The members of a set, separated by commas, are read as the set. -/
theorem readList_members (h : dests.isEmpty = false) :
    DestSet.readList (",".intercalate (dests.members.map idText)) = .ok dests := by
  have hlisted : Listed (",".intercalate (dests.members.map idText))
      (dests.members.map fun i => (idText i).toList) dests := by
    refine ⟨⟨?_, ?_, ?_⟩, ?_, ?_⟩
    · exact fun hnil => Listing.members_ne_nil h (List.map_eq_nil_iff.mp hnil)
    · intro piece hpiece
      obtain ⟨i, -, rfl⟩ := List.mem_map.mp hpiece
      exact not_mem_idText rfl
    · rw [String.toList_intercalate, List.map_map]
      rfl
    · intro token htoken
      obtain ⟨i, -, rfl⟩ := List.mem_map.mp htoken
      exact ⟨i, Nat.le_of_lt_succ i.isLt, denotes_repr i.val⟩
    · intro k
      rw [IdSet.testBit_iff_members]
      constructor
      · rintro ⟨i, hi, rfl⟩
        exact ⟨_, List.mem_map_of_mem hi, denotes_repr i.val⟩
      · rintro ⟨token, htoken, hdenotes⟩
        obtain ⟨i, hi, rfl⟩ := List.mem_map.mp htoken
        exact ⟨i, hi, (denotes_repr i.val).unique hdenotes⟩
  exact DestSet.readList_of_listed hlisted

/-- The argument of a group is read as the group and its destinations. -/
theorem readSetList_argument (group : GroupId) (h : dests.isEmpty = false) :
    GroupCommand.readSetList (argument group dests) = .ok (.setList group dests) := by
  have hread : GroupCommand.readGroup .notGroupList (argument group dests)
      = .ok (group, ",".intercalate (dests.members.map idText)) :=
    GroupCommand.readGroup_of_denotes (denotes_repr group.val) _ _
  unfold GroupCommand.readSetList
  rw [hread]
  dsimp only [bind, Except.bind]
  rw [readList_members h]
  rfl

/-- **The arguments of a listing are read as the actions that set up its table.** -/
theorem mapM_arguments (l : GroupListing) :
    (arguments l.text).mapM GroupCommand.readSetList = .ok (restoring l.groups) := by
  refine mapM_eq_ok_iff.mpr ?_
  rw [arguments_text]
  unfold restoring
  rw [List.map_filterMap, List.map_filterMap]
  refine List.filterMap_congr fun group _ => ?_
  unfold restore?
  cases hempty : (l.groups.get group).isEmpty with
  | true => rfl
  | false => exact congrArg some (readSetList_argument group hempty)

end GroupListing

/-! ## §5. Runs on one device. -/

/-- The device is installed, and no call is made to fail. -/
structure Platform.Serves (p : Platform) (device : DeviceId) : Prop where
  present : (p.state.device? device).isSome = true
  unfaulted : ∀ call, p.faults.find? call = none

namespace GroupRun

variable {device : DeviceId} {commands : List GroupCommand} {w : World}

/-- Without a selection all actions are directed at one device. -/
theorem addressed_of_unselected (h : ∀ command ∈ commands, command.selected? = none) :
    addressed device commands = commands.map fun command => (device, command) := by
  induction commands with
  | nil => rfl
  | cons command commands ih =>
      obtain ⟨hfirst, hrest⟩ := List.forall_mem_cons.mp h
      have hnext : command.next device = device := by
        rw [GroupCommand.next, hfirst, Option.getD_none]
      rw [addressed_cons, hnext, ih hrest, List.map_cons]

theorem deviceAfter_of_unselected (h : ∀ command ∈ commands, command.selected? = none) :
    deviceAfter device commands = device := by
  have hnone : commands.reverse.findSome? GroupCommand.selected? = none :=
    List.findSome?_eq_none_iff.mpr fun command hcommand => h command (List.mem_reverse.mp hcommand)
  unfold deviceAfter
  rw [hnone, Option.getD_none]

theorem lastWritten_of_unselected (h : ∀ command ∈ commands, command.selected? = none)
    (group : GroupId) :
    lastWritten device commands device group
      = commands.reverse.findSome? (GroupCommand.written? group) := by
  unfold lastWritten
  rw [addressed_of_unselected h, ← List.map_reverse, List.findSome?_map]
  refine congrArg (List.findSome? · _) (funext fun command => ?_)
  exact if_pos rfl

/-- Where the device is there and nothing fails, actions on it are carried out, unless there is a
listing that the output does not hold. -/
theorem run_of_serves (hserves : w.platform.Serves device)
    (h : ∀ command ∈ commands, command.selected? = none)
    (hroom : w.out.room = none ∨ .print ∉ commands) :
    ∃ ended, run device commands w
        = ((device, .ok commands.length), ended.note (.applied commands.length))
      ∧ Achieved device commands w ended := by
  have hfree : ∀ step ∈ addressed device commands, ¬ Blocked w.platform step := by
    rintro step hstep ⟨call, -, habsent | hfault⟩
    · rw [addressed_of_unselected h] at hstep
      obtain ⟨command, -, rfl⟩ := List.mem_map.mp hstep
      have hpresent := hserves.present
      rw [habsent] at hpresent
      cases hpresent
    · rw [hserves.unfaulted call] at hfault
      cases hfault
  obtain ⟨ran, hrun⟩ : ∃ ran, run device commands w = ran := ⟨_, rfl⟩
  cases run_concludes hrun with
  | completed achieved =>
      rw [deviceAfter_of_unselected h] at hrun
      exact ⟨_, hrun, achieved⟩
  | @stopped done rest command error between ended split alone achieved failed =>
      cases failed with
      | refused action makes refusal =>
          rw [refusal?_eq achieved.same achieved.faults] at refusal
          exact absurd (blocked_of_refusal? refusal) (hfree _ (mem_addressed split))
      | unwritten admitted unwritable =>
          rcases hroom with hendless | hsilent
          · rw [Sink.write_of_endless (achieved.endless hendless)] at unwritable
            cases unwritable
          · have hsilent' : command ≠ .print := by
              rintro rfl
              exact hsilent (split ▸ List.mem_append_right _ List.mem_cons_self)
            -- what prints nothing can always be written
            rw [GroupCommand.output_of_ne_print hsilent', Sink.write_empty] at unwritable
            cases unwritable

end GroupRun

/-! ## §6. Setting up a table. -/

namespace GroupListing

variable {groups : GroupTable}

theorem mem_restoring {command : GroupCommand} (h : command ∈ restoring groups) :
    ∃ group, command = .setList group (groups.get group) := by
  obtain ⟨group, -, hrestore⟩ := List.mem_filterMap.mp h
  unfold restore? at hrestore
  split at hrestore
  · cases hrestore
  · exact ⟨group, (Option.some.inj hrestore).symm⟩

theorem selected?_of_mem {command : GroupCommand} (h : command ∈ .clear :: restoring groups) :
    command.selected? = none := by
  rcases List.mem_cons.mp h with rfl | hmem
  · rfl
  · obtain ⟨group, rfl⟩ := mem_restoring hmem
    rfl

/-- An empty set has no flags at all. -/
theorem eq_empty_of_isEmpty {dests : DestSet} (h : dests.isEmpty = true) : dests = .empty :=
  congrArg IdSet.mk (beq_iff_eq.mp h)

/-- What is written last to a group are its destinations: only the empty ones are not written
again after all were cleared. -/
theorem findSome?_restoring (groups : GroupTable) (group : GroupId) :
    (GroupCommand.clear :: restoring groups).reverse.findSome? (GroupCommand.written? group)
      = some (groups.get group) := by
  rw [List.reverse_cons, List.findSome?_append]
  cases hwritten : (restoring groups).reverse.findSome? (GroupCommand.written? group) with
  | some dests =>
      obtain ⟨command, hcommand, hdests⟩ := List.exists_of_findSome?_eq_some hwritten
      obtain ⟨named, rfl⟩ := mem_restoring (List.mem_reverse.mp hcommand)
      change (if named = group then some (groups.get named) else none) = some dests at hdests
      split at hdests
      · rename_i hnamed
        rw [← hdests, hnamed, Option.some_or]
      · cases hdests
  | none =>
      -- the group is not written again, so it is empty
      have hempty : (groups.get group).isEmpty = true := by
        by_contra hmembers
        have hmem : .setList group (groups.get group) ∈ restoring groups :=
          List.mem_filterMap.mpr ⟨group, List.mem_finRange group, if_neg hmembers⟩
        have hnone := List.findSome?_eq_none_iff.mp hwritten _ (List.mem_reverse.mpr hmem)
        rw [GroupCommand.written?, if_pos rfl] at hnone
        cases hnone
      rw [eq_empty_of_isEmpty hempty]
      rfl

/-- Clearing a device and setting it up leaves it with the table. -/
theorem groupsOf_restored {target : DeviceId} {w ended : World}
    (h : GroupRun.Achieved target (.clear :: restoring groups) w ended) :
    ended.platform.state.groupsOf target = groups := by
  refine Vector.ext fun i hi => ?_
  change (ended.platform.state.groupsOf target).get ⟨i, hi⟩ = groups.get ⟨i, hi⟩
  rw [h.masks]
  unfold GroupRun.maskAfter
  rw [GroupRun.lastWritten_of_unselected fun _ => selected?_of_mem, findSome?_restoring,
    Option.getD_some]

end GroupListing

/-! ## §7. From the table to the text and back. -/

/-- Printing writes the listing of the device. -/
theorem GroupRun.print_writes {source : DeviceId} {w : World}
    (hserves : w.platform.Serves source) (hendless : w.out.room = none) :
    ∃ w', GroupRun.run source [.print] w = ((source, .ok 1), w')
      ∧ w'.out.text
        = w.out.text ++ (GroupListing.mk source (w.platform.state.groupsOf source)).text := by
  have hunselected : ∀ command ∈ [GroupCommand.print], command.selected? = none := by
    intro command hcommand
    rw [List.mem_singleton.mp hcommand]
    rfl
  obtain ⟨ended, hrun, achieved⟩ := run_of_serves hserves hunselected (.inl hendless)
  refine ⟨_, hrun, ?_⟩
  have hadmitted : GroupCommand.print.refusal? w.platform source = none :=
    achieved.admitted (source, .print) (by rw [addressed_cons]; exact List.mem_cons_self)
  have hlistings : listings w.platform.state source [.print]
      = [⟨source, w.platform.state.groupsOf source⟩] := by
    rw [listings_cons hadmitted, if_pos rfl]
    rfl
  rw [World.note_out, achieved.printed.text, hlistings, List.map_singleton, String.join_cons,
    String.join_nil, String.append_empty]

namespace GroupListing

/-- Nothing is printed by setting up a table. -/
theorem print_not_mem (groups : GroupTable) :
    .print ∉ GroupCommand.clear :: restoring groups := by
  intro hmem
  rcases List.mem_cons.mp hmem with hclear | hset
  · cases hclear
  · obtain ⟨group, hgroup⟩ := mem_restoring hset
    cases hgroup

/-- An argument begins with a digit, so that it is not taken for an option. -/
theorem head?_argument (group : GroupId) (dests : DestSet) :
    (argument group dests).toList.head? ≠ some '-' := by
  obtain ⟨c, digits, hdigits, hdigit⟩ := idText_eq_cons group
  have hfirst : (argument group dests).toList.head? = some c := by
    unfold argument
    rw [String.toList_append, String.toList_append, hdigits]
    rfl
  rw [hfirst]
  intro hdash
  obtain rfl := Option.some.inj hdash
  cases hdigit

/-- A line that clears all groups and sets those of the arguments. -/
def items (arguments : List String) : List GroupItem :=
  .clear true none :: arguments.map (GroupItem.list true)

section Items

variable {arguments : List String}

theorem words_items (arguments : List String) :
    (items arguments).flatMap GroupItem.words
      = "-c" :: arguments.flatMap fun argument => ["-S", argument] := by
  unfold items
  rw [List.flatMap_cons, List.flatMap_map]
  rfl

theorem filterMap_reading?_items (arguments : List String) :
    (items arguments).filterMap GroupItem.reading?
      = .ok .clear :: arguments.map GroupCommand.readSetList := by
  have hlist : GroupItem.reading? ∘ GroupItem.list true
      = some ∘ GroupCommand.readSetList := rfl
  unfold items
  rw [List.filterMap_cons, List.filterMap_map, hlist, List.filterMap_eq_map]
  rfl

/-- No file is named on such a line. -/
theorem mem_items {item : GroupItem} (h : item ∈ items arguments) :
    item.settingsPath? = none ∧ item.statePath? = none := by
  rcases List.mem_cons.mp h with rfl | hmem
  · exact ⟨rfl, rfl⟩
  · obtain ⟨value, -, rfl⟩ := List.mem_map.mp hmem
    exact ⟨rfl, rfl⟩

theorem groupLine_items (h : ∀ argument ∈ arguments, argument.toList.head? ≠ some '-') :
    GroupLine (items arguments) := by
  refine ⟨?_, ?_, ?_⟩
  · intro item hitem
    rcases List.mem_cons.mp hitem with rfl | hmem
    · trivial
    · obtain ⟨value, hvalue, rfl⟩ := List.mem_map.mp hmem
      exact h value hvalue
  · rw [List.filterMap_eq_nil_iff.mpr fun item hitem => (mem_items hitem).1]
    exact Nat.zero_le 1
  · rw [List.filterMap_eq_nil_iff.mpr fun item hitem => (mem_items hitem).2]
    exact Nat.zero_le 1

/-- The line asks for clearing, and for what its arguments ask for. -/
theorem asks_items {commands : List GroupCommand}
    (h : ∀ argument ∈ arguments, argument.toList.head? ≠ some '-')
    (hread : arguments.mapM GroupCommand.readSetList = .ok commands) :
    GroupTool.Asks ("-c" :: arguments.flatMap fun argument => ["-S", argument]) none none
      (.clear :: commands) := by
  have hreadings : (items arguments).filterMap GroupItem.reading?
      = (GroupCommand.clear :: commands).map .ok := by
    rw [filterMap_reading?_items, mapM_eq_ok_iff.mp hread, List.map_cons]
  have hasks := GroupTool.asks_of_line (groupLine_items h) hreadings (List.cons_ne_nil _ _)
  rw [words_items, List.findSome?_eq_none_iff.mpr fun item hitem => (mem_items hitem).1,
    List.findSome?_eq_none_iff.mpr fun item hitem => (mem_items hitem).2] at hasks
  exact hasks

end Items

theorem head?_of_mem_arguments (l : GroupListing) :
    ∀ text ∈ arguments l.text, text.toList.head? ≠ some '-' := by
  intro text htext
  rw [arguments_text] at htext
  obtain ⟨group, -, hgroup⟩ := List.mem_filterMap.mp htext
  split at hgroup
  · cases hgroup
  · obtain rfl := Option.some.inj hgroup
    exact head?_argument group _

/-- Setting up a table on a device leaves the device with the table. -/
theorem restores (groups : GroupTable) {target : DeviceId} {w : World}
    (hserves : w.platform.Serves target) :
    ∃ w', GroupRun.run target (.clear :: restoring groups) w
        = ((target, .ok ((restoring groups).length + 1)), w')
      ∧ w'.platform.state.groupsOf target = groups := by
  have hunselected : ∀ command ∈ .clear :: restoring groups, command.selected? = none :=
    fun _ => selected?_of_mem
  obtain ⟨ended, hrun, achieved⟩ :=
    GroupRun.run_of_serves hserves hunselected (.inr (print_not_mem groups))
  refine ⟨_, hrun, ?_⟩
  rw [World.note_platform]
  exact groupsOf_restored achieved

end GroupListing

/-- **A printed listing determines the table.  The actions it asks for, after clearing, are read one
for each group that is listed with identifiers, by themselves and on a line of the tool; and carried
out on any device, they leave it with the table that was printed.  So no two tables are printed
alike.** -/
theorem listing_lossless (listing : GroupListing) :
    (∀ w, w.platform.Serves listing.device → w.out.room = none →
      w.platform.state.groupsOf listing.device = listing.groups →
      ∃ w', GroupRun.run listing.device [.print] w = ((listing.device, .ok 1), w')
        ∧ w'.out.text = w.out.text ++ listing.text)
    ∧ (∃ commands,
      (GroupListing.arguments listing.text).mapM GroupCommand.readSetList = .ok commands
      ∧ GroupTool.Asks
        ("-c" :: (GroupListing.arguments listing.text).flatMap fun argument => ["-S", argument])
        none none (.clear :: commands)
      ∧ ∀ target w, w.platform.Serves target →
        ∃ w', GroupRun.run target (.clear :: commands) w
            = ((target, .ok (commands.length + 1)), w')
          ∧ w'.platform.state.groupsOf target = listing.groups)
    ∧ ∀ other : GroupListing, other.text = listing.text → other.groups = listing.groups := by
  refine ⟨?printed, ⟨_, listing.mapM_arguments,
    GroupListing.asks_items listing.head?_of_mem_arguments listing.mapM_arguments,
    fun target w hserves => GroupListing.restores listing.groups hserves⟩, ?unique⟩
  case printed =>
    intro w hserves hendless htable
    obtain ⟨w', hrun, htext⟩ := GroupRun.print_writes hserves hendless
    rw [htable] at htext
    exact ⟨w', hrun, htext⟩
  case unique =>
    intro other hsame
    -- the same actions set up both tables
    have hread := other.mapM_arguments
    rw [hsame, listing.mapM_arguments] at hread
    have hcommands := Except.ok.inj hread
    have hserves : (World.start .initial .unlimited).platform.Serves 0 := ⟨rfl, fun _ => rfl⟩
    obtain ⟨w, hrun, htable⟩ := GroupListing.restores listing.groups hserves
    obtain ⟨w', hrun', htable'⟩ := GroupListing.restores other.groups hserves
    rw [← hcommands, hrun] at hrun'
    obtain rfl := (Prod.mk.inj hrun').2
    exact htable'.symm.trans htable

/-- The table of device 2 has the last destination and others of two digits; it is set up on device 1,
where another group was set before. -/
theorem listing_lossless_of_last_destination :
    ∃ w w',
      GroupRun.run 2 [.print] (World.start (.ofState (PlatformState.initial.modifyDevice 2 fun d =>
        { d with groups := (GroupTable.empty.set 0 ⟨0x80000401⟩).set 23 ⟨0x80000000⟩ })) .unlimited)
          = ((2, .ok 1), w)
      ∧ GroupListing.arguments w.out.text = ["0:0,10,31", "23:31"]
      ∧ GroupRun.run 1 [.clear, .setList 0 ⟨0x80000401⟩, .setList 23 ⟨0x80000000⟩]
        (World.start (.ofState (PlatformState.initial.modifyDevice 1 fun d =>
          { d with groups := GroupTable.empty.set 5 ⟨7⟩ })) .unlimited) = ((1, .ok 3), w')
      ∧ w'.platform.state.groupsOf 1
        = (GroupTable.empty.set 0 ⟨0x80000401⟩).set 23 ⟨0x80000000⟩ := by
  obtain ⟨hprinted, ⟨commands, hread, -, hrestores⟩, -⟩ :=
    listing_lossless ⟨2, (GroupTable.empty.set 0 ⟨0x80000401⟩).set 23 ⟨0x80000000⟩⟩
  have harguments : GroupListing.arguments
      (GroupListing.mk 2 ((GroupTable.empty.set 0 ⟨0x80000401⟩).set 23 ⟨0x80000000⟩)).text
        = ["0:0,10,31", "23:31"] := by
    rw [GroupListing.arguments_text]
    decide +kernel
  have hcommands : commands = [.setList 0 ⟨0x80000401⟩, .setList 23 ⟨0x80000000⟩] := by
    rw [harguments] at hread
    exact (Except.ok.inj hread).symm
  subst hcommands
  obtain ⟨w, hprint, htext⟩ := hprinted
    (World.start (.ofState (PlatformState.initial.modifyDevice 2 fun d =>
      { d with groups := (GroupTable.empty.set 0 ⟨0x80000401⟩).set 23 ⟨0x80000000⟩ })) .unlimited)
    ⟨rfl, fun _ => rfl⟩ rfl rfl
  obtain ⟨w', hrun, htable⟩ := hrestores 1
    (World.start (.ofState (PlatformState.initial.modifyDevice 1 fun d =>
      { d with groups := GroupTable.empty.set 5 ⟨7⟩ })) .unlimited)
    ⟨rfl, fun _ => rfl⟩
  refine ⟨w, w', hprint, ?_, hrun, htable⟩
  rw [htext]
  exact harguments

end FlowProcessor
