/-
  FlowProcessor.Proofs.Groups.Independence — CLIENTS THAT DO NOT DISTURB EACH OTHER.

  A client is followed through an interleaving, beside the same client on a platform of its own.
  The two platforms agree in all groups but those to which the other client writes.  If these are
  no groups that the client writes or prints, the two see no difference: they do the same, and
  come to the same end.  This holds of either client and of every interleaving.  At its end the
  platform is as told by the one client in all groups that the other does not write, and the other
  way round, which is to say everywhere if no group is written by both.

    • `AgreeBut`, `Alike`          — platforms and clients, but for what is foreign
    • `step_alike`, `step_foreign` — an action of the client, and one of the other
    • `follows`                    — any interleaving
    • `clients_independent`        — every interleaving ends as the two sequences do in a row
-/
import FlowProcessor.Proofs.Groups.Turns

namespace FlowProcessor

open GroupRun

/-! ## §1. What clients have to do with each other. -/

namespace GroupRun

/-- Some of the actions writes to the group. -/
def Writes (steps : List (DeviceId × GroupCommand)) (target : DeviceId) (group : GroupId) : Prop :=
  ∃ step ∈ steps, (writtenTo target group step).isSome

/-- Some of the actions prints a device to which some of the others writes. -/
def Sees (steps others : List (DeviceId × GroupCommand)) : Prop :=
  ∃ target group, (target, GroupCommand.print) ∈ steps ∧ Writes others target group

instance (steps : List (DeviceId × GroupCommand)) (target : DeviceId) (group : GroupId) :
    Decidable (Writes steps target group) :=
  inferInstanceAs (Decidable (∃ step ∈ steps, _))

end GroupRun

/-- The platforms answer alike, and have the same masks in all groups that are not foreign. -/
structure Platform.AgreeBut (foreign : DeviceId → GroupId → Prop) (p q : Platform) : Prop where
  same : p.state.SameButGroups q.state
  faults : q.faults = p.faults
  masks : ∀ slot group, (∀ target : DeviceId, target.val = slot → ¬ foreign target group) →
    p.state.mask? slot group = q.state.mask? slot group

/-- The clients are equally far.  If one of them is told what is foreign, their outputs may differ,
but do not come to an end. -/
structure GroupClient.Alike (told : Prop) (c d : GroupClient) : Prop where
  position : c.position = d.position
  todo : c.todo = d.todo
  outcome : c.outcome = d.outcome
  same_out : ¬ told → c.out = d.out
  endless : told → c.out.room = none ∧ d.out.room = none

section Relations

variable {foreign : DeviceId → GroupId → Prop} {told : Prop} {p q r : Platform}
variable {c d e : GroupClient}

theorem Platform.AgreeBut.refl (foreign : DeviceId → GroupId → Prop) (p : Platform) :
    p.AgreeBut foreign p :=
  ⟨.refl _, rfl, fun _ _ _ => rfl⟩

/-- Platforms that agree with a third one agree. -/
theorem Platform.AgreeBut.join (h : p.AgreeBut foreign r) (h' : q.AgreeBut foreign r) :
    p.AgreeBut foreign q :=
  ⟨h.same.trans h'.same.symm, h'.faults.symm.trans h.faults,
    fun slot group hown => (h.masks slot group hown).trans (h'.masks slot group hown).symm⟩

/-- Platforms agree entirely if no group is foreign in both of two ways. -/
theorem Platform.AgreeBut.state_eq {foreign' : DeviceId → GroupId → Prop}
    (h : p.AgreeBut foreign q) (h' : p.AgreeBut foreign' q)
    (hdisjoint : ∀ target group, foreign target group → ¬ foreign' target group) :
    p.state = q.state := by
  refine PlatformState.ext_of_masks h.same fun slot group => ?_
  by_cases hown : ∃ target : DeviceId, target.val = slot ∧ foreign target group
  · obtain ⟨target, hslot, hforeign⟩ := hown
    refine h'.masks slot group fun other hother hforeign' => ?_
    -- a slot is that of one device at most
    obtain rfl : target = other := Fin.ext (hslot.trans hother.symm)
    exact hdisjoint target group hforeign hforeign'
  · exact h.masks slot group fun target hslot hforeign => hown ⟨target, hslot, hforeign⟩

/-- Clients that are as far as a third one are equally far. -/
theorem GroupClient.Alike.join (h : c.Alike told e) (h' : d.Alike told e) : c.Alike told d :=
  ⟨h.position.trans h'.position.symm, h.todo.trans h'.todo.symm,
    h.outcome.trans h'.outcome.symm,
    fun hnot => (h.same_out hnot).trans (h'.same_out hnot).symm,
    fun htold => ⟨(h.endless htold).1, (h'.endless htold).1⟩⟩

end Relations

/-! ## §2. One action. -/

section Actions

variable {foreign : DeviceId → GroupId → Prop} {told : Prop} {p q : Platform}
variable {c d : GroupClient} {command : GroupCommand} {commands : List GroupCommand}
variable {device : DeviceId}

/-- What is not foreign is printed alike. -/
theorem output_congr (hagree : p.AgreeBut foreign q)
    (hown : command = .print → ∀ group, ¬ foreign device group) :
    command.output p.state device = command.output q.state device := by
  cases command with
  | print =>
      have hgroups : p.state.groupsOf device = q.state.groupsOf device := by
        refine PlatformState.groupsOf_congr fun group => hagree.masks _ group ?_
        intro target htarget
        obtain rfl : target = device := Fin.ext htarget
        exact hown rfl group
      unfold GroupCommand.output
      rw [hgroups]
  | select | clear | setMask | setList => rfl

/-- An action leaves platforms that agree in agreement, whatever it writes. -/
theorem agree_stateAfter {p' q' : Platform} (hagree : p.AgreeBut foreign q)
    (hp : p'.state = command.stateAfter p device) (hq : q'.state = command.stateAfter q device)
    (hpfaults : p'.faults = p.faults) (hqfaults : q'.faults = q.faults) :
    p'.AgreeBut foreign q' := by
  refine ⟨?_, ?_, fun slot group hown => ?_⟩
  · rw [hp, hq]
    exact (command.sameButGroups_stateAfter p device).symm.trans
      (hagree.same.trans (command.sameButGroups_stateAfter q device))
  · rw [hpfaults, hqfaults, hagree.faults]
  · -- the action is refused by both or by neither
    rw [hp, hq, command.mask?_stateAfter, command.mask?_stateAfter, hagree.masks slot group hown,
      refusal?_eq hagree.same hagree.faults]

/-- Clients that are alike are answered alike, if what is printed now is not foreign. -/
theorem verdict_alike (device : DeviceId) (command : GroupCommand) (halike : c.Alike told d)
    (hagree : p.AgreeBut foreign q)
    (hown : ¬ told → command = .print → ∀ group, ¬ foreign device group) :
    (command.verdict p device c.out).1 = (command.verdict q device d.out).1
      ∧ (¬ told → (command.verdict p device c.out).2 = (command.verdict q device d.out).2)
      ∧ (told → (command.verdict p device c.out).2.room = none
        ∧ (command.verdict q device d.out).2.room = none) := by
  have hrefusal : command.refusal? p device = command.refusal? q device :=
    (refusal?_eq hagree.same hagree.faults _ _).symm
  by_cases htold : told
  · obtain ⟨hout, hout'⟩ := halike.endless htold
    obtain ⟨hanswer, hrooms⟩ := GroupCommand.verdict_of_endless hrefusal hout hout'
    exact ⟨hanswer, fun hnot => absurd htold hnot, fun _ => hrooms⟩
  · have hsame : command.verdict p device c.out = command.verdict q device d.out := by
      rw [← halike.same_out htold]
      exact GroupCommand.verdict_congr hrefusal (output_congr hagree (hown htold))
    rw [hsame]
    exact ⟨rfl, fun _ => rfl, fun htold' => absurd htold' htold⟩

/-- Clients that are alike proceed alike, if they are answered alike. -/
theorem proceed_alike (halike : c.Alike told d) {answered answered' : Except ToolError Unit × Sink}
    (hanswer : answered.1 = answered'.1) (hsame : ¬ told → answered.2 = answered'.2)
    (hendless : told → answered.2.room = none ∧ answered'.2.room = none) :
    (c.proceed command commands answered).Alike told (d.proceed command commands answered') := by
  obtain ⟨answer, out⟩ := answered
  obtain ⟨answer', out'⟩ := answered'
  obtain rfl : answer = answer' := hanswer
  unfold GroupClient.proceed
  rw [halike.position, halike.outcome]
  cases answer with
  | ok u => exact ⟨rfl, rfl, rfl, hsame, hendless⟩
  | error error => exact ⟨rfl, rfl, rfl, hsame, hendless⟩

/-- **Clients that are alike take the next action alike**, if they are not told what is foreign. -/
theorem step_alike (halike : c.Alike told d) (hagree : p.AgreeBut foreign q)
    (hown : ¬ told → ∀ target group, (target, GroupCommand.print) ∈ c.ahead →
      ¬ foreign target group) :
    (c.step p).1.Alike told (d.step q).1 ∧ (c.step p).2.AgreeBut foreign (d.step q).2 := by
  cases htodo : c.todo with
  | nil =>
      rw [GroupClient.step_of_done htodo, GroupClient.step_of_done (halike.todo ▸ htodo)]
      exact ⟨halike, hagree⟩
  | cons command commands =>
      obtain ⟨hc, hp, hpfaults⟩ := GroupClient.step_of_todo htodo p
      obtain ⟨hd, hq, hqfaults⟩ := GroupClient.step_of_todo (halike.todo ▸ htodo) q
      rw [← halike.outcome] at hd hq
      refine ⟨?_, agree_stateAfter hagree hp hq hpfaults hqfaults⟩
      -- the action that is taken now is the first one ahead
      have hnow : (c.outcome.device, command) ∈ c.ahead := by
        unfold GroupClient.ahead
        rw [htodo, addressed_cons]
        exact List.mem_cons_self
      obtain ⟨hanswer, hsame, hendless⟩ := verdict_alike c.outcome.device command halike hagree
        fun hnot hprint group => hown hnot _ group (hprint ▸ hnow)
      rw [hc, hd]
      exact proceed_alike halike hanswer hsame hendless

/-- Where a client writes nothing, its next action writes nothing. -/
theorem writtenAt?_of_not_writes (htodo : d.todo = command :: commands) {slot : Nat}
    {group : GroupId} (h : ∀ target : DeviceId, target.val = slot → ¬ Writes d.ahead target group) :
    command.writtenAt? d.outcome.device slot group = none := by
  unfold GroupCommand.writtenAt?
  by_cases hslot : d.outcome.device.val = slot
  · rw [if_pos hslot]
    refine Option.not_isSome_iff_eq_none.mp fun hwritten => ?_
    refine h d.outcome.device hslot ⟨(d.outcome.device, command), ?_, ?_⟩
    · unfold GroupClient.ahead
      rw [htodo, addressed_cons]
      exact List.mem_cons_self
    · unfold writtenTo
      rw [if_pos rfl]
      exact hwritten
  · exact if_neg hslot

/-- **What the other client does is foreign.** -/
theorem step_foreign (hagree : p.AgreeBut foreign q)
    (hforeign : ∀ target group, Writes d.ahead target group → foreign target group) :
    (d.step p).2.AgreeBut foreign q := by
  cases htodo : d.todo with
  | nil =>
      rw [GroupClient.step_of_done htodo]
      exact hagree
  | cons command commands =>
      obtain ⟨-, hstate, hfaults⟩ := GroupClient.step_of_todo htodo p
      refine ⟨?_, hagree.faults.trans hfaults.symm, fun slot group hown => ?_⟩
      · rw [hstate]
        exact (command.sameButGroups_stateAfter p _).symm.trans hagree.same
      · have hnothing : command.writtenAt? d.outcome.device slot group = none :=
          writtenAt?_of_not_writes htodo fun target hslot hwrites =>
            hown target hslot (hforeign target group hwrites)
        -- so the mask stays, be the action refused or not
        rw [hstate, GroupCommand.mask?_stateAfter, hnothing, ← hagree.masks slot group hown]
        simp only [Option.getD_none, ite_self]
        exact Option.map_id'

end Actions

/-! ## §3. Any interleaving. -/

namespace TwoClients

variable {s : TwoClients} {told : Prop} {foreign : DeviceId → GroupId → Prop}

/-- Through an interleaving, the first client does what it would do alone. -/
theorem follows {c : GroupClient} {p : Platform} (halike : s.first.Alike told c)
    (hagree : s.platform.AgreeBut foreign p)
    (hown : ¬ told → ∀ target group, (target, GroupCommand.print) ∈ s.first.ahead →
      ¬ foreign target group)
    (hforeign : ∀ target group, Writes s.second.ahead target group → foreign target group)
    (turns : List Turn) :
    ∃ n, (s.play turns).first.Alike told (GroupClient.alone n (c, p)).1
      ∧ (s.play turns).platform.AgreeBut foreign (GroupClient.alone n (c, p)).2 := by
  induction turns generalizing s c p with
  | nil => exact ⟨0, halike, hagree⟩
  | cons turn turns ih =>
      cases turn with
      | first =>
          -- the client that has the platform to itself goes on as well
          obtain ⟨halike', hagree'⟩ := step_alike halike hagree hown
          obtain ⟨n, hn⟩ := ih (s := s.turn .first) halike' hagree'
            (fun hnot target group hmem =>
              hown hnot target group (s.first.ahead_step s.platform hmem))
            hforeign
          exact ⟨n + 1, hn⟩
      | second =>
          refine ih (s := s.turn .second) halike (step_foreign hagree hforeign) hown ?_
          rintro target group ⟨step, hmem, hwritten⟩
          exact hforeign target group ⟨step, s.second.ahead_step s.platform hmem, hwritten⟩

/-- Two interleavings that bring the first client to its end bring it to the same end. -/
theorem first_confluent (s : TwoClients) (turns turns' : List Turn)
    (hendless : Sees s.first.ahead s.second.ahead → s.first.out.room = none)
    (hdone : (s.play turns).first.todo = []) (hdone' : (s.play turns').first.todo = []) :
    (s.play turns).first.Alike (Sees s.first.ahead s.second.ahead) (s.play turns').first
      ∧ (s.play turns).platform.AgreeBut (Writes s.second.ahead) (s.play turns').platform := by
  have halike : s.first.Alike (Sees s.first.ahead s.second.ahead) s.first :=
    ⟨rfl, rfl, rfl, fun _ => rfl, fun hsees => ⟨hendless hsees, hendless hsees⟩⟩
  have hfollows := follows halike (.refl (Writes s.second.ahead) _)
    (fun hnot target group hmem hwrites => hnot ⟨target, group, hmem, hwrites⟩)
    fun _ _ hwrites => hwrites
  obtain ⟨m, hclient, hplatform⟩ := hfollows turns
  obtain ⟨n, hclient', hplatform'⟩ := hfollows turns'
  have hend : GroupClient.alone m (s.first, s.platform)
      = GroupClient.alone n (s.first, s.platform) :=
    GroupClient.alone_unique (hclient.todo ▸ hdone) (hclient'.todo ▸ hdone')
  rw [hend] at hclient hplatform
  exact ⟨hclient.join hclient', hplatform.join hplatform'⟩

/-- The same for the second client. -/
theorem second_confluent (s : TwoClients) (turns turns' : List Turn)
    (hendless : Sees s.second.ahead s.first.ahead → s.second.out.room = none)
    (hdone : (s.play turns).second.todo = []) (hdone' : (s.play turns').second.todo = []) :
    (s.play turns).second.Alike (Sees s.second.ahead s.first.ahead) (s.play turns').second
      ∧ (s.play turns).platform.AgreeBut (Writes s.first.ahead) (s.play turns').platform := by
  have hconfluent := first_confluent s.swap (turns.map Turn.swap) (turns'.map Turn.swap) hendless
  rw [play_swap, play_swap] at hconfluent
  exact hconfluent hdone hdone'

end TwoClients

/-! ## §4. Independent clients. -/

/-- **Clients do not disturb each other.**  Where no group is written by both, every interleaving
that brings both clients to their ends leaves the state that they leave one after the other, and
each has the same current device then and the same failure, if any.  A client that prints no device
to which the other one writes prints the same, too; the output of one that does must not come to
an end. -/
theorem clients_independent (p : Platform) (device device' : DeviceId)
    (commands commands' : List GroupCommand) (out out' : Sink) (turns : List Turn)
    {ended : TwoClients}
    (hplay : TwoClients.play ⟨p, .start device commands out, .start device' commands' out'⟩ turns
      = ended)
    (hfirst : ended.first.todo = []) (hsecond : ended.second.todo = [])
    (hdisjoint : ∀ target group, Writes (addressed device commands) target group →
      ¬ Writes (addressed device' commands') target group)
    (hout : Sees (addressed device commands) (addressed device' commands') → out.room = none)
    (hout' : Sees (addressed device' commands') (addressed device commands) →
      out'.room = none) :
    ∃ outcome w outcome' w',
      sequence device commands (.start p out) = (outcome, w)
      ∧ sequence device' commands' (.start w.platform out') = (outcome', w')
      ∧ ended.platform.state = w'.platform.state
      ∧ ended.platform.faults = w'.platform.faults
      ∧ ended.first.outcome = outcome
      ∧ ended.second.outcome = outcome'
      ∧ (¬ Sees (addressed device commands) (addressed device' commands') →
        ended.first.out = w.out)
      ∧ (¬ Sees (addressed device' commands') (addressed device commands) →
        ended.second.out = w'.out) := by
  obtain ⟨⟨outcome, w⟩, hsequence⟩ :
      ∃ ran, sequence device commands (.start p out) = ran := ⟨_, rfl⟩
  obtain ⟨⟨outcome', w'⟩, hsequence'⟩ :
      ∃ ran, sequence device' commands' (.start w.platform out') = ran := ⟨_, rfl⟩
  refine ⟨outcome, w, outcome', w', hsequence, hsequence', ?_⟩
  obtain ⟨inARow, c, c', between, q, hrow, hends, hends'⟩ := play_in_a_row hsequence hsequence'
  subst hplay
  -- what each client does is compared on the two interleavings
  have hdone := hends.done
  have hdone' := hends'.done
  obtain ⟨hclient, hplatform⟩ := TwoClients.first_confluent
    ⟨p, .start device commands out, .start device' commands' out'⟩ turns inARow hout hfirst
    (by rw [hrow]; exact hdone)
  obtain ⟨hclient', hplatform'⟩ := TwoClients.second_confluent
    ⟨p, .start device commands out, .start device' commands' out'⟩ turns inARow hout' hsecond
    (by rw [hrow]; exact hdone')
  have hstate := hplatform'.state_eq hplatform hdisjoint
  have hfaults := hplatform.faults.symm
  rw [hrow] at hclient hclient' hstate hfaults
  exact ⟨hstate.trans hends'.state, hfaults.trans hends'.faults,
    hclient.outcome.trans hends.outcome, hclient'.outcome.trans hends'.outcome,
    fun hnot => (hclient.same_out hnot).trans hends.out,
    fun hnot => (hclient'.same_out hnot).trans hends'.out⟩

/-- The second client prints device 0 before the first one writes there, and empties device 1 after
a write of the first one was refused. -/
theorem clients_independent_of_refused_write :
    ∃ ended outcome w outcome' w',
      TwoClients.play ⟨Platform.initial.injectFault (.writeGroup 2 0) (.notFound "line"),
          .start 0 [.setMask 1 ⟨2⟩, .select 2, .setMask 0 ⟨7⟩, .clear] .unlimited,
          .start 0 [.setList 2 ⟨4⟩, .print, .select 1, .clear] .unlimited⟩
        [.second, .second, .first, .second, .first, .second, .first] = ended
      ∧ sequence 0 [.setMask 1 ⟨2⟩, .select 2, .setMask 0 ⟨7⟩, .clear]
          (.start (Platform.initial.injectFault (.writeGroup 2 0) (.notFound "line")) .unlimited)
        = (outcome, w)
      ∧ sequence 0 [.setList 2 ⟨4⟩, .print, .select 1, .clear] (.start w.platform .unlimited)
        = (outcome', w')
      ∧ ended.platform.state = w'.platform.state
      ∧ ended.first.outcome = outcome
      ∧ outcome.failure.map (·.position) = some 2
      ∧ ended.second.outcome = outcome'
      ∧ outcome' = ⟨1, none⟩ := by
  obtain ⟨outcome, w, outcome', w', hfirst, hsecond, hstate, -, houtcome, houtcome', -⟩ :=
    clients_independent (Platform.initial.injectFault (.writeGroup 2 0) (.notFound "line")) 0 0
      [.setMask 1 ⟨2⟩, .select 2, .setMask 0 ⟨7⟩, .clear]
      [.setList 2 ⟨4⟩, .print, .select 1, .clear] .unlimited .unlimited
      [.second, .second, .first, .second, .first, .second, .first] rfl (by rfl) (by rfl)
      (by decide) (fun _ => rfl) fun _ => rfl
  refine ⟨_, outcome, w, outcome', w', rfl, hfirst, hsecond, hstate, houtcome, ?_, houtcome', ?_⟩
  · rw [← houtcome]
    rfl
  · rw [← houtcome']
    rfl

end FlowProcessor
