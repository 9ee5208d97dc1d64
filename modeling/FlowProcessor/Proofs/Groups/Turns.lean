/-
  FlowProcessor.Proofs.Groups.Turns — CLIENTS THAT TAKE TURNS.

  A client has actions, a current device and an output of its own, and works on a platform that it
  may share.  It takes one action at a time and stops at its first failure.  Two clients take turns
  in any order.  To run the whole sequence of the one and then that of the other is one of these
  orders.

    • `GroupClient.step`, `step_of_todo` — an action of a client, told by its verdict
    • `TwoClients.play`    — any interleaving of the actions of two clients
    • `sequenceFrom_alone` — what a client does alone is to run its sequence
    • `play_in_a_row`      — two sequences in a row are an interleaving
-/
import FlowProcessor.Proofs.Groups.Verdicts

namespace FlowProcessor

open GroupRun

/-! ## §1. Clients. -/

/-- A client of the load-balance service, on its way through its actions. -/
structure GroupClient where
  /-- How many actions it has carried out. -/
  position : Nat
  /-- The actions that are left, none of them after a failure. -/
  todo : List GroupCommand
  /-- The current device, and the failure if there was one. -/
  outcome : GroupOutcome
  out : Sink

namespace GroupClient

/-- A client before its first action. -/
def start (device : DeviceId) (commands : List GroupCommand) (out : Sink) : GroupClient :=
  ⟨0, commands, ⟨device, none⟩, out⟩

/-- The next action of a client, if any is left. -/
def step (c : GroupClient) (p : Platform) : GroupClient × Platform :=
  match c.todo with
  | [] => (c, p)
  | command :: commands =>
      match command.apply c.outcome.device (.start p c.out) with
      | (.ok device, w) => (⟨c.position + 1, commands, ⟨device, none⟩, w.out⟩, w.platform)
      | (.error error, w) =>
          (⟨c.position, [], ⟨c.outcome.device, some ⟨c.position, command, error⟩⟩, w.out⟩,
            w.platform)

/-- So many actions of a client that has the platform to itself. -/
def alone : Nat → GroupClient × Platform → GroupClient × Platform
  | 0, x => x
  | n + 1, (c, p) => alone n (c.step p)

/-- The actions that are left, each with the device it is directed at. -/
def ahead (c : GroupClient) : List (DeviceId × GroupCommand) := addressed c.outcome.device c.todo

/-- A client after an action with such an answer. -/
def proceed (c : GroupClient) (command : GroupCommand) (commands : List GroupCommand) :
    Except ToolError Unit × Sink → GroupClient
  | (.ok (), out) => ⟨c.position + 1, commands, ⟨command.next c.outcome.device, none⟩, out⟩
  | (.error error, out) =>
      ⟨c.position, [], ⟨c.outcome.device, some ⟨c.position, command, error⟩⟩, out⟩

variable {c d : GroupClient} {p q : Platform} {command : GroupCommand}
variable {commands : List GroupCommand} {n : Nat} {x : GroupClient × Platform}

theorem step_of_done (h : c.todo = []) (p : Platform) : c.step p = (c, p) := by
  unfold step
  rw [h]

/-- **A client proceeds by the verdict on its next action.** -/
theorem step_of_todo (h : c.todo = command :: commands) (p : Platform) :
    (c.step p).1 = c.proceed command commands (command.verdict p c.outcome.device c.out)
      ∧ (c.step p).2.state = command.stateAfter p c.outcome.device
      ∧ (c.step p).2.faults = p.faults := by
  obtain ⟨-, -, hstate, hfaults⟩ := command.apply_verdict c.outcome.device (.start p c.out)
  obtain ⟨⟨result, w⟩, happly⟩ :
      ∃ applied, command.apply c.outcome.device (.start p c.out) = applied := ⟨_, rfl⟩
  obtain ⟨hverdict, hnext⟩ := GroupCommand.verdict_of_apply happly
  change command.verdict p c.outcome.device c.out = _ at hverdict
  rw [happly] at hstate hfaults
  unfold step
  rw [h]
  dsimp only
  rw [happly, hverdict]
  cases result with
  | ok next =>
      obtain rfl := hnext next rfl
      exact ⟨rfl, hstate, hfaults⟩
  | error error => exact ⟨rfl, hstate, hfaults⟩

/-- The actions left after one are among those before. -/
theorem ahead_step (c : GroupClient) (p : Platform) : (c.step p).1.ahead ⊆ c.ahead := by
  intro step hstep
  cases htodo : c.todo with
  | nil =>
      rw [step_of_done htodo] at hstep
      exact hstep
  | cons command commands =>
      unfold ahead
      rw [htodo, addressed_cons]
      rw [(step_of_todo htodo p).1] at hstep
      unfold proceed at hstep
      split at hstep
      · exact List.mem_cons_of_mem _ hstep
      · cases hstep

theorem alone_of_done (h : x.1.todo = []) (n : Nat) : alone n x = x := by
  induction n with
  | zero => rfl
  | succ n ih =>
      show alone n (x.1.step x.2) = x
      rw [step_of_done h]
      exact ih

theorem alone_add (m n : Nat) (x : GroupClient × Platform) :
    alone (m + n) x = alone n (alone m x) := by
  induction m generalizing x with
  | zero => rw [Nat.zero_add]; rfl
  | succ m ih =>
      rw [Nat.succ_add]
      exact ih _

/-- A client comes to one end only. -/
theorem alone_unique {m n : Nat} (hm : (alone m x).1.todo = []) (hn : (alone n x).1.todo = []) :
    alone m x = alone n x := by
  rcases Nat.le_total m n with hle | hle
  · obtain ⟨k, rfl⟩ := Nat.exists_eq_add_of_le hle
    rw [alone_add, alone_of_done hm]
  · obtain ⟨k, rfl⟩ := Nat.exists_eq_add_of_le hle
    rw [alone_add, alone_of_done hn]

end GroupClient

/-! ## §2. Interleavings. -/

/-- Two clients of one platform. -/
structure TwoClients where
  platform : Platform
  first : GroupClient
  second : GroupClient

/-- Whose turn it is. -/
inductive Turn
  | first
  | second
  deriving DecidableEq

namespace TwoClients

/-- One of the clients takes its next action. -/
def turn (s : TwoClients) : Turn → TwoClients
  | .first => ⟨(s.first.step s.platform).2, (s.first.step s.platform).1, s.second⟩
  | .second => ⟨(s.second.step s.platform).2, s.first, (s.second.step s.platform).1⟩

/-- The clients take turns in a given order. -/
def play (s : TwoClients) (turns : List Turn) : TwoClients := turns.foldl turn s

/-- The clients in the other order. -/
def swap (s : TwoClients) : TwoClients := ⟨s.platform, s.second, s.first⟩

end TwoClients

/-- The other turn. -/
def Turn.swap : Turn → Turn
  | .first => .second
  | .second => .first

theorem TwoClients.play_swap (s : TwoClients) (turns : List Turn) :
    s.swap.play (turns.map Turn.swap) = (s.play turns).swap := by
  induction turns generalizing s with
  | nil => rfl
  | cons turn turns ih =>
      have hturn : s.swap.turn turn.swap = (s.turn turn).swap := by
        cases turn <;> rfl
      show (s.swap.turn turn.swap).play (turns.map Turn.swap) = ((s.turn turn).play turns).swap
      rw [hturn]
      exact ih _

/-! ## §3. One after the other. -/

namespace TwoClients

theorem play_append (s : TwoClients) (turns more : List Turn) :
    s.play (turns ++ more) = (s.play turns).play more :=
  List.foldl_append

/-- The first client has all the turns. -/
theorem play_first (s : TwoClients) (n : Nat) :
    s.play (List.replicate n .first)
      = ⟨(GroupClient.alone n (s.first, s.platform)).2,
          (GroupClient.alone n (s.first, s.platform)).1, s.second⟩ := by
  induction n generalizing s with
  | zero => rfl
  | succ n ih => exact ih (s.turn .first)

theorem play_second (s : TwoClients) (n : Nat) :
    s.play (List.replicate n .second)
      = ⟨(GroupClient.alone n (s.second, s.platform)).2, s.first,
          (GroupClient.alone n (s.second, s.platform)).1⟩ := by
  induction n generalizing s with
  | zero => rfl
  | succ n ih => exact ih (s.turn .second)

end TwoClients

/-- A client has come to the end that a run has come to. -/
structure GroupClient.EndsLike (x : GroupClient × Platform) (ran : GroupOutcome × World) :
    Prop where
  done : x.1.todo = []
  outcome : x.1.outcome = ran.1
  out : x.1.out = ran.2.out
  state : x.2.state = ran.2.platform.state
  faults : x.2.faults = ran.2.platform.faults

/-- A client takes its next action like a run that is as far, whatever was called before. -/
theorem step_like {c : GroupClient} {command : GroupCommand} {commands : List GroupCommand}
    {w w' : World} {p : Platform} {result : Except ToolError DeviceId}
    (htodo : c.todo = command :: commands) (hout : c.out = w.out)
    (hstate : p.state = w.platform.state) (hfaults : p.faults = w.platform.faults)
    (happly : command.apply c.outcome.device w = (result, w')) :
    ∃ q, c.step p = (c.proceed command commands (result.map fun _ => (), w'.out), q)
      ∧ q.state = w'.platform.state ∧ q.faults = w'.platform.faults
      ∧ ∀ next, result = .ok next → next = command.next c.outcome.device := by
  obtain ⟨-, -, hstate', hfaults'⟩ := command.apply_verdict c.outcome.device w
  obtain ⟨hverdict, hnext⟩ := GroupCommand.verdict_of_apply happly
  obtain ⟨hclient, hp, hpfaults⟩ := GroupClient.step_of_todo htodo p
  rw [happly] at hstate' hfaults'
  have hrefusal : command.refusal? p c.outcome.device
      = command.refusal? w.platform c.outcome.device :=
    refusal?_eq (hstate ▸ .refl _) hfaults _ _
  have hafter : command.stateAfter p c.outcome.device
      = command.stateAfter w.platform c.outcome.device := by
    unfold GroupCommand.stateAfter
    rw [hrefusal, hstate]
  refine ⟨(c.step p).2, Prod.ext ?_ rfl, hp.trans (hafter.trans hstate'.symm),
    hpfaults.trans (hfaults.trans hfaults'.symm), hnext⟩
  rw [hclient, hout, GroupCommand.verdict_congr hrefusal (by rw [hstate]), hverdict]

/-- **A client that has the platform to itself runs its sequence.** -/
theorem sequenceFrom_alone (position : Nat) (device : DeviceId) (commands : List GroupCommand)
    {w : World} {p : Platform} (hstate : p.state = w.platform.state)
    (hfaults : p.faults = w.platform.faults) :
    GroupClient.EndsLike
      (GroupClient.alone commands.length (⟨position, commands, ⟨device, none⟩, w.out⟩, p))
      (sequenceFrom position device commands w) := by
  induction commands generalizing position device w p with
  | nil => exact ⟨rfl, rfl, rfl, hstate, hfaults⟩
  | cons command commands ih =>
      obtain ⟨⟨result, w'⟩, happly⟩ : ∃ applied, command.apply device w = applied := ⟨_, rfl⟩
      obtain ⟨q, hstep, hq, hqfaults, hnext⟩ :=
        step_like (c := ⟨position, command :: commands, ⟨device, none⟩, w.out⟩) rfl rfl hstate
          hfaults happly
      show GroupClient.EndsLike (GroupClient.alone commands.length
        (GroupClient.step ⟨position, command :: commands, ⟨device, none⟩, w.out⟩ p)) _
      rw [hstep]
      cases result with
      | ok next =>
          obtain rfl := hnext next rfl
          rw [sequenceFrom_cons_of_ok happly]
          exact ih (position + 1) (command.next device) hq hqfaults
      | error error =>
          -- a client that has failed takes no further action
          rw [sequenceFrom, happly, GroupClient.alone_of_done rfl]
          exact ⟨rfl, rfl, rfl, hq, hqfaults⟩

/-- One after the other is an interleaving as well: the first client has all its turns, and then
the second one. -/
theorem play_in_a_row {p : Platform} {device device' : DeviceId}
    {commands commands' : List GroupCommand} {out out' : Sink} {outcome outcome' : GroupOutcome}
    {w w' : World} (hfirst : sequence device commands (.start p out) = (outcome, w))
    (hsecond : sequence device' commands' (.start w.platform out') = (outcome', w')) :
    ∃ turns c c' between q,
      TwoClients.play ⟨p, .start device commands out, .start device' commands' out'⟩ turns
        = ⟨q, c, c'⟩
      ∧ GroupClient.EndsLike (c, between) (outcome, w)
      ∧ GroupClient.EndsLike (c', q) (outcome', w') := by
  obtain ⟨⟨c, between⟩, hc⟩ : ∃ x,
      GroupClient.alone commands.length (.start device commands out, p) = x := ⟨_, rfl⟩
  obtain ⟨⟨c', q⟩, hc'⟩ : ∃ x,
      GroupClient.alone commands'.length (.start device' commands' out', between) = x := ⟨_, rfl⟩
  have hends : GroupClient.EndsLike (c, between) (outcome, w) := by
    rw [← hc, ← hfirst]
    exact sequenceFrom_alone 0 device commands (w := .start p out) rfl rfl
  have hends' : GroupClient.EndsLike (c', q) (outcome', w') := by
    rw [← hc', ← hsecond]
    exact sequenceFrom_alone 0 device' commands' (w := .start w.platform out') hends.state
      hends.faults
  refine ⟨List.replicate commands.length .first ++ List.replicate commands'.length .second,
    c, c', between, q, ?_, hends, hends'⟩
  rw [TwoClients.play_append, TwoClients.play_first, TwoClients.play_second, hc]
  dsimp only
  rw [hc']

end FlowProcessor
