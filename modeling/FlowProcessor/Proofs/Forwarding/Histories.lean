/-
  FlowProcessor.Proofs.Forwarding.Histories — WHATEVER HAPPENS, THE TABLES MAKE SENSE.

  A history is any sequence of incidents: actions of clients, plans that are carried out in between,
  faults that come and go.  The committed tables and the copies of all open handles are well formed
  together or not at all.  A commit makes a copy the committed tables, and opening makes the
  committed tables a copy, so that neither can be kept well formed without the other.

    • `Incident`, `Clients.history` — what can happen, and what comes of it
    • `wellFormed_undergo`          — one incident
    • `history_wellFormed`          — any history
-/
import FlowProcessor.Proofs.Forwarding.Clients
import FlowProcessor.Proofs.Forwarding.WellFormed

namespace FlowProcessor

/-! ## §1. Histories. -/

/-- What can happen to a platform and the clients that work on it. -/
inductive Incident
  /-- The owner of a handle does something. -/
  | acted (action : ClientAction)
  /-- A plan is carried out, to whatever end; its output may come to an end as well. -/
  | carriedOut (configurator : Configurator) (plan : ForwardingPlan) (readback : Readback)
      (out : Sink)
  | faultInjected (call : Call) (error : PlatformError)
  | faultsCleared

namespace Clients

/-- The clients after an incident. -/
def undergo (c : Clients) : Incident → Clients
  | .acted action => (c.step action).2
  | .carriedOut configurator plan readback out =>
      { c with
        platform := (configurator.apply plan readback (.start c.platform out)).2.platform }
  | .faultInjected call error => { c with platform := c.platform.injectFault call error }
  | .faultsCleared => { c with platform := c.platform.clearFaults }

/-- The clients after a sequence of incidents. -/
def history (c : Clients) (incidents : List Incident) : Clients := incidents.foldl undergo c

/-- A platform on which nobody has opened a handle yet. -/
def alone (platform : Platform) : Clients := ⟨platform, fun _ => none⟩

/-- The tables that somebody works with: the committed ones and the copies of open handles. -/
inductive InUse (c : Clients) : ForwardingTables → Prop
  | committed : InUse c c.forwarding.active
  | staged {name : HandleName} {handle : ForwardingHandle} (held : c.handle? name = some handle) :
      InUse c handle.staged

/-- All tables that somebody works with are well formed. -/
def WellFormed (c : Clients) : Prop := ∀ t, c.InUse t → t.WellFormed

variable {c : Clients}

theorem WellFormed.active (h : c.WellFormed) : c.forwarding.active.WellFormed := h _ .committed

/-- A client's copy is replaced, or its handle is dropped; the other copies stay as they are. -/
theorem WellFormed.keep {calls : List Call} {f : ForwardingState} (h : c.WellFormed)
    (hactive : f.active.WellFormed) (name : HandleName) (handle : Option ForwardingHandle)
    (hhandle : ∀ kept, handle = some kept → kept.staged.WellFormed) :
    ((c.after calls f).keep name handle).WellFormed := by
  intro t huse
  cases huse with
  | committed => exact hactive
  | @staged other kept held =>
      change (if other = name then handle else c.handle? other) = some kept at held
      by_cases hsame : other = name
      · rw [if_pos hsame] at held
        exact hhandle kept held
      · rw [if_neg hsame] at held
        exact h _ (.staged held)

/-- The committed tables change, and no copy does. -/
theorem WellFormed.of_active {platform : Platform} (h : c.WellFormed)
    (hactive : platform.state.forwarding.active.WellFormed) :
    Clients.WellFormed { c with platform := platform } := by
  intro t huse
  cases huse with
  | committed => exact hactive
  | staged held => exact h _ (.staged held)

/-! ## §2. One incident. -/

/-- An action keeps all tables well formed, whether it is granted or refused. -/
theorem wellFormed_of_does {action : ClientAction} {answer : ClientAnswer} {c' : Clients}
    (hdoes : c.Does action answer c') (h : c.WellFormed) : c'.WellFormed := by
  have hactive : c.forwarding.active.WellFormed := h.active
  have hdropped : ∀ kept, (none : Option ForwardingHandle) = some kept →
      kept.staged.WellFormed := by
    intro kept hkept
    cases hkept
  cases hdoes with
  | unknown absent => exact h
  | refused calls error => exact h.of_active hactive
  | answered name lif value => exact h.of_active hactive
  | opened name =>
      -- a new copy is as well formed as the committed tables
      refine h.keep hactive name _ fun kept hkept => ?_
      obtain rfl := Option.some.inj hkept
      exact hactive
  | granted held grants =>
      obtain ⟨hactive', hstaged'⟩ := grants.wellFormed hactive (h _ (.staged held))
      refine h.keep hactive' _ _ fun kept hkept => ?_
      obtain rfl := Option.some.inj hkept
      exact hstaged'
  | released name => exact h.keep hactive name none hdropped
  | unreleased name error => exact h.keep hactive name none hdropped

/-- A plan leaves the committed tables well formed, wherever its run ends. -/
theorem active_wellFormed_of_apply (configurator : Configurator) (plan : ForwardingPlan)
    (readback : Readback) (w : World) (h : w.platform.state.forwarding.active.WellFormed) :
    (configurator.apply plan readback
      w).2.platform.state.forwarding.active.WellFormed := by
  obtain ⟨outcome, made, f, w', hrun, hends, hafter⟩ :=
    apply_ends plan readback w.over_self feasible_steps
  obtain ⟨done, rest, hreached⟩ := hends.reached
  rw [Configurator.apply_eq hrun, hafter.platform, Platform.after_forwarding]
  exact hreached.wellFormed h

/-- **An incident keeps all tables well formed.** -/
theorem wellFormed_undergo (h : c.WellFormed) (incident : Incident) :
    (c.undergo incident).WellFormed := by
  cases incident with
  | acted action => exact wellFormed_of_does (c.does_step action) h
  | carriedOut configurator plan readback out =>
      exact h.of_active (active_wellFormed_of_apply configurator plan readback _ h.active)
  -- faults decide which calls fail later on, and change no table
  | faultInjected call error => exact h.of_active h.active
  | faultsCleared => exact h.of_active h.active

/-! ## §3. Any history. -/

theorem wellFormed_history (h : c.WellFormed) (incidents : List Incident) :
    (c.history incidents).WellFormed := by
  induction incidents generalizing c with
  | nil => exact h
  | cons incident incidents ih => exact ih (wellFormed_undergo h incident)

theorem wellFormed_alone {platform : Platform}
    (h : platform.state.forwarding.active.WellFormed) : (alone platform).WellFormed := by
  intro t huse
  cases huse with
  | committed => exact h
  | staged held => cases held

end Clients

/-- **Whatever happens to a platform whose tables are well formed, the tables that anybody works
with stay well formed, and every attached interface is a member of exactly one domain.** -/
theorem history_wellFormed (platform : Platform) (incidents : List Incident)
    (hactive : platform.state.forwarding.active.WellFormed) (t : ForwardingTables)
    (huse : ((Clients.alone platform).history incidents).InUse t) :
    t.WellFormed ∧ ∀ lif l, t.lif? lif = some l → l.domain.isSome → t.Home lif := by
  have hwellFormed : t.WellFormed :=
    Clients.wellFormed_history (Clients.wellFormed_alone hactive) incidents t huse
  refine ⟨hwellFormed, fun lif l hl hattached => ?_⟩
  exact hwellFormed.home hl hattached

/-- A client stages an interface in a domain; two plans go wrong in the meantime, one for a fault,
the other for its MTU of zero, after it has committed; then the client commits its old copy, in
which the domain of the second plan does not exist. -/
theorem history_wellFormed_of_stale_commit :
    ∃ c : Clients, c = (Clients.alone .initial).history
        [.acted (.acquire "client"),
          .acted (.operate "client" (.configureDomain ⟨3⟩ .l3)),
          .acted (.operate "client" (.configureLif ⟨1⟩ ⟨11⟩ .untagged)),
          .acted (.operate "client" (.attach ⟨3⟩ ⟨1⟩)),
          .faultInjected .clearForwarding (.notFound "tables"),
          .carriedOut .fresh ⟨⟨5⟩, .l2, true, [.untagged 10 1], none, .ethernetII, none⟩ id
            .unlimited,
          .faultsCleared,
          .carriedOut .fresh ⟨⟨5⟩, .l2, true, [.untagged 10 1], some 0, .ethernetII, none⟩ id
            .unlimited,
          .acted (.operate "client" .commit)]
      ∧ c.forwarding.commits = 2
      ∧ c.forwarding.active.domain? ⟨5⟩ = none
      ∧ c.forwarding.active.Home ⟨1⟩ := by
  refine ⟨_, rfl, by decide, by decide, ?_⟩
  refine (history_wellFormed .initial _ ForwardingTables.wellFormed_empty _ .committed).2 ⟨1⟩
    ⟨⟨11⟩, .untagged, none, some ⟨3⟩, none, .ethernetII, none⟩ ?_ rfl
  decide

end FlowProcessor
