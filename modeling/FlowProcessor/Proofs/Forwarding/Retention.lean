/-
  FlowProcessor.Proofs.Forwarding.Retention — A COMMITTED TUNING STAYS.

  A tuning goes past the copy of a handle: it changes the committed interface, and the copy of it
  if the handle has one.  If it has none, the next commit takes the tuning away.  That is so after
  the handle cleared its copy, and only then.  A copy that was in step with the committed tables,
  and was not cleared since, covers every committed interface, so that a tuning reaches both
  places and later commits put back what is already there.

    • `Setting`                  — a field that can be tuned, with its value
    • `Syncs`, `tied_of_syncs`   — what puts the copy of a handle in step
    • `ForwardingOp.leads_holds` — only a few operations end a setting
    • `tuning_outlives_commits`  — no other does, in any history that is left to the handle
-/
import FlowProcessor.Proofs.Forwarding.Viewpoint

namespace FlowProcessor

/-! ## §1. Settings. -/

/-- A field of an interface that can be tuned, and a value for it. -/
inductive Setting
  | mtu (value : UInt32)
  | frameType (value : FrameType)
  | rateLimit (value : UInt32)
  deriving DecidableEq

namespace Setting

/-- Puts the value into its field. -/
def change : Setting → LifState → LifState
  | .mtu value, l => { l with mtu := some value }
  | .frameType value, l => { l with frameType := value }
  | .rateLimit value, l => { l with rateLimit := some value }

/-- The field of an interface has the value. -/
def HeldBy (l : LifState) : Setting → Prop
  | .mtu value => l.mtu = some value
  | .frameType value => l.frameType = value
  | .rateLimit value => l.rateLimit = some value

/-- Whether two settings are of the same field. -/
def sameField : Setting → Setting → Bool
  | .mtu _, .mtu _ | .frameType _, .frameType _ | .rateLimit _, .rateLimit _ => true
  | _, _ => false

variable {setting other : Setting} {l : LifState}

theorem heldBy_change : setting.HeldBy (setting.change l) := by
  cases setting <;> rfl

theorem HeldBy.change (h : setting.HeldBy l) (hfield : other.sameField setting = false) :
    setting.HeldBy (other.change l) := by
  cases setting with
  | mtu value =>
      cases other with
      | mtu => cases hfield
      | frameType | rateLimit => exact h
  | frameType value =>
      cases other with
      | frameType => cases hfield
      | mtu | rateLimit => exact h
  | rateLimit value =>
      cases other with
      | rateLimit => cases hfield
      | mtu | frameType => exact h

end Setting

namespace ForwardingOp

/-- The setting that an operation makes, and of which interface. -/
def setting? : ForwardingOp → Option (LifId × Setting)
  | .setMtu _ lif mtu => some (lif, .mtu mtu)
  | .setFrameType _ lif frameType => some (lif, .frameType frameType)
  | .setRateLimit lif limit => some (lif, .rateLimit limit)
  | _ => none

/-- Whether an operation may end a setting of an interface: it removes all interfaces, binds this
one anew, or makes another setting of the same field. -/
def ends (lif : LifId) (setting : Setting) : ForwardingOp → Bool
  | .clear => true
  | .configureLif other _ _ => other = lif
  | op => op.setting?.any fun (other, value) => other = lif && value.sameField setting

end ForwardingOp

/-! ## §2. Tables with a setting, and tables that cover others. -/

namespace ForwardingTables

/-- The interface is there and has the setting. -/
def Holds (lif : LifId) (setting : Setting) (t : ForwardingTables) : Prop :=
  ∃ l, t.lif? lif = some l ∧ setting.HeldBy l

/-- Every interface of the tables is in the copy. -/
def CoveredBy (t staged : ForwardingTables) : Prop :=
  ∀ lif, (t.lif? lif).isSome → (staged.lif? lif).isSome

variable {t staged : ForwardingTables} {lif other : LifId} {setting : Setting}
variable {change : LifState → LifState} {state : LifState}

theorem Holds.putLif (h : t.Holds lif setting) (hother : other ≠ lif) :
    (t.putLif other state).Holds lif setting := by
  obtain ⟨l, hl, hheld⟩ := h
  refine ⟨l, ?_, hheld⟩
  rw [lif?_putLif, if_neg hother, hl]

theorem Holds.adjustLif (h : t.Holds lif setting)
    (hchange : ∀ l, other = lif → setting.HeldBy l → setting.HeldBy (change l)) :
    (t.adjustLif other change).Holds lif setting := by
  obtain ⟨l, hl, hheld⟩ := h
  by_cases hsame : other = lif
  · refine ⟨change l, ?_, hchange l hsame hheld⟩
    rw [lif?_adjustLif, if_pos hsame, hsame, hl]
    rfl
  · refine ⟨l, ?_, hheld⟩
    rw [lif?_adjustLif, if_neg hsame, hl]

/-- A setting can be made of any interface that is there. -/
theorem holds_adjustLif (setting : Setting) (h : (t.lif? lif).isSome) :
    (t.adjustLif lif setting.change).Holds lif setting := by
  obtain ⟨l, hl⟩ := Option.isSome_iff_exists.mp h
  refine ⟨setting.change l, ?_, Setting.heldBy_change⟩
  rw [lif?_adjustLif, if_pos rfl, hl]
  rfl

theorem isSome_lif?_adjustLif :
    ((t.adjustLif other change).lif? lif).isSome = (t.lif? lif).isSome := by
  rw [lif?_adjustLif]
  by_cases hsame : other = lif
  · rw [if_pos hsame, hsame, Option.isSome_map]
  · rw [if_neg hsame]

theorem isSome_lif?_putLif (h : (t.lif? lif).isSome) :
    ((t.putLif other state).lif? lif).isSome := by
  rw [lif?_putLif]
  split
  · rfl
  · exact h

end ForwardingTables

/-! ## §3. What the operations do to them. -/

namespace ForwardingOp

open ForwardingTables

variable {op : ForwardingOp} {lif : LifId} {setting : Setting}
variable {f f' : ForwardingState} {staged staged' : ForwardingTables}

/-- A granted tuning makes its setting in the committed tables and in the copy. -/
theorem Grants.tuned (h : op.Grants f staged f' staged') (hop : op.setting? = some (lif, setting)) :
    (f.active.lif? lif).isSome ∧ f'.active = f.active.adjustLif lif setting.change
      ∧ staged' = staged.adjustLif lif setting.change := by
  cases h with
  | setMtu nonzero committed | setFrameType _ committed | setRateLimit _ committed =>
      obtain ⟨rfl, rfl⟩ := Prod.mk.inj (Option.some.inj hop)
      exact ⟨committed, rfl, rfl⟩
  | clear | configureDomain | configureLif | assignAddressSpace | attach | commit => cases hop

/-- No operation but the removal of everything takes an interface away. -/
theorem leads_covered (hop : op ≠ .clear) : op.Leads CoveredBy CoveredBy := by
  intro f staged f' staged' hgrants hself hcovered
  cases hgrants with
  | clear => exact absurd rfl hop
  | configureDomain => exact ⟨hself, hcovered⟩
  | configureLif => exact ⟨hself, fun lif hlif => isSome_lif?_putLif (hcovered lif hlif)⟩
  | assignAddressSpace | attach =>
      refine ⟨hself, fun lif hlif => ?_⟩
      rw [isSome_lif?_adjustLif]
      exact hcovered lif hlif
  | commit => exact ⟨fun _ hlif => hlif, fun _ hlif => hlif⟩
  | setMtu | setFrameType | setRateLimit =>
      refine ⟨fun _ hlif => hlif, fun lif hlif => ?_⟩
      rw [isSome_lif?_adjustLif] at hlif ⊢
      exact hcovered lif hlif

/-- Both the committed tables and the copy have a setting. -/
def BothHold (lif : LifId) (setting : Setting) (t staged : ForwardingTables) : Prop :=
  t.Holds lif setting ∧ staged.Holds lif setting

/-- **A tuning reaches both places where the copy covers the committed tables.** -/
theorem leads_setting (hop : op.setting? = some (lif, setting)) :
    op.Leads CoveredBy (BothHold lif setting) := by
  intro f staged f' staged' hgrants _ hcovered
  obtain ⟨hthere, hactive, hstaged⟩ := hgrants.tuned hop
  rw [hactive, hstaged]
  have hcommitted := holds_adjustLif setting hthere
  exact ⟨⟨hcommitted, hcommitted⟩, hcommitted, holds_adjustLif setting (hcovered lif hthere)⟩

/-- A tuning that does not end a setting is of another interface or of another field. -/
theorem heldBy_of_ends {other : LifId} {value : Setting} {l : LifState}
    (hop : op.setting? = some (other, value)) (hends : op.ends lif setting = false)
    (hsame : other = lif) (h : setting.HeldBy l) : setting.HeldBy (value.change l) := by
  refine h.change ?_
  cases op with
  | setMtu | setFrameType | setRateLimit =>
      obtain ⟨rfl, rfl⟩ := Prod.mk.inj (Option.some.inj hop)
      simpa [ends, setting?, hsame] using hends
  | clear | configureDomain | configureLif | assignAddressSpace | attach | commit => cases hop

/-- **An operation that does not end a setting keeps it in both places.** -/
theorem leads_holds (hop : op.ends lif setting = false) :
    op.Leads (BothHold lif setting) (BothHold lif setting) := by
  intro f staged f' staged' hgrants ⟨hactive, _⟩ ⟨_, hstaged⟩
  cases hsetting : op.setting? with
  | some tuned =>
      obtain ⟨other, value⟩ := tuned
      obtain ⟨-, hactive', hstaged'⟩ := hgrants.tuned hsetting
      have hkeeps : ∀ l, other = lif → setting.HeldBy l → setting.HeldBy (value.change l) :=
        fun l hsame hheld => heldBy_of_ends hsetting hop hsame hheld
      rw [hactive', hstaged']
      exact ⟨⟨hactive.adjustLif hkeeps, hactive.adjustLif hkeeps⟩,
        hactive.adjustLif hkeeps, hstaged.adjustLif hkeeps⟩
  | none =>
      cases hgrants with
      | clear => cases hop
      | configureDomain => exact ⟨⟨hactive, hactive⟩, hactive, hstaged⟩
      | configureLif other port vlan =>
          have hother : other ≠ lif := by simpa [ends] using hop
          exact ⟨⟨hactive, hactive⟩, hactive, hstaged.putLif hother⟩
      | assignAddressSpace | attach =>
          -- neither the address space nor the domain can be tuned
          refine ⟨⟨hactive, hactive⟩, hactive, hstaged.adjustLif fun l _ hheld => ?_⟩
          cases setting <;> exact hheld
      | commit => exact ⟨⟨hstaged, hstaged⟩, hstaged, hstaged⟩
      | setMtu | setFrameType | setRateLimit => cases hsetting

/-- Tunings keep a copy in step with the committed tables. -/
theorem leads_step (hop : op.setting?.isSome) : op.Leads Eq Eq := by
  intro f staged f' staged' hgrants _ hstep
  obtain ⟨⟨lif, setting⟩, hsetting⟩ := Option.isSome_iff_exists.mp hop
  obtain ⟨-, hactive, hstaged⟩ := hgrants.tuned hsetting
  refine ⟨rfl, ?_⟩
  rw [hactive, hstaged, hstep]

end ForwardingOp

/-! ## §4. A handle that is in step. -/

/-- The owner of a handle asks for an operation. -/
def Occurrence.operated (name : HandleName) (op : ForwardingOp) : Occurrence :=
  .asked (.forwarding (.operate name op))

namespace Workspace

open ForwardingTables ForwardingOp

variable {name : HandleName} {w : Workspace} {occurrence : Occurrence}

/-- The handle is opened, or its copy is committed. -/
def Syncs (name : HandleName) (w : Workspace) (occurrence : Occurrence) : Prop :=
  w.accepted? occurrence = some (.acquire name) ∨ w.granted? name occurrence = some .commit

instance : Decidable (Syncs name w occurrence) := inferInstanceAs (Decidable (_ ∨ _))

theorem handle?_of_granted_commit (h : w.granted? name occurrence = some .commit) :
    w.handle? name = some ⟨(w.undergo occurrence).forwarding.active⟩
      ∧ (w.undergo occurrence).handle? name
        = some ⟨(w.undergo occurrence).forwarding.active⟩ := by
  obtain ⟨held, staged, hopen, hgrants, hafter⟩ := grants_of_granted? h
  obtain ⟨f, hf⟩ : ∃ f, (w.undergo occurrence).forwarding = f := ⟨_, rfl⟩
  rw [hf] at hgrants ⊢
  cases hgrants with
  | commit => exact ⟨hopen, hafter⟩

theorem handle?_of_accepted_acquire (h : w.accepted? occurrence = some (.acquire name)) :
    (w.undergo occurrence).handle? name
      = some ⟨(w.undergo occurrence).forwarding.active⟩ := by
  obtain ⟨rfl, haccepted⟩ := accepted?_eq_some.mp h
  have hisolated := w.clients.isolated_step (.acquire name)
  -- opening a handle leaves the committed tables alone
  have hstate := hisolated.otherwise fun _ => ⟨rfl, rfl⟩
  have hopened := hisolated.opens name rfl haccepted
  show (w.clients.step (.acquire name)).2.handle? name
    = some ⟨(w.clients.step (.acquire name)).2.platform.state.forwarding.active⟩
  rw [hopened, hstate]
  rfl

/-- **A handle that was just opened, or has just committed, has the committed tables.** -/
theorem tied_of_syncs {R : ForwardingTables → ForwardingTables → Prop} (hR : ∀ t, R t t)
    (h : w.Syncs name occurrence) : Tied R name (w.undergo occurrence) := by
  have hhandle : (w.undergo occurrence).handle? name
      = some ⟨(w.undergo occurrence).forwarding.active⟩ := by
    cases h with
    | inl hacquire => exact handle?_of_accepted_acquire hacquire
    | inr hcommit => exact (handle?_of_granted_commit hcommit).2
  refine ⟨hR _, fun handle hheld => ?_⟩
  obtain rfl := Option.some.inj (hhandle.symm.trans hheld)
  exact hR _

/-! ## §5. A committed tuning. -/

/-- **What a handle tunes is kept by every later commit.**  The handle was opened, or committed,
and has not cleared its copy since; in all that happens nobody else commits or tunes.  Then a
tuning that it is granted is found in the committed tables until the handle clears, binds the
interface anew, or tunes the same field of it.  And a commit after nothing but tunings changes
no committed table. -/
theorem tuning_outlives_commits (w : Workspace) (name : HandleName) (sync : Occurrence)
    (hsync : w.Syncs name sync) :
    (∀ (recent later : List Occurrence) (tuning : Occurrence) (op : ForwardingOp) (lif : LifId)
        (setting : Setting),
      LeftTo name (w.undergo sync) (recent ++ tuning :: later) →
      .clear ∉ granted name (w.undergo sync) recent →
      (w.history (sync :: recent)).granted? name tuning = some op →
      op.setting? = some (lif, setting) →
      (∀ op ∈ granted name (w.history (sync :: recent ++ [tuning])) later,
        op.ends lif setting = false) →
      (w.history (sync :: recent ++ tuning :: later)).forwarding.active.Holds lif setting)
    ∧ ∀ (between : List Occurrence) (commit : Occurrence),
      LeftTo name (w.undergo sync) between →
      (∀ op ∈ granted name (w.undergo sync) between, op.setting?.isSome) →
      (w.history (sync :: between)).granted? name commit = some .commit →
      (w.history (sync :: between ++ [commit])).forwarding.active
        = (w.history (sync :: between)).forwarding.active := by
  refine ⟨?_, ?_⟩
  · intro recent later tuning op lif setting hleft hclear htuning hop hlater
    rw [leftTo_append] at hleft
    obtain ⟨hrecent, -, hafter⟩ := hleft
    have hcovered : Tied CoveredBy name (w.history (sync :: recent)) :=
      (tied_of_syncs (fun _ _ hlif => hlif) hsync).history hrecent fun op hmem =>
        leads_covered fun heq => hclear (heq ▸ hmem)
    have htuned : Tied (BothHold lif setting) name ((w.history (sync :: recent)).undergo tuning) :=
      hcovered.grant htuning (leads_setting hop)
    rw [history_append] at hlater ⊢
    exact (htuned.history hafter fun op hmem => leads_holds (hlater op hmem)).committed.1
  · intro between commit hleft htunings hcommit
    have hstep : Tied Eq name (w.history (sync :: between)) :=
      (tied_of_syncs (fun _ => rfl) hsync).history hleft fun op hmem =>
        leads_step (htunings op hmem)
    rw [history_append]
    exact (hstep.staged _ (handle?_of_granted_commit hcommit).1).symm

/-- A handle commits an interface, stages another one and tunes the first.  A second handle clears
its own copy, and a commit is refused; the tuning is there after all that and a commit more. -/
theorem tuning_outlives_commits_of_refused_commit :
    ∃ w : Workspace,
      w = (idle .initial).history
        [.asked (.forwarding (.acquire "second")), .asked (.forwarding (.acquire "first")),
          .operated "first" (.configureLif ⟨1⟩ ⟨11⟩ .untagged), .operated "first" .commit,
          .operated "first" (.configureLif ⟨2⟩ ⟨12⟩ .untagged), .operated "second" .clear,
          .operated "first" (.setMtu .logical ⟨1⟩ 1500),
          .faultInjected .commit (.notFound "line"), .operated "first" .commit, .faultsCleared,
          .operated "first" (.setRateLimit ⟨1⟩ 20), .operated "first" .commit]
      ∧ w.forwarding.commits = 2
      ∧ (∃ l, w.forwarding.active.lif? ⟨1⟩ = some l ∧ l.mtu = some 1500)
      ∧ (w.history [.operated "first" (.setMtu .logical ⟨2⟩ 900),
          .operated "first" .commit]).forwarding.active
        = (w.history [.operated "first" (.setMtu .logical ⟨2⟩ 900)]).forwarding.active := by
  obtain ⟨hkept, -⟩ := tuning_outlives_commits
    ((idle .initial).history
      [.asked (.forwarding (.acquire "second")), .asked (.forwarding (.acquire "first")),
        .operated "first" (.configureLif ⟨1⟩ ⟨11⟩ .untagged)])
    "first" (.operated "first" .commit) (by decide)
  have hmtu := hkept
    [.operated "first" (.configureLif ⟨2⟩ ⟨12⟩ .untagged), .operated "second" .clear]
    [.faultInjected .commit (.notFound "line"), .operated "first" .commit, .faultsCleared,
      .operated "first" (.setRateLimit ⟨1⟩ 20), .operated "first" .commit]
    (.operated "first" (.setMtu .logical ⟨1⟩ 1500)) (.setMtu .logical ⟨1⟩ 1500) ⟨1⟩ (.mtu 1500)
    (by decide) (by decide) (by decide) rfl (by decide)
  -- the second commit of that history is the one that a further tuning follows
  obtain ⟨-, hsame⟩ := tuning_outlives_commits
    ((idle .initial).history
      [.asked (.forwarding (.acquire "second")), .asked (.forwarding (.acquire "first")),
        .operated "first" (.configureLif ⟨1⟩ ⟨11⟩ .untagged), .operated "first" .commit,
        .operated "first" (.configureLif ⟨2⟩ ⟨12⟩ .untagged), .operated "second" .clear,
        .operated "first" (.setMtu .logical ⟨1⟩ 1500),
        .faultInjected .commit (.notFound "line"), .operated "first" .commit, .faultsCleared,
        .operated "first" (.setRateLimit ⟨1⟩ 20)])
    "first" (.operated "first" .commit) (by decide)
  exact ⟨_, rfl, by decide, hmtu,
    hsame [.operated "first" (.setMtu .logical ⟨2⟩ 900)] (.operated "first" .commit)
      (by decide) (by decide) (by decide)⟩

end Workspace

end FlowProcessor
