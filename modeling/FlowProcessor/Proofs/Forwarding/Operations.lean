/-
  FlowProcessor.Proofs.Forwarding.Operations — WHAT A HANDLE IS GRANTED.

  `ForwardingOp.Grants` lists, operation by operation, when the platform grants it and what the
  configuration and the copy of the handle are afterwards.  It is the work `ForwardingOp.act` read
  as a relation, and the one place where this work is opened.

    • `act_of_grants`, `grants_of_act` — the relation holds exactly of what is done
    • `atomic_act` — of every operation, that it checks before it changes anything
    • `operate_of_grants`, `operate_of_refusal`, `operate_of_fault` — the call of a handle
    • `operate_eq_ok` — and back: a granted call had no fault, and it was granted by the relation
-/
import FlowProcessor.Proofs.Forwarding.Tables
import FlowProcessor.Proofs.Platform.Service

namespace FlowProcessor

/-! ## §1. The relation. -/

namespace ForwardingOp

/-- `Grants f staged op f' staged'`: with the configuration `f` and the copy `staged`, the
operation `op` is granted and leads to `f'` and `staged'`. -/
inductive Grants (f : ForwardingState) (staged : ForwardingTables) :
    ForwardingOp → ForwardingState → ForwardingTables → Prop
  | clear : Grants f staged .clear f .empty
  | configureDomain (domain : DomainId) (mode : DomainMode) :
      Grants f staged (.configureDomain domain mode) f (staged.putDomain domain mode)
  | configureLif (lif : LifId) (port : PortId) (vlan : VlanTag) :
      Grants f staged (.configureLif lif port vlan) f (staged.putLif lif (.bare port vlan))
  | assignAddressSpace {lif : LifId} (space : UInt32) (known : (staged.lif? lif).isSome) :
      Grants f staged (.assignAddressSpace .logical lif space) f
        (staged.adjustLif lif fun l => { l with addressSpace := some space })
  | attach {domain : DomainId} {lif : LifId} (exists_domain : (staged.domain? domain).isSome)
      (known : (staged.lif? lif).isSome) :
      Grants f staged (.attach domain lif) f
        (staged.adjustLif lif fun l => { l with domain := some domain })
  | commit : Grants f staged .commit ⟨staged, f.commits + 1⟩ staged
  | setMtu {lif : LifId} {mtu : UInt32} (nonzero : mtu ≠ 0)
      (committed : (f.active.lif? lif).isSome) :
      Grants f staged (.setMtu .logical lif mtu)
        { f with active := f.active.adjustLif lif fun l => { l with mtu := some mtu } }
        (staged.adjustLif lif fun l => { l with mtu := some mtu })
  | setFrameType {lif : LifId} (frameType : FrameType)
      (committed : (f.active.lif? lif).isSome) :
      Grants f staged (.setFrameType .logical lif frameType)
        { f with active := f.active.adjustLif lif fun l => { l with frameType := frameType } }
        (staged.adjustLif lif fun l => { l with frameType := frameType })
  | setRateLimit {lif : LifId} (limit : UInt32) (committed : (f.active.lif? lif).isSome) :
      Grants f staged (.setRateLimit lif limit)
        { f with active := f.active.adjustLif lif fun l => { l with rateLimit := some limit } }
        (staged.adjustLif lif fun l => { l with rateLimit := some limit })

variable {f f' : ForwardingState} {staged staged' : ForwardingTables}

/-! ## §2. Agreement with the work. -/

section Parts

variable {lif : LifId} {change : LifState → LifState}

theorem amend_of_known (h : (staged.lif? lif).isSome) :
    amend lif change ⟨f, staged⟩ = (.ok (), ⟨f, staged.adjustLif lif change⟩) :=
  Service.require_bind_of_holds h

theorem amend_eq_ok (h : amend lif change ⟨f, staged⟩ = (.ok (), ⟨f', staged'⟩)) :
    (staged.lif? lif).isSome ∧ f' = f ∧ staged' = staged.adjustLif lif change := by
  obtain ⟨known, hchange⟩ := Service.require_bind_eq_ok h
  obtain ⟨rfl, rfl⟩ := Draft.mk.inj (Prod.mk.inj hchange).2
  exact ⟨known, rfl, rfl⟩

theorem tune_of_committed (h : (f.active.lif? lif).isSome) :
    tune lif change ⟨f, staged⟩
      = (.ok (), ⟨{ f with active := f.active.adjustLif lif change },
          staged.adjustLif lif change⟩) :=
  Service.require_bind_of_holds h

theorem tune_eq_ok (h : tune lif change ⟨f, staged⟩ = (.ok (), ⟨f', staged'⟩)) :
    (f.active.lif? lif).isSome ∧ f' = { f with active := f.active.adjustLif lif change }
      ∧ staged' = staged.adjustLif lif change := by
  obtain ⟨committed, hchange⟩ := Service.require_bind_eq_ok h
  obtain ⟨rfl, rfl⟩ := Draft.mk.inj (Prod.mk.inj hchange).2
  exact ⟨committed, rfl, rfl⟩

end Parts

theorem act_of_grants {op : ForwardingOp} (h : Grants f staged op f' staged') :
    op.act ⟨f, staged⟩ = (.ok (), ⟨f', staged'⟩) := by
  cases h with
  | clear | configureDomain | configureLif | commit => rfl
  | assignAddressSpace space known =>
      exact (Service.require_bind_of_holds rfl).trans (amend_of_known known)
  | attach exists_domain known =>
      refine (Service.require_bind_of_holds ?_).trans (amend_of_known known)
      -- having a domain and finding it are the same test
      exact exists_domain
  | setMtu nonzero committed =>
      refine (Service.require_bind_of_holds rfl).trans
        ((Service.require_bind_of_holds ?_).trans (tune_of_committed committed))
      exact decide_eq_true nonzero
  | setFrameType frameType committed =>
      exact (Service.require_bind_of_holds rfl).trans (tune_of_committed committed)
  | setRateLimit limit committed => exact tune_of_committed committed

theorem grants_of_act {op : ForwardingOp}
    (h : op.act ⟨f, staged⟩ = (.ok (), ⟨f', staged'⟩)) : Grants f staged op f' staged' := by
  cases op with
  | clear =>
      obtain ⟨rfl, rfl⟩ := Draft.mk.inj (Prod.mk.inj h).2
      exact .clear
  | configureDomain domain mode =>
      obtain ⟨rfl, rfl⟩ := Draft.mk.inj (Prod.mk.inj h).2
      exact .configureDomain domain mode
  | configureLif lif port vlan =>
      obtain ⟨rfl, rfl⟩ := Draft.mk.inj (Prod.mk.inj h).2
      exact .configureLif lif port vlan
  | assignAddressSpace kind lif space =>
      obtain ⟨hkind, hrest⟩ := Service.require_bind_eq_ok h
      obtain rfl := of_decide_eq_true hkind
      obtain ⟨known, rfl, rfl⟩ := amend_eq_ok hrest
      exact .assignAddressSpace space known
  | attach domain lif =>
      obtain ⟨exists_domain, hrest⟩ := Service.require_bind_eq_ok h
      obtain ⟨known, rfl, rfl⟩ := amend_eq_ok hrest
      exact .attach exists_domain known
  | commit =>
      obtain ⟨rfl, rfl⟩ := Draft.mk.inj (Prod.mk.inj h).2
      exact .commit
  | setMtu kind lif mtu =>
      -- the kind is checked first, then the value, then the interface
      obtain ⟨hkind, hrest⟩ := Service.require_bind_eq_ok h
      obtain rfl := of_decide_eq_true hkind
      obtain ⟨nonzero, hrest⟩ := Service.require_bind_eq_ok hrest
      obtain ⟨committed, rfl, rfl⟩ := tune_eq_ok hrest
      exact .setMtu (of_decide_eq_true nonzero) committed
  | setFrameType kind lif frameType =>
      obtain ⟨hkind, hrest⟩ := Service.require_bind_eq_ok h
      obtain rfl := of_decide_eq_true hkind
      obtain ⟨committed, rfl, rfl⟩ := tune_eq_ok hrest
      exact .setFrameType frameType committed
  | setRateLimit lif limit =>
      obtain ⟨committed, rfl, rfl⟩ := tune_eq_ok h
      exact .setRateLimit limit committed

/-! ## §3. Operations that are refused. -/

theorem atomic_amend (lif : LifId) (change : LifState → LifState) : (amend lif change).Atomic :=
  (Service.looks_require _ _).atomic.bind fun _ => Service.succeeds_change _

/-- Tuning changes two tables, but it looks for the interface before it changes the first. -/
theorem atomic_tune (lif : LifId) (change : LifState → LifState) : (tune lif change).Atomic :=
  (Service.looks_require _ _).atomic.bind fun _ =>
    (Service.succeeds_change _).bind fun _ => Service.succeeds_change _

/-- **An operation that is refused has changed neither the configuration nor the copy.** -/
theorem atomic_act (op : ForwardingOp) : op.act.Atomic := by
  cases op with
  | clear | configureDomain | configureLif => exact (Service.succeeds_change _).atomic
  | assignAddressSpace kind lif space =>
      exact (Service.looks_require _ _).atomic_bind fun _ => atomic_amend lif _
  | attach domain lif => exact (Service.looks_require _ _).atomic_bind fun _ => atomic_amend lif _
  | commit =>
      -- two changes, of which neither can be refused
      exact ((Service.succeeds_change _).bind fun _ => Service.succeeds_change _).atomic
  | setMtu kind lif mtu =>
      exact (Service.looks_require _ _).atomic_bind fun _ =>
        (Service.looks_require _ _).atomic_bind fun _ => atomic_tune lif _
  | setFrameType kind lif frameType =>
      exact (Service.looks_require _ _).atomic_bind fun _ => atomic_tune lif _
  | setRateLimit lif limit => exact atomic_tune lif _

end ForwardingOp

/-! ## §4. Operations as calls. -/

namespace ForwardingHandle

variable {handle handle' : ForwardingHandle} {op : ForwardingOp} {p q : Platform}
variable {error : PlatformError}

theorem operate_of_fault (h : p.faults.find? op.call = some error) :
    handle.operate op p = ((.error error, handle), p.record op.call) :=
  Platform.attend_of_fault h

/-- A handle that is refused is as it was, and so is the platform, but for the log. -/
theorem operate_of_refusal {draft : Draft} (hfault : p.faults.find? op.call = none)
    (h : op.act ⟨p.state.forwarding, handle.staged⟩ = (.error error, draft)) :
    handle.operate op p = ((.error error, handle), p.record op.call) := by
  obtain rfl := op.atomic_act _ _ _ h
  refine Platform.attend_of_served hfault ?_
  rw [work, h]

theorem operate_of_grants {f : ForwardingState} {staged : ForwardingTables}
    (hfault : p.faults.find? op.call = none)
    (h : op.Grants p.state.forwarding handle.staged f staged) :
    handle.operate op p = ((.ok (), ⟨staged⟩), p.after [op.call] f) := by
  refine Platform.attend_of_served hfault ?_
  rw [work, ForwardingOp.act_of_grants h]

theorem operate_eq_ok (h : handle.operate op p = ((.ok (), handle'), q)) :
    p.faults.find? op.call = none ∧
      ∃ f, op.Grants p.state.forwarding handle.staged f handle'.staged
        ∧ q = p.after [op.call] f := by
  cases hfault : p.faults.find? op.call with
  | some error => cases (operate_of_fault hfault).symm.trans h
  | none =>
      refine ⟨rfl, ?_⟩
      obtain ⟨⟨answer, draft⟩, hact⟩ :
        ∃ acted, op.act ⟨p.state.forwarding, handle.staged⟩ = acted := ⟨_, rfl⟩
      cases answer with
      | error error => cases (operate_of_refusal hfault hact).symm.trans h
      | ok u =>
          have hgrants := ForwardingOp.grants_of_act hact
          obtain ⟨hanswer, rfl⟩ := Prod.mk.inj ((operate_of_grants hfault hgrants).symm.trans h)
          obtain ⟨-, rfl⟩ := Prod.mk.inj hanswer
          exact ⟨draft.committed, hgrants, rfl⟩

theorem operate_eq_error (h : handle.operate op p = ((.error error, handle'), q)) :
    handle' = handle ∧ q = p.record op.call := by
  cases hfault : p.faults.find? op.call with
  | some fault =>
      obtain ⟨hanswer, rfl⟩ := Prod.mk.inj ((operate_of_fault hfault).symm.trans h)
      exact ⟨(Prod.mk.inj hanswer).2.symm, rfl⟩
  | none =>
      obtain ⟨⟨answer, draft⟩, hact⟩ :
        ∃ acted, op.act ⟨p.state.forwarding, handle.staged⟩ = acted := ⟨_, rfl⟩
      cases answer with
      | error refusal =>
          obtain ⟨hanswer, rfl⟩ := Prod.mk.inj ((operate_of_refusal hfault hact).symm.trans h)
          exact ⟨(Prod.mk.inj hanswer).2.symm, rfl⟩
      | ok u =>
          cases (operate_of_grants hfault (ForwardingOp.grants_of_act hact)).symm.trans h

/-! ## §5. An owner that gives up. -/

theorem run_of_fault (h : p.faults.find? op.call = some error) :
    handle.run op p = (.error error, p.record op.call) := by
  rw [run, operate_of_fault h]

theorem run_of_refusal {draft : Draft} (hfault : p.faults.find? op.call = none)
    (h : op.act ⟨p.state.forwarding, handle.staged⟩ = (.error error, draft)) :
    handle.run op p = (.error error, p.record op.call) := by
  rw [run, operate_of_refusal hfault h]

theorem run_of_grants {f : ForwardingState} {staged : ForwardingTables}
    (hfault : p.faults.find? op.call = none)
    (h : op.Grants p.state.forwarding handle.staged f staged) :
    handle.run op p = (.ok ⟨staged⟩, p.after [op.call] f) := by
  rw [run, operate_of_grants hfault h]

/-! ## §6. The calls that change nothing but the log. -/

variable (handle)

theorem readRateLimit_of_fault {lif : LifId}
    (h : p.faults.find? (.readRateLimit lif) = some error) :
    handle.readRateLimit lif p = (.error error, p.record (.readRateLimit lif)) :=
  Platform.perform_of_fault h

theorem readRateLimit_of_committed {lif : LifId} {l : LifState}
    (hfault : p.faults.find? (.readRateLimit lif) = none)
    (h : p.state.forwarding.active.lif? lif = some l) :
    handle.readRateLimit lif p = (.ok (l.rateLimit.getD 0), p.record (.readRateLimit lif)) := by
  have hcommitted : committedLif p.state lif = .ok l := by rw [committedLif, h]
  exact Platform.perform_of_success hfault (Service.bind_of_ok (Service.check_eq hcommitted))

/-- Reading a rate limit changes nothing but the log, whether it succeeds or not. -/
theorem readRateLimit_platform (lif : LifId) :
    (handle.readRateLimit lif p).2 = p.record (.readRateLimit lif) :=
  Platform.perform_snd_of_looks ((Service.looks_check _).bind fun _ => Service.looks_pure _)

theorem close_of_fault (h : p.faults.find? .closeForwarding = some error) :
    handle.close p = (.error error, p.record .closeForwarding) :=
  Platform.perform_of_fault h

/-- Closing changes nothing but the log, whether it succeeds or not. -/
theorem close_platform : (handle.close p).2 = p.record .closeForwarding :=
  Platform.perform_snd_of_looks (Service.looks_pure ())

theorem close_of_admitted (h : p.faults.find? .closeForwarding = none) :
    handle.close p = (.ok (), p.record .closeForwarding) :=
  Platform.perform_of_success h rfl

end ForwardingHandle

namespace Platform

theorem openForwarding_of_fault {p : Platform} {error : PlatformError}
    (h : p.faults.find? .openForwarding = some error) :
    p.openForwarding = (.error error, p.record .openForwarding) :=
  perform_of_fault h

/-- A new handle works on a copy of the committed tables. -/
theorem openForwarding_of_admitted {p : Platform} (h : p.faults.find? .openForwarding = none) :
    p.openForwarding = (.ok ⟨p.state.forwarding.active⟩, p.record .openForwarding) :=
  perform_of_success h rfl

end Platform

end FlowProcessor
