/-
  FlowProcessor.Proofs.Forwarding.Protocol — THE CALLS OF A FORWARDING RUN.

  A run makes the calls of its plan in order up to the first one that fails.  If one fails, the
  service is closed once more, unless it was opening or closing that failed, and the error of the
  run is the error of that call, whatever the platform answers to the close.

    • `Ends.protocol`       — the calls and the blame of every end of a run
    • `Follows.of_split`    — the run stops at the first call that is refused
    • `apply_call_protocol` — both for a run from the outside
-/
import FlowProcessor.Proofs.Forwarding.Effect

namespace FlowProcessor

open ForwardingTables (empty)

/-! ## §1. The failing call. -/

/-- The call that cleans up after a failing call: nothing is open after a failure to open or to
close. -/
def Call.cleanup : Call → List Call
  | .openForwarding | .closeForwarding => []
  | _ => [.closeForwarding]

/-- The error of a run blames a call that failed, with the error of that call. -/
def Call.Blamed (call : Call) (error : PlatformError) (failure : ToolError) : Prop :=
  if call = .openForwarding then failure = .unavailable error
  else ∃ action, failure = .forwarding action error

variable {plan : ForwardingPlan} {readback : Readback} {faults : FaultTable} {endless stuck : Prop}
variable {f f' : ForwardingState} {outcome : ForwardingOutcome} {made : List Call}

/-- The steps of a plan are cleaned up after, and they are no opening. -/
theorem Step.cleanup_of_call? {step : Step} {call : Call} (h : step.call? plan = some call) :
    call.cleanup = [.closeForwarding] ∧ call ≠ .openForwarding := by
  cases step with
  | tuned lif => cases h
  | _ => cases h; exact ⟨rfl, by simp⟩

/-- What the platform itself objects to is setting an MTU of zero. -/
theorem ForwardingPlan.objection?_eq_some {call : Call} {error : PlatformError}
    (h : plan.objection? call = some error) : plan.mtu = some 0 ∧ ∃ lif, call = .setMtu lif := by
  cases call with
  | setMtu lif =>
      simp only [objection?] at h
      split at h
      · rename_i hzero
        exact ⟨hzero, lif, rfl⟩
      · cases h
  | _ => cases h

/-! ## §2. Every end of a run. -/

/-- `Follows plan faults made result`: all calls of the plan were made, none of them is refused and
the run succeeded; or the calls made are those up to the first refused one and its clean-up. -/
def Follows (plan : ForwardingPlan) (faults : FaultTable) (made : List Call)
    (result : Except ToolError ForwardingReport) : Prop :=
  (made = plan.callSequence ∧ (∀ call ∈ plan.callSequence, plan.refusal? faults call = none)
      ∧ ∃ report, result = .ok report)
    ∨ ∃ done call rest error failure, plan.callSequence = done ++ call :: rest
      ∧ (∀ earlier ∈ done, plan.refusal? faults earlier = none)
      ∧ plan.refusal? faults call = some error
      ∧ made = done ++ call :: call.cleanup
      ∧ result = .error failure ∧ call.Blamed error failure

theorem callSequence_admitted (hopen : faults.find? .openForwarding = none)
    (hsteps : ∀ call ∈ callsOf plan plan.steps, plan.refusal? faults call = none) :
    ∀ call ∈ .openForwarding :: callsOf plan plan.steps, plan.refusal? faults call = none := by
  intro call hmem
  rcases List.mem_cons.mp hmem with rfl | hmem
  · exact ForwardingPlan.refusal?_eq_none_iff.mpr ⟨hopen, rfl⟩
  · exact hsteps call hmem

/-- **Whatever its end, a run on an endless output follows the calls of its plan.** -/
theorem ForwardingPlan.Ends.protocol (h : plan.Ends readback faults endless stuck f outcome made f')
    (hendless : endless) : Follows plan faults made outcome.result := by
  cases h with
  | unannounced error limited => exact absurd hendless limited
  | @unopened error refusal =>
      -- opening is the first call, and nothing is to be cleaned up
      refine .inr ⟨[], .openForwarding, callsOf plan plan.steps ++ [.closeForwarding], error, _,
        callSequence_eq, fun earlier hmem => ?_, refusal?_of_fault refusal, rfl, rfl, rfl⟩
      cases hmem
  | stopped admitted steps =>
      cases steps with
      | @refused done rest step call error split hdone makes refusal =>
          -- the calls of the steps before, with the opening in front of them, are all admitted
          obtain ⟨hcleanup, hopening⟩ := Step.cleanup_of_call? makes
          refine .inr ⟨.openForwarding :: callsOf plan done, call,
            callsOf plan rest ++ [.closeForwarding], error, step.cause plan error, ?_, ?_, refusal,
            ?_, rfl, ?_⟩
          · rw [callSequence_eq, split, callsOf_append, callsOf_cons, makes]
            simp
          · intro earlier hmem
            rcases List.mem_cons.mp hmem with rfl | hmem
            · exact refusal?_eq_none_iff.mpr ⟨admitted, rfl⟩
            · exact hdone earlier hmem
          · rw [hcleanup]
            simp
          · rw [Call.Blamed, if_neg hopening]
            exact ⟨step.action plan, rfl⟩
      | unwritten error split hdone limited => exact absurd hendless limited
  | unfinished error admitted steps limited => exact absurd hendless limited
  | @unclosed progress error made f' admitted steps refusal =>
      cases steps with
      | completed hsteps =>
          -- closing is the last call of the plan and the one that fails
          refine .inr ⟨.openForwarding :: callsOf plan plan.steps, .closeForwarding, [], error, _,
            callSequence_eq, callSequence_admitted admitted hsteps, refusal?_of_fault refusal, rfl,
            rfl, ?_⟩
          rw [Call.Blamed, if_neg (by simp)]
          exact ⟨_, rfl⟩
  | finished admitted steps closes =>
      cases steps with
      | completed hsteps =>
          refine .inl ⟨callSequence_eq.symm, ?_, _, rfl⟩
          rw [callSequence_eq]
          intro call hmem
          rcases List.mem_append.mp hmem with hmem | hmem
          · exact callSequence_admitted admitted hsteps call hmem
          · rw [List.mem_singleton.mp hmem]
            exact refusal?_eq_none_iff.mpr ⟨closes, rfl⟩

/-! ## §3. The first failing call. -/

/-- A run that follows its plan stops at the first call that is refused. -/
theorem Follows.of_split {result : Except ToolError ForwardingReport} {done rest : List Call}
    {call : Call} {error : PlatformError} (h : Follows plan faults made result)
    (hsplit : plan.callSequence = done ++ call :: rest)
    (hdone : ∀ earlier ∈ done, plan.refusal? faults earlier = none)
    (hrefused : plan.refusal? faults call = some error) :
    made = done ++ call :: call.cleanup
      ∧ ∃ failure, result = .error failure ∧ call.Blamed error failure := by
  rcases h with ⟨-, hnone, -⟩ |
    ⟨done', call', rest', error', failure, hsplit', hdone', hrefused', hmade, hresult, hblamed⟩
  · have hmem : call ∈ plan.callSequence := by simp [hsplit]
    rw [hnone call hmem] at hrefused
    cases hrefused
  · -- there is only one first refused call
    obtain ⟨rfl, rfl⟩ := split_unique (P := fun call => plan.refusal? faults call ≠ none)
      (hsplit.symm.trans hsplit') (by simpa using hdone) (by simp [hrefused])
      (by simpa using hdone') (by simp [hrefused'])
    obtain rfl : error = error' := Option.some.inj (hrefused.symm.trans hrefused')
    exact ⟨hmade, failure, hresult, hblamed⟩

/-- A run that follows its plan fails over a registered fault or over an MTU of zero that it comes
to set, and over nothing else. -/
theorem Follows.fails_iff {result : Except ToolError ForwardingReport}
    (h : Follows plan faults made result) :
    (∃ failure, result = .error failure)
      ↔ (∃ call ∈ plan.callSequence, (faults.find? call).isSome)
        ∨ plan.mtu = some 0 ∧ ∃ lif, .setMtu lif ∈ made := by
  rcases h with ⟨rfl, hnone, report, rfl⟩ |
    ⟨done, call, rest, error, failure, hsplit, -, hrefused, rfl, rfl, -⟩
  · constructor
    · rintro ⟨failure, hfailed⟩
      cases hfailed
    · rintro (⟨call, hmem, hfault⟩ | ⟨hzero, lif, hmem⟩)
      · rw [(ForwardingPlan.refusal?_eq_none_iff.mp (hnone call hmem)).1] at hfault
        cases hfault
      · have hobjection := (ForwardingPlan.refusal?_eq_none_iff.mp (hnone _ hmem)).2
        rw [ForwardingPlan.objection?, if_pos hzero] at hobjection
        cases hobjection
  · refine ⟨fun _ => ?_, fun _ => ⟨failure, rfl⟩⟩
    rcases ForwardingPlan.refusal?_eq_some hrefused with hfault | ⟨-, hobjection⟩
    · exact .inl ⟨call, by simp [hsplit], by simp [hfault]⟩
    · obtain ⟨hzero, lif, rfl⟩ := ForwardingPlan.objection?_eq_some hobjection
      exact .inr ⟨hzero, lif, by simp⟩

/-! ## §4. A run from the outside. -/

/-- **A run makes the calls of its plan up to the first that fails, closes what it opened exactly
once, and fails with the error of that call.** -/
theorem apply_call_protocol (configurator : Configurator) (plan : ForwardingPlan)
    (readback : Readback) (w : World) (hout : w.out.room = none) :
    ∃ (result : Except ToolError ForwardingReport) (after : Configurator) (w' : World)
      (logged : List Call),
      configurator.apply plan readback w = ((result, after), w')
      ∧ w'.platform.calls = w.platform.calls ++ logged
      ∧ ((∃ failure, result = .error failure)
        ↔ (∃ call ∈ plan.callSequence, (w.platform.faults.find? call).isSome)
          ∨ plan.mtu = some 0 ∧ ∃ lif, .setMtu lif ∈ logged)
      ∧ (∀ report, result = .ok report → logged = plan.callSequence)
      ∧ ∀ done call rest error, plan.callSequence = done ++ call :: rest →
        (∀ earlier ∈ done, plan.refusal? w.platform.faults earlier = none) →
        plan.refusal? w.platform.faults call = some error →
        logged = done ++ call :: call.cleanup
          ∧ ∃ failure, result = .error failure ∧ call.Blamed error failure := by
  obtain ⟨outcome, made, f, w', hrun, hends, hafter⟩ :=
    apply_ends plan readback w.over_self feasible_steps
  have hfollows := hends.protocol hout
  refine ⟨outcome.result, ⟨outcome.stage⟩, w', made, Configurator.apply_eq hrun, ?_,
    hfollows.fails_iff, fun report hok => ?_, fun done call rest error => hfollows.of_split⟩
  · rw [hafter.platform, Platform.after_calls]
  · rcases hfollows with ⟨hmade, -, -⟩ | ⟨-, -, -, -, failure, -, -, -, -, herror, -⟩
    · exact hmade
    · rw [hok] at herror
      cases herror

/-- The rate limit of an interface that is named twice cannot be set, nor the service closed. -/
theorem apply_call_protocol_of_faulted_close :
    ∃ (result : Except ToolError ForwardingReport) (after : Configurator) (w' : World),
      Configurator.fresh.apply
          ⟨⟨3⟩, .l3, false, [.untagged 11 1, .untagged 12 1], none, .ethernetII, some 20⟩ id
          (World.start ⟨.initial, [.commit],
            (FaultTable.empty.insert (.setRateLimit ⟨1⟩) (.notFound "limit")).insert
              .closeForwarding (.notFound "handle")⟩ .unlimited)
        = ((result, after), w')
      ∧ w'.platform.calls
        = [.commit, .openForwarding, .configureDomain ⟨3⟩,
          .configureLif ⟨1⟩, .assignAddressSpace ⟨1⟩, .attachLif ⟨3⟩ ⟨1⟩,
          .configureLif ⟨1⟩, .assignAddressSpace ⟨1⟩, .attachLif ⟨3⟩ ⟨1⟩,
          .commit, .setRateLimit ⟨1⟩, .closeForwarding]
      ∧ ∃ action, result = .error (.forwarding action (.notFound "limit")) := by
  obtain ⟨result, after, w', logged, hrun, hcalls, -, -, hfails⟩ :=
    apply_call_protocol .fresh
      ⟨⟨3⟩, .l3, false, [.untagged 11 1, .untagged 12 1], none, .ethernetII, some 20⟩ id
      (World.start ⟨.initial, [.commit],
        (FaultTable.empty.insert (.setRateLimit ⟨1⟩) (.notFound "limit")).insert
          .closeForwarding (.notFound "handle")⟩ .unlimited) rfl
  obtain ⟨hlogged, failure, hresult, hblamed⟩ := hfails
    [.openForwarding, .configureDomain ⟨3⟩,
      .configureLif ⟨1⟩, .assignAddressSpace ⟨1⟩, .attachLif ⟨3⟩ ⟨1⟩,
      .configureLif ⟨1⟩, .assignAddressSpace ⟨1⟩, .attachLif ⟨3⟩ ⟨1⟩, .commit]
    (.setRateLimit ⟨1⟩)
    [.readRateLimit ⟨1⟩, .setRateLimit ⟨1⟩, .readRateLimit ⟨1⟩, .closeForwarding]
    (.notFound "limit") (by decide) (by decide) (by decide)
  obtain ⟨action, rfl⟩ := hblamed
  exact ⟨result, after, w', hrun, by rw [hcalls, hlogged]; rfl, action, hresult⟩

end FlowProcessor
