/-
  FlowProcessor.Proofs.Tools.ForwardingTool — ONE RUN OF THE FORWARDING TOOL.

  Nothing stands against a plan from a command line but the output: no line describes an MTU of
  zero, and the platform of a file has no faults.  So a run that comes to its work and can write
  completes it, and there is nothing in between: the file holds the whole plan afterwards, or every
  file is as it was.  A run that cannot write fails.  It saves the state all the same where the line
  that was refused leaves nothing to flush, and then too the plan is done as a whole or not at all.

    • `ForwardingArguments.mtu_ne_zero` — no line describes an MTU of zero
    • `work_of_accepted`        — only the output can make the work of the tool fail
    • `tool_configures_or_keeps` — the whole of a run
    • `refused_output_creates_file` — a run that fails and leaves a file that was not there
-/
import FlowProcessor.Proofs.CommandLine.Help
import FlowProcessor.Proofs.Forwarding.Application
import FlowProcessor.Proofs.Tools.Session

namespace FlowProcessor

/-! ## §1. Plans from a line. -/

namespace ForwardingArguments

variable {a : ForwardingArguments} {plan : ForwardingPlan}

/-- What a line begins with has no MTU. -/
theorem mtu_basePlan (h : a.basePlan = .ok plan) : plan.mtu = none := by
  unfold basePlan at h
  by_cases hslotB : a.slotB = true
  · rw [if_pos hslotB] at h
    obtain rfl := Except.ok.inj h
    rfl
  · rw [if_neg hslotB, ForwardingPlan.ofInterfaces] at h
    split at h
    · cases h
    · obtain rfl := Except.ok.inj h
      rfl

/-- An MTU of zero on the line stands for none. -/
theorem mtu_withMtu (plan : ForwardingPlan) (mtu : UInt32) : (plan.withMtu mtu).mtu ≠ some 0 := by
  unfold ForwardingPlan.withMtu
  dsimp only
  split
  · simp
  · rename_i hne
    simpa using hne

/-- **No line describes an MTU of zero.** -/
theorem mtu_ne_zero (h : a.plan = .ok plan) : plan.mtu ≠ some 0 := by
  unfold ForwardingArguments.plan at h
  cases hbase : a.basePlan with
  | error error => rw [hbase] at h; cases h
  | ok base =>
      rw [hbase] at h
      obtain rfl := Except.ok.inj h
      have hnone : (if a.keep then base.keeping else base).mtu = none := by
        have hbaseMtu : base.mtu = none := mtu_basePlan hbase
        split <;> exact hbaseMtu
      -- the frame type leaves the MTU alone, and so it is that of the line or none
      cases a.frameType with
      | none =>
          cases a.mtu with
          | none => simp [hnone]
          | some mtu => exact mtu_withMtu (if a.keep then base.keeping else base) mtu
      | some frameType =>
          cases a.mtu with
          | none => simp [hnone, ForwardingPlan.withFrameType]
          | some mtu => exact mtu_withMtu (if a.keep then base.keeping else base) mtu

end ForwardingArguments

/-! ## §2. Runs. -/

namespace ForwardingTool

variable {invocation : Invocation} {d d' : Directory} {path : String} {plan : ForwardingPlan}
variable {platform : Platform} {room : Option Nat}

/-- No option of the tool gives the help, whatever its value. -/
theorem noHelp : ∀ rule ∈ forwardingGrammar, rule.NoHelp := by
  simp [forwardingGrammar]

/-- The help is given to those who asked for it. -/
theorem asksForHelp_of_read (h : ForwardingArguments.read invocation.args = .error .help) :
    ∃ text ∈ invocation.args, forwardingGrammar.AsksForHelp text := by
  refine CommandLine.asksForHelp_of_read noHelp (fun settings hread => ?_) h
  dsimp only at hread
  split at hread <;> cases hread

/-- The plan of a line is the one that is carried out, on a platform without faults. -/
theorem work_of_accepted (h : forwardingTool.Accepted invocation d path plan platform)
    (room : Option Nat) :
    ∃ outcome w, plan.apply id (World.start platform (.ofRoom room)) = (outcome, w)
      ∧ ((∃ done, outcome = ⟨.closed, .ok done⟩) ∧ w.out.flush = .ok ()
          ∧ w.platform.state = platform.state.configured plan
        ∨ (∃ error, outcome.result = .error (.output error)) ∧ room ≠ none
          ∧ (w.out.flush = .ok () → w.platform.state = platform.state
            ∨ w.platform.state = platform.state.configured plan)) := by
  have hplatform := h.loaded.2
  obtain ⟨line, settled, asked, opened⟩ := h
  rw [hplatform]
  exact apply_of_unfaulted plan (ForwardingArguments.mtu_ne_zero asked) platform.state room

theorem work_of_apply {outcome : ForwardingOutcome} {w : World}
    (h : plan.apply id (World.start platform (.ofRoom room)) = (outcome, w)) :
    forwardingTool.work room plan platform = (outcome.result, w) := by
  unfold forwardingTool
  dsimp only
  rw [h]

/-- A line whose plan is carried out succeeds if the state can be saved, and saves what the plan
makes of it; otherwise nothing is written. -/
theorem run_of_done (h : forwardingTool.Accepted invocation d path plan platform)
    {done : ForwardingReport} {stage : Stage} {w : World}
    (hrun : plan.apply id (World.start platform (.ofRoom room)) = (⟨stage, .ok done⟩, w))
    (hflush : w.out.flush = .ok ()) :
    ∃ report d', (ForwardingTool.run room invocation).runIn d = (report, d')
      ∧ (report.exitCode = 0 ↔ d.Writable path)
      ∧ (d.Writable path → d.write path w.platform.state.text = .ok d')
      ∧ (¬ d.Writable path → d' = d) := by
  obtain ⟨report, d', hreport, -, -, hexit, hsaved, hkept⟩ :=
    StateTool.run_saves h (work_of_apply hrun) hflush
  rw [forwardingTool_run] at hreport
  refine ⟨report, d', hreport, ⟨fun hzero => (hexit.mp hzero).2, fun hwritable => ?_⟩, hsaved,
    fun hnot => (hkept hnot).1⟩
  exact hexit.mpr ⟨⟨done, rfl⟩, hwritable⟩

/-- A line whose plan fails does not succeed either; what the plan leaves is saved if the output is
flushed and the file can be written. -/
theorem run_of_failed (h : forwardingTool.Accepted invocation d path plan platform)
    {outcome : ForwardingOutcome} {error : ToolError} {w : World}
    (hrun : plan.apply id (World.start platform (.ofRoom room)) = (outcome, w))
    (hfailed : outcome.result = .error error) :
    ∃ report d', (ForwardingTool.run room invocation).runIn d = (report, d')
      ∧ report.exitCode ≠ 0
      ∧ (d' = d ∨ w.out.flush = .ok () ∧ report.ending = .failed error
        ∧ d.write path w.platform.state.text = .ok d') := by
  have hwork := work_of_apply hrun
  rw [hfailed] at hwork
  cases hflush : w.out.flush with
  | error stopped =>
      obtain ⟨report, hreport, hending, -⟩ := StateTool.run_of_unflushed h hwork hflush
      rw [forwardingTool_run] at hreport
      refine ⟨report, d, hreport, ?_, .inl rfl⟩
      rw [ToolReport.exitCode, hending]
      exact Nat.one_ne_zero
  | ok u =>
      obtain ⟨report, d', hreport, -, herror, hexit, hsaved, hkept⟩ :=
        StateTool.run_saves h hwork hflush
      rw [forwardingTool_run] at hreport
      refine ⟨report, d', hreport, fun hzero => ?_, ?_⟩
      · obtain ⟨⟨answer, hanswer⟩, -⟩ := hexit.mp hzero
        cases hanswer
      · by_cases hwritable : d.Writable path
        · exact .inr ⟨rfl, herror error rfl, hsaved hwritable⟩
        · exact .inl (hkept hwritable).1

/-- A line that is not carried out changes no file, and only the help exits with success. -/
theorem run_of_refused {ending : Ending} (h : forwardingTool.Refused invocation d ending) :
    ∃ report, (ForwardingTool.run room invocation).runIn d = (report, d)
      ∧ (report.exitCode = 0 → ∃ text ∈ invocation.args, forwardingGrammar.AsksForHelp text) := by
  obtain ⟨report, hrun, hending, -⟩ := StateTool.run_of_refused h
  rw [forwardingTool_run] at hrun
  subst hending
  exact ⟨report, hrun, fun hexit => asksForHelp_of_read (h.read_eq_help hexit)⟩

end ForwardingTool

/-- The tables of the second state are those that the plan makes of the tables of the first, with one
commit more and the same devices. -/
structure ForwardingPlan.Makes (plan : ForwardingPlan) (s s' : PlatformState) : Prop where
  active : s'.forwarding.active = plan.appliedTo s.forwarding.active
  commits : s'.forwarding.commits.toNat = s.forwarding.commits.toNat + 1
  devices : s'.devices = s.devices

theorem ForwardingPlan.makes_configured (plan : ForwardingPlan) {s : PlatformState}
    (hcommits : s.forwarding.commits.toNat < UInt32.size - 1) : plan.Makes s (s.configured plan) :=
  ⟨rfl, toNat_commits_succ hcommits, rfl⟩

/-- **The forwarding tool does everything or nothing.  If it exits with success, then the state file
holds the state that was loaded, with the tables that the plan of the line makes of the loaded ones,
one commit more and the same devices.  If it fails, every file is as it was, or else the output was
refused a line and the state file holds the state that was loaded, or as after all of the plan.  Once
the line, the settings and the state file are accepted, the plan can only fail by not being able to
write to the output, and the tool only by that or by not being able to write the file: the plan is
carried out, whatever it says.** -/
theorem tool_configures_or_keeps (room : Option Nat) (invocation : Invocation) (d : Directory)
    (hhelp : ∀ text ∈ invocation.args, ¬ forwardingGrammar.AsksForHelp text)
    (hcommits : ∀ path plan platform, forwardingTool.Accepted invocation d path plan platform →
      platform.state.forwarding.commits.toNat < UInt32.size - 1) :
    ∃ report d', (ForwardingTool.run room invocation).runIn d = (report, d')
      ∧ (report.exitCode = 0 ∧ (∃ path plan platform state,
            forwardingTool.Accepted invocation d path plan platform
            ∧ d.write path state.text = .ok d'
            ∧ d'.read path = .ok state.text ∧ PlatformState.load path state.text = .ok state
            ∧ plan.Makes platform.state state)
          ∨ report.exitCode ≠ 0 ∧ d' = d
          ∨ report.exitCode ≠ 0 ∧ room ≠ none ∧ (∃ error, report.ending = .failed (.output error))
            ∧ ∃ path plan platform state, forwardingTool.Accepted invocation d path plan platform
              ∧ d.write path state.text = .ok d'
              ∧ d'.read path = .ok state.text ∧ PlatformState.load path state.text = .ok state
              ∧ (state = platform.state ∨ plan.Makes platform.state state))
      ∧ ∀ path plan platform, forwardingTool.Accepted invocation d path plan platform →
          ∃ outcome w, plan.apply id (World.start platform (.ofRoom room)) = (outcome, w)
            ∧ ((∃ done, outcome = ⟨.closed, .ok done⟩) ∧ (report.exitCode = 0 ↔ d.Writable path)
              ∨ (∃ error, outcome.result = .error (.output error)) ∧ room ≠ none
                ∧ report.exitCode ≠ 0) := by
  rcases forwardingTool.accepted_or_refused invocation d with
    ⟨path, plan, platform, haccepted⟩ | ⟨ending, hrefused⟩
  · have hmakes := plan.makes_configured (hcommits _ _ _ haccepted)
    have hcomplete : platform.state.Complete := haccepted.loaded.1
    obtain ⟨outcome, w, happly, hends⟩ := ForwardingTool.work_of_accepted haccepted room
    rcases hends with ⟨⟨done, rfl⟩, hflush, hstate⟩ | ⟨⟨error, hfailed⟩, hlimited, hstate⟩
    · obtain ⟨report, d', hrun, hexit, hsaved, hkept⟩ :=
        ForwardingTool.run_of_done haccepted happly hflush
      rw [hstate] at hsaved
      refine ⟨report, d', hrun, ?_, fun path' plan' platform' haccepted' => ?_⟩
      · -- the work succeeds, so that writing the file is all that can fail
        by_cases hwritable : d.Writable path
        · exact .inl ⟨hexit.mpr hwritable, path, plan, platform, _, haccepted, hsaved hwritable,
            Directory.read_of_write (hsaved hwritable), PlatformState.load_text hcomplete, hmakes⟩
        · exact .inr (.inl ⟨fun hzero => hwritable (hexit.mp hzero), hkept hwritable⟩)
      · obtain ⟨rfl, rfl, rfl⟩ := haccepted.unique haccepted'
        exact ⟨_, w, happly, .inl ⟨⟨done, rfl⟩, hexit⟩⟩
    · obtain ⟨report, d', hrun, hexit, hfiles⟩ :=
        ForwardingTool.run_of_failed haccepted happly hfailed
      refine ⟨report, d', hrun, .inr ?_, fun path' plan' platform' haccepted' => ?_⟩
      · rcases hfiles with hkept | ⟨hflush, hending, hwrite⟩
        · exact .inl ⟨hexit, hkept⟩
        · have hread := Directory.read_of_write hwrite
          refine .inr ⟨hexit, hlimited, ⟨error, hending⟩, path, plan, platform, w.platform.state,
            haccepted, hwrite, hread, ?_⟩
          rcases hstate hflush with hsame | hdone
          · rw [hsame]
            exact ⟨PlatformState.load_text hcomplete, .inl rfl⟩
          · rw [hdone]
            exact ⟨PlatformState.load_text hcomplete, .inr hmakes⟩
      · obtain ⟨rfl, rfl, rfl⟩ := haccepted.unique haccepted'
        exact ⟨outcome, w, happly, .inr ⟨⟨error, hfailed⟩, hlimited, hexit⟩⟩
  · obtain ⟨report, hrun, hexit⟩ := ForwardingTool.run_of_refused hrefused
    refine ⟨report, d, hrun, .inr (.inl ⟨fun hzero => ?_, rfl⟩),
      fun path plan platform haccepted => absurd haccepted hrefused.not_accepted⟩
    obtain ⟨text, htext, hasks⟩ := hexit hzero
    exact hhelp text htext hasks

/-- Four devices, a configuration that was committed five times, and an interface of it. -/
def PlatformState.fiveCommits : PlatformState :=
  { PlatformState.initial with forwarding := ⟨.putLif .empty ⟨7⟩ (.bare ⟨4⟩ .untagged), 5⟩ }

/-- A line that names an interface twice and keeps what there is: the last specification counts.  A
line that is accepted, for a file that cannot be written: nothing happens. -/
theorem tool_configures_or_keeps_of_repeated_lif :
    (∃ d report d' state,
      (⟨[]⟩ : Directory).write "state.json" PlatformState.fiveCommits.text = .ok d
      ∧ (ForwardingTool.run none ⟨["-C", "-i", "11:1", "-i", "12:1", "-m", "1500", "--platform",
        "state.json"], none, none⟩).runIn d = (report, d')
      ∧ report.exitCode = 0
      ∧ d'.read "state.json" = .ok state.text
      ∧ PlatformState.load "state.json" state.text = .ok state
      ∧ state.forwarding.active.lif? ⟨1⟩
        = some ⟨⟨12⟩, .untagged, some 1, some ⟨1⟩, some 1500, .ethernetII, none⟩
      ∧ state.forwarding.active.lif? ⟨7⟩ = some (.bare ⟨4⟩ .untagged)
      ∧ state.forwarding.commits.toNat = 6)
    ∧ ∃ report, (ForwardingTool.run none ⟨["-b", "--platform", "no/state.json"], none,
        none⟩).runIn ⟨[]⟩ = (report, ⟨[]⟩)
      ∧ report.exitCode ≠ 0 := by
  refine ⟨?_, ?_⟩
  · obtain ⟨d, hwrite⟩ : ∃ d, (⟨[]⟩ : Directory).write "state.json" PlatformState.fiveCommits.text
        = .ok d := ⟨_, rfl⟩
    have hread := Directory.read_of_write hwrite
    have hload : PlatformState.load "state.json" PlatformState.fiveCommits.text
        = .ok .fiveCommits := PlatformState.load_text rfl
    have hline : ForwardingArguments.read ["-C", "-i", "11:1", "-i", "12:1", "-m", "1500",
          "--platform", "state.json"]
        = .ok ⟨true, false, [.untagged 11 1, .untagged 12 1], none, false, some 1500, none, none,
          none, some "state.json"⟩ := rfl
    have haccepted : forwardingTool.Accepted ⟨["-C", "-i", "11:1", "-i", "12:1", "-m", "1500",
          "--platform", "state.json"], none, none⟩ d "state.json"
        ⟨⟨1⟩, .l2, false, [.untagged 11 1, .untagged 12 1], some 1500, .ethernetII, none⟩
        (.ofState .fiveCommits) :=
      StateTool.accepted_at hline (show Settings.found d none none = .ok .default from rfl) rfl rfl
        (StateFile.loaded_of_load hread hload)
    obtain ⟨report, d', hrun, hends, hexit⟩ := tool_configures_or_keeps none
      ⟨["-C", "-i", "11:1", "-i", "12:1", "-m", "1500", "--platform", "state.json"], none, none⟩ d
      (fun text htext => CommandLine.Grammar.not_asksForHelp (by revert text; decide))
      (fun path plan platform haccepted' => by
        obtain ⟨-, -, rfl⟩ := haccepted.unique haccepted'
        decide)
    obtain ⟨-, -, -, ⟨-, hwrites⟩ | ⟨-, hlimited, -⟩⟩ := hexit _ _ _ haccepted
    · have hzero := hwrites.mpr (Directory.write_of_read hread)
      obtain ⟨-, path, plan, platform, state, haccepted', -, hread', hload', hactive, hcount, -⟩
        | ⟨hnot, -⟩ | ⟨hnot, -⟩ := hends
      · obtain ⟨rfl, rfl, rfl⟩ := haccepted.unique haccepted'
        refine ⟨d, report, d', state, hwrite, hrun, hzero, hread', hload', ?_, ?_, hcount⟩
        · rw [hactive]
          decide
        · rw [hactive]
          decide
      · exact absurd hzero hnot
      · exact absurd hzero hnot
    · exact absurd rfl hlimited
  · have hline : ForwardingArguments.read ["-b", "--platform", "no/state.json"]
        = .ok ⟨false, false, [], none, true, none, none, none, none, some "no/state.json"⟩ := rfl
    have haccepted : forwardingTool.Accepted ⟨["-b", "--platform", "no/state.json"], none, none⟩
        ⟨[]⟩ "no/state.json" (.slotB ⟨1⟩ .l2) .initial :=
      StateTool.accepted_at hline (show Settings.found ⟨[]⟩ none none = .ok .default from rfl) rfl
        rfl rfl
    obtain ⟨report, d', hrun, hends, hexit⟩ := tool_configures_or_keeps none
      ⟨["-b", "--platform", "no/state.json"], none, none⟩ ⟨[]⟩
      (fun text htext => CommandLine.Grammar.not_asksForHelp (by revert text; decide))
      (fun path plan platform haccepted' => by
        obtain ⟨-, -, rfl⟩ := haccepted.unique haccepted'
        decide)
    have hnot : ¬ (⟨[]⟩ : Directory).Writable "no/state.json" :=
      Directory.not_writable_of_write
        (show (⟨[]⟩ : Directory).write "no/state.json" "" = .error .missing from rfl)
    have hfails : report.exitCode ≠ 0 := by
      obtain ⟨-, -, -, ⟨-, hwrites⟩ | ⟨-, -, hfailed⟩⟩ := hexit _ _ _ haccepted
      · exact fun hzero => hnot (hwrites.mp hzero)
      · exact hfailed
    obtain ⟨hzero, -⟩ | ⟨-, rfl⟩ | ⟨-, hlimited, -⟩ := hends
    · exact absurd hzero hfails
    · exact ⟨report, hrun, hfails⟩
    · exact absurd rfl hlimited

/-- A line that is accepted, with an output that is closed: the first line of the run is refused as a
whole, so that nothing is left to flush.  The plan fails and so does the tool, but there is a state
file afterwards that was not there before. -/
theorem refused_output_creates_file :
    ∃ report d',
      (∀ text ∈ ["-i", "1:1", "--platform", "new.json"], ¬ forwardingGrammar.AsksForHelp text)
      ∧ forwardingTool.Accepted ⟨["-i", "1:1", "--platform", "new.json"], none, none⟩ ⟨[]⟩ "new.json"
        ⟨⟨1⟩, .l2, true, [.untagged 1 1], none, .ethernetII, none⟩ .initial
      ∧ PlatformState.initial.forwarding.commits = 0
      ∧ (ForwardingPlan.apply ⟨⟨1⟩, .l2, true, [.untagged 1 1], none, .ethernetII, none⟩ id
          (World.start .initial (.ofRoom (some 0)))).1 = ⟨.idle, .error (.output .closed)⟩
      ∧ (ForwardingTool.run (some 0) ⟨["-i", "1:1", "--platform", "new.json"], none, none⟩).runIn ⟨[]⟩
        = (report, d')
      ∧ report.exitCode = 1 ∧ report.ending = .failed (.output .closed)
      ∧ (⟨[]⟩ : Directory).read "new.json" = .error .missing
      ∧ d'.read "new.json" = .ok PlatformState.initial.text := by
  have hline : ForwardingArguments.read ["-i", "1:1", "--platform", "new.json"]
      = .ok ⟨false, false, [.untagged 1 1], none, false, none, none, none, none, some "new.json"⟩ :=
    rfl
  have haccepted : forwardingTool.Accepted ⟨["-i", "1:1", "--platform", "new.json"], none, none⟩ ⟨[]⟩
      "new.json" ⟨⟨1⟩, .l2, true, [.untagged 1 1], none, .ethernetII, none⟩ .initial :=
    StateTool.accepted_at hline (show Settings.found ⟨[]⟩ none none = .ok .default from rfl) rfl
      rfl rfl
  have hwork : forwardingTool.work (some 0)
      ⟨⟨1⟩, .l2, true, [.untagged 1 1], none, .ethernetII, none⟩ .initial
        = (.error (.output .closed), World.start .initial (.ofRoom (some 0))) := rfl
  have hwritable : (⟨[]⟩ : Directory).Writable "new.json" := fun _ => ⟨_, rfl⟩
  obtain ⟨report, d', hrun, -, herror, -, hsaved, -⟩ := StateTool.run_saves haccepted hwork rfl
  rw [forwardingTool_run] at hrun
  have hending := herror _ rfl
  refine ⟨report, d', fun text htext => CommandLine.Grammar.not_asksForHelp (by revert text; decide),
    haccepted, rfl, rfl, hrun, ?_, hending, rfl, Directory.read_of_write (hsaved hwritable)⟩
  rw [ToolReport.exitCode, hending]

end FlowProcessor
