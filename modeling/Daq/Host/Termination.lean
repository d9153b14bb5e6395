import Daq.Host.Regular

namespace Daq

variable {env : Env}

/-! Terminating a host. -/

/-- A host without what a termination may change. -/
def Host.lasting (host : Host) : Host :=
  { host.bare with
    state := .ready
    terminations := 0
    report := none
    testHost := none
    timeoutHandler := none }

variable {host : HostId} {world : World}

theorem within_lasting {α : Type} {program : Run α} (within : program.Within (hostLocal host)) :
    program.Within (keepsHost host Host.lasting) :=
  within.mono fun _ _ kept => ⟨kept.outside, kept.others, congrArg (fun entry => { entry with
    state := .ready
    terminations := 0
    report := none
    testHost := none
    timeoutHandler := none }) kept.inside⟩

theorem stateTransition_lasting (target : HostState) (expected : Option HostState) :
    (stateTransition host target expected).Within (keepsHost host Host.lasting) := by
  unfold stateTransition
  refine Exec.within_bind (Exec.within_read _) fun _ => ?_
  refine Exec.within_bind (Exec.within_require _) fun _ => ?_
  exact Exec.within_bind (Exec.within_require _) fun _ => within_setHost fun _ => rfl

theorem finalizeReport_lasting :
    (finalizeReport env host).Within (keepsHost host Host.lasting) := by
  unfold finalizeReport
  refine Exec.within_bind (Exec.within_read _) fun entry => ?_
  split
  · exact Exec.within_raise _
  · refine Exec.within_bind (callOut_keepsHost _ _) fun _ => ?_
    split
    · exact Exec.within_raise _
    · refine Exec.within_bind (callOut_keepsHost _ _) fun _ => ?_
      refine Exec.within_bind (within_lasting (recordResult_hostLocal _ _ _)) fun _ => ?_
      exact Exec.within_bind (within_setHost fun _ => rfl) fun _ => Exec.within_pure _

/-- A termination is the host's own affair. -/
theorem terminateHost_lasting :
    (terminateHost env host).Within (keepsHost host Host.lasting) := by
  unfold terminateHost
  refine Exec.within_bind (within_setHost fun _ => rfl) fun _ => ?_
  refine Exec.within_bind (stateTransition_lasting _ _) fun _ => ?_
  refine Exec.within_bind (callOut_keepsHost _ _) fun _ => ?_
  refine Exec.within_bind (within_lasting (monitorCleanup_hostLocal _ _)) fun _ => ?_
  refine Exec.within_bind (Exec.within_read _) fun _ => ?_
  refine Exec.within_bind (Exec.within_when (callOut_keepsHost _ _)) fun _ => ?_
  refine Exec.within_bind (Exec.within_when (Exec.within_attempt ?_ fun _ =>
    Exec.within_pure _)) fun _ => finalizeReport_lasting
  exact Exec.within_bind (callOut_keepsHost _ _) fun _ => within_setHost fun _ => rfl

/-- The host is terminated, and its capture is put away. -/
def Closing (host : HostId) (world : World) : Prop :=
  (world.hosts host).state = .term ∧ (world.hosts host).monitorRef = none

theorem callOut_closing (op : Op) : (callOut env op).Within (holding env (Closing host)) := by
  intro world regular closing
  rw [callOut_run_snd]
  exact ⟨rfl, regular, closing⟩

theorem finalizeReport_regular (regular : world.Regular env) (closing : Closing host world) :
    (finalizeReport env host).Holds world (fun _ reached => reached.Regular env) := by
  unfold finalizeReport
  rw [Exec.holds_bind, Exec.holds_read, Exec.then_ok]
  cases present : (world.hosts host).report with
  | none => exact regular
  | some items =>
      refine (callOut_ticks env _ _).bind (fun _ _ same => same ▸ regular) ?_
      rintro _ reached rfl
      split
      · exact regular
      · refine (callOut_ticks env _ _).bind (fun _ _ same => same ▸ regular) ?_
        rintro _ reached rfl
        have free : (world.hosts host).testName = some "terminate" ∨
            (world.hosts host).state ≠ .testing ∧ (world.hosts host).report ≠ none :=
          .inr ⟨closing.1 ▸ by decide, present ▸ nofun⟩
        have recorded := @recordResult_holds env host world.ticked.ticked (some "terminate") {}
          regular nofun free
        have kept := (@recordResult_hostRecord env host (some "terminate") {}).holds
          world.ticked.ticked
        refine (recorded.and kept).bind (fun _ _ done => done.1.2.1) ?_
        rintro _ reached ⟨⟨_, regular, course⟩, kept⟩
        have state : (reached.hosts host).state = (world.hosts host).state :=
          (congrArg Host.Course.state course :)
        have named : (reached.hosts host).testName = some "terminate" :=
          (congrArg Host.Course.testName course :)
        have quiet : (reached.hosts host).monitorRef = none :=
          (kept.field Host.monitorRef (fun _ => rfl) host).trans closing.2
        have closed : (reached.setHost host fun entry => { entry with report := none }).Regular
            env := regular.setHost
          { (regular host) with
            ended := nofun
            closed := fun _ => ⟨state.trans closing.1, named, quiet⟩
            owned := nofun }
        exact closed

theorem stateTransition_term_holds (regular : world.Regular env) :
    (stateTransition host .term none).Holds world (fun outcome reached =>
      reached.Regular env ∧ (outcome = .ok () → (reached.hosts host).state = .term)) := by
  unfold stateTransition
  rw [Exec.holds_bind, Exec.holds_read, Exec.then_ok, Exec.holds_bind, Exec.holds_require]
  refine ⟨fun _ => ?_, fun unexpected => absurd (.inl rfl) unexpected⟩
  rw [Exec.then_ok, Exec.holds_bind, Exec.holds_require]
  refine ⟨fun alive => ?_, fun _ => ⟨regular, nofun⟩⟩
  rw [Exec.then_ok, Exec.holds_modify]
  have leads : (world.hosts host).state.leadsTo .term = true := by
    revert alive
    cases (world.hosts host).state <;> decide
  refine ⟨regular.setHost ((regular host).moved (by decide) leads nofun nofun), fun _ => ?_⟩
  simp [setHost_hosts]

theorem monitorCleanup_cleared (forget : Bool) :
    (monitorCleanup env host forget).Holds world (fun outcome reached =>
      outcome = .ok () → (reached.hosts host).monitorRef = none) := by
  unfold monitorCleanup
  rw [Exec.holds_bind, Exec.holds_read, Exec.then_ok, Exec.holds_whenSome]
  refine ⟨fun absent _ => absent, fun monitor _ => ?_⟩
  rw [Exec.holds_bind, Exec.holds_require]
  refine ⟨fun _ => ?_, fun _ => nofun⟩
  rw [Exec.then_ok]
  refine (callOut_ticks env _ _).bind (fun _ _ _ => nofun) fun _ _ _ => ?_
  rw [Exec.holds_bind, Exec.holds_when]
  refine ⟨fun _ => ?_, fun _ => ?_⟩
  · refine (callOut_ticks env _ _).mono fun outcome reached _ => ?_
    cases outcome with
    | error raised => exact nofun
    | ok value =>
        rw [Exec.then_ok, Exec.holds_modify]
        simp [setHost_hosts]
  · rw [Exec.then_ok, Exec.holds_modify]
    simp [setHost_hosts]

/-- Publishing results and putting captures away does not fail. -/
structure Env.KeepsBooks (env : Env) : Prop where
  publishes : ∀ state host, env.fault state (.publishResult host) = none
  uploads : ∀ state host, env.fault state (.uploadFile host) = none
  forgets : ∀ state host, env.fault state (.monitorForget host) = none

/-- The same for one host. -/
structure Env.KeepsBooksOf (env : Env) (host : HostId) : Prop where
  publishes : ∀ state, env.fault state (.publishResult host) = none
  uploads : ∀ state, env.fault state (.uploadFile host) = none
  forgets : ∀ state, env.fault state (.monitorForget host) = none

theorem Env.KeepsBooks.of (books : env.KeepsBooks) (host : HostId) : env.KeepsBooksOf host :=
  ⟨(books.publishes · host), (books.uploads · host), (books.forgets · host)⟩

theorem Env.KeepsBooks.closesCaptures (books : env.KeepsBooks) : env.ClosesCaptures :=
  fun state host _ _ _ => books.uploads state host

theorem monitorCleanup_returns (books : env.KeepsBooksOf host) {forget : Bool}
    (fitting : ∀ monitor, (world.hosts host).monitorRef = some monitor → monitor.active = forget) :
    (monitorCleanup env host forget).Holds world (fun outcome _ => outcome = .ok ()) := by
  unfold monitorCleanup
  rw [Exec.holds_bind, Exec.holds_read, Exec.then_ok, Exec.holds_whenSome]
  refine ⟨fun _ => rfl, fun monitor present => ?_⟩
  rw [Exec.holds_bind, Exec.holds_require]
  refine ⟨fun _ => ?_, fun mismatch => absurd (fitting monitor present) mismatch⟩
  rw [Exec.then_ok, Exec.holds_bind, holds_callOut_of_returns (books.uploads _), Exec.then_ok,
    Exec.holds_bind, Exec.holds_when]
  refine ⟨fun _ => ?_, fun _ => ?_⟩
  · rw [holds_callOut_of_returns (books.forgets _), Exec.then_ok, Exec.holds_modify]
  · rw [Exec.then_ok, Exec.holds_modify]

/-- A termination that is not cut short finalizes the report of a host that is
terminated and captures nothing. -/
theorem terminateHost_finalizes {post : Except Exc DeviceReport → World → Prop}
    (regular : world.Regular env)
    (stopped : ∀ raised reached, reached.Regular env → post (.error raised) reached)
    (finalize : ∀ reached, reached.Regular env → Closing host reached →
      (finalizeReport env host).Holds reached post) :
    (terminateHost env host).Holds world post := by
  have forget : (Exec.attempt
      (do
        callOut env (.moduleTerminate host)
        Exec.modify fun world => world.setHost host fun entry =>
          { entry with testHost := none, timeoutHandler := none })
      (fun _ => pure ()) : Run Unit).Within (holding env (Closing host)) := by
    refine Exec.within_attempt (Exec.within_bind (callOut_closing _) fun _ => ?_) fun _ =>
      Exec.within_pure _
    intro world regular closing
    have same : (world.setHost host fun entry =>
        { entry with testHost := none, timeoutHandler := none }).Regular env :=
      regular.setHost ((regular host).of_stage rfl)
    exact ⟨setHost_core rfl, same, by simpa [Closing, setHost_hosts] using closing⟩
  unfold terminateHost
  rw [Exec.holds_bind, Exec.holds_modify, Exec.then_ok]
  have counted : (world.setHost host fun entry =>
      { entry with terminations := entry.terminations + 1 }).Regular env :=
    regular.setHost ((regular host).of_stage rfl)
  refine (stateTransition_term_holds counted).bind (fun _ _ done => stopped _ _ done.1) ?_
  rintro _ ended ⟨regular, terminated⟩
  refine (callOut_ticks env _ _).bind (fun _ _ same => stopped _ _ (same ▸ regular)) ?_
  rintro _ released rfl
  have cleaned := (@monitorCleanup_stays env host true).holds ended.ticked
  refine (cleaned.and (monitorCleanup_cleared true)).bind
    (fun _ _ done => stopped _ _ (done.1 regular).2.1) ?_
  rintro _ cleared ⟨kept, quiet⟩
  obtain ⟨_, regular, course⟩ := kept regular
  have state : (cleared.hosts host).state = (ended.hosts host).state :=
    (congrArg Host.Course.state course :)
  have closing : Closing host cleared := ⟨state.trans (terminated rfl), quiet rfl⟩
  rw [Exec.holds_bind, Exec.holds_read, Exec.then_ok]
  refine (holds_advances (Exec.within_when (callOut_closing _)) regular closing).bind
    (fun _ _ done => stopped _ _ done.2.1) ?_
  rintro _ unmirrored ⟨_, regular, closing⟩
  refine (holds_advances (Exec.within_when forget) regular closing).bind
    (fun _ _ done => stopped _ _ done.2.1) ?_
  rintro _ silent ⟨_, regular, closing⟩
  exact finalize silent regular closing

theorem terminateHost_regular (regular : world.Regular env) :
    (terminateHost env host).Holds world (fun _ reached => reached.Regular env) :=
  terminateHost_finalizes regular (fun _ _ regular => regular) fun _ regular closing =>
    finalizeReport_regular regular closing

end Daq
