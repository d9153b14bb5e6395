import Daq.Runner.Invariant

namespace Daq

variable {env : Env} {world : World} {host : HostId}

/-! What the machine that every host follows says about whole runs: the order
of a host's stages and tests, and the gate that the base tests are. -/

/-- One pass through the stages, and one test after the other. -/
structure Host.LifeCycle (entry : Host) : Prop where
  stages : (stagesOf entry.life).IsChain fun stage target => stage.leadsTo target = true
  current : (stagesOf entry.life).getLast? = some entry.state
  final : ∀ before after, stagesOf entry.life = before ++ .term :: after → after = []
  taken : entry.enabledTests = takenOf entry.life ++ entry.remainingTests
  ended : endedOf entry.life = entry.endedTests.map Prod.fst
  ordered : ∀ before test after, entry.life = before ++ .taken test :: after →
    takenOf before = endedOf before
  done : entry.state = .done → endedOf entry.life = entry.enabledTests

theorem Host.At.lifeCycle {entry : Host} {current : Option String} (follows : entry.At current) :
    entry.LifeCycle where
  stages := follows.told.stages
  current := follows.told.last
  final := by
    intro before after split
    have stages := follows.told.stages
    rw [split] at stages
    cases after with
    | nil => rfl
    | cons target rest =>
        have leads : HostState.term.leadsTo target = true := (List.isChain_append.mp stages).2.1.rel
        cases leads
  taken := by
    rw [follows.told.taken]
    exact follows.told.tests
  ended := follows.told.ended
  ordered := follows.told.ordered
  done := by
    intro done
    obtain ⟨free, empty⟩ := follows.told.done (.inl done)
    have tests := follows.told.tests
    simp only at free empty tests
    rw [free, empty, Option.toList_none, List.append_nil, List.append_nil] at tests
    exact follows.told.ended.trans tests.symm

/-- Whatever happens to a host, it goes through its stages and tests in order. -/
theorem reachable_lifeCycle (reached : Started env world) (host : HostId) :
    (world.hosts host).LifeCycle := by
  obtain ⟨current, follows, _⟩ := ((started_orderly reached).regular host).lived
  exact follows.lifeCycle

/-- One device that runs through its only test. -/
def testedRun : List Command :=
  [.receive (.event (.portState 1 1 true)), .receive (.event (.portState 2 1 true)),
    .receive (.event (.portLearn 2 1 "9a:02:57:1e:8f:01" 10)), .faucet, .idle,
    .dhcp 0 false { type := "ACK", mac := "9a:02:57:1e:8f:01", ip := "10.20.99.7", delta := some 0 },
    .idle, .moduleCallback 0 (some 0) none]

def oneTest : Config := { secPort := 7, testList := ["pass"] }

theorem testedRun_lifeCycle :
    let entry := (runCommands (.quiet oneTest) testedRun (initialWorld (.quiet oneTest))).hosts 0
    entry.state = .done ∧ entry.enabledTests = ["pass"] ∧ endedOf entry.life = ["pass"] := by
  have done : ((runCommands (.quiet oneTest) testedRun
      (initialWorld (.quiet oneTest))).hosts 0).state = .done := by decide +kernel
  have enabled : ((runCommands (.quiet oneTest) testedRun
      (initialWorld (.quiet oneTest))).hosts 0).enabledTests = ["pass"] := by decide +kernel
  have reached : Started (.quiet oneTest) (runCommands (.quiet oneTest) testedRun
      (initialWorld (.quiet oneTest))) := started_of_commands (by decide) testedRun
  have cycle := reachable_lifeCycle reached 0
  exact ⟨done, enabled, (cycle.done done).trans enabled⟩

section Gate

/-- Base tests that raise an exception bring the host to the error stage, where
the runner is told. -/
theorem baseStart_fails (books : env.KeepsBooks) (regular : world.Regular env)
    (base : (world.hosts host).state = .base) (drain : Run Unit) {raised : Exc} {failed : World}
    (raises : (baseTests env host).run world = (.error raised, failed)) :
    ∃ errored : World, (errored.hosts host).state = .error ∧
      (baseStart env drain host).run world =
        (targetSetError env drain (errored.hosts host).device raised).run errored := by
  obtain ⟨_, regular, base, _⟩ : failed.core = world.core ∧ failed.Regular env ∧
      (failed.hosts host).state = .base ∧ _ := by
    have tested := baseTests_bases world regular base trivial
    unfold Exec.Holds at tested
    rw [raises] at tested
    exact tested
  have moved : (do
      monitorCleanup env host true
      monitorCleanup env host false
      recordException env host raised
      stateTransition host .error none : Run Unit).Holds failed (fun outcome reached =>
        outcome = .ok () ∧ (reached.hosts host).state = .error) := by
    have first := ((monitorCleanup_returns (books.of host) ((regular host).capturing
      books.closesCaptures)).and (monitorCleanup_cleared true)).and
        ((@monitorCleanup_stays env host true).holds failed)
    refine first.bind (fun _ _ done => nomatch done.1.1) ?_
    rintro _ cleaned ⟨⟨_, cleared⟩, kept⟩
    obtain ⟨_, regular, course⟩ := kept regular
    have base : (cleaned.hosts host).state = .base :=
      (congrArg Host.Course.state course :).trans base
    have quiet := cleared rfl
    have second := (@monitorCleanup_returns env host cleaned (books.of host) false (by simp [quiet])).and
      ((@monitorCleanup_stays env host false).holds cleaned)
    refine second.bind (fun _ _ done => nomatch done.1) ?_
    rintro _ again ⟨_, kept⟩
    obtain ⟨_, regular, course⟩ := kept regular
    have base : (again.hosts host).state = .base :=
      (congrArg Host.Course.state course :).trans base
    have alive := (regular host).report_ne_none (base ▸ by decide)
    have recorded : (recordException env host raised).Holds again (fun outcome reached =>
        outcome = .ok () ∧ (stays env host).rel again reached) := by
      refine Exec.Holds.and ?_ ((recordException_stays raised).holds again)
      unfold recordException
      rw [Exec.holds_bind, Exec.holds_read, Exec.then_ok]
      exact (recordResult_returns _ _ (fun state => books.publishes state host) alive).mono
        fun _ _ done => done.1
    refine recorded.bind (fun _ _ done => nomatch done.1) ?_
    rintro _ noted ⟨_, kept⟩
    obtain ⟨_, regular, course⟩ := kept regular
    have base : (noted.hosts host).state = .base :=
      (congrArg Host.Course.state course :).trans base
    unfold stateTransition
    rw [Exec.holds_bind, Exec.holds_read, Exec.then_ok, Exec.holds_bind, Exec.holds_require]
    refine ⟨fun _ => ?_, fun unexpected => absurd (.inl rfl) unexpected⟩
    rw [Exec.then_ok, Exec.holds_bind, Exec.holds_require]
    refine ⟨fun _ => ?_, fun terminated => absurd (base ▸ by decide) terminated⟩
    rw [Exec.then_ok, Exec.holds_modify]
    exact ⟨rfl, by simp [setHost_hosts]⟩
  unfold Exec.Holds at moved
  obtain ⟨returned, errs⟩ := moved
  refine ⟨_, errs, ?_⟩
  have body : (do
      baseTests env host
      monitorCleanup env host true
      backgroundScan env drain host).run world = (.error raised, failed) :=
    Exec.bind_run_error raises
  have handled : (do
      monitorCleanup env host true
      monitorError env drain host raised false).run failed = ((do
        monitorCleanup env host true
        monitorCleanup env host false
        recordException env host raised
        stateTransition host .error none : Run Unit) >>= fun _ =>
          (Exec.read fun world => world.hosts host) >>= fun entry =>
            targetSetError env drain entry.device raised).run failed := by
    unfold monitorError
    simp only [Exec.bind_assoc]
  unfold baseStart
  rw [Exec.attempt_run_error body, handled]
  exact Exec.bind_run_ok (Prod.ext returned rfl)

/-- If no ping that has to be answered stays without an answer, a host only
gets past its base tests, and only takes a test, after both answers; base tests
that raise an exception make it fail. -/
theorem base_gate (answers : env.AnswersPings) (reached : Started env world) (host : HostId) :
    ((world.hosts host).state.PastBase ∨ takenOf (world.hosts host).life ≠ [] →
      ∃ warmUp, (world.hosts host).pings = [warmUp, true, true]) ∧
    (env.KeepsBooks → (world.hosts host).state = .base → ∀ raised failed,
      (baseTests env host).run world = (.error raised, failed) →
      ∃ errored : World, (errored.hosts host).state = .error ∧
        (baseStart env (handleReceivedEvents env) host).run world =
          (targetSetError env (handleReceivedEvents env) (errored.hosts host).device raised).run
            errored) := by
  have regular := (started_orderly reached).regular
  refine ⟨fun past => ?_, fun books base raised failed raises =>
    baseStart_fails books regular base _ raises⟩
  have started : (world.hosts host).state.PastBase ∨
      (world.hosts host).remainingTests ≠ (world.hosts host).enabledTests := by
    refine past.imp_right fun taken same => taken ?_
    obtain ⟨_, follows, _⟩ := (regular host).lived
    have tests := follows.lifeCycle.taken
    rw [← same] at tests
    exact List.append_left_eq_self.mp tests.symm
  obtain ⟨warmUp, simple, target, pings, answered⟩ := (regular host).gated started
  obtain ⟨rfl, rfl⟩ := answered answers
  exact ⟨warmUp, pings⟩

/-- A device that answers no ping. -/
def silentDevice : Env := { Env.quiet oneTest with pingTest := fun _ _ => false }

/-- The device that answers no ping runs through all its tests. -/
theorem not_every_base_gated :
    ¬ ∀ (env : Env) (world : World) (host : HostId), Started env world →
      (world.hosts host).state.PastBase ∨ takenOf (world.hosts host).life ≠ [] →
      ∃ warmUp, (world.hosts host).pings = [warmUp, true, true] := by
  intro always
  have done : ((runCommands silentDevice testedRun (initialWorld silentDevice)).hosts 0).state =
      .done := by decide +kernel
  have pings : ((runCommands silentDevice testedRun (initialWorld silentDevice)).hosts 0).pings =
      [false, false, false] := by decide +kernel
  obtain ⟨warmUp, answered⟩ := always silentDevice _ 0 (started_of_commands (by decide) testedRun)
    (.inl (done ▸ by decide))
  rw [pings] at answered
  cases answered

/-- Only the first ping is not answered. -/
def wakingDevice : Env :=
  { Env.quiet oneTest with pingTest := fun world host => (world.hosts host).pings ≠ [] }

theorem wakingDevice_gated :
    ((runCommands wakingDevice testedRun (initialWorld wakingDevice)).hosts 0).state = .done ∧
      ∃ warmUp, ((runCommands wakingDevice testedRun (initialWorld wakingDevice)).hosts 0).pings =
        [warmUp, true, true] := by
  have done : ((runCommands wakingDevice testedRun (initialWorld wakingDevice)).hosts 0).state =
      .done := by decide +kernel
  have answers : wakingDevice.AnswersPings := by
    intro host warmUp first second warmed pinged _
    constructor
    · simp [wakingDevice, warmed]
    · simp [wakingDevice, World.ticked, pinged]
  have reached : Started wakingDevice (runCommands wakingDevice testedRun
      (initialWorld wakingDevice)) := started_of_commands (by decide) testedRun
  exact ⟨done, (base_gate answers reached 0).1 (.inl (done ▸ by decide))⟩

end Gate

end Daq
