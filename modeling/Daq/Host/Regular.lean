import Daq.Host.Life
import Daq.Runner.Core

namespace Daq

variable {env : Env}

/-! What is true of every host at any time, and how a host's own steps keep it
true.  Such steps leave the core of the state alone. -/

/-- Every test is reported by the module that owns it, and once. -/
def Env.ReportsOwned (env : Env) (owner : String → String) : Prop :=
  ∀ world host lines, env.reportFile world host = some lines →
    (lines.map Prod.fst).Nodup ∧
      ∀ line ∈ lines, owner line.1 = (world.hosts host).testName.getD ""

/-- Putting a capture away whose stream has ended does not fail. -/
def Env.ClosesCaptures (env : Env) : Prop :=
  ∀ world host monitor, (world.hosts host).monitorRef = some monitor →
    monitor.active = false → env.fault world (.uploadFile host) = none

/-- If the last ping of the base tests returns, then it and the one before it
are answered. -/
def Env.AnswersPings (env : Env) : Prop :=
  ∀ host warmUp first second, (first.hosts host).pings = [warmUp] →
    (second.hosts host).pings = [warmUp, env.pingTest first host] →
    env.fault second (.ping host) = none →
    env.pingTest first host = true ∧ env.pingTest second.ticked host = true

/-- The base tests got past their pings. -/
def Host.Gated (env : Env) (entry : Host) : Prop :=
  ∃ warmUp simple target, entry.pings = [warmUp, simple, target] ∧
    (env.AnswersPings → simple = true ∧ target = true)

/-- Return codes in the report are those that tests ended with, and the running
test is one of the enabled ones.  A host whose report is finalized is
terminated, and anything it still records is about its termination.  The host
follows the machine that says what its life is, and no test is taken but after
the base tests. -/
structure Host.Regular (env : Env) (entry : Host) : Prop where
  remaining : ∀ test ∈ entry.remainingTests, test ∈ entry.enabledTests
  testing : entry.state = .testing → ∃ test ∈ entry.enabledTests, entry.testName = some test
  scanning : entry.state = .testing →
    ∀ monitor, entry.monitorRef = some monitor → ¬ Truthy monitor.timeout
  ended : ∀ items name item code, entry.report = some items → items.get? name = some item →
    item.returnCode = some code →
    name ∈ entry.enabledTests ∧ (name, some code) ∈ entry.endedTests
  closed : entry.report = none →
    entry.state = .term ∧ entry.testName = some "terminate" ∧ entry.monitorRef = none
  capturing : env.ClosesCaptures →
    ∀ monitor, entry.monitorRef = some monitor → monitor.active = true
  owned : ∀ owner, env.ReportsOwned owner → ∀ items name item lines,
    entry.report = some items → items.get? name = some item → item.reportLines = some lines →
    (lines.map Prod.fst).Nodup ∧ ∀ line ∈ lines, owner line.1 = name
  lived : ∃ current, entry.At current ∧ (entry.state = .testing → entry.testName = current)
  gated : entry.state.PastBase ∨ entry.remainingTests ≠ entry.enabledTests → entry.Gated env

def World.Regular (world : World) (env : Env) : Prop := ∀ host, (world.hosts host).Regular env

/-- A host without what regularity does not look at. -/
def Host.stage (host : Host) : Host :=
  { device := 0
    gateway := 0
    targetMac := ""
    targetPort := none
    state := host.state
    testName := host.testName
    monitorRef := host.monitorRef
    enabledTests := host.enabledTests
    remainingTests := host.remainingTests
    report := host.report
    endedTests := host.endedTests
    life := host.life
    pings := host.pings }

theorem Host.regular_stage {entry : Host} : entry.stage.Regular env ↔ entry.Regular env :=
  ⟨fun regular => ⟨regular.remaining, regular.testing, regular.scanning, regular.ended,
      regular.closed, regular.capturing, regular.owned, regular.lived, regular.gated⟩,
    fun regular => ⟨regular.remaining, regular.testing, regular.scanning, regular.ended,
      regular.closed, regular.capturing, regular.owned, regular.lived, regular.gated⟩⟩

namespace Host.Regular

variable {entry other : Host}

theorem of_stage (regular : entry.Regular env) (same : other.stage = entry.stage) :
    other.Regular env := by
  rw [← Host.regular_stage, same, Host.regular_stage]
  exact regular

theorem report_ne_none (regular : entry.Regular env) (alive : entry.state ≠ .term) :
    entry.report ≠ none :=
  fun absent => alive (regular.closed absent).1

/-- The test name of a host is its own affair unless a test runs or the report
is gone. -/
theorem renamed (regular : entry.Regular env) (name : Option String)
    (free : entry.testName = name ∨ entry.state ≠ .testing ∧ entry.report ≠ none) :
    ({ entry with testName := name } : Host).Regular env where
  remaining := regular.remaining
  testing := by
    intro testing
    rcases free with same | ⟨idle, _⟩
    · exact same ▸ regular.testing testing
    · exact absurd testing idle
  scanning := regular.scanning
  ended := regular.ended
  closed := by
    intro absent
    obtain ⟨terminated, named, quiet⟩ := regular.closed absent
    rcases free with same | ⟨_, alive⟩
    · exact ⟨terminated, same ▸ named, quiet⟩
    · exact absurd absent alive
  capturing := regular.capturing
  owned := regular.owned
  lived := by
    obtain ⟨current, follows, named⟩ := regular.lived
    refine ⟨current, follows, fun testing => ?_⟩
    rcases free with same | ⟨idle, _⟩
    · exact same ▸ named testing
    · exact absurd testing idle
  gated := regular.gated

theorem reported (regular : entry.Regular env) {items : Dict String ReportItem} {name : String}
    {item : ReportItem} (present : entry.report = some items)
    (codes : ∀ code, item.returnCode = some code →
      name ∈ entry.enabledTests ∧ (name, some code) ∈ entry.endedTests)
    (lines : ∀ owner, env.ReportsOwned owner → ∀ lines, item.reportLines = some lines →
      (lines.map Prod.fst).Nodup ∧ ∀ line ∈ lines, owner line.1 = name) :
    ({ entry with report := some (items.insert name item) } : Host).Regular env where
  remaining := regular.remaining
  testing := regular.testing
  scanning := regular.scanning
  ended := by
    intro updated key value code equality found coded
    cases equality
    rw [Dict.get?_insert] at found
    split at found
    · rename_i same
      cases found
      exact same ▸ codes code coded
    · exact regular.ended items key value code present found coded
  closed := nofun
  capturing := regular.capturing
  owned := by
    intro owner owns updated key value reportLines equality found given
    cases equality
    rw [Dict.get?_insert] at found
    split at found
    · rename_i same
      cases found
      exact same ▸ lines owner owns reportLines given
    · exact regular.owned owner owns items key value reportLines present found given
  lived := regular.lived
  gated := regular.gated

/-- A host that is not terminated goes to a stage other than testing. -/
theorem moved (regular : entry.Regular env) {target : HostState} (stage : target ≠ .testing)
    (leads : entry.state.leadsTo target = true)
    (final : target = .done ∨ target = .hold → entry.At none ∧ entry.remainingTests = [])
    (gate : target = .monitor → entry.Gated env) :
    ({ entry with state := target, life := entry.life ++ [.moved target] } : Host).Regular
      env where
  remaining := regular.remaining
  testing := fun testing => absurd testing stage
  scanning := fun testing => absurd testing stage
  ended := regular.ended
  closed := by
    intro absent
    rw [(regular.closed absent).1] at leads
    cases leads
  capturing := regular.capturing
  owned := regular.owned
  lived := by
    obtain ⟨current, follows, _⟩ := regular.lived
    refine ⟨current, follows.moved leads (fun testing => absurd testing stage) fun ends => ?_,
      fun testing => absurd testing stage⟩
    exact ⟨follows.unique (final ends).1, (final ends).2⟩
  gated := by
    rintro (past | taken)
    · by_cases monitor : target = .monitor
      · exact gate monitor
      · exact regular.gated (.inl (HostState.pastBase_of_leadsTo leads past monitor))
    · exact regular.gated (.inr taken)

/-- The chosen test starts. -/
theorem tested (regular : entry.Regular env) {test : String}
    (chosen : test ∈ entry.enabledTests ∧ entry.testName = some test)
    (stage : entry.state = .next) (follows : entry.At (some test))
    (scan : ∀ monitor, entry.monitorRef = some monitor → ¬ Truthy monitor.timeout) :
    ({ entry with state := .testing, life := entry.life ++ [.moved .testing] } : Host).Regular
      env where
  remaining := regular.remaining
  testing := fun _ => ⟨test, chosen⟩
  scanning := fun _ => scan
  ended := regular.ended
  closed := fun absent => absurd absent (regular.report_ne_none (stage ▸ by decide))
  capturing := regular.capturing
  owned := regular.owned
  lived := ⟨some test, follows.moved (stage ▸ rfl) nofun nofun, fun _ => chosen.2⟩
  gated := fun _ => regular.gated (.inl (stage ▸ by decide))

/-- A host between two tests takes the next one. -/
theorem took (regular : entry.Regular env) (stage : entry.state = .next) (follows : entry.At none)
    {test : String} {rest : List String} (remaining : entry.remainingTests = test :: rest) :
    ({ entry with remainingTests := rest, life := entry.life ++ [.taken test] } : Host).Regular
      env where
  remaining := fun other inside => regular.remaining other (remaining ▸ .tail _ inside)
  testing := fun testing => absurd (stage.symm.trans testing) nofun
  scanning := fun testing => absurd (stage.symm.trans testing) nofun
  ended := regular.ended
  closed := fun absent => absurd absent (regular.report_ne_none (stage ▸ by decide))
  capturing := regular.capturing
  owned := regular.owned
  lived := ⟨some test, follows.took stage remaining,
    fun testing => absurd (stage.symm.trans testing) nofun⟩
  gated := fun _ => regular.gated (.inl (stage ▸ by decide))

/-- The test a host was at has ended. -/
theorem shut (regular : entry.Regular env) {test : String} (stage : entry.state = .next)
    (follows : entry.At (some test)) (code : Option Int) :
    ({ entry with
        endedTests := entry.endedTests ++ [(test, code)]
        life := entry.life ++ [.ended test] } : Host).Regular env where
  remaining := regular.remaining
  testing := regular.testing
  scanning := regular.scanning
  ended := fun items name item code present found coded =>
    have before := regular.ended items name item code present found coded
    ⟨before.1, List.mem_append_left _ before.2⟩
  closed := regular.closed
  capturing := regular.capturing
  owned := regular.owned
  lived := ⟨none, follows.closed stage code, fun testing => absurd (stage.symm.trans testing) nofun⟩
  gated := regular.gated

/-- The base tests are about to ping, or have pinged. -/
theorem pinged (regular : entry.Regular env) (stage : entry.state = .base) (pings : List Bool) :
    ({ entry with pings := pings } : Host).Regular env where
  remaining := regular.remaining
  testing := regular.testing
  scanning := regular.scanning
  ended := regular.ended
  closed := regular.closed
  capturing := regular.capturing
  owned := regular.owned
  lived := regular.lived
  gated := by
    rintro (past | taken)
    · have past : entry.state.PastBase := past
      rw [stage] at past
      exact absurd past (by decide)
    · obtain ⟨_, follows, _⟩ := regular.lived
      exact absurd (follows.early (stage ▸ by decide)).2 taken

theorem uncaptured (regular : entry.Regular env) :
    ({ entry with monitorRef := none } : Host).Regular env where
  remaining := regular.remaining
  testing := regular.testing
  scanning := nofun
  ended := regular.ended
  closed := fun absent => ⟨(regular.closed absent).1, (regular.closed absent).2.1, rfl⟩
  capturing := nofun
  owned := regular.owned
  lived := regular.lived
  gated := regular.gated

theorem captured (regular : entry.Regular env) {timeout : Option Nat}
    (alive : entry.report ≠ none) (scan : entry.state = .testing → ¬ Truthy timeout) :
    ({ entry with monitorRef := some { active := true, timeout := timeout } } : Host).Regular
      env where
  remaining := regular.remaining
  testing := regular.testing
  scanning := by
    intro testing monitor equality
    cases equality
    exact scan testing
  ended := regular.ended
  closed := fun absent => absurd absent alive
  capturing := by
    intro _ monitor equality
    cases equality
    rfl
  owned := regular.owned
  lived := regular.lived
  gated := regular.gated

end Host.Regular

/-- How far a host is on its way through stages and tests. -/
structure Host.Course where
  state : HostState
  testName : Option String
  remainingTests : List String
  endedTests : List (String × Option Int)
  life : List LifeEvent
  pings : List Bool

def Host.course (entry : Host) : Host.Course where
  state := entry.state
  testName := entry.testName
  remainingTests := entry.remainingTests
  endedTests := entry.endedTests
  life := entry.life
  pings := entry.pings

theorem Host.At.of_course {entry other : Host} {current : Option String}
    (follows : entry.At current) (course : other.course = entry.course)
    (enabled : other.enabledTests = entry.enabledTests) : other.At current := by
  have state : other.state = entry.state := congrArg Host.Course.state course
  have remaining : other.remainingTests = entry.remainingTests :=
    congrArg Host.Course.remainingTests course
  have ended : other.endedTests = entry.endedTests := congrArg Host.Course.endedTests course
  have life : other.life = entry.life := congrArg Host.Course.life course
  unfold Host.At
  rw [enabled, life, state, remaining, ended]
  exact follows

/-- Regular states stay regular, the core stays as it is, and so does a
property that holds before. -/
def holding (env : Env) (property : World → Prop) : Frame World where
  rel before after := before.Regular env → property before →
    after.core = before.core ∧ after.Regular env ∧ property after
  refl := fun _ regular holds => ⟨rfl, regular, holds⟩
  trans := by
    intro first second third earlier later regular holds
    obtain ⟨core, regular, holds⟩ := earlier regular holds
    obtain ⟨next, regular, holds⟩ := later regular holds
    exact ⟨next.trans core, regular, holds⟩

def advances (env : Env) : Frame World := holding env fun _ => True

/-- Steps of a host that stays at one stage. -/
def during (env : Env) (host : HostId) (stage : HostState) : Frame World :=
  holding env fun world => (world.hosts host).state = stage

/-- Steps of a host that leave it where it is on its way. -/
def stays (env : Env) (host : HostId) : Frame World where
  rel before after := before.Regular env →
    after.core = before.core ∧ after.Regular env ∧
      (after.hosts host).course = (before.hosts host).course
  refl := fun _ regular => ⟨rfl, regular, rfl⟩
  trans := by
    intro first second third earlier later regular
    obtain ⟨core, regular, course⟩ := earlier regular
    obtain ⟨nextCore, regular, nextCourse⟩ := later regular
    exact ⟨nextCore.trans core, regular, nextCourse.trans course⟩

section Frames

variable {host : HostId} {stage : HostState} {α : Type} {program : Run α} {world : World}

theorem within_holding {property : World → Prop} (within : program.Within (stays env host))
    (stable : ∀ before after, property before → after.core = before.core →
      (after.hosts host).course = (before.hosts host).course → property after) :
    program.Within (holding env property) :=
  within.mono fun before after kept regular holds => by
    obtain ⟨core, regular, course⟩ := kept regular
    exact ⟨core, regular, stable before after holds core course⟩

theorem within_advances (within : program.Within (stays env host)) :
    program.Within (advances env) :=
  within_holding within fun _ _ _ _ _ => trivial

theorem within_during (within : program.Within (stays env host)) :
    program.Within (during env host stage) :=
  within_holding within fun _ _ same _ course =>
    (congrArg Host.Course.state course :).trans same

theorem holds_advances {property : World → Prop}
    (within : program.Within (holding env property)) (regular : world.Regular env)
    (holds : property world) :
    program.Holds world (fun _ reached => reached.core = world.core ∧ reached.Regular env ∧
      property reached) :=
  within world regular holds

theorem World.Regular.of_hosts {before after : World} (regular : before.Regular env)
    (hosts : after.hosts = before.hosts) : after.Regular env := by
  intro other
  rw [hosts]
  exact regular other

theorem World.Regular.setHost (regular : world.Regular env) {update : Host → Host}
    (own : (update (world.hosts host)).Regular env) :
    (world.setHost host update).Regular env := by
  intro other
  rw [setHost_hosts]
  split
  · exact own
  · exact regular other

theorem host_enabledTests {before after : World} (core : after.core = before.core)
    (host : HostId) : (after.hosts host).enabledTests = (before.hosts host).enabledTests :=
  congrArg (fun view => (view.host host).enabledTests) core

theorem host_report {before after : World} (core : after.core = before.core) (host : HostId) :
    (after.hosts host).report = none ↔ (before.hosts host).report = none := by
  have same : (after.hosts host).report.isNone = (before.hosts host).report.isNone :=
    congrArg (fun view => (view.host host).reported) core
  rw [← Option.isNone_iff_eq_none, ← Option.isNone_iff_eq_none, same]

theorem callOut_stays (op : Op) : (callOut env op).Within (stays env host) := by
  intro world regular
  rw [callOut_run_snd]
  exact ⟨rfl, regular, rfl⟩

theorem callOut_advances (op : Op) : (callOut env op).Within (advances env) :=
  within_advances (@callOut_stays env 0 op)

/-- A write of one host that regularity does not look at. -/
theorem setHost_stays {change : World → Host → Host}
    (core : ∀ world entry, (change world entry).core = entry.core)
    (same : ∀ world entry, (change world entry).stage = entry.stage) :
    (Exec.modify fun world => world.setHost host (change world) : Run Unit).Within
      (stays env host) := by
  intro world regular
  refine ⟨setHost_core (core _ _), regular.setHost ((regular host).of_stage (same _ _)), ?_⟩
  simp only [Exec.modify_run, setHost_hosts, ↓reduceIte]
  exact (congrArg Host.course (same world (world.hosts host)) :)

theorem setGateway_stays {gateway : GatewayId} {change : World → Gateway → Gateway}
    (core : ∀ world entry, (change world entry).core = entry.core) :
    (Exec.modify fun world => world.setGateway gateway (change world) : Run Unit).Within
      (stays env host) := by
  intro world regular
  exact ⟨setGateway_core (core _ _), regular, rfl⟩

theorem setGateway_advances {gateway : GatewayId} {change : World → Gateway → Gateway}
    (core : ∀ world entry, (change world entry).core = entry.core) :
    (Exec.modify fun world => world.setGateway gateway (change world) : Run Unit).Within
      (advances env) :=
  within_advances (@setGateway_stays env 0 gateway change core)

theorem setDevice_stays {device : DeviceId} {change : World → Device → Device}
    (core : ∀ world entry, (change world entry).core = entry.core) :
    (Exec.modify fun world => world.setDevice device (change world) : Run Unit).Within
      (stays env host) := by
  intro world regular
  exact ⟨setDevice_core (core _ _), regular, rfl⟩

theorem setDevice_advances {device : DeviceId} {change : World → Device → Device}
    (core : ∀ world entry, (change world entry).core = entry.core) :
    (Exec.modify fun world => world.setDevice device (change world) : Run Unit).Within
      (advances env) :=
  within_advances (@setDevice_stays env 0 device change core)

end Frames

section Records

variable {host : HostId} {stage : HostState} {world : World}

theorem publishResult_stays (name : Option String) (record : Record) :
    (publishResult env host name record).Within (stays env host) := by
  unfold publishResult
  exact Exec.within_bind
    (Exec.within_when (setHost_stays (fun _ _ => rfl) (fun _ _ => rfl))) fun _ => callOut_stays _

/-- The report of a regular host, with an item that is regular too. -/
theorem accumulate_holds {name : String} {change : ReportItem → ReportItem}
    (regular : world.Regular env)
    (codes : ∀ item code, (change item).returnCode = some code →
      item.returnCode = some code ∨ (name ∈ (world.hosts host).enabledTests ∧
        (name, some code) ∈ (world.hosts host).endedTests))
    (lines : ∀ owner, env.ReportsOwned owner → ∀ item lines,
      (change item).reportLines = some lines → item.reportLines = some lines ∨
        ((lines.map Prod.fst).Nodup ∧ ∀ line ∈ lines, owner line.1 = name)) :
    (accumulate host name change).Holds world (fun _ reached =>
      reached.core = world.core ∧ reached.Regular env ∧
      (reached.hosts host).course = (world.hosts host).course) := by
  unfold accumulate
  rw [Exec.holds_bind, Exec.holds_read, Exec.then_ok]
  cases present : (world.hosts host).report with
  | none => exact ⟨rfl, regular, rfl⟩
  | some items =>
      rw [Exec.holds_modify]
      have stored : ∀ item, items.get? name = some item ∨ item = {} →
          (∀ code, item.returnCode = some code → name ∈ (world.hosts host).enabledTests ∧
            (name, some code) ∈ (world.hosts host).endedTests) ∧
          ∀ owner, env.ReportsOwned owner → ∀ lines, item.reportLines = some lines →
            (lines.map Prod.fst).Nodup ∧ ∀ line ∈ lines, owner line.1 = name := by
        rintro item (found | rfl)
        · exact ⟨fun code => (regular host).ended items name item code present found,
            fun owner owns lines => (regular host).owned owner owns items name item lines present
              found⟩
        · exact ⟨nofun, nofun⟩
      obtain ⟨coded, lined⟩ := stored ((items.get? name).getD {}) (by
        cases items.get? name <;> simp)
      refine ⟨setHost_core (by simp [Host.core, present]), regular.setHost ?_, ?_⟩
      · refine (regular host).reported present ?_ ?_
        · intro code given
          exact (codes _ code given).elim (coded code) id
        · intro owner owns reportLines given
          exact (lines owner owns _ reportLines given).elim (lined owner owns reportLines) id
      · exact setHost_view Host.course rfl host

theorem accumulate_stays {name : String} {change : ReportItem → ReportItem}
    (code : ∀ item, (change item).returnCode = item.returnCode)
    (lines : ∀ item, (change item).reportLines = item.reportLines) :
    (accumulate host name change).Within (stays env host) :=
  fun _ regular => accumulate_holds regular (fun item _ given => .inl (code item ▸ given))
    (fun _ _ item _ given => .inl (lines item ▸ given))

/-- The host is where another one is in its stages and tests. -/
structure Alike (host : HostId) (entry : Host) (world : World) : Prop where
  course : (world.hosts host).course = entry.course
  enabled : (world.hosts host).enabledTests = entry.enabledTests

theorem within_alike {α : Type} {program : Run α} {entry : Host}
    (within : program.Within (stays env host)) :
    program.Within (holding env (Alike host entry)) :=
  within_holding within fun _ _ alike core course =>
    ⟨course.trans alike.course, (host_enabledTests core host).trans alike.enabled⟩

/-- Recording a result.  A return code belongs to a test that ended with it. -/
theorem recordResult_holds {name : Option String} {record : Record} (regular : world.Regular env)
    (codes : ∀ code, record.code = some (some code) →
      name.getD "" ∈ (world.hosts host).enabledTests ∧
        (name.getD "", some code) ∈ (world.hosts host).endedTests)
    (free : (world.hosts host).testName = name ∨
      (world.hosts host).state ≠ .testing ∧ (world.hosts host).report ≠ none) :
    (recordResult env host name record).Holds world (fun _ reached =>
      reached.core = world.core ∧ reached.Regular env ∧
      (reached.hosts host).course = { (world.hosts host).course with testName := name }) := by
  have coded : ∀ code, record.code = some code →
      (accumulate host (name.getD "") fun item => { item with returnCode := code }).Within
        (holding env (Alike host { world.hosts host with testName := name })) := by
    intro code given state regular alike
    have held := @accumulate_holds env host state (name.getD "")
      (fun item => { item with returnCode := code }) regular ?_
      (fun _ _ item lines given => .inl given)
    · exact ⟨held.1, held.2.1, held.2.2.trans alike.course,
        (host_enabledTests held.1 host).trans alike.enabled⟩
    · intro item value recorded
      have same : code = some value := recorded
      have ended : (state.hosts host).endedTests = (world.hosts host).endedTests :=
        (congrArg Host.Course.endedTests alike.course :)
      rw [ended, alike.enabled]
      exact .inr (codes value (same ▸ given))
  unfold recordResult
  rw [Exec.holds_bind, Exec.holds_modify, Exec.then_ok]
  have renamed : (world.setHost host fun entry => { entry with testName := name }).Regular env :=
    regular.setHost ((regular host).renamed name free)
  have alike : Alike host { world.hosts host with testName := name }
      (world.setHost host fun entry => { entry with testName := name }) := by
    constructor <;> simp [setHost_hosts]
  refine Exec.Holds.mono ((show Exec.Within
    (holding env (Alike host { world.hosts host with testName := name })) _ from ?_).holds _) ?_
  · refine Exec.within_when (Exec.within_bind (within_alike (publishResult_stays _ _)) fun _ => ?_)
    refine Exec.within_bind (Exec.within_whenSome _ fun raised =>
      within_alike (accumulate_stays (fun _ => rfl) (fun _ => rfl))) fun _ => ?_
    exact Exec.within_bind (Exec.within_whenSome_of coded) fun _ =>
      within_alike (accumulate_stays (fun _ => rfl) (fun _ => rfl))
  · intro outcome reached held
    obtain ⟨core, regular, after⟩ := held renamed alike
    exact ⟨core.trans (setHost_core rfl), regular, after.course⟩

theorem recordException_stays (raised : Exc) :
    (recordException env host raised).Within (stays env host) :=
  fun _ regular => recordResult_holds regular nofun (.inl rfl)

theorem recordResult_during (name : Option String) {record : Record}
    (uncoded : record.code = none) (idle : stage ≠ .testing) (alive : stage ≠ .term) :
    (recordResult env host name record).Within (during env host stage) := by
  intro world regular same
  have held := @recordResult_holds env host world name record regular (by simp [uncoded])
    (.inr ⟨same ▸ idle, (regular host).report_ne_none (same ▸ alive)⟩)
  exact ⟨held.1, held.2.1, (congrArg Host.Course.state held.2.2 :).trans same⟩

end Records

section Stages

variable {host : HostId} {stage target : HostState} {expected : Option HostState} {world : World}
  {α : Type}

/-- A host where another one is, but for the stage it has gone to. -/
def Host.movedTo (entry : Host) (target : HostState) : Host :=
  { entry with state := target, life := entry.life ++ [.moved target] }

theorem stateTransition_holds (host : HostId) (expected : Option HostState)
    (regular : world.Regular env) (running : target ≠ .term)
    (step : expected = none ∨ expected = some (world.hosts host).state →
      (world.hosts host).state ≠ .term → ((world.hosts host).movedTo target).Regular env) :
    (stateTransition host target expected).Holds world (fun outcome reached =>
      reached.core = world.core ∧ reached.Regular env ∧
      (outcome = .ok () → (expected = none ∨ expected = some (world.hosts host).state) ∧
        (reached.hosts host).course = ((world.hosts host).movedTo target).course)) := by
  have core := (stateTransition_hostLocal host expected running world).core
  refine Exec.Holds.and core ?_
  unfold stateTransition
  rw [Exec.holds_bind, Exec.holds_read, Exec.then_ok, Exec.holds_bind, Exec.holds_require]
  refine ⟨fun awaited => ?_, fun _ => ⟨regular, nofun⟩⟩
  rw [Exec.then_ok, Exec.holds_bind, Exec.holds_require]
  refine ⟨fun alive => ?_, fun _ => ⟨regular, nofun⟩⟩
  rw [Exec.then_ok, Exec.holds_modify]
  refine ⟨regular.setHost (step awaited alive), fun _ => ⟨awaited, ?_⟩⟩
  rw [setHost_hosts, if_pos rfl]
  rfl

/-- A transition that may be made whatever the host did before. -/
def Leads (expected : Option HostState) (target : HostState) : Prop :=
  (target ≠ .term ∧ target ≠ .testing ∧ target ≠ .done ∧ target ≠ .hold ∧ target ≠ .monitor) ∧
    match expected with
    | none => target = .error
    | some stage => stage.leadsTo target = true

instance (expected : Option HostState) (target : HostState) : Decidable (Leads expected target) := by
  unfold Leads
  cases expected
  · exact inferInstance
  · exact inferInstance

theorem Leads.moved (leads : Leads expected target) {entry : Host} (regular : entry.Regular env)
    (awaited : expected = none ∨ expected = some entry.state) (alive : entry.state ≠ .term) :
    (entry.movedTo target).Regular env := by
  obtain ⟨⟨_, idle, unfinished, unheld, unmonitored⟩, follows⟩ := leads
  refine regular.moved idle ?_ (fun final => ?_) fun monitor => absurd monitor unmonitored
  · rcases awaited with rfl | rfl
    · have failing : target = .error := follows
      rw [failing]
      revert alive
      cases entry.state <;> decide
    · exact follows
  · exact final.elim (fun done => absurd done unfinished) fun hold => absurd hold unheld

theorem stateTransition_leads (host : HostId) (regular : world.Regular env)
    (leads : Leads expected target) :
    (stateTransition host target expected).Holds world (fun outcome reached =>
      reached.core = world.core ∧ reached.Regular env ∧
      (outcome = .ok () → (expected = none ∨ expected = some (world.hosts host).state) ∧
        (reached.hosts host).course = ((world.hosts host).movedTo target).course)) :=
  stateTransition_holds host expected regular leads.1.1 (leads.moved (regular host))

theorem stateTransition_advances (leads : Leads expected target) :
    (stateTransition host target expected).Within (advances env) := by
  intro world regular _
  obtain ⟨core, regular, _⟩ := stateTransition_leads host regular leads
  exact ⟨core, regular, trivial⟩

/-- A transition, and then steps at the stage it leads to. -/
theorem transition_then {next : Unit → Run α} (leads : Leads expected target)
    (rest : (next ()).Within (during env host target)) :
    (stateTransition host target expected >>= next).Within (advances env) := by
  intro world regular _
  have composed : (stateTransition host target expected >>= next).Holds world
      (fun _ reached => reached.core = world.core ∧ reached.Regular env ∧ True) := by
    refine (stateTransition_leads host regular leads).bind ?_ ?_
    · rintro raised reached ⟨core, regular, _⟩
      exact ⟨core, regular, trivial⟩
    · rintro _ reached ⟨core, regular, returned⟩
      have state : (reached.hosts host).state = target :=
        (congrArg Host.Course.state (returned rfl).2 :)
      refine (holds_advances rest regular state).mono ?_
      rintro outcome final ⟨next, regular, _⟩
      exact ⟨next.trans core, regular, trivial⟩
  exact composed

theorem monitorCleanup_stays (forget : Bool) :
    (monitorCleanup env host forget).Within (stays env host) := by
  unfold monitorCleanup
  refine Exec.within_bind (Exec.within_read _) fun _ => Exec.within_whenSome _ fun _ => ?_
  refine Exec.within_bind (Exec.within_require _) fun _ => ?_
  refine Exec.within_bind (callOut_stays _) fun _ => ?_
  refine Exec.within_bind (Exec.within_when (callOut_stays _)) fun _ => ?_
  intro world regular
  have uncaptured : (world.setHost host fun entry => { entry with monitorRef := none }).Regular
      env := regular.setHost (regular host).uncaptured
  refine ⟨setHost_core rfl, uncaptured, ?_⟩
  rw [Exec.modify_run, setHost_hosts, if_pos rfl]
  rfl

/-- A capture starts; only a scan with a time limit needs another stage than
testing. -/
theorem monitorScan_holds (timeout : Option Nat) (regular : world.Regular env)
    (alive : (world.hosts host).report ≠ none)
    (scan : (world.hosts host).state = .testing → ¬ Truthy timeout) :
    (monitorScan env host timeout).Holds world (fun outcome reached =>
      reached.core = world.core ∧ reached.Regular env ∧
      (reached.hosts host).course = (world.hosts host).course ∧
      (outcome = .ok () → ∀ monitor, (reached.hosts host).monitorRef = some monitor →
        monitor.timeout = timeout)) := by
  unfold monitorScan
  rw [Exec.holds_bind, Exec.holds_read, Exec.then_ok, Exec.holds_bind, Exec.holds_require]
  refine ⟨fun _ => ?_, fun _ => ⟨rfl, regular, rfl, nofun⟩⟩
  rw [Exec.then_ok, Exec.holds_bind, holds_callOut]
  refine ⟨fun _ => ?_, fun _ _ => ⟨rfl, regular, rfl, nofun⟩⟩
  rw [Exec.then_ok, Exec.holds_bind, Exec.holds_modify, Exec.then_ok]
  have ticked : world.ticked.Regular env := regular
  have started : (world.ticked.setHost host fun entry =>
      { entry with monitorRef := some { active := true, timeout := timeout } }).Regular env :=
    ticked.setHost ((ticked host).captured alive scan)
  have core : (world.ticked.setHost host fun entry =>
      { entry with monitorRef := some { active := true, timeout := timeout } }).core =
      world.ticked.core := setHost_core rfl
  refine (callOut_ticks env _ _).mono ?_
  rintro outcome reached rfl
  refine ⟨core, started, ?_, ?_⟩
  · unfold World.ticked
    rw [setHost_hosts, if_pos rfl]
    rfl
  · intro _ monitor current
    simp only [World.ticked, setHost_hosts, ↓reduceIte, Option.some.injEq] at current
    subst current
    rfl

theorem monitorScan_during (timeout : Option Nat) (idle : stage ≠ .testing)
    (alive : stage ≠ .term) :
    (monitorScan env host timeout).Within (during env host stage) := by
  intro world regular same
  have held := monitorScan_holds timeout regular
    ((regular host).report_ne_none (same ▸ alive)) (fun testing => absurd (same ▸ testing) idle)
  exact ⟨held.1, held.2.1, (congrArg Host.Course.state held.2.2.1 :).trans same⟩

theorem startRun_advances : (startRun env host).Within (advances env) := by
  unfold startRun markSkippedTests
  refine transition_then (by decide) ?_
  refine Exec.within_bind (Exec.within_bind (Exec.within_read _) fun _ =>
    Exec.within_forEach (fun _ => within_during (publishResult_stays _ _)) _) fun _ => ?_
  refine Exec.within_bind (recordResult_during _ rfl (by decide) (by decide)) fun _ => ?_
  refine Exec.within_bind (recordResult_during _ rfl (by decide) (by decide)) fun _ => ?_
  exact Exec.within_bind (within_during (setHost_stays (fun _ _ => rfl) (fun _ _ => rfl))) fun _ =>
    monitorScan_during _ (by decide) (by decide)

theorem initializeHost_advances : (initializeHost env host).Within (advances env) := by
  unfold initializeHost
  refine Exec.within_bind (callOut_advances _) fun _ => ?_
  refine Exec.within_ite startRun_advances ?_
  intro world regular _
  rw [Exec.read_bind_run]
  by_cases ready : (world.hosts host).state = .ready
  · rw [Exec.require_bind_run _ _ ready]
    have recorded : (recordResult env host (some "startup") {}).Within
        (during env host .ready) := recordResult_during _ rfl (by decide) (by decide)
    obtain ⟨core, regular, _⟩ := recorded world regular ready
    exact ⟨core, regular, trivial⟩
  · rw [Exec.require_bind_run_not _ _ ready]
    exact ⟨rfl, regular, trivial⟩

end Stages

/-- From a state with the given property the program stays regular and keeps
the core; the property may be gone in the end. -/
def AdvancesFrom (env : Env) (property : World → Prop) {α : Type} (program : Run α) : Prop :=
  ∀ world, world.Regular env → property world →
    program.Holds world (fun _ reached => reached.core = world.core ∧ reached.Regular env)

/-- The same, with a property of the states in which the program returns. -/
def AdvancesTo (env : Env) (property post : World → Prop) {α : Type} (program : Run α) : Prop :=
  ∀ world, world.Regular env → property world →
    program.Holds world (fun outcome reached => reached.core = world.core ∧
      reached.Regular env ∧ ∀ value, outcome = .ok value → post reached)

theorem AdvancesTo.of_holding {property : World → Prop} {α : Type} {program : Run α}
    (within : program.Within (holding env property)) :
    AdvancesTo env property property program := by
  intro world regular holds
  refine (holds_advances within regular holds).mono ?_
  rintro outcome reached ⟨core, regular, holds⟩
  exact ⟨core, regular, fun _ _ => holds⟩

theorem AdvancesTo.step {property middle post : World → Prop} {α β : Type} {first : Run α}
    {next : α → Run β} (head : AdvancesTo env property middle first)
    (tail : ∀ value, AdvancesTo env middle post (next value)) :
    AdvancesTo env property post (first >>= next) := by
  intro world regular holds
  refine (head world regular holds).bind ?_ ?_
  · rintro raised reached ⟨core, regular, _⟩
    exact ⟨core, regular, nofun⟩
  · rintro value reached ⟨core, regular, returned⟩
    refine (tail value reached regular (returned value rfl)).mono ?_
    rintro outcome final ⟨next, regular, returned⟩
    exact ⟨next.trans core, regular, returned⟩

namespace AdvancesFrom

variable {property : World → Prop} {α β : Type}

theorem of_advances {program : Run α} (within : program.Within (advances env)) :
    AdvancesFrom env property program := by
  intro world regular _
  obtain ⟨core, regular, _⟩ := within world regular trivial
  exact ⟨core, regular⟩

theorem advances {program : Run α} (always : AdvancesFrom env (fun _ => True) program) :
    program.Within (Daq.advances env) := by
  intro world regular _
  have held := always world regular trivial
  exact ⟨held.1, held.2, trivial⟩

/-- The first part may lead to another property, on which the rest relies. -/
theorem step {first : Run α} {next : α → Run β} {middle : World → Prop}
    (head : AdvancesTo env property middle first)
    (tail : ∀ value, AdvancesFrom env middle (next value)) :
    AdvancesFrom env property (first >>= next) := by
  intro world regular holds
  refine (head world regular holds).bind ?_ ?_
  · rintro raised reached ⟨core, regular, _⟩
    exact ⟨core, regular⟩
  · rintro value reached ⟨core, regular, returned⟩
    refine (tail value reached regular (returned value rfl)).mono ?_
    rintro outcome final ⟨next, regular⟩
    exact ⟨next.trans core, regular⟩

theorem bind {first : Run α} {next : α → Run β} (head : first.Within (holding env property))
    (tail : ∀ value, AdvancesFrom env property (next value)) :
    AdvancesFrom env property (first >>= next) := by
  exact step (.of_holding head) tail

theorem bind_advances {first : Run α} {next : α → Run β}
    (head : AdvancesFrom env property first)
    (tail : ∀ value, (next value).Within (Daq.advances env)) :
    AdvancesFrom env property (first >>= next) := by
  refine @step env property α β first next (fun _ => True) (fun world regular holds => ?_)
    fun value => of_advances (tail value)
  exact (head world regular holds).mono fun _ _ kept => ⟨kept.1, kept.2, fun _ _ => trivial⟩

theorem attempt {body : Run α} {handler : Exc → Run α}
    (inner : AdvancesFrom env property body)
    (outer : ∀ raised, (handler raised).Within (Daq.advances env)) :
    AdvancesFrom env property (Exec.attempt body handler) := by
  intro world regular holds
  refine (inner world regular holds).attempt (fun _ _ kept => kept) ?_
  rintro raised reached ⟨core, regular⟩
  refine (@of_advances env (fun _ => True) _ _ (outer raised) reached regular trivial).mono ?_
  rintro outcome final ⟨next, regular⟩
  exact ⟨next.trans core, regular⟩

end AdvancesFrom

section Tests

variable {host : HostId} {world : World}

theorem triggerHost_advances (targetIp : Option String) :
    (triggerHost env host targetIp).Within (advances env) := by
  have triggered : AdvancesFrom env (fun world => (world.hosts host).state = .waiting) (do
      Exec.modify fun world => world.setHost host fun entry => { entry with targetIp := targetIp }
      publishResult env host (some "info") {}
      recordResult env host (some "acquire") {}
      stateTransition host .base (some .waiting)
      pure true) := by
    refine .bind (within_during (setHost_stays (fun _ _ => rfl) (fun _ _ => rfl))) fun _ => ?_
    refine .bind (within_during (publishResult_stays _ _)) fun _ => ?_
    refine .bind (recordResult_during _ rfl (by decide) (by decide)) fun _ => ?_
    exact .of_advances (Exec.within_bind (stateTransition_advances (by decide)) fun _ =>
      Exec.within_pure _)
  intro world regular _
  unfold triggerHost
  rw [Exec.read_bind_run]
  split
  · rw [Exec.require]
    split
    · exact ⟨rfl, regular, trivial⟩
    · exact ⟨rfl, regular, trivial⟩
  · cases ready : triggerReady (world.hosts host) with
    | error raised => exact ⟨rfl, regular, trivial⟩
    | ok able =>
        cases able with
        | false => exact ⟨rfl, regular, trivial⟩
        | true =>
            have waiting : (world.hosts host).state = .waiting := by
              by_contra other
              simp [triggerReady, other] at ready
            have held := triggered world regular waiting
            exact ⟨held.1, held.2, trivial⟩

theorem notifyActivate_advances : (notifyActivate env host).Within (advances env) := by
  unfold notifyActivate
  refine Exec.within_bind (Exec.within_read _) fun _ => ?_
  exact Exec.within_bind (Exec.within_when (within_advances (publishResult_stays _ _))) fun _ =>
    Exec.within_pure _

/-- A host between two tests. -/
structure Between (host : HostId) (world : World) : Prop where
  state : (world.hosts host).state = .next
  follows : (world.hosts host).At none

theorem Between.of_course {before after : World} (between : Between host before)
    (core : after.core = before.core)
    (course : (after.hosts host).course = (before.hosts host).course) : Between host after where
  state := (congrArg Host.Course.state course :).trans between.state
  follows := between.follows.of_course course (host_enabledTests core host)

/-- A test that was taken and may be run now. -/
structure Runnable (host : HostId) (test : String) (world : World) : Prop where
  enabled : test ∈ (world.hosts host).enabledTests
  state : (world.hosts host).state = .next
  follows : (world.hosts host).At (some test)

theorem Runnable.of_course {before after : World} {test : String}
    (runnable : Runnable host test before) (core : after.core = before.core)
    (course : (after.hosts host).course =
      { (before.hosts host).course with testName := (after.hosts host).testName }) :
    Runnable host test after where
  enabled := host_enabledTests core host ▸ runnable.enabled
  state := (congrArg Host.Course.state course :).trans runnable.state
  follows := by
    have renamed : ({ before.hosts host with testName := (after.hosts host).testName } : Host).At
        (some test) := runnable.follows
    exact renamed.of_course course (host_enabledTests core host)

theorem Host.course_eq {entry other : Host} (course : other.course = entry.course) :
    other.course = { entry.course with testName := other.testName } := by
  have name : other.testName = entry.testName := congrArg Host.Course.testName course
  rw [course, name]
  rfl

theorem within_runnable {α : Type} {program : Run α} {test : String}
    (within : program.Within (stays env host)) :
    program.Within (holding env (Runnable host test)) :=
  within_holding within fun _ _ runnable core course =>
    runnable.of_course core (Host.course_eq course)

/-- The runnable test is the host's current one. -/
def Chosen (host : HostId) (test : String) (world : World) : Prop :=
  Runnable host test world ∧ (world.hosts host).testName = some test

theorem within_chosen {α : Type} {program : Run α} {test : String}
    (within : program.Within (stays env host)) :
    program.Within (holding env (Chosen host test)) :=
  within_holding within fun _ _ chosen core course =>
    ⟨chosen.1.of_course core (Host.course_eq course),
      (congrArg Host.Course.testName course :).trans chosen.2⟩

theorem startTest_advances (test : String) :
    AdvancesFrom env (Runnable host test) (startTest env host test) := by
  have choose : ∀ world : World, world.Regular env → Runnable host test world →
      (Exec.modify fun world => world.setHost host fun entry =>
        { entry with testName := some test } : Run Unit).Holds world (fun outcome reached =>
          reached.core = world.core ∧ reached.Regular env ∧
            ∀ value, outcome = .ok value → Chosen host test reached) := by
    intro world regular runnable
    have core : (world.setHost host fun entry => { entry with testName := some test }).core =
        world.core := setHost_core rfl
    have named : ((world.setHost host fun entry =>
        { entry with testName := some test }).hosts host).testName = some test := by
      simp [setHost_hosts]
    rw [Exec.holds_modify]
    refine ⟨core, regular.setHost ((regular host).renamed _ (.inr ⟨?_, ?_⟩)), fun _ _ => ?_⟩
    · exact runnable.state ▸ by decide
    · exact (regular host).report_ne_none (runnable.state ▸ by decide)
    · refine ⟨runnable.of_course core ?_, named⟩
      rw [named, setHost_hosts, if_pos rfl]
      rfl
  have record : (recordResult env host (some test) {}).Within (holding env (Chosen host test)) := by
    rintro world regular ⟨runnable, named⟩
    have held := @recordResult_holds env host world (some test) {} regular nofun (.inl named)
    have name : (((recordResult env host (some test) {}).run world).2.hosts host).testName =
        some test := (congrArg Host.Course.testName held.2.2 :)
    refine ⟨held.1, held.2.1, runnable.of_course held.1 ?_, name⟩
    rw [name]
    exact held.2.2
  have begin : AdvancesFrom env (Chosen host test) (do
      monitorScan env host none
      stateTransition host .testing (some .next)) := by
    rintro world regular ⟨runnable, named⟩
    have alive := (regular host).report_ne_none (runnable.state ▸ by decide)
    refine (monitorScan_holds none regular alive (fun _ => by decide)).bind ?_ ?_
    · rintro raised reached ⟨core, regular, _⟩
      exact ⟨core, regular⟩
    · rintro _ reached ⟨core, regular, course, scan⟩
      have still := runnable.of_course core (Host.course_eq course)
      have name : (reached.hosts host).testName = some test :=
        (congrArg Host.Course.testName course :).trans named
      refine (stateTransition_holds host (some .next) regular (by decide) fun _ _ => ?_).mono ?_
      · exact (regular host).tested ⟨still.enabled, name⟩ still.state still.follows
          fun monitor present => scan rfl monitor present ▸ by decide
      · rintro outcome final ⟨next, regular, _⟩
        exact ⟨next.trans core, regular⟩
  unfold startTest
  refine .step choose fun _ => ?_
  refine .bind (within_chosen (callOut_stays _)) fun _ => ?_
  refine .bind (within_chosen (publishResult_stays _ _)) fun _ => ?_
  exact .bind record fun _ => begin

theorem allocateTestPort_stays (gateway : GatewayId) :
    (allocateTestPort gateway).Within (stays env host) := by
  unfold allocateTestPort
  refine Exec.within_bind (Exec.within_read _) fun _ => ?_
  refine Exec.within_bind (Exec.within_require _) fun _ => ?_
  exact Exec.within_bind (setGateway_stays fun _ _ => rfl) fun _ => Exec.within_pure _

theorem releaseTestPort_stays (gateway : GatewayId) (testPort : Option Nat) :
    (releaseTestPort gateway testPort).Within (stays env host) := by
  unfold releaseTestPort
  refine Exec.within_bind (Exec.within_read _) fun _ => ?_
  cases testPort with
  | none => exact Exec.within_raise _
  | some port =>
      exact Exec.within_bind (Exec.within_require _) fun _ => setGateway_stays fun _ _ => rfl

theorem releaseTestPort_advances (gateway : GatewayId) (testPort : Option Nat) :
    (releaseTestPort gateway testPort).Within (advances env) :=
  within_advances (@releaseTestPort_stays env 0 gateway testPort)

theorem getModuleParams_within {frame : Frame World} : (getModuleParams host).Within frame :=
  Exec.within_bind Exec.within_get fun _ => Exec.within_require _

theorem runTest_advances (test : String) :
    AdvancesFrom env (Runnable host test) (runTest env host test) := by
  unfold runTest
  refine .bind (within_runnable (setHost_stays (fun _ _ => rfl) (fun _ _ => rfl))) fun _ => ?_
  refine .bind (within_runnable (callOut_stays _)) fun _ => ?_
  refine .bind (within_runnable (setHost_stays (fun _ _ => rfl) (fun _ _ => rfl))) fun _ => ?_
  refine .bind (Exec.within_read _) fun gateway => ?_
  refine .bind (within_runnable (Exec.within_attempt
    (Exec.within_bind (allocateTestPort_stays gateway) fun _ =>
      setHost_stays (fun _ _ => rfl) (fun _ _ => rfl)) fun _ =>
    Exec.within_bind (setHost_stays (fun _ _ => rfl) (fun _ _ => rfl)) fun _ =>
      Exec.within_raise _)) fun _ => ?_
  refine .attempt (.bind_advances (startTest_advances test) fun _ =>
    Exec.within_bind getModuleParams_within fun _ => callOut_advances _) fun raised => ?_
  refine Exec.within_bind (within_advances (setHost_stays (fun _ _ => rfl) (fun _ _ => rfl)))
    fun _ => ?_
  refine Exec.within_bind (Exec.within_read _) fun testPort => ?_
  refine Exec.within_bind (releaseTestPort_advances gateway testPort) fun _ => ?_
  refine Exec.within_bind (within_advances (setHost_stays (fun _ _ => rfl) (fun _ _ => rfl)))
    fun _ => ?_
  exact Exec.within_bind (within_advances (monitorCleanup_stays _)) fun _ => Exec.within_raise _

theorem finishRun_advances :
    AdvancesFrom env (fun world => Between host world ∧ (world.hosts host).remainingTests = [])
      (finishRun env host) := by
  have move : ∀ {world : World} {target : HostState}, target = .done ∨ target = .hold →
      world.Regular env → Between host world ∧ (world.hosts host).remainingTests = [] →
      (stateTransition host target (some .next)).Holds world (fun outcome reached =>
        reached.core = world.core ∧ reached.Regular env ∧
          ∀ value, outcome = .ok value → (reached.hosts host).state = target) := by
    intro world target final regular ⟨between, empty⟩
    have finished : ((world.hosts host).movedTo target).Regular env := by
      refine (regular host).moved ?_ ?_ (fun _ => ⟨between.follows, empty⟩) ?_
      · rcases final with rfl | rfl <;> decide
      · rw [between.state]
        rcases final with rfl | rfl <;> rfl
      · rcases final with rfl | rfl <;> nofun
    refine (stateTransition_holds host (some .next) regular ?_ fun _ _ => finished).mono ?_
    · rcases final with rfl | rfl <;> decide
    · rintro outcome reached ⟨core, regular, returned⟩
      refine ⟨core, regular, fun _ done => ?_⟩
      exact (congrArg Host.Course.state (returned done).2 :)
  unfold finishRun
  split
  · intro world regular idle
    exact (move (.inr rfl) regular idle).mono fun _ _ done => ⟨done.1, done.2.1⟩
  · have kept : (Exec.modify fun world => world.setHost host fun entry =>
        { entry with timeoutHandler := some .aux } : Run Unit).Within (holding env fun world =>
          Between host world ∧ (world.hosts host).remainingTests = []) :=
      within_holding (setHost_stays (fun _ _ => rfl) fun _ _ => rfl)
        fun _ _ idle core course => ⟨idle.1.of_course core course,
          (congrArg Host.Course.remainingTests course :).trans idle.2⟩
    refine .bind kept fun _ => .step (fun world regular idle => move (.inl rfl) regular idle)
      fun _ => ?_
    intro world regular done
    have recorded := @recordResult_during env host .done (some "finish") {} rfl (by decide)
      (by decide) world regular done
    exact ⟨recorded.1, recorded.2.1⟩

theorem runRemaining_holds (regular : world.Regular env) (between : Between host world) :
    (runRemaining env host (world.hosts host).remainingTests).Holds world
      (fun _ reached => reached.core = world.core ∧ reached.Regular env) := by
  cases tests : (world.hosts host).remainingTests with
  | nil => exact finishRun_advances world regular ⟨between, tests⟩
  | cons test rest =>
      unfold runRemaining
      have core : (world.setHost host fun entry =>
          { entry with remainingTests := rest, life := entry.life ++ [.taken test] }).core =
          world.core := setHost_core rfl
      have fewer : (world.setHost host fun entry =>
          { entry with remainingTests := rest, life := entry.life ++ [.taken test] }).Regular
            env :=
        regular.setHost ((regular host).took between.state between.follows tests)
      have runnable : Runnable host test (world.setHost host fun entry =>
          { entry with remainingTests := rest, life := entry.life ++ [.taken test] }) := by
        refine ⟨?_, ?_, ?_⟩
        · rw [host_enabledTests core]
          exact (regular host).remaining test (tests ▸ .head _)
        · rw [setHost_hosts, if_pos rfl]
          exact between.state
        · rw [setHost_hosts, if_pos rfl]
          exact between.follows.took between.state tests
      rw [Exec.holds_bind, Exec.holds_modify, Exec.then_ok]
      refine (runTest_advances test _ fewer runnable).mono ?_
      rintro outcome reached ⟨next, regular⟩
      exact ⟨next.trans core, regular⟩

/-- A test that has just ended, with the current test name still its own. -/
structure Ending (host : HostId) (test : String) (world : World) : Prop where
  state : (world.hosts host).state = .next
  named : (world.hosts host).testName = some test
  enabled : test ∈ (world.hosts host).enabledTests
  follows : (world.hosts host).At (some test)

theorem Ending.of_course {before after : World} {test : String} (ending : Ending host test before)
    (core : after.core = before.core)
    (course : (after.hosts host).course = (before.hosts host).course) :
    Ending host test after where
  state := (congrArg Host.Course.state course :).trans ending.state
  named := (congrArg Host.Course.testName course :).trans ending.named
  enabled := host_enabledTests core host ▸ ending.enabled
  follows := ending.follows.of_course course (host_enabledTests core host)

theorem accumulateFiles_ending (test : String) :
    (accumulateFiles env host).Within (holding env (Ending host test)) := by
  intro world regular ending
  unfold accumulateFiles
  rw [Exec.get_bind_run]
  cases file : env.reportFile world host with
  | none => exact ⟨rfl, regular, ending⟩
  | some lines =>
      have filed := @accumulate_holds env host world ((world.hosts host).testName.getD "")
        (fun item => { item with reportLines := some lines }) regular
        (fun _ _ given => .inl given) ?_
      · have composed : (do
            accumulate host ((world.hosts host).testName.getD "") fun item =>
              { item with reportLines := some lines }
            callOut env (.uploadFile host) : Run Unit).Holds world (fun _ reached =>
              reached.core = world.core ∧ reached.Regular env ∧ Ending host test reached) := by
          refine filed.bind ?_ ?_
          · rintro raised reached ⟨core, regular, course⟩
            exact ⟨core, regular, ending.of_course core course⟩
          · rintro _ reached ⟨core, regular, course⟩
            refine (callOut_ticks env _ _).mono ?_
            rintro outcome final rfl
            have still := ending.of_course core course
            exact ⟨core, regular, still.state, still.named, still.enabled, still.follows⟩
        exact composed
      · intro owner owns item given equality
        cases equality
        exact .inr (owns world host lines file)

theorem closeTest_between (returnCode : Option Int) (exception : Option Exc) :
    AdvancesTo env (fun _ => True) (Between host) (closeTest env host returnCode exception) := by
  have record : ∀ test, AdvancesTo env (Ending host test) (Between host) (do
      Exec.modify fun world => world.setHost host fun entry => { entry with
        endedTests := entry.endedTests ++ [(entry.testName.getD "", returnCode)]
        life := entry.life ++ [.ended (entry.testName.getD "")] }
      recordResult env host (some test) { code := some returnCode, exception := exception }
      Exec.modify fun world => world.setHost host fun entry =>
        { entry with testName := none, testHost := none, timeoutHandler := none }) := by
    intro test world regular ending
    rw [Exec.holds_bind, Exec.holds_modify, Exec.then_ok]
    have core : (world.setHost host fun entry => { entry with
        endedTests := entry.endedTests ++ [(entry.testName.getD "", returnCode)]
        life := entry.life ++ [.ended (entry.testName.getD "")] }).core = world.core :=
      setHost_core rfl
    have name : (world.hosts host).testName.getD "" = test := by rw [ending.named]; rfl
    have longer : (world.setHost host fun entry => { entry with
        endedTests := entry.endedTests ++ [(entry.testName.getD "", returnCode)]
        life := entry.life ++ [.ended (entry.testName.getD "")] }).Regular env := by
      refine regular.setHost ?_
      rw [name]
      exact (regular host).shut ending.state ending.follows returnCode
    have closed : ((world.setHost host fun entry => { entry with
        endedTests := entry.endedTests ++ [(entry.testName.getD "", returnCode)]
        life := entry.life ++ [.ended (entry.testName.getD "")] }).hosts host).At none := by
      rw [setHost_hosts, if_pos rfl, name]
      exact ending.follows.closed ending.state returnCode
    have recorded := @recordResult_holds env host _ (some test)
      { code := some returnCode, exception := exception } longer ?_ (.inl ?_)
    · refine recorded.bind ?_ ?_
      · rintro raised reached ⟨next, regular, _⟩
        exact ⟨next.trans core, regular, nofun⟩
      · rintro _ reached ⟨next, regular, course⟩
        rw [Exec.holds_modify]
        have idle : (reached.hosts host).state = .next := by
          rw [show (reached.hosts host).state = _ from (congrArg Host.Course.state course :)]
          simp only [setHost_hosts, if_pos, Host.course]
          exact ending.state
        have alive := (regular host).report_ne_none (idle ▸ by decide)
        have unnamed := (regular host).renamed none (.inr ⟨idle ▸ by decide, alive⟩)
        refine ⟨(setHost_core rfl).trans (next.trans core),
          regular.setHost (unnamed.of_stage rfl), fun _ _ => ?_⟩
        have renamed : ({ (world.setHost host fun entry => { entry with
            endedTests := entry.endedTests ++ [(entry.testName.getD "", returnCode)]
            life := entry.life ++ [.ended (entry.testName.getD "")] }).hosts host with
              testName := some test } : Host).At none := closed
        have follows : (reached.hosts host).At none :=
          renamed.of_course course (host_enabledTests next host)
        constructor
        · rw [setHost_hosts, if_pos rfl]
          exact idle
        · rw [setHost_hosts, if_pos rfl]
          exact follows
    · intro code given
      have same : returnCode = some code := Option.some.inj given
      simp [setHost_hosts, ending.named, ending.enabled, same]
    · simp [setHost_hosts, ending.named]
  unfold closeTest
  refine .step (.of_holding (within_holding (monitorCleanup_stays true) fun _ _ _ _ _ => trivial))
    fun _ => ?_
  refine @AdvancesTo.step env _ (fun world => ∃ test, Ending host test world) _ _ _ _ _
    (fun world regular _ => ?_) fun _ => ?_
  · refine (stateTransition_leads host regular (by decide)).mono ?_
    rintro outcome reached ⟨core, regular', returned⟩
    refine ⟨core, regular', fun _ done => ?_⟩
    obtain ⟨expected, course⟩ := returned done
    have testing : (world.hosts host).state = .testing :=
      (Option.some.inj (expected.resolve_left nofun)).symm
    obtain ⟨test, enabled, name⟩ := (regular host).testing testing
    obtain ⟨current, follows, named⟩ := (regular host).lived
    have current : current = some test := (named testing).symm.trans name
    have moved : ((world.hosts host).movedTo .next).At (some test) :=
      (current ▸ follows).moved (testing ▸ rfl) nofun nofun
    exact ⟨test, (congrArg Host.Course.state course :),
      (congrArg Host.Course.testName course :).trans name, host_enabledTests core host ▸ enabled,
      moved.of_course course (host_enabledTests core host)⟩
  · rintro world regular ⟨test, ending⟩
    refine AdvancesTo.step (.of_holding (accumulateFiles_ending test)) (fun _ => ?_) world regular
      ending
    intro world regular ending
    rw [Exec.holds_bind, Exec.holds_read, Exec.then_ok, ending.named]
    exact record test world regular ending

theorem startWaiting_advances : (startWaiting env host).Within (advances env) := by
  unfold startWaiting
  refine transition_then (by decide) ?_
  exact Exec.within_bind (recordResult_during _ rfl (by decide) (by decide)) fun _ =>
    recordResult_during _ rfl (by decide) (by decide)

theorem pingTest_stays : (pingTest env host).Within (stays env host) :=
  Exec.within_bind (callOut_stays _) fun _ => Exec.within_read _

/-- A step of the base tests: it stays regular and at the stage, whether it
returns or not. -/
def Bases (env : Env) (host : HostId) (property post : World → Prop) {α : Type}
    (program : Run α) : Prop :=
  ∀ world, world.Regular env → (world.hosts host).state = .base → property world →
    program.Holds world (fun outcome reached => reached.core = world.core ∧
      reached.Regular env ∧ (reached.hosts host).state = .base ∧
      ∀ value, outcome = .ok value → post reached)

namespace Bases

variable {property middle post : World → Prop} {α β : Type}

theorem step {first : Run α} {next : α → Run β} (head : Bases env host property middle first)
    (tail : ∀ value, Bases env host middle post (next value)) :
    Bases env host property post (first >>= next) := by
  intro world regular base holds
  refine (head world regular base holds).bind ?_ ?_
  · rintro raised reached ⟨core, regular, base, _⟩
    exact ⟨core, regular, base, nofun⟩
  · rintro value reached ⟨core, regular, base, returned⟩
    refine (tail value reached regular base (returned value rfl)).mono ?_
    rintro outcome final ⟨next, regular, base, returned⟩
    exact ⟨next.trans core, regular, base, returned⟩

theorem attempt {body : Run α} {handler : Exc → Run α} (inner : Bases env host property post body)
    (outer : ∀ raised, Bases env host (fun _ => True) (fun _ => False) (handler raised)) :
    Bases env host property post (Exec.attempt body handler) := by
  intro world regular base holds
  refine (inner world regular base holds).attempt ?_ ?_
  · rintro value reached ⟨core, regular, base, returned⟩
    exact ⟨core, regular, base, fun _ _ => returned value rfl⟩
  · rintro raised reached ⟨core, regular, base, _⟩
    refine (outer raised reached regular base trivial).mono ?_
    rintro outcome final ⟨next, regular, base, never⟩
    exact ⟨next.trans core, regular, base, fun value done => (never value done).elim⟩

theorem recordResult {pings : List Bool} (name : Option String) {record : Record}
    (uncoded : record.code = none) :
    Bases env host (fun world => (world.hosts host).pings = pings)
      (fun world => (world.hosts host).pings = pings) (recordResult env host name record) := by
  intro world regular base same
  have held := @recordResult_holds env host world name record regular (by simp [uncoded])
    (.inr ⟨base ▸ by decide, (regular host).report_ne_none (base ▸ by decide)⟩)
  refine held.mono ?_
  rintro outcome reached ⟨core, regular, course⟩
  exact ⟨core, regular, (congrArg Host.Course.state course :).trans base,
    fun _ _ => (congrArg Host.Course.pings course :).trans same⟩

theorem of_stays {program : Run α} (within : program.Within (stays env host)) {pings : List Bool} :
    Bases env host (fun world => (world.hosts host).pings = pings)
      (fun world => (world.hosts host).pings = pings) program := by
  intro world regular base same
  obtain ⟨core, regular, course⟩ := within world regular
  exact ⟨core, regular, (congrArg Host.Course.state course :).trans base,
    fun _ _ => (congrArg Host.Course.pings course :).trans same⟩

end Bases

/-- A ping with this answer that was made after others. -/
def Ponged (env : Env) (host : HostId) (pings : List Bool) (answer : Bool) : Prop :=
  ∃ world, (world.hosts host).pings = pings ∧ env.fault world (.ping host) = none ∧
    answer = env.pingTest world.ticked host

theorem basePing_bases (pings : List Bool) :
    Bases env host (fun world => (world.hosts host).pings = pings)
      (fun world => ∃ answer, (world.hosts host).pings = pings ++ [answer] ∧
        Ponged env host pings answer) (basePing env host) := by
  intro world regular base same
  unfold basePing
  have pinged : (pingTest env host).Holds world (fun outcome reached =>
      (stays env host).rel world reached ∧
        ∀ answer, outcome = .ok answer → Ponged env host pings answer) := by
    refine (pingTest_stays.holds world).and ?_
    unfold pingTest
    rw [Exec.holds_bind, holds_callOut]
    refine ⟨fun returns => ?_, fun _ _ => nofun⟩
    rw [Exec.then_ok, Exec.holds_read]
    exact fun _ done => ⟨world, same, returns, (Except.ok.inj done).symm⟩
  refine pinged.bind ?_ ?_
  · rintro raised reached ⟨kept, _⟩
    obtain ⟨core, regular, course⟩ := kept regular
    exact ⟨core, regular, (congrArg Host.Course.state course :).trans base, nofun⟩
  · rintro answer reached ⟨kept, ponged⟩
    obtain ⟨core, regular, course⟩ := kept regular
    have still : (reached.hosts host).state = .base :=
      (congrArg Host.Course.state course :).trans base
    have before : (reached.hosts host).pings = pings :=
      (congrArg Host.Course.pings course :).trans same
    rw [Exec.holds_bind, Exec.holds_modify, Exec.then_ok, Exec.holds_pure]
    refine ⟨(setHost_core rfl).trans core,
      regular.setHost ((regular host).pinged still _), ?_,
      fun _ _ => ⟨answer, ?_, ponged answer rfl⟩⟩
    · rw [setHost_hosts, if_pos rfl]
      exact still
    · rw [setHost_hosts, if_pos rfl, ← before]

/-- Base tests that return have got all their answers. -/
theorem baseTests_bases :
    Bases env host (fun _ => True) (fun world => (world.hosts host).Gated env)
      (baseTests env host) := by
  have forgets : Bases env host (fun _ => True) (fun world => (world.hosts host).pings = [])
      (Exec.modify fun world => world.setHost host fun entry => { entry with pings := [] }) := by
    intro world regular base _
    rw [Exec.holds_modify]
    refine ⟨setHost_core rfl, regular.setHost ((regular host).pinged base _), ?_, fun _ _ => ?_⟩
    · rw [setHost_hosts, if_pos rfl]
      exact base
    · simp only [setHost_hosts, ↓reduceIte]
  have two : ∀ warmUp, Bases env host (fun world => (world.hosts host).pings = [warmUp])
      (fun world => (world.hosts host).Gated env) (do
        let _ ← basePing env host
        let _ ← basePing env host
        pure ()) := by
    intro warmUp
    refine .step (basePing_bases _) fun _ => ?_
    rintro world regular base ⟨simple, pings, first, warmed, _, rfl⟩
    refine Bases.step (basePing_bases [warmUp, env.pingTest first.ticked host]) (fun _ => ?_)
      world regular base pings
    rintro world regular base ⟨target, pings, second, pinged, returns, rfl⟩
    exact ⟨rfl, regular, base, fun _ _ => ⟨warmUp, _, _, pings,
      fun answers => answers host warmUp first.ticked second warmed pinged returns⟩⟩
  have fails : ∀ raised, Bases env host (fun _ => True) (fun _ => False) (do
      recordResult env host (some "base") { exception := some raised }
      monitorCleanup env host true
      Exec.raise raised : Run Unit) := by
    intro raised world regular base _
    refine Bases.step (.recordResult _ rfl) (fun _ => .step (.of_stays (monitorCleanup_stays _))
      fun _ => ?_) world regular base rfl
    intro world regular base _
    exact ⟨rfl, regular, base, nofun⟩
  have ends : Bases env host (fun world => (world.hosts host).Gated env)
      (fun world => (world.hosts host).Gated env) (recordResult env host (some "base") {}) := by
    rintro world regular base ⟨warmUp, simple, target, pings, answered⟩
    refine (Bases.recordResult _ rfl world regular base pings).mono ?_
    rintro outcome reached ⟨core, regular, base, returned⟩
    exact ⟨core, regular, base, fun value done =>
      ⟨warmUp, simple, target, returned value done, answered⟩⟩
  unfold baseTests
  refine .step forgets fun _ => .step (.recordResult _ rfl) fun _ => ?_
  refine .step (basePing_bases []) fun _ => ?_
  rintro world regular base ⟨warmUp, pings, _⟩
  exact Bases.step (.attempt (two warmUp) fails) (fun _ => ends) world regular base pings

/-- Only base tests with all their answers lead to the scan after them. -/
theorem stateTransition_monitor :
    AdvancesTo env (fun world => (world.hosts host).Gated env)
      (fun world => (world.hosts host).state = .monitor)
      (stateTransition host .monitor (some .base)) := by
  intro world regular gated
  refine (stateTransition_holds host (some .base) regular (by decide) fun expected _ => ?_).mono ?_
  · have base : .base = (world.hosts host).state :=
      Option.some.inj (expected.resolve_left nofun)
    exact (regular host).moved (by decide) (base ▸ rfl) nofun fun _ => gated
  · rintro outcome reached ⟨core, regular, returned⟩
    exact ⟨core, regular, fun _ done => (congrArg Host.Course.state (returned done).2 :)⟩

/-- A host that leaves the scan has not taken any test. -/
theorem leaveMonitor_between :
    AdvancesTo env (fun _ => True) (Between host) (do
      stateTransition host .next (some .monitor)
      Exec.modify fun world => world.setHost host fun entry => { entry with testName := none }) := by
  refine @AdvancesTo.step env _ (Between host) _ _ _ _ _ (fun world regular _ => ?_) fun _ => ?_
  · refine (stateTransition_leads host regular (by decide)).mono ?_
    rintro outcome reached ⟨core, regular', returned⟩
    refine ⟨core, regular', fun _ done => ?_⟩
    obtain ⟨expected, course⟩ := returned done
    have monitor : (world.hosts host).state = .monitor :=
      (Option.some.inj (expected.resolve_left nofun)).symm
    obtain ⟨current, follows, _⟩ := (regular host).lived
    have free : current = none := (follows.early (monitor ▸ by decide)).1
    have moved : ((world.hosts host).movedTo .next).At none :=
      (free ▸ follows).moved (monitor ▸ rfl) nofun nofun
    exact ⟨(congrArg Host.Course.state course :),
      moved.of_course course (host_enabledTests core host)⟩
  · intro world regular between
    rw [Exec.holds_modify]
    have alive := (regular host).report_ne_none (between.state ▸ by decide)
    refine ⟨setHost_core rfl, regular.setHost ((regular host).renamed none
      (.inr ⟨between.state ▸ by decide, alive⟩)), fun _ _ => ?_⟩
    constructor
    · rw [setHost_hosts, if_pos rfl]
      exact between.state
    · rw [setHost_hosts, if_pos rfl]
      exact between.follows

theorem controlUpdated_advances (paused : Bool) :
    (controlUpdated env host paused).Within (advances env) :=
  Exec.within_bind (Exec.within_read _) fun _ => Exec.within_when startRun_advances

theorem reloadConfig_advances : (reloadConfig env host).Within (advances env) := by
  unfold reloadConfig
  refine Exec.within_bind (within_advances (setHost_stays ?_ ?_)) fun _ =>
    within_advances (publishResult_stays _ _)
  · exact fun _ _ => rfl
  · exact fun _ _ => rfl

/-- The end of a capture's stream and the cleanup that always follows. -/
theorem hangup_holds {monitor : Monitor} (regular : world.Regular env)
    (current : (world.hosts host).monitorRef = some monitor) :
    (monitorCleanup env host false).Holds
      (world.setHost host fun entry =>
        { entry with monitorRef := some { monitor with active := false } })
      (fun _ reached => reached.core = world.core ∧ reached.Regular env ∧
        (reached.hosts host).state = (world.hosts host).state) := by
  have core : (world.setHost host fun entry =>
      { entry with monitorRef := some { monitor with active := false } }).core = world.core :=
    setHost_core rfl
  by_cases closes : env.ClosesCaptures
  · -- nothing of the ended capture is left
    have returns := closes (world.setHost host fun entry =>
      { entry with monitorRef := some { monitor with active := false } }) host
      { monitor with active := false } (by simp [setHost_hosts]) rfl
    unfold monitorCleanup
    rw [Exec.holds_bind, Exec.holds_read, Exec.then_ok]
    simp only [setHost_hosts, ↓reduceIte]
    unfold Exec.whenSome
    rw [Exec.holds_bind, Exec.holds_require]
    refine ⟨fun _ => ?_, fun mismatch => absurd rfl mismatch⟩
    rw [Exec.then_ok, Exec.holds_bind, holds_callOut_of_returns returns, Exec.then_ok,
      Exec.holds_bind, Exec.holds_when]
    refine ⟨nofun, fun _ => ?_⟩
    rw [Exec.then_ok, Exec.holds_modify]
    refine ⟨(setHost_core rfl).trans core, ?_, by simp [World.ticked, setHost_hosts]⟩
    intro other
    simp only [World.ticked, setHost_hosts]
    split
    · exact (regular host).uncaptured
    · exact regular other
  · have ended : (world.setHost host fun entry =>
        { entry with monitorRef := some { monitor with active := false } }).Regular env :=
      regular.setHost { (regular host) with
        scanning := fun testing other present => by
          cases present
          exact (regular host).scanning testing monitor current
        closed := fun absent => absurd current (by simp [((regular host).closed absent).2.2])
        capturing := fun always => absurd always closes }
    obtain ⟨next, regular, course⟩ := @monitorCleanup_stays env host false _ ended
    have state := (congrArg Host.Course.state course :)
    exact ⟨next.trans core, regular, state.trans (by simp [setHost_hosts, Host.course])⟩

end Tests

section Activation

variable {host : HostId} {device : DeviceId} {gateway : GatewayId}

theorem gatewayActivate_advances : (gatewayActivate env gateway).Within (advances env) :=
  Exec.within_bind (setGateway_advances fun _ _ => rfl) fun _ => callOut_advances _

theorem shouldActivateTarget_advances :
    (shouldActivateTarget env device).Within (advances env) := by
  unfold shouldActivateTarget
  refine Exec.within_bind Exec.within_get fun world => ?_
  split
  · exact Exec.within_pure _
  · exact Exec.within_raise _
  · refine Exec.within_ite (Exec.within_pure _) ?_
    refine Exec.within_bind notifyActivate_advances fun _ => ?_
    refine Exec.within_ite ?_ (Exec.within_pure _)
    refine Exec.within_bind (Exec.within_bind (setGateway_advances fun _ _ => rfl) fun _ =>
      Exec.within_read _) fun _ => ?_
    refine Exec.within_ite (Exec.within_pure _) ?_
    refine Exec.within_bind (Exec.within_read _) fun _ => ?_
    refine Exec.within_bind (check_within _) fun _ => ?_
    exact Exec.within_ite (Exec.within_pure _) (Exec.within_pure _)

theorem activateGateway_advances (ready : List DeviceId) :
    (activateGateway env gateway ready).Within (advances env) := by
  unfold activateGateway
  refine Exec.within_bind gatewayActivate_advances fun _ => ?_
  refine Exec.within_bind Exec.within_get fun _ => Exec.within_forEach (fun member => ?_) _
  refine Exec.within_bind (Exec.within_read _) fun entry => ?_
  split
  · exact Exec.within_raise _
  · exact Exec.within_bind (triggerHost_advances _) fun _ => Exec.within_require _

theorem checkAndActivateGateway_advances :
    (checkAndActivateGateway env device).Within (advances env) := by
  unfold checkAndActivateGateway
  refine Exec.within_bind (Exec.within_read _) fun entry => ?_
  refine Exec.within_ite ?_ (Exec.within_pure _)
  refine Exec.within_bind shouldActivateTarget_advances fun readiness => ?_
  split
  · exact Exec.within_pure _
  · exact Exec.within_pure _
  · exact Exec.within_pure _
  · exact Exec.within_bind (triggerHost_advances _) fun _ => Exec.within_pure _
  · exact activateGateway_advances _

theorem dhcpReadyListener_advances : (dhcpReadyListener env device).Within (advances env) :=
  Exec.within_bind (setDevice_advances fun _ _ => rfl) fun _ => checkAndActivateGateway_advances

end Activation

end Daq
