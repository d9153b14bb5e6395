import Daq.Host.Termination
import Daq.Lib.Reach

namespace Daq

variable {env : Env}

/-! The test ports of a gateway.  A port is taken when a test starts, and given
back when the start fails or the module calls back; the hosts of a group share
the ports of their gateway. -/

section Search

variable {taken : Finset Nat}

theorem le_testPortFrom (fuel candidate : Nat) :
    candidate ≤ testPortFrom taken fuel candidate := by
  induction fuel generalizing candidate with
  | zero => exact le_refl _
  | succ fuel inductive_hypothesis =>
      unfold testPortFrom
      split
      · exact (Nat.le_succ _).trans (inductive_hypothesis _)
      · exact le_refl _

theorem mem_of_lt_testPortFrom {fuel candidate port : Nat} (above : candidate ≤ port)
    (passed : port < testPortFrom taken fuel candidate) : port ∈ taken := by
  induction fuel generalizing candidate with
  | zero => exact absurd passed (Nat.not_lt.mpr above)
  | succ fuel inductive_hypothesis =>
      unfold testPortFrom at passed
      split at passed
      · rename_i used
        rcases Nat.eq_or_lt_of_le above with rfl | later
        · exact used
        · exact inductive_hypothesis later passed
      · exact absurd passed (Nat.not_lt.mpr above)

theorem testPortFrom_not_mem {fuel candidate : Nat}
    (enough : (taken.filter (candidate ≤ ·)).card ≤ fuel) :
    testPortFrom taken fuel candidate ∉ taken := by
  induction fuel generalizing candidate with
  | zero =>
      have empty := Finset.card_eq_zero.mp (Nat.le_zero.mp enough)
      intro used
      have found : candidate ∈ taken.filter (candidate ≤ ·) :=
        Finset.mem_filter.mpr ⟨used, le_refl _⟩
      rw [empty] at found
      exact absurd found (Finset.notMem_empty _)
  | succ fuel inductive_hypothesis =>
      unfold testPortFrom
      split
      · rename_i used
        refine inductive_hypothesis ?_
        have fewer : taken.filter (candidate + 1 ≤ ·) ⊂ taken.filter (candidate ≤ ·) := by
          refine (Finset.ssubset_iff_of_subset ?_).mpr ⟨candidate, ?_, ?_⟩
          · intro port inside
            obtain ⟨used, above⟩ := Finset.mem_filter.mp inside
            exact Finset.mem_filter.mpr ⟨used, (Nat.le_succ _).trans above⟩
          · exact Finset.mem_filter.mpr ⟨used, le_refl _⟩
          · intro inside
            exact absurd (Finset.mem_filter.mp inside).2 (Nat.not_succ_le_self _)
        exact Nat.le_of_lt_succ ((Finset.card_lt_card fewer).trans_le enough)
      · assumption

end Search

/-! The parts of the source that take and give back ports, each as one action.
The runner's reaction to a start that fails is the termination of the host. -/

/-- `_module_callback` up to the point where the next test is chosen. -/
def callBack (env : Env) (host : HostId) (returnCode : Option Int) (exception : Option Exc) :
    Run Unit := do
  let entry ← Exec.read fun world => world.hosts host
  releaseTestPort entry.gateway entry.testPort
  Exec.require entry.testHost.isSome
    (.assertionError "_module_callback with no test_host defined")
  closeTest env host returnCode exception

theorem moduleCallback_eq (drain : Run Unit) (host : HostId) (returnCode : Option Int)
    (exception : Option Exc) :
    moduleCallback env drain host returnCode exception =
      callBack env host returnCode exception >>= fun _ => runNextTest env drain host := by
  unfold moduleCallback callBack endTest
  simp only [Exec.bind_assoc]

/-- `_run_next_test` without the report of an error to the runner. -/
def startNext (env : Env) (host : HostId) : Run Unit := do
  let entry ← Exec.read fun world => world.hosts host
  Exec.require (¬ NonEmpty entry.testName)
    (.assertionError ("test_name defined: " ++ entry.testName.getD ""))
  Exec.attempt (runRemaining env host entry.remainingTests) fun raised => do
    stateTransition host .error none
    Exec.raise raised

/-- `_main_module_timeout_handler` up to the point where the next test is
chosen. -/
def timeOut (env : Env) (host : HostId) : Run Unit := do
  let entry ← Exec.read fun world => world.hosts host
  Exec.require entry.testHost.isSome
    (.attributeError "'NoneType' object has no attribute 'terminate'")
  callOut env (.moduleTerminate host)
  callBack env host none (some timeoutException)

theorem handleTimeout_main_eq (drain : Run Unit) (host : HostId) :
    handleTimeout env drain host .main =
      timeOut env host >>= fun _ => runNextTest env drain host := by
  unfold handleTimeout timeOut
  simp only [Exec.bind_assoc, moduleCallback_eq]

inductive PortAction
  | start (host : HostId)
  | callback (host : HostId) (returnCode : Option Int) (exception : Option Exc)
  | timeout (host : HostId)
  | terminate (host : HostId)

namespace PortAction

def perform (env : Env) : PortAction → Run Unit
  | .start host => startNext env host
  | .callback host returnCode exception => callBack env host returnCode exception
  | .timeout host => timeOut env host
  | .terminate host => do
      let _ ← terminateHost env host
      pure ()

def step (env : Env) (action : PortAction) (world : World) : World :=
  ((action.perform env).run world).2

/-- A test is only started between two tests, and only its module calls back. -/
def Proper (world : World) : PortAction → Prop
  | .start host => Between host world
  | .callback host _ _ => (world.hosts host).testHost ≠ none
  | .timeout _ | .terminate _ => True

/-- Besides, no host is terminated while it runs a test. -/
def Undisturbing (world : World) (action : PortAction) : Prop :=
  action.Proper world ∧ ∀ host, action = .terminate host → (world.hosts host).testHost = none

end PortAction

/-- The ports in use are those of the tests that run, each of them has its own,
and a new one is only refused if there is none left. -/
structure PortsOwned (world : World) : Prop where
  exact : ∀ gateway port, port ∈ (world.gateways gateway).testPorts ↔
    ∃ host, (world.hosts host).gateway = gateway ∧ (world.hosts host).testHost ≠ none ∧
      (world.hosts host).testPort = some port
  range : ∀ gateway, ∀ port ∈ (world.gateways gateway).testPorts,
    switchPort (world.gateways gateway) 2 ≤ port ∧ port < switchPort (world.gateways gateway) 6
  holding : ∀ host, (world.hosts host).testHost ≠ none → (world.hosts host).testPort ≠ none
  separate : ∀ first second, (world.hosts first).testHost ≠ none →
    (world.hosts second).testHost ≠ none →
    (world.hosts first).testPort = (world.hosts second).testPort → first = second
  refused : ∀ gateway raised reached,
    (allocateTestPort gateway).run world = (.error raised, reached) →
    ∀ port, switchPort (world.gateways gateway) 2 ≤ port →
      port < switchPort (world.gateways gateway) 6 →
      ∃ host, (world.hosts host).gateway = gateway ∧ (world.hosts host).testHost ≠ none ∧
        (world.hosts host).testPort = some port

/-- The gateways of different hosts are the same, or have different numbers. -/
def World.DistinctSets (world : World) : Prop :=
  ∀ first second,
    (world.gateways (world.hosts first).gateway).portSet =
      (world.gateways (world.hosts second).gateway).portSet →
    (world.hosts first).gateway = (world.hosts second).gateway

/-- What carries the ownership from one action to the next. -/
structure Lodged (env : Env) (world : World) : Prop where
  regular : world.Regular env
  distinct : world.DistinctSets
  exact : ∀ gateway port, port ∈ (world.gateways gateway).testPorts ↔
    ∃ host, (world.hosts host).gateway = gateway ∧ (world.hosts host).testHost ≠ none ∧
      (world.hosts host).testPort = some port
  range : ∀ gateway, ∀ port ∈ (world.gateways gateway).testPorts,
    switchPort (world.gateways gateway) 2 ≤ port ∧ port < switchPort (world.gateways gateway) 6
  running : ∀ host, (world.hosts host).testHost ≠ none →
    (world.hosts host).state = .testing ∧ (world.hosts host).testPort ≠ none
  separate : ∀ first second, (world.hosts first).gateway = (world.hosts second).gateway →
    (world.hosts first).testHost ≠ none → (world.hosts second).testHost ≠ none →
    (world.hosts first).testPort = (world.hosts second).testPort → first = second

theorem Lodged.owned {world : World} (lodged : Lodged env world) : PortsOwned world where
  exact := lodged.exact
  range := lodged.range
  holding := fun host runs => (lodged.running host runs).2
  separate := by
    intro first second runs runsToo same
    obtain ⟨port, held⟩ := Option.ne_none_iff_exists'.mp (lodged.running first runs).2
    have inFirst := (lodged.exact _ port).mpr ⟨first, rfl, runs, held⟩
    have inSecond := (lodged.exact _ port).mpr ⟨second, rfl, runsToo, same ▸ held⟩
    -- the ranges of two sets only meet if the sets are the same
    have sets : (world.gateways (world.hosts first).gateway).portSet =
        (world.gateways (world.hosts second).gateway).portSet := by
      have low := lodged.range _ port inFirst
      have high := lodged.range _ port inSecond
      unfold switchPort at low high
      exact Subtype.ext (by omega)
    exact lodged.separate first second (lodged.distinct first second sets) runs runsToo same
  refused := by
    intro gateway raised reached refused port above below
    refine (lodged.exact gateway port).mp ?_
    unfold allocateTestPort at refused
    rw [Exec.read_bind_run] at refused
    by_cases fits : testPortFrom (world.gateways gateway).testPorts
        (world.gateways gateway).testPorts.card (switchPort (world.gateways gateway) 2) <
          switchPort (world.gateways gateway) 6
    · rw [Exec.require_bind_run _ _ fits] at refused
      cases refused
    · exact mem_of_lt_testPortFrom above (below.trans_le (Nat.not_lt.mp fits))

/-- Only this host and the ports of its gateway have changed. -/
structure Lodges (host : HostId) (before after : World) : Prop where
  others : ∀ other, other ≠ host → after.hosts other = before.hosts other
  gateway : (after.hosts host).gateway = (before.hosts host).gateway
  elsewhere : ∀ other, other ≠ (before.hosts host).gateway →
    (after.gateways other).testPorts = (before.gateways other).testPorts
  portSet : ∀ other, (after.gateways other).portSet = (before.gateways other).portSet

namespace Lodges

variable {host : HostId} {before middle after : World}

theorem refl (world : World) : Lodges host world world :=
  ⟨fun _ _ => rfl, rfl, fun _ _ => rfl, fun _ => rfl⟩

theorem trans (first : Lodges host before middle) (second : Lodges host middle after) :
    Lodges host before after where
  others := fun other different =>
    (second.others other different).trans (first.others other different)
  gateway := second.gateway.trans first.gateway
  elsewhere := fun other different =>
    (second.elsewhere other (first.gateway ▸ different)).trans (first.elsewhere other different)
  portSet := fun other => (second.portSet other).trans (first.portSet other)

theorem of_keepsHost {view : Host → Host} (kept : KeepsHost host view before after)
    (shown : ∀ entry, (view entry).gateway = entry.gateway) : Lodges host before after where
  others := kept.others
  gateway := kept.field Host.gateway shown host
  elsewhere := fun other _ => by rw [kept.gateways]
  portSet := fun other => by rw [kept.gateways]

theorem setHost (lodges : Lodges host before after) {update : Host → Host}
    (same : (update (after.hosts host)).gateway = (after.hosts host).gateway) :
    Lodges host before (after.setHost host update) where
  others := by
    intro other different
    rw [setHost_hosts, if_neg different]
    exact lodges.others other different
  gateway := by
    rw [setHost_hosts, if_pos rfl]
    exact same.trans lodges.gateway
  elsewhere := lodges.elsewhere
  portSet := lodges.portSet

/-- The ports of the host's own gateway change. -/
theorem setTestPorts (lodges : Lodges host before after) (change : Finset Nat → Finset Nat) :
    Lodges host before (after.setGateway (before.hosts host).gateway fun entry =>
      { entry with testPorts := change entry.testPorts }) where
  others := lodges.others
  gateway := lodges.gateway
  elsewhere := by
    intro other different
    rw [setGateway_gateways, if_neg different]
    exact lodges.elsewhere other different
  portSet := by
    intro other
    rw [setGateway_gateways]
    split
    · rename_i own
      exact own ▸ lodges.portSet _
    · exact lodges.portSet other

theorem gateways (lodges : Lodges host before after) (other : HostId) :
    (after.hosts other).gateway = (before.hosts other).gateway := by
  by_cases same : other = host
  · exact same ▸ lodges.gateway
  · rw [lodges.others other same]

theorem switchPort (lodges : Lodges host before after) (gateway : GatewayId) (offset : Nat) :
    switchPort (after.gateways gateway) offset = switchPort (before.gateways gateway) offset := by
  unfold Daq.switchPort
  rw [lodges.portSet]

theorem distinct (lodges : Lodges host before after) (distinct : before.DistinctSets) :
    after.DistinctSets := by
  intro first second same
  simp only [lodges.gateways, lodges.portSet] at same ⊢
  exact distinct first second same

/-- The host runs no test, before or after, and no port has changed hands. -/
theorem kept (lodges : Lodges host before after) (lodged : Lodged env before)
    (regular : after.Regular env) (idle : (before.hosts host).testHost = none)
    (still : (after.hosts host).testHost = none)
    (same : (after.gateways (before.hosts host).gateway).testPorts =
      (before.gateways (before.hosts host).gateway).testPorts) : Lodged env after := by
  have ports : ∀ gateway, (after.gateways gateway).testPorts =
      (before.gateways gateway).testPorts := by
    intro gateway
    by_cases own : gateway = (before.hosts host).gateway
    · exact own ▸ same
    · exact lodges.elsewhere gateway own
  have running : ∀ other, (after.hosts other).testHost ≠ none →
      after.hosts other = before.hosts other := by
    intro other runs
    refine lodges.others other fun own => runs ?_
    exact own ▸ still
  have ran : ∀ other, (before.hosts other).testHost ≠ none →
      after.hosts other = before.hosts other := by
    intro other runs
    refine lodges.others other fun own => runs ?_
    exact own ▸ idle
  refine ⟨regular, lodges.distinct lodged.distinct, fun gateway port => ?_, fun gateway port => ?_,
    fun other runs => ?_, fun first second shared runs runsToo equal => ?_⟩
  · rw [ports, lodged.exact]
    constructor
    · rintro ⟨other, own, runs, held⟩
      exact ⟨other, (ran other runs).symm ▸ ⟨own, runs, held⟩⟩
    · rintro ⟨other, own, runs, held⟩
      exact ⟨other, running other runs ▸ ⟨own, runs, held⟩⟩
  · rw [ports, lodges.switchPort, lodges.switchPort]
    exact lodged.range gateway port
  · have same := running other runs
    rw [same] at runs ⊢
    exact lodged.running other runs
  · have sameFirst := running first runs
    have sameSecond := running second runsToo
    rw [sameFirst] at runs shared equal
    rw [sameSecond] at runsToo shared equal
    exact lodged.separate first second shared runs runsToo equal

/-- The host starts a test with a port that was free. -/
theorem took (lodges : Lodges host before after) (lodged : Lodged env before)
    (regular : after.Regular env) (idle : (before.hosts host).testHost = none)
    (testing : (after.hosts host).state = .testing) (runs : (after.hosts host).testHost ≠ none)
    {port : Nat} (held : (after.hosts host).testPort = some port)
    (free : port ∉ (before.gateways (before.hosts host).gateway).testPorts)
    (fits : Daq.switchPort (before.gateways (before.hosts host).gateway) 2 ≤ port ∧
      port < Daq.switchPort (before.gateways (before.hosts host).gateway) 6)
    (taken : (after.gateways (before.hosts host).gateway).testPorts =
      insert port (before.gateways (before.hosts host).gateway).testPorts) :
    Lodged env after := by
  have ran : ∀ other, (before.hosts other).testHost ≠ none → other ≠ host := by
    intro other runs own
    exact runs (own ▸ idle)
  have unheld : ∀ other, (before.hosts other).testHost ≠ none →
      (before.hosts other).gateway = (before.hosts host).gateway →
      (before.hosts other).testPort ≠ some port := by
    intro other runs own same
    exact free ((lodged.exact _ port).mpr ⟨other, own, runs, same⟩)
  refine ⟨regular, lodges.distinct lodged.distinct, fun gateway number => ?_,
    fun gateway number inside => ?_, fun other runs => ?_,
    fun first second shared runsFirst runsSecond equal => ?_⟩
  · have before_iff := lodged.exact gateway number
    by_cases own : gateway = (before.hosts host).gateway
    · subst own
      rw [taken, Finset.mem_insert, before_iff]
      constructor
      · rintro (rfl | ⟨other, own, runs, held⟩)
        · exact ⟨host, lodges.gateway, runs, held⟩
        · exact ⟨other, (lodges.others other (ran other runs)).symm ▸ ⟨own, runs, held⟩⟩
      · rintro ⟨other, own, runsToo, holds⟩
        by_cases same : other = host
        · subst same
          exact .inl (Option.some.inj (holds.symm.trans held))
        · rw [lodges.others other same] at own runsToo holds
          exact .inr ⟨other, own, runsToo, holds⟩
    · rw [lodges.elsewhere gateway own, before_iff]
      constructor
      · rintro ⟨other, own, runs, held⟩
        exact ⟨other, (lodges.others other (ran other runs)).symm ▸ ⟨own, runs, held⟩⟩
      · rintro ⟨other, there, runsToo, holds⟩
        by_cases same : other = host
        · subst same
          exact absurd (there.symm.trans lodges.gateway) own
        · rw [lodges.others other same] at there runsToo holds
          exact ⟨other, there, runsToo, holds⟩
  · rw [lodges.switchPort, lodges.switchPort]
    by_cases own : gateway = (before.hosts host).gateway
    · subst own
      rw [taken, Finset.mem_insert] at inside
      rcases inside with rfl | inside
      · exact fits
      · exact lodged.range _ number inside
    · rw [lodges.elsewhere gateway own] at inside
      exact lodged.range gateway number inside
  · by_cases same : other = host
    · subst same
      exact ⟨testing, held ▸ nofun⟩
    · rw [lodges.others other same] at runs ⊢
      exact lodged.running other runs
  · rw [lodges.gateways, lodges.gateways] at shared
    by_cases isFirst : first = host
    · by_cases isSecond : second = host
      · exact isFirst.trans isSecond.symm
      · subst isFirst
        rw [lodges.others second isSecond] at runsSecond equal
        exact absurd (equal.symm.trans held) (unheld second runsSecond shared.symm)
    · by_cases isSecond : second = host
      · subst isSecond
        rw [lodges.others first isFirst] at runsFirst equal
        exact absurd (equal.trans held) (unheld first runsFirst shared)
      · rw [lodges.others first isFirst] at runsFirst equal
        rw [lodges.others second isSecond] at runsSecond equal
        exact lodged.separate first second shared runsFirst runsSecond equal

/-- The host ends its test and gives back its port. -/
theorem gave (lodges : Lodges host before after) (lodged : Lodged env before)
    (regular : after.Regular env) (ran : (before.hosts host).testHost ≠ none)
    (still : (after.hosts host).testHost = none)
    {port : Nat} (held : (before.hosts host).testPort = some port)
    (given : (after.gateways (before.hosts host).gateway).testPorts =
      (before.gateways (before.hosts host).gateway).testPorts.erase port) :
    Lodged env after := by
  have running : ∀ other, (after.hosts other).testHost ≠ none → other ≠ host := by
    intro other runs own
    exact runs (own ▸ still)
  have subset : ∀ gateway, (after.gateways gateway).testPorts ⊆
      (before.gateways gateway).testPorts := by
    intro gateway
    by_cases own : gateway = (before.hosts host).gateway
    · rw [own, given]
      exact Finset.erase_subset _ _
    · rw [lodges.elsewhere gateway own]
  refine ⟨regular, lodges.distinct lodged.distinct, fun gateway number => ?_,
    fun gateway number inside => ?_, fun other runs => ?_,
    fun first second shared runs runsToo equal => ?_⟩
  · have before_iff := lodged.exact gateway number
    by_cases own : gateway = (before.hosts host).gateway
    · subst own
      rw [given, Finset.mem_erase, before_iff]
      constructor
      · rintro ⟨different, other, own, runs, holds⟩
        have apart : other ≠ host := by
          rintro rfl
          exact different (Option.some.inj (holds.symm.trans held))
        exact ⟨other, (lodges.others other apart).symm ▸ ⟨own, runs, holds⟩⟩
      · rintro ⟨other, own, runs, holds⟩
        have apart := running other runs
        rw [lodges.others other apart] at own runs holds
        refine ⟨fun same => apart ?_, other, own, runs, holds⟩
        exact lodged.separate other host own runs ran (holds.trans (same ▸ held.symm))
    · rw [lodges.elsewhere gateway own, before_iff]
      constructor
      · rintro ⟨other, there, runs, holds⟩
        have apart : other ≠ host := by
          rintro rfl
          exact own there.symm
        exact ⟨other, (lodges.others other apart).symm ▸ ⟨there, runs, holds⟩⟩
      · rintro ⟨other, there, runs, holds⟩
        have apart := running other runs
        rw [lodges.others other apart] at there runs holds
        exact ⟨other, there, runs, holds⟩
  · rw [lodges.switchPort, lodges.switchPort]
    exact lodged.range gateway number (subset gateway inside)
  · have apart := running other runs
    rw [lodges.others other apart] at runs ⊢
    exact lodged.running other runs
  · rw [lodges.gateways, lodges.gateways] at shared
    have apart := running first runs
    have apartToo := running second runsToo
    rw [lodges.others first apart] at runs equal
    rw [lodges.others second apartToo] at runsToo equal
    exact lodged.separate first second shared runs runsToo equal

end Lodges

/-- A host as far as its test and its port go. -/
def Host.seat (entry : Host) : Host :=
  { device := 0
    gateway := entry.gateway
    targetMac := ""
    targetPort := none
    testHost := entry.testHost
    testPort := entry.testPort }

section Actions

variable {host : HostId} {world : World} {test : String}

theorem within_seat {α : Type} {program : Run α} (within : program.Within (hostLocal host)) :
    program.Within (keepsHost host Host.seat) :=
  within.mono fun _ _ kept => ⟨kept.outside, kept.others, (congrArg Host.seat kept.inside :)⟩

theorem startTest_seat : (startTest env host test).Within (keepsHost host Host.seat) := by
  unfold startTest
  refine Exec.within_bind (within_setHost fun _ => rfl) fun _ => ?_
  refine Exec.within_bind (callOut_keepsHost _ _) fun _ => ?_
  refine Exec.within_bind (within_seat (publishResult_hostLocal _ _ _)) fun _ => ?_
  refine Exec.within_bind (within_seat (recordResult_hostLocal _ _ _)) fun _ => ?_
  exact Exec.within_bind (within_seat (monitorScan_hostLocal _ _)) fun _ =>
    within_seat (stateTransition_hostLocal _ _ (by decide))

theorem startTest_testing :
    (startTest env host test).Holds world (fun outcome after =>
      outcome = .ok () → (after.hosts host).state = .testing) := by
  have last : ∀ state : World, (stateTransition host .testing (some .next)).Holds state
      (fun outcome after => outcome = .ok () → (after.hosts host).state = .testing) := by
    intro state
    unfold stateTransition
    rw [Exec.holds_bind, Exec.holds_read, Exec.then_ok, Exec.holds_bind, Exec.holds_require]
    refine ⟨fun _ => ?_, fun _ => nofun⟩
    rw [Exec.then_ok, Exec.holds_bind, Exec.holds_require]
    refine ⟨fun _ => ?_, fun _ => nofun⟩
    rw [Exec.then_ok, Exec.holds_modify]
    simp [setHost_hosts]
  have skip : ∀ {program : Run Unit} {next : Unit → Run Unit} {state : World},
      (∀ reached, (next ()).Holds reached (fun outcome after =>
        outcome = .ok () → (after.hosts host).state = .testing)) →
      (program >>= next).Holds state (fun outcome after =>
        outcome = .ok () → (after.hosts host).state = .testing) := by
    intro program next state rest
    rw [Exec.holds_bind]
    cases ended : program.run state with
    | mk outcome reached =>
        unfold Exec.Holds
        rw [ended]
        cases outcome with
        | ok value => exact rest reached
        | error raised => exact nofun
  unfold startTest
  exact skip fun _ => skip fun _ => skip fun _ => skip fun _ => skip fun _ => last _

theorem allocateTestPort_holds (gateway : GatewayId) :
    (allocateTestPort gateway).Holds world (fun outcome after =>
      (∃ raised, outcome = .error raised) ∧ after = world ∨
      ∃ port, outcome = .ok port ∧ port ∉ (world.gateways gateway).testPorts ∧
        (switchPort (world.gateways gateway) 2 ≤ port ∧
          port < switchPort (world.gateways gateway) 6) ∧
        after = world.setGateway gateway fun entry =>
          { entry with testPorts := insert port entry.testPorts }) := by
  unfold allocateTestPort
  rw [Exec.holds_bind, Exec.holds_read, Exec.then_ok, Exec.holds_bind, Exec.holds_require]
  refine ⟨fun fits => ?_, fun _ => .inl ⟨⟨_, rfl⟩, rfl⟩⟩
  rw [Exec.then_ok, Exec.holds_bind, Exec.holds_modify, Exec.then_ok, Exec.holds_pure]
  exact .inr ⟨_, rfl, testPortFrom_not_mem (Finset.card_filter_le _ _),
    ⟨le_testPortFrom _ _, fits⟩, rfl⟩

/-- The host has a test, and a port for it that was free before. -/
structure Seated (host : HostId) (before after : World) : Prop where
  lodges : Lodges host before after
  runs : (after.hosts host).testHost ≠ none
  port : ∃ port, (after.hosts host).testPort = some port ∧
    port ∉ (before.gateways (before.hosts host).gateway).testPorts ∧
    (switchPort (before.gateways (before.hosts host).gateway) 2 ≤ port ∧
      port < switchPort (before.gateways (before.hosts host).gateway) 6) ∧
    (after.gateways (before.hosts host).gateway).testPorts =
      insert port (before.gateways (before.hosts host).gateway).testPorts

theorem Seated.kept {before middle after : World} (seated : Seated host before middle)
    (kept : KeepsHost host Host.seat middle after) : Seated host before after where
  lodges := seated.lodges.trans (.of_keepsHost kept fun _ => rfl)
  runs := kept.field Host.testHost (fun _ => rfl) host ▸ seated.runs
  port := by
    rw [kept.field Host.testPort (fun _ => rfl) host, kept.gateways]
    exact seated.port

/-- The host has no test, and the ports are as they were. -/
structure Unseated (host : HostId) (before after : World) : Prop where
  lodges : Lodges host before after
  idle : (after.hosts host).testHost = none
  ports : (after.gateways (before.hosts host).gateway).testPorts =
    (before.gateways (before.hosts host).gateway).testPorts

theorem Unseated.kept {before middle after : World} (unseated : Unseated host before middle)
    (kept : KeepsHost host Host.seat middle after) : Unseated host before after where
  lodges := unseated.lodges.trans (.of_keepsHost kept fun _ => rfl)
  idle := (kept.field Host.testHost (fun _ => rfl) host).trans unseated.idle
  ports := by
    rw [kept.gateways]
    exact unseated.ports

theorem findSeat_holds {before : World} (lodges : Lodges host before world)
    (ports : (world.gateways (before.hosts host).gateway).testPorts =
      (before.gateways (before.hosts host).gateway).testPorts)
    (runs : (world.hosts host).testHost ≠ none) :
    (Exec.attempt
      (do
        let testPort ← allocateTestPort (before.hosts host).gateway
        Exec.modify fun world => world.setHost host fun entry =>
          { entry with testPort := some testPort })
      (fun raised => do
        Exec.modify fun world => world.setHost host fun entry => { entry with testHost := none }
        Exec.raise raised) : Run Unit).Holds world (fun outcome after =>
          (∃ raised, outcome = .error raised) ∧ Unseated host before after ∨
            outcome = .ok () ∧ Seated host before after) := by
  have range := lodges.switchPort (before.hosts host).gateway
  have found : (do
      let testPort ← allocateTestPort (before.hosts host).gateway
      Exec.modify fun world => world.setHost host fun entry =>
        { entry with testPort := some testPort } : Run Unit).Holds world (fun outcome after =>
          (∃ raised, outcome = .error raised) ∧ after = world ∨
            outcome = .ok () ∧ Seated host before after) := by
    refine (allocateTestPort_holds _).bind ?_ ?_
    · rintro raised after (⟨_, rfl⟩ | ⟨_, impossible, _⟩)
      · exact .inl ⟨⟨raised, rfl⟩, rfl⟩
      · cases impossible
    · rintro port after (⟨⟨_, impossible⟩, _⟩ | ⟨_, same, free, fits, rfl⟩)
      · cases impossible
      · cases same
        rw [Exec.holds_modify]
        rw [ports] at free
        rw [range, range] at fits
        refine .inr ⟨rfl, (lodges.setTestPorts (insert port)).setHost rfl, ?_, port, ?_, free, fits,
          ?_⟩
        · rw [setHost_hosts, if_pos rfl]
          exact runs
        · rw [setHost_hosts, if_pos rfl]
        · have stored : ((world.setGateway (before.hosts host).gateway fun entry =>
              { entry with testPorts := insert port entry.testPorts }).gateways
                (before.hosts host).gateway).testPorts =
              insert port (world.gateways (before.hosts host).gateway).testPorts := by
            rw [setGateway_gateways, if_pos rfl]
          exact stored.trans (congrArg (insert port) ports)
  refine found.attempt ?_ ?_
  · rintro value after (⟨⟨_, impossible⟩, _⟩ | ⟨same, seated⟩)
    · cases impossible
    · exact .inr ⟨same, seated⟩
  · rintro raised after (⟨_, rfl⟩ | ⟨impossible, _⟩)
    · rw [Exec.holds_bind, Exec.holds_modify, Exec.then_ok, Exec.holds_raise]
      refine .inl ⟨⟨raised, rfl⟩, lodges.setHost rfl, ?_, ports⟩
      rw [setHost_hosts, if_pos rfl]
    · cases impossible

theorem releaseTestPort_run {gateway : GatewayId} {port : Nat}
    (held : port ∈ (world.gateways gateway).testPorts) :
    (releaseTestPort gateway (some port)).run world =
      (.ok (), world.setGateway gateway fun entry =>
        { entry with testPorts := entry.testPorts.erase port }) :=
  Exec.require_bind_run _ _ held

/-- The port of a test whose start fails goes back. -/
theorem leaveSeat_holds {before : World} (seated : Seated host before world) (raised : Exc) :
    (do
      Exec.modify fun world => world.setHost host fun entry => { entry with testHost := none }
      let testPort ← Exec.read fun world => (world.hosts host).testPort
      releaseTestPort (before.hosts host).gateway testPort
      Exec.modify fun world => world.setHost host fun entry => { entry with testPort := none }
      monitorCleanup env host true
      Exec.raise raised : Run Unit).Holds world (fun outcome after =>
        (∃ raised, outcome = .error raised) ∧ Unseated host before after) := by
  obtain ⟨port, held, free, _, ports⟩ := seated.port
  rw [Exec.holds_bind, Exec.holds_modify, Exec.then_ok, Exec.holds_bind, Exec.holds_read,
    Exec.then_ok]
  have still : ((world.setHost host fun entry => { entry with testHost := none }).hosts
      host).testPort = some port := by
    rw [setHost_hosts, if_pos rfl]
    exact held
  have left : Lodges host before (world.setHost host fun entry =>
      { entry with testHost := none }) := seated.lodges.setHost rfl
  have inUse : port ∈ ((world.setHost host fun entry =>
      { entry with testHost := none }).gateways (before.hosts host).gateway).testPorts :=
    (congrArg (port ∈ ·) ports).mpr (Finset.mem_insert_self _ _)
  rw [still, Exec.holds_congr (Exec.bind_run_ok (releaseTestPort_run inUse)), Exec.holds_bind,
    Exec.holds_modify, Exec.then_ok]
  have freed : Unseated host before (((world.setHost host fun entry =>
      { entry with testHost := none }).setGateway (before.hosts host).gateway fun entry =>
        { entry with testPorts := entry.testPorts.erase port }).setHost host fun entry =>
          { entry with testPort := none }) := by
    refine ⟨(left.setTestPorts (·.erase port)).setHost rfl, ?_, ?_⟩
    · have idle : ((world.setHost host fun entry => { entry with testHost := none }).hosts
          host).testHost = none := by rw [setHost_hosts, if_pos rfl]
      rw [setHost_hosts, if_pos rfl]
      exact idle
    · have erased : (world.gateways (before.hosts host).gateway).testPorts.erase port =
          (before.gateways (before.hosts host).gateway).testPorts := by
        rw [ports, Finset.erase_insert free]
      refine Eq.trans ?_ erased
      have stored : (((world.setHost host fun entry => { entry with testHost := none }).setGateway
          (before.hosts host).gateway fun entry =>
            { entry with testPorts := entry.testPorts.erase port }).gateways
              (before.hosts host).gateway).testPorts =
          (world.gateways (before.hosts host).gateway).testPorts.erase port := by
        rw [setGateway_gateways, if_pos rfl]
        rfl
      exact stored
  have cleaned : (monitorCleanup env host true).Within (keepsHost host Host.seat) :=
    within_seat (monitorCleanup_hostLocal host true)
  refine (cleaned.holds _).bind ?_ ?_
  · exact fun other _ kept => ⟨⟨other, rfl⟩, freed.kept kept⟩
  · exact fun _ _ kept => ⟨⟨raised, rfl⟩, freed.kept kept⟩

/-- A test that has its port starts, or gives it back. -/
theorem runTest_lodges (idle : (world.hosts host).testHost = none) :
    (runTest env host test).Holds world (fun outcome after =>
      (∃ raised, outcome = .error raised) ∧ Unseated host world after ∨
        outcome = .ok () ∧ Seated host world after ∧ (after.hosts host).state = .testing) := by
  have start : (do
      startTest env host test
      getModuleParams host
      callOut env (.moduleStart host) : Run Unit).Within (keepsHost host Host.seat) :=
    Exec.within_bind startTest_seat fun _ => Exec.within_bind getModuleParams_within fun _ =>
      callOut_keepsHost _ _
  have testing : ∀ state : World, (do
      startTest env host test
      getModuleParams host
      callOut env (.moduleStart host) : Run Unit).Holds state (fun outcome after =>
        outcome = .ok () → (after.hosts host).state = .testing) := by
    intro state
    refine startTest_testing.bind (fun _ _ _ => nofun) fun _ middle testing => ?_
    unfold getModuleParams
    rw [Exec.holds_bind, Exec.holds_bind, Exec.holds_get, Exec.then_ok, Exec.holds_require]
    refine ⟨fun _ => ?_, fun _ => nofun⟩
    rw [Exec.then_ok]
    refine (callOut_ticks env _ _).mono ?_
    rintro _ _ rfl _
    exact testing rfl
  have begun : KeepsHost host Host.seat world (world.setHost host fun entry =>
      { entry with timeoutHandler := some .main }) := keepsHost_setHost rfl
  have begun : KeepsHost host Host.seat world (world.setHost host fun entry =>
      { entry with timeoutHandler := some .main }).ticked :=
    ⟨begun.outside, begun.others, begun.inside⟩
  unfold runTest
  rw [Exec.holds_bind, Exec.holds_modify, Exec.then_ok]
  refine (callOut_ticks env _ _).bind ?_ ?_
  · rintro raised _ rfl
    refine .inl ⟨⟨raised, rfl⟩, .of_keepsHost begun fun _ => rfl, ?_, rfl⟩
    exact (begun.field Host.testHost (fun _ => rfl) host).trans idle
  · rintro _ _ rfl
    rw [Exec.holds_bind, Exec.holds_modify, Exec.then_ok, Exec.holds_bind, Exec.holds_read,
      Exec.then_ok]
    have ready : Lodges host world ((world.setHost host fun entry =>
        { entry with timeoutHandler := some .main }).ticked.setHost host fun entry =>
          { entry with testHost := some test }) :=
      Lodges.setHost (.of_keepsHost begun fun _ => rfl) rfl
    rw [ready.gateway]
    refine (findSeat_holds ready rfl ?_).bind ?_ ?_
    · rw [setHost_hosts, if_pos rfl]
      nofun
    · rintro raised after (⟨failed, unseated⟩ | ⟨impossible, _⟩)
      · exact .inl ⟨failed, unseated⟩
      · cases impossible
    · rintro _ after (⟨⟨_, impossible⟩, _⟩ | ⟨_, seated⟩)
      · cases impossible
      · refine ((start.holds after).and (testing after)).attempt ?_ ?_
        · exact fun _ _ done => .inr ⟨rfl, seated.kept done.1, done.2 rfl⟩
        · exact fun raised _ done =>
            (leaveSeat_holds (seated.kept done.1) raised).mono fun _ _ left => .inl left

theorem runRemaining_lodges (idle : (world.hosts host).testHost = none) (tests : List String) :
    (runRemaining env host tests).Holds world (fun outcome after =>
      Unseated host world after ∨
        outcome = .ok () ∧ Seated host world after ∧ (after.hosts host).state = .testing) := by
  have unseated : Unseated host world world := ⟨.refl world, idle, rfl⟩
  cases tests with
  | nil =>
      have finished : (finishRun env host).Within (keepsHost host Host.seat) := by
        unfold finishRun
        refine Exec.within_ite (within_seat (stateTransition_hostLocal _ _ (by decide))) ?_
        refine Exec.within_bind (within_setHost fun _ => rfl) fun _ => ?_
        exact Exec.within_bind (within_seat (stateTransition_hostLocal _ _ (by decide))) fun _ =>
          within_seat (recordResult_hostLocal _ _ _)
      exact (finished.holds world).mono fun _ _ kept => .inl (unseated.kept kept)
  | cons test rest =>
      unfold runRemaining
      rw [Exec.holds_bind, Exec.holds_modify, Exec.then_ok]
      have kept : KeepsHost host Host.seat world (world.setHost host fun entry =>
          { entry with remainingTests := rest, life := entry.life ++ [.taken test] }) :=
        keepsHost_setHost rfl
      have taken := unseated.kept kept
      have own : ((world.setHost host fun entry =>
          { entry with remainingTests := rest, life := entry.life ++ [.taken test] }).hosts
            host).gateway = (world.hosts host).gateway := taken.lodges.gateway
      refine (runTest_lodges taken.idle).mono ?_
      rintro outcome after (⟨_, failed⟩ | ⟨returned, seated, testing⟩)
      · refine .inl ⟨taken.lodges.trans failed.lodges, failed.idle, ?_⟩
        have same := failed.ports
        rw [own] at same
        exact same
      · obtain ⟨port, found⟩ := seated.port
        rw [own] at found
        exact .inr ⟨returned, ⟨taken.lodges.trans seated.lodges, seated.runs, port, found⟩, testing⟩

/-- Ending a test whose capture can be put away and whose result can be
published returns, and the host has no test then. -/
theorem closeTest_frees (books : env.KeepsBooks) (regular : world.Regular env)
    (testing : (world.hosts host).state = .testing) (returnCode : Option Int)
    (exception : Option Exc) :
    (closeTest env host returnCode exception).Holds world (fun outcome after =>
      outcome = .ok () ∧ (after.hosts host).testHost = none) := by
  have alive := (regular host).report_ne_none (testing ▸ by decide)
  have cleaned := (monitorCleanup_returns (books.of host) ((regular host).capturing
    books.closesCaptures)).and ((@monitorCleanup_stays env host true).holds world)
  unfold closeTest
  refine cleaned.bind (fun _ _ done => nomatch done.1) ?_
  rintro _ quiet ⟨_, kept⟩
  obtain ⟨core, regular, course⟩ := kept regular
  have testing : (quiet.hosts host).state = .testing :=
    (congrArg Host.Course.state course :).trans testing
  have alive : (quiet.hosts host).report ≠ none :=
    fun absent => alive ((host_report core host).mp absent)
  unfold stateTransition
  rw [Exec.holds_bind, Exec.holds_bind, Exec.holds_read, Exec.then_ok, Exec.holds_bind,
    Exec.holds_require]
  refine ⟨fun _ => ?_, fun unexpected => absurd (.inr (testing ▸ rfl)) unexpected⟩
  rw [Exec.then_ok, Exec.holds_bind, Exec.holds_require]
  refine ⟨fun _ => ?_, fun terminated => absurd (testing ▸ by decide) terminated⟩
  rw [Exec.then_ok, Exec.holds_modify, Exec.then_ok]
  have alive : ((quiet.setHost host fun entry =>
      { entry with state := .next, life := entry.life ++ [.moved .next] }).hosts host).report ≠
        none := by
    rw [setHost_hosts, if_pos rfl]
    exact alive
  generalize (quiet.setHost host fun entry =>
    { entry with state := .next, life := entry.life ++ [.moved .next] }) = moved at alive
  have filed : (accumulateFiles env host).Holds moved (fun outcome after =>
      outcome = .ok () ∧ (after.hosts host).report ≠ none) := by
    unfold accumulateFiles
    rw [Exec.holds_bind, Exec.holds_get, Exec.then_ok, Exec.holds_whenSome]
    refine ⟨fun _ => ⟨rfl, alive⟩, fun lines _ => ?_⟩
    refine (accumulate_returns _ _ alive).bind (fun _ _ done => nomatch done.1) ?_
    rintro _ noted ⟨_, kept⟩
    rw [holds_callOut_of_returns (books.uploads _ _)]
    exact ⟨rfl, fun absent => alive ((report_of_unrecorded kept.inside).mp absent)⟩
  refine filed.bind (fun _ _ done => nomatch done.1) ?_
  rintro _ noted ⟨_, alive⟩
  rw [Exec.holds_bind, Exec.holds_read, Exec.then_ok, Exec.holds_bind, Exec.holds_modify,
    Exec.then_ok]
  refine (recordResult_returns _ _ (fun state => books.publishes state host) ?_).bind
    (fun _ _ done => nomatch done.1) ?_
  · rw [setHost_hosts, if_pos rfl]
    exact alive
  · intro _ recorded _
    rw [Exec.holds_modify]
    simp [setHost_hosts]

/-- A host as far as its gateway goes. -/
def Host.quarter (entry : Host) : Host :=
  { device := 0, gateway := entry.gateway, targetMac := "", targetPort := none }

theorem within_quarter {α : Type} {program : Run α} (within : program.Within (hostLocal host)) :
    program.Within (keepsHost host Host.quarter) :=
  within.mono fun _ _ kept => ⟨kept.outside, kept.others, (congrArg Host.quarter kept.inside :)⟩

theorem closeTest_quarter (returnCode : Option Int) (exception : Option Exc) :
    (closeTest env host returnCode exception).Within (keepsHost host Host.quarter) := by
  unfold closeTest
  refine Exec.within_bind (within_quarter (monitorCleanup_hostLocal _ _)) fun _ => ?_
  refine Exec.within_bind (within_quarter (stateTransition_hostLocal _ _ (by decide))) fun _ => ?_
  refine Exec.within_bind ?_ fun _ => ?_
  · refine Exec.within_bind Exec.within_get fun _ => Exec.within_whenSome _ fun _ => ?_
    refine Exec.within_bind (within_quarter ?_) fun _ => callOut_keepsHost _ _
    exact (accumulate_hostRecord _ _ _).mono fun _ _ => KeepsHost.hostLocal
  · refine Exec.within_bind (Exec.within_read _) fun _ => ?_
    refine Exec.within_bind (within_setHost fun _ => rfl) fun _ => ?_
    exact Exec.within_bind (within_quarter (recordResult_hostLocal _ _ _)) fun _ =>
      within_setHost fun _ => rfl

/-- A host without a test does not get one. -/
def idles (host : HostId) : Frame World where
  rel before after := (before.hosts host).testHost = none → (after.hosts host).testHost = none
  refl := fun _ idle => idle
  trans := fun first second idle => second (first idle)

theorem within_idles {α : Type} {program : Run α} (within : program.Within (hostLocal host)) :
    program.Within (idles host) :=
  within.mono fun _ _ kept idle => (kept.field Host.testHost (fun _ => rfl) host).trans idle

theorem setHost_idles {change : World → Host → Host}
    (same : ∀ world entry, entry.testHost = none → (change world entry).testHost = none) :
    (Exec.modify fun world => world.setHost host (change world) : Run Unit).Within
      (idles host) := by
  refine Exec.within_modify fun world idle => ?_
  rw [setHost_hosts, if_pos rfl]
  exact same world _ idle

theorem terminateHost_idles : (terminateHost env host).Within (idles host) := by
  have silent : ∀ op, (callOut env op).Within (idles host) :=
    fun op => within_idles (callOut_keepsHost host op)
  unfold terminateHost stateTransition finalizeReport
  refine Exec.within_bind (setHost_idles fun _ _ idle => idle) fun _ => ?_
  refine Exec.within_bind ?_ fun _ => ?_
  · refine Exec.within_bind (Exec.within_read _) fun _ => ?_
    refine Exec.within_bind (Exec.within_require _) fun _ => ?_
    exact Exec.within_bind (Exec.within_require _) fun _ => setHost_idles fun _ _ idle => idle
  refine Exec.within_bind (silent _) fun _ => ?_
  refine Exec.within_bind (within_idles (monitorCleanup_hostLocal _ _)) fun _ => ?_
  refine Exec.within_bind (Exec.within_read _) fun _ => ?_
  refine Exec.within_bind (Exec.within_when (silent _)) fun _ => ?_
  refine Exec.within_bind (Exec.within_when (Exec.within_attempt
    (Exec.within_bind (silent _) fun _ => setHost_idles fun _ _ _ => rfl) fun _ =>
      Exec.within_pure _)) fun _ => ?_
  refine Exec.within_bind (Exec.within_read _) fun _ => ?_
  split
  · exact Exec.within_raise _
  · refine Exec.within_bind (silent _) fun _ => ?_
    split
    · exact Exec.within_raise _
    · refine Exec.within_bind (silent _) fun _ => ?_
      refine Exec.within_bind (within_idles (recordResult_hostLocal _ _ _)) fun _ => ?_
      exact Exec.within_bind (setHost_idles fun _ _ idle => idle) fun _ => Exec.within_pure _

theorem startNext_seats (idle : (world.hosts host).testHost = none) :
    (startNext env host).Holds world (fun _ after => Unseated host world after ∨
      Seated host world after ∧ (after.hosts host).state = .testing) := by
  unfold startNext
  rw [Exec.holds_bind, Exec.holds_read, Exec.then_ok, Exec.holds_bind, Exec.holds_require]
  refine ⟨fun _ => ?_, fun _ => .inl ⟨.refl world, idle, rfl⟩⟩
  rw [Exec.then_ok]
  refine (runRemaining_lodges idle _).attempt ?_ ?_
  · rintro _ after (unseated | ⟨_, seated⟩)
    · exact .inl unseated
    · exact .inr seated
  · rintro raised after (unseated | ⟨impossible, _⟩)
    · have fails := (within_seat (@stateTransition_hostLocal host .error none (by decide))).holds
        after
      exact fails.bind (fun _ _ kept => .inl (unseated.kept kept))
        fun _ _ kept => .inl (unseated.kept kept)
    · cases impossible

theorem startNext_regular (regular : world.Regular env) (between : Between host world) :
    (startNext env host).Holds world (fun _ after => after.Regular env) := by
  unfold startNext
  rw [Exec.holds_bind, Exec.holds_read, Exec.then_ok, Exec.holds_bind, Exec.holds_require]
  refine ⟨fun _ => ?_, fun _ => regular⟩
  rw [Exec.then_ok]
  refine (runRemaining_holds regular between).attempt (fun _ _ done => done.2) ?_
  rintro raised after ⟨_, regular⟩
  exact (@stateTransition_leads env .error none after host regular (by decide)).bind
    (fun _ _ done => done.2.1) fun _ _ done => done.2.1

theorem startNext_lodged (lodged : Lodged env world) (between : Between host world) :
    (startNext env host).Holds world (fun _ after => Lodged env after) := by
  have idle : (world.hosts host).testHost = none := by
    by_contra runs
    have testing := (lodged.running host runs).1
    rw [between.state] at testing
    cases testing
  refine ((startNext_seats idle).and (startNext_regular lodged.regular between)).mono ?_
  rintro _ after ⟨unseated | ⟨seated, testing⟩, regular⟩
  · exact unseated.lodges.kept lodged regular idle unseated.idle unseated.ports
  · obtain ⟨port, held, free, fits, taken⟩ := seated.port
    exact seated.lodges.took lodged regular idle testing seated.runs held free fits taken

theorem callBack_lodged (books : env.KeepsBooks) (lodged : Lodged env world)
    (runs : (world.hosts host).testHost ≠ none) (returnCode : Option Int)
    (exception : Option Exc) :
    (callBack env host returnCode exception).Holds world (fun _ after => Lodged env after) := by
  obtain ⟨testing, holds⟩ := lodged.running host runs
  obtain ⟨port, held⟩ := Option.ne_none_iff_exists'.mp holds
  have inUse := (lodged.exact _ port).mpr ⟨host, rfl, runs, held⟩
  unfold callBack releaseTestPort
  rw [Exec.holds_bind, Exec.holds_read, Exec.then_ok, held, Exec.holds_bind, Exec.holds_bind,
    Exec.holds_read, Exec.then_ok, Exec.holds_bind, Exec.holds_require]
  refine ⟨fun _ => ?_, fun unused => absurd inUse unused⟩
  rw [Exec.then_ok, Exec.holds_modify, Exec.then_ok, Exec.holds_bind, Exec.holds_require]
  refine ⟨fun _ => ?_, fun absent => absurd (Option.isSome_iff_ne_none.mpr runs) absent⟩
  rw [Exec.then_ok]
  have released : (world.setGateway (world.hosts host).gateway fun entry =>
      { entry with testPorts := entry.testPorts.erase port }).Regular env := lodged.regular
  have closed := ((closeTest_frees books released testing returnCode exception).and
    ((closeTest_quarter returnCode exception).holds _)).and
      (closeTest_between returnCode exception _ released trivial)
  refine closed.mono ?_
  rintro _ after ⟨⟨⟨_, idle⟩, kept⟩, _, regular, _⟩
  have lodges : Lodges host world after :=
    ((Lodges.refl world).setTestPorts (·.erase port)).trans (.of_keepsHost kept fun _ => rfl)
  refine lodges.gave lodged regular runs idle held ?_
  rw [kept.gateways, setGateway_gateways, if_pos rfl]

theorem terminateHost_lodged (lodged : Lodged env world)
    (idle : (world.hosts host).testHost = none) :
    (terminateHost env host).Holds world (fun _ after => Lodged env after) := by
  have ended := ((terminateHost_regular lodged.regular).and
    ((@terminateHost_lasting env host).holds world)).and
      ((@terminateHost_idles env host).holds world)
  refine ended.mono ?_
  rintro _ after ⟨⟨regular, kept⟩, still⟩
  have lodges : Lodges host world after := .of_keepsHost kept fun _ => rfl
  exact lodges.kept lodged regular idle (still idle) (by rw [kept.gateways])

theorem Lodged.ticked (lodged : Lodged env world) : Lodged env world.ticked :=
  ⟨lodged.regular, lodged.distinct, lodged.exact, lodged.range, lodged.running, lodged.separate⟩

theorem timeOut_lodged (books : env.KeepsBooks) (lodged : Lodged env world) :
    (timeOut env host).Holds world (fun _ after => Lodged env after) := by
  unfold timeOut
  rw [Exec.holds_bind, Exec.holds_read, Exec.then_ok, Exec.holds_bind, Exec.holds_require]
  refine ⟨fun runs => ?_, fun _ => lodged⟩
  rw [Exec.then_ok]
  refine (callOut_ticks env _ _).bind (fun _ _ same => same ▸ lodged.ticked) ?_
  rintro _ _ rfl
  exact callBack_lodged books lodged.ticked (Option.isSome_iff_ne_none.mp runs) _ _

end Actions

/-- No host runs a test, and no port is in use. -/
structure NoTests (env : Env) (world : World) : Prop where
  regular : world.Regular env
  distinct : world.DistinctSets
  idle : ∀ host, (world.hosts host).testHost = none
  free : ∀ gateway, (world.gateways gateway).testPorts = ∅

theorem NoTests.lodged {world : World} (none : NoTests env world) : Lodged env world where
  regular := none.regular
  distinct := none.distinct
  exact := by
    intro gateway port
    rw [none.free]
    constructor
    · exact fun inside => absurd inside (Finset.notMem_empty _)
    · rintro ⟨host, _, runs, _⟩
      exact absurd (none.idle host) runs
  range := by
    intro gateway port inside
    rw [none.free] at inside
    exact absurd inside (Finset.notMem_empty _)
  running := fun host runs => absurd (none.idle host) runs
  separate := fun first _ _ runs => absurd (none.idle first) runs

/-- As long as no host is terminated while it runs a test, and tests can be
ended, ports and running tests belong to each other. -/
theorem reached_portsOwned (books : env.KeepsBooks) {start world : World}
    (fresh : NoTests env start)
    (reached : Reaches (PortAction.step env) PortAction.Undisturbing start world) :
    PortsOwned world := by
  refine (reached.invariant (Lodged env) fresh.lodged fun state action lodged allowed => ?_).owned
  obtain ⟨proper, undisturbed⟩ := allowed
  cases action with
  | start host => exact startNext_lodged lodged proper
  | callback host returnCode exception =>
      exact callBack_lodged books lodged proper returnCode exception
  | timeout host => exact timeOut_lodged books lodged
  | terminate host =>
      have ended : ((PortAction.terminate host).perform env).Holds state
          (fun _ after => Lodged env after) :=
        (terminateHost_lodged lodged (undisturbed host rfl)).bind (fun _ _ after => after)
          fun _ _ after => after
      exact ended

/-- A host with its base tests behind it and one test before it. -/
def betweenTests : Host where
  device := 0
  gateway := 0
  targetMac := "9a:02:57:1e:8f:01"
  targetPort := none
  state := .next
  enabledTests := ["pass"]
  remainingTests := ["pass"]
  life := [.moved .init, .moved .waiting, .moved .base, .moved .monitor, .moved .next]
  pings := [true, true, true]

theorem one_isSetNumber : 1 ≤ 1 ∧ 1 ≤ maxGateways := by decide

/-- Hosts that share one gateway. -/
def sharedGateway (env : Env) : World :=
  { initialWorld env with
    hosts := fun _ => betweenTests
    gateways := fun _ =>
      { name := "gw01", portSet := ⟨1, one_isSetNumber⟩, kind := .container, hostUp := true } }

theorem sharedGateway_noTests : NoTests env (sharedGateway env) where
  regular := fun _ =>
    { remaining := fun _ member => member
      testing := nofun
      scanning := nofun
      ended := by
        intro items name item code present found
        cases present
        cases found
      closed := nofun
      capturing := nofun
      owned := by
        intro owner _ items name item lines present found
        cases present
        cases found
      lived := ⟨none, rfl, nofun⟩
      gated := fun _ => ⟨true, true, true, rfl, fun _ => ⟨rfl, rfl⟩⟩ }
  distinct := fun _ _ _ => rfl
  idle := fun _ => rfl
  free := fun _ => rfl

theorem sharedGateway_between (host : HostId) : Between host (sharedGateway env) := ⟨rfl, rfl⟩

def portEnv : Env := .quiet { secPort := 7 }

def startedFirst : World := PortAction.step portEnv (.start 0) (sharedGateway portEnv)

theorem startedFirst_lodges : Lodges 0 (sharedGateway portEnv) startedFirst := by
  have started := @startNext_seats portEnv 0 (sharedGateway portEnv) rfl
  rcases started with unseated | ⟨seated, _⟩
  · exact unseated.lodges
  · exact seated.lodges

/-- The port of a test that is running when its host is terminated stays in
use. -/
theorem not_every_port_owned :
    ¬ ∀ (env : Env) (start world : World), NoTests env start →
      Reaches (PortAction.step env) (fun state action => action.Proper state) start world →
      PortsOwned world := by
  intro always
  have reached : Reaches (PortAction.step portEnv) (fun state action => action.Proper state)
      (sharedGateway portEnv) (PortAction.step portEnv (.terminate 0) startedFirst) :=
    .step _ (.step _ .start (sharedGateway_between 0)) trivial
  have owned := always portEnv _ _ sharedGateway_noTests reached
  have used : 12 ∈ ((PortAction.step portEnv (.terminate 0) startedFirst).gateways 0).testPorts := by
    decide +kernel
  have ended : ((PortAction.step portEnv (.terminate 0) startedFirst).hosts 0).testHost = none := by
    decide +kernel
  obtain ⟨host, _, runs, _⟩ := (owned.exact 0 12).mp used
  have other : host ≠ 0 := by
    rintro rfl
    exact runs ended
  have kept : KeepsHost 0 Host.lasting startedFirst
      (PortAction.step portEnv (.terminate 0) startedFirst) := by
    have ended : ((PortAction.terminate 0).perform portEnv).Within (keepsHost 0 Host.lasting) :=
      Exec.within_bind terminateHost_lasting fun _ => Exec.within_pure _
    exact ended startedFirst
  rw [kept.others host other, startedFirst_lodges.others host other] at runs
  exact runs rfl

theorem sharedGateway_portsOwned :
    let world := PortAction.step portEnv (.start 1) startedFirst
    PortsOwned world ∧ (world.hosts 0).testPort = some 12 ∧ (world.hosts 1).testPort = some 13 := by
  have between : Between 1 startedFirst := by
    have same := startedFirst_lodges.others 1 (by decide)
    constructor
    · rw [same]
      rfl
    · rw [same]
      rfl
  have reached : Reaches (PortAction.step portEnv) PortAction.Undisturbing (sharedGateway portEnv)
      (PortAction.step portEnv (.start 1) startedFirst) :=
    .step _ (.step _ .start ⟨sharedGateway_between 0, nofun⟩) ⟨between, nofun⟩
  exact ⟨reached_portsOwned ⟨fun _ _ => rfl, fun _ _ => rfl, fun _ _ => rfl⟩ sharedGateway_noTests
    reached, by decide +kernel, by decide +kernel⟩

end Daq
