import Daq.Lib.Exec
import Daq.Lib.Fallible
import Daq.Lib.History
import Daq.Traffic.AclState

namespace Daq.TrafficAnalyzer

open AclState Fallible

/-! The analysis of traffic, which asks the metrics every so often for the
ports that devices are learned at. -/

def deviceLearningMetric : String := "learned_l2_port"
def secSwitch : String := "sec"

theorem unboundLocalError_named : "UnboundLocalError" ≠ "" := by decide

def unboundLocalError (message : String) : Exc :=
  ⟨"UnboundLocalError", message, unboundLocalError_named⟩

/-- The message that says where a device is. -/
structure DevicePlacement where
  switch : String
  port : Int
deriving DecidableEq

/-- What the calls of one tick come to: the configuration of the switches by
their names, and the metrics that are fetched, by name. -/
structure Tick where
  dpsConfig : Except Exc (List (String × SwitchConfig))
  metrics : Except Exc (Dict String (List Sample))

structure Analyzer where
  collector : Collector := {}
  duts : List Mac
  devicePlacements : Dict Mac DevicePlacement := .empty
  running : Bool := false

section Tasks

-- The constructor of the message, which checks the range of the port.
variable (newPlacement : String → Int → Except Exc DevicePlacement)

def reloadFaucetConfig (dpsConfig : Except Exc (List (String × SwitchConfig))) :
    Exec Analyzer Exc Unit := do
  let switchesConfig ← .ofExcept dpsConfig
  .modify fun analyzer =>
    { analyzer with collector := { switchConfigs := Dict.empty.assign switchesConfig } }

/-- The device of a sample and its port, where the sample is of the switch and
the device is one to test. -/
def placed (duts : List Mac) (sample : Sample) : Option (Mac × Int) :=
  if sample.labels.get? "dp_name" ≠ some secSwitch then none
  else match sample.labels.get? "eth_src" with
    | none => none
    | some mac => if mac ∈ duts then some (mac, sample.value) else none

def placeSample (sample : Sample) : Exec Analyzer Exc Unit := do
  let duts ← .read Analyzer.duts
  .whenSome (placed duts sample) fun (mac, port) => do
    let placement ← .ofExcept (newPlacement secSwitch port)
    .modify fun analyzer =>
      { analyzer with devicePlacements := analyzer.devicePlacements.insert mac placement }

/-- A fetch that raises is logged, and leaves `metrics` without a value. -/
def updateDevicePlacements (fetched : Except Exc (Dict String (List Sample))) :
    Exec Analyzer Exc Unit :=
  match fetched with
  | .error _ =>
      .raise (unboundLocalError "local variable 'metrics' referenced before assignment")
  | .ok metrics => do
      .modify fun analyzer => { analyzer with devicePlacements := .empty }
      match metrics.get? deviceLearningMetric with
      | none => .raise (.attributeError "'NoneType' object has no attribute 'samples'")
      | some samples => .forEach samples (placeSample newPlacement)

/-- `_periodic_tasks`, and whether it has started a timer for the next call. -/
def periodicTasks (tick : Tick) : Exec Analyzer Exc Bool := do
  let running ← .read Analyzer.running
  if running then do
    reloadFaucetConfig tick.dpsConfig
    updateDevicePlacements newPlacement tick.metrics
    pure true
  else pure false

/-! The analyzer with its timer. -/

structure System where
  analyzer : Analyzer
  armed : Bool

inductive Event
  | tick (outcome : Tick)
  | stop

def System.start (analyzer : Analyzer) : System where
  analyzer := { analyzer with running := true }
  armed := true

/-- A tick comes from the timer, which is then gone unless the tick starts
another one. -/
def System.step (system : System) : Event → System
  | .tick outcome =>
      if system.armed then
        let ran := (periodicTasks newPlacement outcome).run system.analyzer
        { analyzer := ran.2, armed := ran.1.toOption = some true }
      else system
  | .stop => { system with analyzer := { system.analyzer with running := false } }

def System.run (system : System) (events : List Event) : System :=
  events.foldl (·.step newPlacement) system

/-! What the analyzer is for. -/

/-- The ticks until the analyzer is stopped. -/
def ticking : List Event → List Tick
  | [] => []
  | .stop :: _ => []
  | .tick outcome :: rest => outcome :: ticking rest

def place (device : Mac × Int) : Except Exc (Mac × DevicePlacement) := do
  let placement ← newPlacement secSwitch device.2
  pure (device.1, placement)

/-- The placements that samples give: of a device, that of its last sample. -/
def placementMap (duts : List Mac) (samples : List Sample) :
    Except Exc (Dict Mac DevicePlacement) := do
  let placements ← (samples.filterMap (placed duts)).mapM (place newPlacement)
  pure (Dict.empty.assign placements)

/-- The map of a tick whose fetch delivers the metric. -/
def Tick.delivered (duts : List Mac) (tick : Tick) : Option (Dict Mac DevicePlacement) :=
  tick.metrics.toOption.bind fun metrics =>
    (metrics.get? deviceLearningMetric).bind fun samples =>
      (placementMap newPlacement duts samples).toOption

/-- The map of the last tick that delivers one. -/
def lastDelivered (analyzer : Analyzer) (ticks : List Tick) : Dict Mac DevicePlacement :=
  ticks.foldl (fun placements tick => (tick.delivered newPlacement analyzer.duts).getD placements)
    analyzer.devicePlacements

/-- After a tick there is a timer unless the analyzer has been stopped, and the
placements are those that were delivered last. -/
def KeptUp (system : System) (before : List Event) (event : Event) : Prop :=
  ∀ outcome, event = .tick outcome →
    (.stop ∉ before → (system.run newPlacement (before ++ [event])).armed = true) ∧
      (system.run newPlacement (before ++ [event])).analyzer.devicePlacements =
        lastDelivered newPlacement system.analyzer (ticking (before ++ [event]))

/-- The configuration is read, and the metric is delivered with ports that can
be placed. -/
def Tick.Good (duts : List Mac) (tick : Tick) : Prop :=
  (∃ dps, tick.dpsConfig = .ok dps) ∧
    ∃ metrics, tick.metrics = .ok metrics ∧
      ∃ samples, metrics.get? deviceLearningMetric = some samples ∧
        ∀ device ∈ samples.filterMap (placed duts),
          ∃ placement, newPlacement secSwitch device.2 = .ok placement

variable {newPlacement} {analyzer : Analyzer} {sample : Sample} {samples : List Sample}

theorem placeSample_run_other (other : placed analyzer.duts sample = none) :
    (placeSample newPlacement sample).run analyzer = (.ok (), analyzer) := by
  rw [placeSample, Exec.read_bind_run, other]
  rfl

theorem placeSample_run_ok {device : Mac × Int} {entry : Mac × DevicePlacement}
    (here : placed analyzer.duts sample = some device)
    (made : place newPlacement device = .ok entry) :
    (placeSample newPlacement sample).run analyzer =
      (.ok (), { analyzer with
        devicePlacements := analyzer.devicePlacements.insert entry.1 entry.2 }) := by
  obtain ⟨placement, constructed, equality⟩ := bind_eq_ok_iff.mp made
  cases equality
  have returned : (Exec.ofExcept (newPlacement secSwitch device.2)).run analyzer =
      (.ok placement, analyzer) := by
    rw [constructed]
    rfl
  rw [placeSample, Exec.read_bind_run, here]
  exact Exec.bind_run_ok returned

theorem placeSample_run_error {device : Mac × Int} {raised : Exc}
    (here : placed analyzer.duts sample = some device)
    (failed : place newPlacement device = .error raised) :
    (placeSample newPlacement sample).run analyzer = (.error raised, analyzer) := by
  have constructed : newPlacement secSwitch device.2 = .error raised := by
    cases bind_eq_error_iff.mp failed with
    | inl raises => exact raises
    | inr later =>
        obtain ⟨_, _, impossible⟩ := later
        cases impossible
  rw [placeSample, Exec.read_bind_run, here]
  apply Exec.bind_run_error
  rw [constructed]
  rfl

theorem forEach_placeSample_ok {entries : List (Mac × DevicePlacement)}
    (made : (samples.filterMap (placed analyzer.duts)).mapM (place newPlacement) = .ok entries) :
    (Exec.forEach samples (placeSample newPlacement)).run analyzer =
      (.ok (), { analyzer with
        devicePlacements := analyzer.devicePlacements.assign entries }) := by
  induction samples generalizing analyzer entries with
  | nil =>
      cases made
      rfl
  | cons sample rest induction =>
      rw [Exec.forEach]
      cases here : placed analyzer.duts sample with
      | none =>
          rw [List.filterMap_cons_none here] at made
          rw [Exec.bind_run_ok (placeSample_run_other here), induction made]
      | some device =>
          rw [List.filterMap_cons_some here, List.mapM_cons] at made
          obtain ⟨entry, first, made⟩ := bind_eq_ok_iff.mp made
          obtain ⟨others, behind, equality⟩ := bind_eq_ok_iff.mp made
          cases equality
          apply (Exec.bind_run_ok (placeSample_run_ok here first)).trans
          exact induction behind

theorem forEach_placeSample_error {raised : Exc}
    (failed : (samples.filterMap (placed analyzer.duts)).mapM (place newPlacement) =
      .error raised) :
    ∃ reached, (Exec.forEach samples (placeSample newPlacement)).run analyzer =
      (.error raised, reached) := by
  induction samples generalizing analyzer with
  | nil => cases failed
  | cons sample rest induction =>
      rw [Exec.forEach]
      cases here : placed analyzer.duts sample with
      | none =>
          rw [List.filterMap_cons_none here] at failed
          rw [Exec.bind_run_ok (placeSample_run_other here)]
          exact induction failed
      | some device =>
          rw [List.filterMap_cons_some here, List.mapM_cons] at failed
          cases first : place newPlacement device with
          | error early =>
              rw [first] at failed
              cases failed
              exact ⟨_, Exec.bind_run_error (placeSample_run_error here first)⟩
          | ok entry =>
              rw [first, ok_bind] at failed
              rw [Exec.bind_run_ok (placeSample_run_ok here first)]
              cases bind_eq_error_iff.mp failed with
              | inl behind => exact induction behind
              | inr later =>
                  obtain ⟨_, _, impossible⟩ := later
                  cases impossible

theorem exists_entries_iff {devices : List (Mac × Int)} :
    (∃ entries, devices.mapM (place newPlacement) = .ok entries) ↔
      ∀ device ∈ devices, ∃ placement, newPlacement secSwitch device.2 = .ok placement := by
  rw [exists_mapM_iff]
  apply forall₂_congr
  intro device _
  constructor
  · intro ⟨entry, made⟩
    obtain ⟨placement, constructed, _⟩ := bind_eq_ok_iff.mp made
    exact ⟨placement, constructed⟩
  · intro ⟨placement, constructed⟩
    exact ⟨(device.1, placement), bind_eq_ok_iff.mpr ⟨placement, constructed, rfl⟩⟩

theorem updateDevicePlacements_run_ok {metrics : Dict String (List Sample)}
    {entries : List (Mac × DevicePlacement)}
    (present : metrics.get? deviceLearningMetric = some samples)
    (made : (samples.filterMap (placed analyzer.duts)).mapM (place newPlacement) = .ok entries) :
    (updateDevicePlacements newPlacement (.ok metrics)).run analyzer =
      (.ok (), { analyzer with devicePlacements := Dict.empty.assign entries }) := by
  rw [updateDevicePlacements, Exec.modify_bind_run, present]
  exact forEach_placeSample_ok made

theorem updateDevicePlacements_run_error
    {fetched : Except Exc (Dict String (List Sample))}
    (bad : ∀ metrics samples entries, fetched = .ok metrics →
      metrics.get? deviceLearningMetric = some samples →
      (samples.filterMap (placed analyzer.duts)).mapM (place newPlacement) ≠ .ok entries) :
    ∃ raised reached, (updateDevicePlacements newPlacement fetched).run analyzer =
      (.error raised, reached) := by
  cases fetched with
  | error _ => exact ⟨_, _, rfl⟩
  | ok metrics =>
      rw [updateDevicePlacements, Exec.modify_bind_run]
      cases present : metrics.get? deviceLearningMetric with
      | none => exact ⟨_, _, rfl⟩
      | some samples =>
          cases made : (samples.filterMap (placed analyzer.duts)).mapM (place newPlacement) with
          | ok entries => exact absurd made (bad metrics samples entries rfl present)
          | error raised => exact ⟨raised, forEach_placeSample_error made⟩

theorem periodicTasks_run_ok {tick : Tick} {dps : List (String × SwitchConfig)}
    (running : analyzer.running = true) (config : tick.dpsConfig = .ok dps) :
    (periodicTasks newPlacement tick).run analyzer =
      (updateDevicePlacements newPlacement tick.metrics >>= fun _ => pure true).run
        { analyzer with collector := { switchConfigs := Dict.empty.assign dps } } := by
  rw [periodicTasks, Exec.read_bind_run, if_pos running]
  apply Exec.bind_run_ok
  rw [reloadFaucetConfig, config]
  rfl

/-- A good tick takes the map of its metric over, and starts the timer. -/
theorem periodicTasks_good {tick : Tick} (running : analyzer.running = true)
    (good : tick.Good newPlacement analyzer.duts) :
    ∃ reached, (periodicTasks newPlacement tick).run analyzer = (.ok true, reached) ∧
      reached.running = true ∧ reached.duts = analyzer.duts ∧
      tick.delivered newPlacement analyzer.duts = some reached.devicePlacements := by
  obtain ⟨⟨dps, config⟩, metrics, fetched, samples, present, placeable⟩ := good
  obtain ⟨entries, made⟩ := exists_entries_iff.mpr placeable
  rw [periodicTasks_run_ok running config, fetched]
  refine ⟨_, Exec.bind_run_ok (updateDevicePlacements_run_ok present made), running, rfl, ?_⟩
  rw [Tick.delivered, fetched, Except.toOption, Option.bind_some, present, Option.bind_some,
    placementMap, made]
  rfl

/-- Any other tick raises before it starts the timer. -/
theorem good_of_periodicTasks {tick : Tick} {reached : Analyzer}
    (ran : (periodicTasks newPlacement tick).run analyzer = (.ok true, reached)) :
    tick.Good newPlacement analyzer.duts := by
  have running : analyzer.running = true := by
    by_contra stopped
    rw [periodicTasks, Exec.read_bind_run, if_neg stopped] at ran
    cases ran
  cases config : tick.dpsConfig with
  | error raised =>
      rw [periodicTasks, Exec.read_bind_run, if_pos running, reloadFaucetConfig, config] at ran
      cases ran
  | ok dps =>
      by_contra bad
      rw [periodicTasks_run_ok running config] at ran
      have raises : ∃ raised failed, (updateDevicePlacements newPlacement tick.metrics).run
          { analyzer with collector := { switchConfigs := Dict.empty.assign dps } } =
            (.error raised, failed) := by
        apply updateDevicePlacements_run_error
        intro metrics samples entries fetched present made
        exact bad ⟨⟨dps, config⟩, metrics, fetched, samples, present,
          exists_entries_iff.mp ⟨entries, made⟩⟩
      obtain ⟨raised, failed, raises⟩ := raises
      cases (Exec.bind_run_error raises).symm.trans ran

/-! One step, and then a whole history. -/

variable {system : System} {outcome : Tick} {events : List Event}

theorem step_good (armed : system.armed = true) (running : system.analyzer.running = true)
    (good : outcome.Good newPlacement system.analyzer.duts) :
    (system.step newPlacement (.tick outcome)).armed = true ∧
      (system.step newPlacement (.tick outcome)).analyzer.running = true ∧
      (system.step newPlacement (.tick outcome)).analyzer.duts = system.analyzer.duts ∧
      (system.step newPlacement (.tick outcome)).analyzer.devicePlacements =
        (outcome.delivered newPlacement system.analyzer.duts).getD
          system.analyzer.devicePlacements := by
  obtain ⟨reached, ran, runs, same, map⟩ := periodicTasks_good running good
  rw [System.step, if_pos armed]
  dsimp only
  rw [ran, map]
  exact ⟨rfl, runs, same, rfl⟩

theorem good_of_step (armed : system.armed = true)
    (rearmed : (system.step newPlacement (.tick outcome)).armed = true) :
    outcome.Good newPlacement system.analyzer.duts := by
  rw [System.step, if_pos armed] at rearmed
  dsimp only at rearmed
  cases ran : (periodicTasks newPlacement outcome).run system.analyzer with
  | mk returned reached =>
      rw [ran] at rearmed
      cases returned with
      | error raised => cases of_decide_eq_true rearmed
      | ok started =>
          cases of_decide_eq_true rearmed
          exact good_of_periodicTasks ran

theorem step_stopped (stopped : system.analyzer.running = false) (event : Event) :
    (system.step newPlacement event).analyzer = system.analyzer := by
  cases event with
  | stop => rw [System.step, ← stopped]
  | tick outcome =>
      rw [System.step]
      split
      · dsimp only
        rw [periodicTasks, Exec.read_bind_run, if_neg (by rw [stopped]; exact Bool.false_ne_true)]
        rfl
      · rfl

theorem run_stopped (stopped : system.analyzer.running = false) :
    (system.run newPlacement events).analyzer = system.analyzer := by
  induction events generalizing system with
  | nil => rfl
  | cons event rest induction =>
      have same : (system.step newPlacement event).analyzer = system.analyzer :=
        step_stopped stopped event
      have later : ((system.step newPlacement event).run newPlacement rest).analyzer =
          (system.step newPlacement event).analyzer := induction (by rw [same, stopped])
      exact later.trans same

theorem lastDelivered_cons (armed : system.armed = true)
    (running : system.analyzer.running = true)
    (good : outcome.Good newPlacement system.analyzer.duts) (ticks : List Tick) :
    lastDelivered newPlacement (system.step newPlacement (.tick outcome)).analyzer ticks =
      lastDelivered newPlacement system.analyzer (outcome :: ticks) := by
  obtain ⟨_, _, same, map⟩ := step_good armed running good
  rw [lastDelivered, lastDelivered, same, map, List.foldl_cons]

/-- Behind a good tick the history goes on from where it has led. -/
theorem keptUp_cons (armed : system.armed = true) (running : system.analyzer.running = true)
    (good : outcome.Good newPlacement system.analyzer.duts) :
    (fun before => KeptUp newPlacement system (.tick outcome :: before)) =
      KeptUp newPlacement (system.step newPlacement (.tick outcome)) := by
  funext before event
  simp only [KeptUp, List.cons_append, System.run, List.foldl_cons, ticking,
    lastDelivered_cons armed running good, List.mem_cons, reduceCtorEq, false_or]

theorem keptUp_good (armed : system.armed = true) (running : system.analyzer.running = true)
    (good : outcome.Good newPlacement system.analyzer.duts) :
    KeptUp newPlacement system [] (.tick outcome) := by
  intro _ _
  obtain ⟨rearmed, _, _, map⟩ := step_good armed running good
  exact ⟨fun _ => rearmed, map⟩

/-- Nothing happens to the placements of an analyzer that is stopped first. -/
theorem keptUp_stop (rest : List Event) :
    History.Always (KeptUp newPlacement system) (.stop :: rest) := by
  rw [History.always_cons]
  constructor
  · intro outcome impossible
    cases impossible
  · intro before event after _ outcome _
    constructor
    · exact fun never => absurd List.mem_cons_self never
    · have same : ((system.step newPlacement .stop).run newPlacement (before ++ [event])).analyzer =
          (system.step newPlacement .stop).analyzer := run_stopped rfl
      exact (congrArg Analyzer.devicePlacements same :)

/-- Which histories of a running analyzer it keeps up in. -/
theorem always_keptUp_iff (armed : system.armed = true)
    (running : system.analyzer.running = true) :
    History.Always (KeptUp newPlacement system) events ↔
      ∀ tick ∈ ticking events, tick.Good newPlacement system.analyzer.duts := by
  induction events generalizing system with
  | nil => exact ⟨fun _ => List.forall_mem_nil _, fun _ => History.always_nil⟩
  | cons event rest induction =>
      cases event with
      | stop => exact ⟨fun _ => List.forall_mem_nil _, fun _ => keptUp_stop rest⟩
      | tick outcome =>
          rw [History.always_cons, ticking, List.forall_mem_cons]
          constructor
          · intro ⟨here, behind⟩
            have good : outcome.Good newPlacement system.analyzer.duts :=
              good_of_step armed ((here outcome rfl).1 List.not_mem_nil)
            obtain ⟨rearmed, runs, same, _⟩ := step_good armed running good
            rw [keptUp_cons armed running good, induction rearmed runs, same] at behind
            exact ⟨good, behind⟩
          · intro ⟨good, behind⟩
            obtain ⟨rearmed, runs, same, _⟩ := step_good armed running good
            rw [keptUp_cons armed running good, induction rearmed runs, same]
            exact ⟨keptUp_good armed running good, behind⟩

theorem keepsRunning_iff (analyzer : Analyzer) (events : List Event) :
    History.Always (KeptUp newPlacement (System.start analyzer)) events ↔
      ∀ tick ∈ ticking events, tick.Good newPlacement analyzer.duts :=
  always_keptUp_iff rfl rfl

end Tasks

/-! An analyzer that learns where a device is, and whose next fetch fails. -/

namespace Fetching

def analyzer : Analyzer where
  duts := ["9a:02:57:1e:8f:01"]

def learned : Sample where
  labels := Dict.empty.assign [("dp_name", "sec"), ("eth_src", "9a:02:57:1e:8f:01")]
  value := 1

def delivering : Tick where
  dpsConfig := .ok []
  metrics := .ok (Dict.empty.insert deviceLearningMetric [learned])

def failing : Tick where
  dpsConfig := .ok []
  metrics := .error
    (.exception "Could not retrieve metrics ['learned_l2_port'] after 3 retries")

def newPlacement (switch : String) (port : Int) : Except Exc DevicePlacement :=
  if FitsInt32 port then .ok ⟨switch, port⟩
  else .error (.valueError ("Value out of range: " ++ toString port))

example : ((System.start analyzer).run newPlacement
    [.tick delivering, .tick delivering]).analyzer.devicePlacements.entries =
      [("9a:02:57:1e:8f:01", ⟨"sec", 1⟩)] := by
  decide +kernel

/-- The fetch that fails is the last thing the analyzer does. -/
theorem failing_not_kept_up : ¬ History.Always
    (KeptUp newPlacement (System.start analyzer)) [.tick delivering, .tick failing] := by
  intro always
  have good := (always_keptUp_iff rfl rfl).mp always failing
    (List.mem_cons_of_mem _ List.mem_cons_self)
  obtain ⟨_, metrics, fetched, _⟩ := good
  cases fetched

end Fetching

end Daq.TrafficAnalyzer
