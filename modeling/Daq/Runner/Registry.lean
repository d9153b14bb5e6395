import Daq.Runner.Devices

namespace Daq

namespace Devices

/-! Every key leads to a device with that MAC and a set id of its own, and
`_set_ids` holds exactly these ids. -/

structure Intact (devices : Devices) : Prop where
  keyed : ∀ {mac device}, devices.table.get? mac = some device →
    (devices.heap device).mac = mac
  numbered : ∀ {mac device}, devices.table.get? mac = some device →
    (devices.heap device).setId ≠ none
  distinct : ∀ {mac other device second}, devices.table.get? mac = some device →
    devices.table.get? other = some second →
    (devices.heap device).setId = (devices.heap second).setId → device = second
  ids : ∀ setId, setId ∈ devices.setIds ↔ ∃ mac device,
    devices.table.get? mac = some device ∧ (devices.heap device).setId = some setId

/-- Registered devices are objects that were made. -/
def Allocated (devices : Devices) : Prop :=
  ∀ {mac device}, devices.table.get? mac = some device → device < devices.next

/-- The registry is the same, and so is every device in it. -/
structure SameRegistry (before after : Devices) : Prop where
  table : after.table = before.table
  setIds : after.setIds = before.setIds
  heap : ∀ {mac device}, before.table.get? mac = some device →
    after.heap device = before.heap device

theorem SameRegistry.rfl {devices : Devices} : SameRegistry devices devices :=
  ⟨Eq.refl _, Eq.refl _, fun _ => Eq.refl _⟩

/-- A call of the registry by the runner. -/
inductive Call
  | newDevice (mac : Mac) (port : PortId) (portNo vlan : Option Nat)
  | createIfAbsent (mac : Mac) (port : PortId) (portNo vlan : Option Nat)
  | remove (device : DeviceId)

namespace Call

def perform : Call → Exec Devices Exc Unit
  | .newDevice mac port portNo vlan => do
      let _ ← Devices.newDevice mac port portNo vlan
      pure ()
  | .createIfAbsent mac port portNo vlan => do
      let _ ← Devices.createIfAbsent mac port portNo vlan
      pure ()
  | .remove device => Devices.remove device

/-- The state after a call, raising calls included. -/
def step (call : Call) (devices : Devices) : Devices := (call.perform.run devices).2

/-- A device that is new to the registry does not come with the number of a
port whose number is in use as a set id. -/
def PortFree (devices : Devices) : Call → Prop
  | .newDevice mac _ portNo _ | .createIfAbsent mac _ portNo _ =>
      devices.table.get? mac = none → Truthy portNo → portNo.getD 0 ∉ devices.setIds
  | .remove _ => True

/-- What a call is to leave behind: an intact registry, and the very same one
if it raised. -/
def Sound (call : Call) (devices : Devices) : Prop :=
  (call.step devices).Intact ∧
    (∀ raised, (call.perform.run devices).1 = .error raised →
      SameRegistry devices (call.step devices))

end Call

theorem chooseSetId_taken {devices : Devices} {portNo : Option Nat}
    (taken : devices.chooseSetId portNo ∈ devices.setIds) :
    Truthy portNo ∧ portNo.getD 0 ∈ devices.setIds := by
  unfold chooseSetId at taken
  split at taken
  · rename_i truthy
    exact ⟨truthy, taken⟩
  · exact absurd taken devices.allocateSetId_fresh

section NewDevice

variable {devices : Devices} {mac : Mac} (port : PortId) (portNo vlan : Option Nat)

/-- The registry after a device was added completely. -/
def added (devices : Devices) (mac : Mac) (port : PortId) (portNo vlan : Option Nat) :
    Devices :=
  { devices.enter mac port vlan with
    heap := Function.update devices.heap devices.next
      { mac := mac, port := port, vlan := vlan,
        setId := some (devices.chooseSetId portNo) }
    setIds := insert (devices.chooseSetId portNo) devices.setIds }

theorem newDevice_present (present : devices.table.get? mac ≠ none) :
    (newDevice mac port portNo vlan).run devices =
      (.error (.assertionError s!"Device with mac: {mac} is already added."),
        devices) := by
  unfold newDevice
  rw [Exec.get_bind_run]
  exact Exec.require_bind_run_not _ _ present

theorem newDevice_taken {portNo : Option Nat} (absent : devices.table.get? mac = none)
    (taken : devices.chooseSetId portNo ∈ devices.setIds) :
    (newDevice mac port portNo vlan).run devices =
      (.error (.assertionError s!"Duplicate device set id {devices.chooseSetId portNo}"),
        devices.enter mac port vlan) := by
  unfold newDevice
  rw [Exec.get_bind_run, Exec.require_bind_run _ _ absent, Exec.modify_bind_run, Exec.read_bind_run]
  exact Exec.require_bind_run_not _ _ (not_not_intro taken)

theorem newDevice_fresh {portNo : Option Nat} (absent : devices.table.get? mac = none)
    (fresh : devices.chooseSetId portNo ∉ devices.setIds) :
    (newDevice mac port portNo vlan).run devices =
      (.ok devices.next, devices.added mac port portNo vlan) := by
  unfold newDevice
  rw [Exec.get_bind_run, Exec.require_bind_run _ _ absent, Exec.modify_bind_run, Exec.read_bind_run]
  refine (Exec.require_bind_run _ _ fresh).trans ?_
  rw [Exec.modify_bind_run, Exec.pure_run]
  simp only [added, enter, update, Function.update_self, Function.update_idem]
  rfl

variable {port portNo vlan}

theorem added_lookup {other : Mac} {device : DeviceId}
    (stored : (devices.added mac port portNo vlan).table.get? other = some device) :
    (other = mac ∧ device = devices.next) ∨
      (other ≠ mac ∧ devices.table.get? other = some device) := by
  simp only [added, enter, Dict.get?_insert] at stored
  split at stored
  · rename_i same
    exact .inl ⟨same, (Option.some.inj stored).symm⟩
  · rename_i different
    exact .inr ⟨different, stored⟩

theorem added_heap_of_lt {device : DeviceId} (old : device < devices.next) :
    (devices.added mac port portNo vlan).heap device = devices.heap device :=
  Function.update_of_ne (Nat.ne_of_lt old) _ _

theorem added_heap_next :
    (devices.added mac port portNo vlan).heap devices.next =
      { mac := mac, port := port, vlan := vlan,
        setId := some (devices.chooseSetId portNo) } :=
  Function.update_self _ _ _

variable (port portNo vlan) in
theorem added_allocated (allocated : devices.Allocated) :
    (devices.added mac port portNo vlan).Allocated := by
  intro other device stored
  rcases added_lookup stored with ⟨_, rfl⟩ | ⟨_, old⟩
  · exact Nat.lt_succ_self _
  · exact Nat.lt_succ_of_lt (allocated old)

theorem added_intact (intact : devices.Intact) (allocated : devices.Allocated)
    (absent : devices.table.get? mac = none)
    (fresh : devices.chooseSetId portNo ∉ devices.setIds) :
    (devices.added mac port portNo vlan).Intact := by
  -- an old device cannot have the id that was chosen
  have unused : ∀ {other device}, devices.table.get? other = some device →
      (devices.heap device).setId ≠ some (devices.chooseSetId portNo) := by
    intro other device old equality
    exact fresh ((intact.ids _).mpr ⟨other, device, old, equality⟩)
  refine ⟨?_, ?_, ?_, ?_⟩
  · intro other device stored
    rcases added_lookup stored with ⟨rfl, rfl⟩ | ⟨_, old⟩
    · rw [added_heap_next]
    · rw [added_heap_of_lt (allocated old)]
      exact intact.keyed old
  · intro other device stored
    rcases added_lookup stored with ⟨rfl, rfl⟩ | ⟨_, old⟩
    · rw [added_heap_next]
      simp
    · rw [added_heap_of_lt (allocated old)]
      exact intact.numbered old
  · intro other third device second stored storedSecond equality
    rcases added_lookup stored with ⟨_, rfl⟩ | ⟨_, old⟩
    · rcases added_lookup storedSecond with ⟨_, rfl⟩ | ⟨_, oldSecond⟩
      · rfl
      · rw [added_heap_next, added_heap_of_lt (allocated oldSecond)] at equality
        exact absurd equality.symm (unused oldSecond)
    · rcases added_lookup storedSecond with ⟨_, rfl⟩ | ⟨_, oldSecond⟩
      · rw [added_heap_next, added_heap_of_lt (allocated old)] at equality
        exact absurd equality (unused old)
      · rw [added_heap_of_lt (allocated old),
          added_heap_of_lt (allocated oldSecond)] at equality
        exact intact.distinct old oldSecond equality
  · intro setId
    constructor
    · intro member
      rcases Finset.mem_insert.mp member with rfl | member
      · refine ⟨mac, devices.next, ?_, ?_⟩
        · exact Dict.get?_insert_self _ _ _
        · rw [added_heap_next]
      · obtain ⟨other, device, old, equality⟩ := (intact.ids setId).mp member
        refine ⟨other, device, ?_, ?_⟩
        · have different : other ≠ mac := by
            rintro rfl
            rw [absent] at old
            cases old
          exact (Dict.get?_insert_of_ne _ _ different).trans old
        · rw [added_heap_of_lt (allocated old)]
          exact equality
    · rintro ⟨other, device, stored, equality⟩
      rcases added_lookup stored with ⟨_, rfl⟩ | ⟨_, old⟩
      · rw [added_heap_next] at equality
        exact Finset.mem_insert.mpr (.inl (Option.some.inj equality).symm)
      · rw [added_heap_of_lt (allocated old)] at equality
        exact Finset.mem_insert.mpr
          (.inr ((intact.ids setId).mpr ⟨other, device, old, equality⟩))

theorem enter_not_same (absent : devices.table.get? mac = none) :
    ¬ SameRegistry devices (devices.enter mac port vlan) := by
  intro same
  have stored : (devices.enter mac port vlan).table.get? mac = some devices.next :=
    Dict.get?_insert_self _ _ _
  rw [same.table, absent] at stored
  cases stored

end NewDevice

section Remove

variable {devices : Devices} {device : DeviceId}

/-- The registry after a device was removed completely. -/
def removed (devices : Devices) (device : DeviceId) (setId : Nat) : Devices :=
  { devices with
    table := devices.table.erase (devices.heap device).mac
    setIds := devices.setIds.erase setId }

theorem remove_absent (absent : ¬ devices.Contains device) :
    (remove device).run devices =
      (.error (.assertionError
          ("Device " ++ sanitizeMac (devices.heap device).mac ++ " not found.")),
        devices) := by
  unfold remove
  rw [Exec.get_bind_run]
  exact Exec.require_bind_run_not _ _ absent

theorem remove_numbered {setId : Nat} (present : devices.Contains device)
    (numbered : (devices.heap device).setId = some setId)
    (member : setId ∈ devices.setIds) :
    (remove device).run devices = (.ok (), devices.removed device setId) := by
  unfold remove
  rw [Exec.get_bind_run]
  refine (Exec.require_bind_run _ _ present).trans ?_
  rw [Exec.modify_bind_run]
  simp only [numbered]
  rw [Exec.require_bind_run _ _ member]
  rfl

theorem removed_lookup {setId : Nat} {mac : Mac} {other : DeviceId}
    (stored : (devices.removed device setId).table.get? mac = some other) :
    mac ≠ (devices.heap device).mac ∧ devices.table.get? mac = some other := by
  simp only [removed, Dict.get?_erase] at stored
  split at stored
  · cases stored
  · rename_i different
    exact ⟨different, stored⟩

theorem removed_intact {setId : Nat} (intact : devices.Intact)
    (present : devices.Contains device)
    (numbered : (devices.heap device).setId = some setId) :
    (devices.removed device setId).Intact := by
  refine ⟨?_, ?_, ?_, ?_⟩
  · intro mac other stored
    exact intact.keyed (removed_lookup stored).2
  · intro mac other stored
    exact intact.numbered (removed_lookup stored).2
  · intro mac third other second stored storedSecond equality
    exact intact.distinct (removed_lookup stored).2 (removed_lookup storedSecond).2 equality
  · intro candidate
    constructor
    · intro member
      obtain ⟨different, member⟩ := Finset.mem_erase.mp member
      obtain ⟨mac, other, old, equality⟩ := (intact.ids candidate).mp member
      refine ⟨mac, other, ?_, equality⟩
      have elsewhere : mac ≠ (devices.heap device).mac := by
        rintro rfl
        have same : other = device := Option.some.inj (old.symm.trans present)
        rw [same, numbered] at equality
        exact different (Option.some.inj equality).symm
      exact (Dict.get?_erase_of_ne _ elsewhere).trans old
    · rintro ⟨mac, other, stored, equality⟩
      obtain ⟨elsewhere, old⟩ := removed_lookup stored
      refine Finset.mem_erase.mpr
        ⟨?_, (intact.ids candidate).mpr ⟨mac, other, old, equality⟩⟩
      rintro rfl
      have same := intact.distinct old present (equality.trans numbered.symm)
      subst same
      exact elsewhere (intact.keyed old).symm

end Remove

theorem empty_intact : empty.Intact where
  keyed := fun stored => by cases stored
  numbered := fun stored => by cases stored
  distinct := fun stored => by cases stored
  ids := by
    intro setId
    constructor
    · intro member
      exact absurd member (Finset.notMem_empty _)
    · rintro ⟨_, _, stored, _⟩
      cases stored

namespace Call

variable {devices : Devices}

theorem newDevice_sound_iff (intact : devices.Intact) (allocated : devices.Allocated)
    (mac : Mac) (port : PortId) (portNo vlan : Option Nat) :
    (Call.newDevice mac port portNo vlan).Sound devices ↔
      (Call.newDevice mac port portNo vlan).PortFree devices := by
  by_cases absent : devices.table.get? mac = none
  · by_cases taken : devices.chooseSetId portNo ∈ devices.setIds
    · have outcome := newDevice_taken port vlan absent taken
      constructor
      · rintro ⟨_, unchanged⟩
        have same := unchanged (.assertionError
          s!"Duplicate device set id {devices.chooseSetId portNo}") (by
            simp only [perform, Bind.bind, outcome])
        simp only [step, perform, Bind.bind, outcome] at same
        exact absurd same (enter_not_same absent)
      · intro free
        obtain ⟨truthy, member⟩ := chooseSetId_taken taken
        exact absurd member (free absent truthy)
    · have outcome := newDevice_fresh port vlan absent taken
      constructor
      · intro _ _ truthy member
        simp only [chooseSetId, truthy, ↓reduceIte] at taken
        exact taken member
      · intro _
        refine ⟨?_, ?_⟩
        · simp only [step, perform, Bind.bind, outcome, Exec.pure_run]
          exact added_intact intact allocated absent taken
        · intro raised equality
          simp [perform, Bind.bind, outcome] at equality
  · have outcome := newDevice_present port portNo vlan absent
    constructor
    · intro _ present
      exact absurd present absent
    · intro _
      simp only [Sound, step, perform, Bind.bind, outcome]
      exact ⟨intact, fun _ _ => .rfl⟩

theorem createIfAbsent_absent {mac : Mac} {port : PortId} {portNo vlan : Option Nat}
    (absent : devices.table.get? mac = none) :
    (Call.createIfAbsent mac port portNo vlan).perform.run devices =
      (Call.newDevice mac port portNo vlan).perform.run devices := by
  simp [perform, Devices.createIfAbsent, Bind.bind, Exec.read, absent]

theorem createIfAbsent_sound_iff (intact : devices.Intact) (allocated : devices.Allocated)
    (mac : Mac) (port : PortId) (portNo vlan : Option Nat) :
    (Call.createIfAbsent mac port portNo vlan).Sound devices ↔
      (Call.createIfAbsent mac port portNo vlan).PortFree devices := by
  by_cases absent : devices.table.get? mac = none
  · have same := newDevice_sound_iff intact allocated mac port portNo vlan
    simp only [Sound, step, createIfAbsent_absent absent] at same ⊢
    exact same
  · constructor
    · intro _ present
      exact absurd present absent
    · intro _
      obtain ⟨previous, stored⟩ := Option.ne_none_iff_exists'.mp absent
      have unchanged : (Call.createIfAbsent mac port portNo vlan).perform.run devices =
          (.ok (), devices) := by
        simp [perform, Devices.createIfAbsent, Bind.bind, Exec.read, stored]
      simp only [Sound, step, unchanged]
      exact ⟨intact, fun _ _ => .rfl⟩

theorem remove_sound (intact : devices.Intact) (device : DeviceId) :
    (Call.remove device).Sound devices := by
  by_cases present : devices.Contains device
  · obtain ⟨setId, numbered⟩ := Option.ne_none_iff_exists'.mp (intact.numbered present)
    have member : setId ∈ devices.setIds :=
      (intact.ids setId).mpr ⟨_, device, present, numbered⟩
    have outcome := remove_numbered present numbered member
    refine ⟨?_, ?_⟩
    · simp only [step, perform, outcome]
      exact removed_intact intact present numbered
    · intro raised equality
      simp [perform, outcome] at equality
  · simp only [Sound, step, perform, remove_absent present]
    exact ⟨intact, fun _ _ => .rfl⟩

theorem sound_iff_portFree (intact : devices.Intact) (allocated : devices.Allocated) :
    ∀ call : Call, call.Sound devices ↔ call.PortFree devices
  | .newDevice mac port portNo vlan => newDevice_sound_iff intact allocated mac port portNo vlan
  | .createIfAbsent mac port portNo vlan =>
      createIfAbsent_sound_iff intact allocated mac port portNo vlan
  | .remove device => ⟨fun _ => trivial, fun _ => remove_sound intact device⟩

theorem newDevice_allocated (allocated : devices.Allocated) (mac : Mac)
    (port : PortId) (portNo vlan : Option Nat) :
    ((Call.newDevice mac port portNo vlan).step devices).Allocated := by
  simp only [step, perform, Bind.bind]
  by_cases absent : devices.table.get? mac = none
  · by_cases taken : devices.chooseSetId portNo ∈ devices.setIds
    · rw [newDevice_taken port vlan absent taken]
      exact added_allocated port portNo vlan allocated
    · rw [newDevice_fresh port vlan absent taken]
      exact added_allocated port portNo vlan allocated
  · rw [newDevice_present port portNo vlan absent]
    exact allocated

theorem step_allocated (allocated : devices.Allocated) :
    ∀ call : Call, (call.step devices).Allocated
  | .newDevice mac port portNo vlan => newDevice_allocated allocated mac port portNo vlan
  | .createIfAbsent mac port portNo vlan => by
      by_cases absent : devices.table.get? mac = none
      · rw [step, createIfAbsent_absent absent]
        exact newDevice_allocated allocated mac port portNo vlan
      · obtain ⟨previous, stored⟩ := Option.ne_none_iff_exists'.mp absent
        simp [step, perform, Devices.createIfAbsent, Bind.bind, Exec.read, stored]
        exact allocated
  | .remove device => by
      have inside : (Devices.remove device).Within (Frame.invariant Allocated) := by
        unfold Devices.remove
        refine Exec.within_bind Exec.within_get fun before => ?_
        refine Exec.within_bind (Exec.within_require _) fun _ => ?_
        refine Exec.within_bind (Exec.within_modify ?_) fun _ => ?_
        · intro state old mac other stored
          rw [Dict.get?_erase] at stored
          split at stored
          · cases stored
          · exact old stored
        · split
          · exact Exec.within_raise _
          · exact Exec.within_bind (Exec.within_require _) fun _ =>
              Exec.within_modify fun _ old => old
      exact inside devices allocated

end Call

/-- In every registry reached by calls that respect the set ids in use, the
registry is intact, and a call is sound exactly when it respects them too. -/
theorem reached_intact_and_sound_iff_portFree {devices : Devices}
    (reached : Reaches Call.step Call.PortFree empty devices) :
    devices.Intact ∧ ∀ call : Call, call.Sound devices ↔ call.PortFree devices := by
  have invariant : devices.Intact ∧ devices.Allocated := by
    refine reached.invariant (fun state => state.Intact ∧ state.Allocated) ?_ ?_
    · exact ⟨empty_intact, fun stored => by cases stored⟩
    · rintro state call ⟨intact, allocated⟩ free
      exact ⟨((call.sound_iff_portFree intact allocated).mpr free).1,
        call.step_allocated allocated⟩
  exact ⟨invariant.1, Call.sound_iff_portFree invariant.1 invariant.2⟩

/-- A first device on port 1 is sound, a second MAC on the same port is not. -/
theorem second_mac_on_port_not_sound :
    ¬ (Call.newDevice "9a:02:57:1e:8f:02" 0 (some 1) none).Sound
        ((Call.newDevice "9a:02:57:1e:8f:01" 0 (some 1) none).step empty) := by
  have reached : Reaches Call.step Call.PortFree empty
      ((Call.newDevice "9a:02:57:1e:8f:01" 0 (some 1) none).step empty) :=
    .step _ .start (fun _ _ => Finset.notMem_empty _)
  rw [(reached_intact_and_sound_iff_portFree reached).2]
  intro free
  exact free (by decide) (by decide) (by decide)

/-- Learning a second MAC on a port in use leaves a device without a set id in
the registry. -/
theorem not_every_registry_intact :
    ¬ ∀ devices : Devices, Reaches Call.step (fun _ _ => True) empty devices →
      devices.Intact ∧ ∀ call : Call, call.Sound devices := by
  intro always
  have first := always _ (.step (.newDevice "9a:02:57:1e:8f:01" 0 (some 1) none) .start trivial)
  have second := first.2 (.newDevice "9a:02:57:1e:8f:02" 0 (some 1) none)
  have stored : (Call.step (.newDevice "9a:02:57:1e:8f:02" 0 (some 1) none)
      (Call.step (.newDevice "9a:02:57:1e:8f:01" 0 (some 1) none) empty)).table.get?
        "9a:02:57:1e:8f:02" = some 1 := by decide
  exact second.1.numbered stored (by decide)

end Devices

end Daq
