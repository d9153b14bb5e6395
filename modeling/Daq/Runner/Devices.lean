import Daq.Data
import Daq.Lib.Reach

namespace Daq

namespace Devices

def empty : Devices where
  table := .empty
  setIds := ∅
  heap := fun _ => { mac := "", port := 0 }
  next := 0

def device (devices : Devices) (device : DeviceId) : Device := devices.heap device

def update (devices : Devices) (device : DeviceId) (change : Device → Device) :
    Devices :=
  { devices with heap := Function.update devices.heap device (change (devices.heap device)) }

/-- The search of `_allocate_set_id`; the fuel is the number of ids in use,
which is enough (`allocateSetId_fresh`). -/
def allocateFrom (setIds : Finset Nat) : Nat → Nat → Nat
  | 0, candidate => candidate
  | fuel + 1, candidate =>
      if candidate ∈ setIds then allocateFrom setIds fuel (candidate + 1)
      else candidate

def allocateSetId (devices : Devices) : Nat :=
  allocateFrom devices.setIds devices.setIds.card 1

/-- The registry with an entry for a device that has no set id yet. -/
def enter (devices : Devices) (mac : Mac) (port : PortId) (vlan : Option Nat) :
    Devices :=
  { devices with
    heap := Function.update devices.heap devices.next
      { mac := mac, port := port, vlan := vlan }
    next := devices.next + 1
    table := devices.table.insert mac devices.next }

/-- The set id a device gets: its port number if that is truthy. -/
def chooseSetId (devices : Devices) (portNo : Option Nat) : Nat :=
  if Truthy portNo then portNo.getD 0 else devices.allocateSetId

/-- Adding a new device.  The entry is made before the set id is checked. -/
def newDevice (mac : Mac) (port : PortId) (portNo vlan : Option Nat) :
    Exec Devices Exc DeviceId := do
  let before ← Exec.get
  Exec.require (before.table.get? mac = none)
    (.assertionError s!"Device with mac: {mac} is already added.")
  Exec.modify fun devices => devices.enter mac port vlan
  let setId ← Exec.read fun devices => devices.chooseSetId portNo
  Exec.require (setId ∉ before.setIds)
    (.assertionError s!"Duplicate device set id {setId}")
  Exec.modify fun devices =>
    { devices.update before.next fun entry => { entry with setId := some setId } with
      setIds := insert setId devices.setIds }
  pure before.next

/-- Create a new device if none found, else return the previous one. -/
def createIfAbsent (mac : Mac) (port : PortId) (portNo vlan : Option Nat) :
    Exec Devices Exc DeviceId := do
  let table ← Exec.read Devices.table
  match table.get? mac with
  | some previous => pure previous
  | none => newDevice mac port portNo vlan

def Contains (devices : Devices) (device : DeviceId) : Prop :=
  devices.table.get? (devices.heap device).mac = some device

instance (devices : Devices) (device : DeviceId) : Decidable (devices.Contains device) :=
  inferInstanceAs (Decidable (_ = _))

/-- Removing a device. -/
def remove (device : DeviceId) : Exec Devices Exc Unit := do
  let before ← Exec.get
  Exec.require (before.Contains device)
    (.assertionError ("Device " ++ sanitizeMac (before.heap device).mac ++ " not found."))
  Exec.modify fun devices => { devices with
    table := devices.table.erase (devices.heap device).mac }
  match (before.heap device).setId with
  | none => Exec.raise (.keyError "None")
  | some setId => do
      Exec.require (setId ∈ before.setIds) (.keyError s!"{setId}")
      Exec.modify fun devices => { devices with setIds := devices.setIds.erase setId }

theorem allocateFrom_fresh (setIds : Finset Nat) :
    ∀ (fuel candidate : Nat), (setIds.filter (candidate ≤ ·)).card ≤ fuel →
      allocateFrom setIds fuel candidate ∉ setIds
  | 0, candidate, bound => by
      intro member
      have nothing : setIds.filter (candidate ≤ ·) = ∅ :=
        Finset.card_eq_zero.mp (Nat.le_zero.mp bound)
      have inside : candidate ∈ setIds.filter (candidate ≤ ·) :=
        Finset.mem_filter.mpr ⟨member, le_refl _⟩
      rw [nothing] at inside
      exact Finset.notMem_empty _ inside
  | fuel + 1, candidate, bound => by
      unfold allocateFrom
      split
      · rename_i taken
        apply allocateFrom_fresh setIds fuel (candidate + 1)
        have smaller : setIds.filter (candidate + 1 ≤ ·) ⊂
            setIds.filter (candidate ≤ ·) := by
          rw [Finset.ssubset_iff_of_subset]
          · refine ⟨candidate, Finset.mem_filter.mpr ⟨taken, le_refl _⟩, ?_⟩
            simp
          · intro value member
            rw [Finset.mem_filter] at member ⊢
            exact ⟨member.1, by omega⟩
        have := Finset.card_lt_card smaller
        omega
      · assumption

theorem allocateSetId_fresh (devices : Devices) :
    devices.allocateSetId ∉ devices.setIds :=
  allocateFrom_fresh devices.setIds _ _ (Finset.card_filter_le _ _)

end Devices

end Daq
