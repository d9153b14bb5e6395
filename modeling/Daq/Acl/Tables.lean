import Daq.Acl.Interfaces
import Daq.Acl.Portset
import Daq.Lib.Filled

namespace Daq.Acl

/-! What the two switches have at each port. -/

theorem mem_getGwPorts_iff {portSet port : Nat} :
    port ∈ getGwPorts portSet ↔ port / 10 = portSet ∧ port % 10 < 6 := by
  simp only [getGwPorts, List.mem_map, List.mem_range]
  constructor
  · rintro ⟨offset, low, rfl⟩
    omega
  · rintro ⟨rfl, low⟩
    exact ⟨port % 10, low, by omega⟩

theorem SwitchSetup.mem_portNumbers_iff {setup : SwitchSetup} {port : Nat} :
    port ∈ setup.portNumbers ↔ 1 ≤ port ∧ port < setup.secPort := by
  simp only [SwitchSetup.portNumbers, List.mem_map, List.mem_range]
  constructor
  · rintro ⟨offset, low, rfl⟩
    omega
  · rintro ⟨positive, low⟩
    exact ⟨port - 1, by omega, by omega⟩

variable {setup : SwitchSetup} {interfaces : Dict Nat Interface} {port : Nat}

/-! The secondary switch. -/

section Secondary

variable (made : makeSecInterfaces setup = .ok interfaces)

include made

theorem secInterfaces_port (numbered : port ∈ setup.portNumbers) :
    interfaces.get? port = some (makeSecPortInterface setup port) := by
  obtain ⟨trunk, _, done⟩ := Fallible.bind_eq_ok_iff.mp made
  cases done
  exact Dict.get?_foldl_insert id _ Function.injective_id _ _ numbered

theorem secInterfaces_trunk :
    ∃ trunk, makeSecTrunkInterface setup = .ok trunk ∧
      interfaces.get? setup.secPort = some trunk := by
  obtain ⟨trunk, trunked, done⟩ := Fallible.bind_eq_ok_iff.mp made
  cases done
  refine ⟨trunk, trunked, ?_⟩
  refine (Dict.get?_foldl_insert_of_ne id _ _ ?_).trans (Dict.get?_insert_self _ _ _)
  rintro number inside rfl
  exact Nat.lt_irrefl _ (SwitchSetup.mem_portNumbers_iff.mp inside).2

theorem mem_keys_secInterfaces_iff :
    port ∈ interfaces.keys ↔ port ∈ setup.portNumbers ∨ port = setup.secPort := by
  obtain ⟨trunk, _, done⟩ := Fallible.bind_eq_ok_iff.mp made
  cases done
  refine (Dict.mem_keys_foldl_insert_iff id).trans ?_
  rw [Dict.mem_keys_insert_iff]
  simp [Dict.keys, Dict.empty, or_comm]

end Secondary

/-! The primary switch. -/

theorem get?_addPortSet (portSet : Nat) :
    (addPortSet setup interfaces portSet).get? port =
      if port = mirrorPort portSet then some (makeMirrorInterface portSet)
      else if port ∈ getGwPorts portSet then some (makeGwInterface setup portSet)
      else interfaces.get? port := by
  unfold addPortSet
  rw [Dict.get?_insert]
  refine if_congr Iff.rfl rfl ?_
  split
  · rename_i own
    exact Dict.get?_foldl_insert id _ Function.injective_id _ _ own
  · rename_i other
    refine Dict.get?_foldl_insert_of_ne id _ _ fun number inside same => ?_
    exact other (same ▸ inside)

theorem mem_keys_addPortSet_iff (portSet : Nat) :
    port ∈ (addPortSet setup interfaces portSet).keys ↔
      port ∈ interfaces.keys ∨ port ∈ getGwPorts portSet ∨ port = mirrorPort portSet := by
  rw [Dict.mem_keys_iff, get?_addPortSet, Dict.mem_keys_iff]
  split
  · simp_all
  · split
    · simp_all
    · simp_all

theorem mem_keys_portSets_iff (numbers : List Nat) :
    port ∈ (numbers.foldl (addPortSet setup) interfaces).keys ↔
      port ∈ interfaces.keys ∨
        ∃ portSet ∈ numbers, port ∈ getGwPorts portSet ∨ port = mirrorPort portSet := by
  induction numbers generalizing interfaces with
  | nil => simp
  | cons portSet rest later =>
      rw [List.foldl_cons, later, mem_keys_addPortSet_iff, List.exists_mem_cons_iff, or_assoc]

/-- A list that an interface of the primary switch may apply: that of the trunk,
of its port set or of the local switch. -/
inductive PriList (setup : SwitchSetup) : Nat → String → Prop
  | trunk : PriList setup priTrunkPort (incomingAclName priName)
  | gateway {portSet port : Nat} (numbered : portSet ∈ setup.portNumbers)
      (own : port ∈ getGwPorts portSet) : PriList setup port (portsetAclName priName portSet)
  | switch : PriList setup switchLocalPort (localAclName priName)

def Applies (setup : SwitchSetup) (port : Nat) (interface : Interface) : Prop :=
  ∀ name, interface.aclIn = some name → PriList setup port name

theorem addPortSet_applies {portSet : Nat} (numbered : portSet ∈ setup.portNumbers)
    (before : ∀ port interface, interfaces.get? port = some interface → Applies setup port interface) :
    ∀ port interface, (addPortSet setup interfaces portSet).get? port = some interface →
      Applies setup port interface := by
  refine Dict.forall_get?_insert ?_ ?_
  · refine Dict.forall_get?_foldl_insert id before ?_
    rintro port own name applied
    cases applied
    exact .gateway numbered own
  · rintro name applied
    cases applied

theorem portSets_applies {numbers : List Nat} (numbered : ∀ number ∈ numbers, number ∈ setup.portNumbers)
    (before : ∀ port interface, interfaces.get? port = some interface → Applies setup port interface) :
    ∀ port interface, (numbers.foldl (addPortSet setup) interfaces).get? port = some interface →
      Applies setup port interface := by
  induction numbers generalizing interfaces with
  | nil => exact before
  | cons portSet rest later =>
      have first := addPortSet_applies (numbered portSet List.mem_cons_self) before
      simp only [List.foldl_cons]
      exact later (fun number inside => numbered number (List.mem_cons_of_mem _ inside)) first

theorem makePriTrunkInterface_aclIn {trunk : Interface}
    (made : makePriTrunkInterface setup = .ok trunk) :
    trunk.aclIn = some (incomingAclName priName) := by
  unfold makePriTrunkInterface at made
  split at made
  · cases made
    rfl
  · obtain ⟨tags, _, done⟩ := Fallible.bind_eq_ok_iff.mp made
    cases done
    rfl

section Primary

variable (made : makePriInterfaces setup = .ok interfaces)

include made

theorem mem_keys_priInterfaces_iff :
    port ∈ interfaces.keys ↔ port = switchLocalPort ∨ port = ofppInPort ∨ port = priTrunkPort ∨
      ∃ portSet ∈ setup.portNumbers, port ∈ getGwPorts portSet ∨ port = mirrorPort portSet := by
  obtain ⟨trunk, _, done⟩ := Fallible.bind_eq_ok_iff.mp made
  cases done
  rw [Dict.mem_keys_insert_iff, mem_keys_portSets_iff, Dict.mem_keys_insert_iff,
    Dict.mem_keys_insert_iff]
  simp [Dict.keys, Dict.empty, or_assoc]

theorem priInterfaces_acl {interface : Interface} {name : String}
    (present : interfaces.get? port = some interface) (applied : interface.aclIn = some name) :
    PriList setup port name := by
  obtain ⟨trunk, trunked, done⟩ := Fallible.bind_eq_ok_iff.mp made
  cases done
  have trunkList : Applies setup priTrunkPort trunk := by
    intro name applied
    rw [makePriTrunkInterface_aclIn trunked, Option.some.injEq] at applied
    exact applied ▸ .trunk
  have start : ∀ port interface,
      ((Dict.empty : Dict Nat Interface).insert priTrunkPort trunk).get? port = some interface →
        Applies setup port interface :=
    Dict.forall_get?_insert (fun _ _ absent => nomatch absent) trunkList
  have opened := Dict.forall_get?_insert start
    (show Applies setup ofppInPort makeInPortInterface from fun _ silent => nomatch silent)
  refine Dict.forall_get?_insert (portSets_applies (fun _ inside => inside) opened) ?_ _ _
    present _ applied
  intro name applied
  cases applied
  exact .switch

end Primary

end Daq.Acl
