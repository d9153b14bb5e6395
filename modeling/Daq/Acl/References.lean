import Daq.Acl.Tables
import Daq.Lib.Reach

namespace Daq.Acl

/-! Whatever the configuration of FAUCET refers to, a file, a list or a port, is
there. -/

/-! The ports that the lists output to. -/

/-- All rules output to ports of a kind. -/
def OutputsTo (kind : Nat → Prop) (rules : List Rule) : Prop :=
  ∀ rule ∈ rules, ∀ port ∈ rule.outputs, kind port

namespace OutputsTo

variable {kind : Nat → Prop} {rules more : List Rule}

theorem nil : OutputsTo kind [] := fun _ member => absurd member List.not_mem_nil

theorem append (first : OutputsTo kind rules) (second : OutputsTo kind more) :
    OutputsTo kind (rules ++ more) := fun rule member =>
  (List.mem_append.mp member).elim (first rule) (second rule)

theorem cons {rule : Rule} (first : OutputsTo kind [rule]) (rest : OutputsTo kind rules) :
    OutputsTo kind (rule :: rules) := first.append rest

theorem flatMap {α : Type} {elements : List α} {part : α → List Rule}
    (each : ∀ element ∈ elements, OutputsTo kind (part element)) :
    OutputsTo kind (elements.flatMap part) := by
  intro rule member
  obtain ⟨element, inside, emitted⟩ := List.mem_flatMap.mp member
  exact each element inside rule emitted

theorem single {kwargs : Keywords} (allowed : ∀ port ∈ kwargs.port.toList ++ kwargs.ports.getD [],
    kind port) : OutputsTo kind [kwargs.rule] := by
  intro rule member port output
  rw [List.mem_singleton.mp member, Keywords.rule_outputs] at output
  exact allowed port output

theorem add {kwargs : Keywords} {after : List Rule} (before : OutputsTo kind rules)
    (added : addAclRule rules kwargs = .ok after)
    (allowed : ∀ port ∈ kwargs.port.toList ++ kwargs.ports.getD [], kind port) :
    OutputsTo kind after := by
  obtain ⟨rule, made, done⟩ := Fallible.bind_eq_ok_iff.mp added
  cases done
  unfold makeAclRule at made
  split at made
  · cases made
  · cases made
    exact before.append (single allowed)

theorem mono {wider : Nat → Prop} (weaken : ∀ port, kind port → wider port)
    (outputs : OutputsTo kind rules) : OutputsTo wider rules :=
  fun rule member port output => weaken port (outputs rule member port output)

end OutputsTo

/-- The rules for the 802.1X frames of one device at the trunk of the secondary
switch. -/
def secondaryRules (topology : FaucetTopology) (device : Attached) : List Rule :=
  if device.gateway.isSome ∧ Truthy device.portNo then
    [{ ethType := some dot1xEthType, ports := some [device.portNo.getD 0],
        vlanVid := some (.vid (getPortVlan topology device.portNo)) : Keywords }.rule]
  else []

theorem addDot1xDevice_secondary {topology : FaucetTopology} {acls after : List Rule × List Rule}
    {device : Attached} (added : addDot1xDevice topology acls device = .ok after) :
    after.2 = acls.2 ++ secondaryRules topology device := by
  unfold addDot1xDevice at added
  unfold secondaryRules
  cases attached : device.gateway with
  | none =>
      rw [attached] at added
      cases added
      exact (List.append_nil _).symm
  | some portSet =>
      rw [attached] at added
      obtain ⟨incoming, _, added⟩ := Fallible.bind_eq_ok_iff.mp added
      obtain ⟨secondary, second, added⟩ := Fallible.bind_eq_ok_iff.mp added
      cases added
      split at second
      · rename_i placed
        have tagged : Truthy (some (getPortVlan topology device.portNo)) := portSetVlan_truthy _
        rw [addDot1xAllowRule, if_pos tagged, addAclRule_ok rfl] at second
        cases second
        rw [if_pos ⟨rfl, placed⟩]
        rfl
      · rename_i unplaced
        cases second
        rw [if_neg fun both => unplaced both.2, List.append_nil]

/-- The ports of the primary switch. -/
def PriPort (setup : SwitchSetup) (port : Nat) : Prop :=
  port = switchLocalPort ∨ port = ofppInPort ∨ port = priTrunkPort ∨
    ∃ portSet ∈ setup.portNumbers, port ∈ getGwPorts portSet ∨ port = mirrorPort portSet

/-- The ports of the secondary switch. -/
def SecPort (setup : SwitchSetup) (port : Nat) : Prop :=
  port ∈ setup.portNumbers ∨ port = setup.secPort

/-- What the lists are generated for is connected to the switches: live targets
and attached devices are on device ports, gateways have port sets. -/
structure Wired (setup : SwitchSetup) (topology : FaucetTopology) : Prop where
  uplink : topology.secPort = setup.secPort
  targets : ∀ target ∈ topology.targets, target.port ∈ setup.portNumbers
  gateways : ∀ device ∈ topology.devices, ∀ portSet, device.gateway = some portSet →
    portSet ∈ setup.portNumbers
  devices : ∀ device ∈ topology.devices, ∀ port, device.portNo = some port →
    port ∈ setup.portNumbers

namespace Wired

variable {setup : SwitchSetup} {topology : FaucetTopology} (wired : Wired setup topology)

include wired

theorem numbers : topology.portNumbers = setup.portNumbers := by
  unfold FaucetTopology.portNumbers SwitchSetup.portNumbers
  rw [wired.uplink]

theorem mirror_port {tuple : Mac × Nat} {tuples : List (Mac × Nat)}
    (listed : tuples ∈ topology.mirrors.values) (member : tuple ∈ tuples) :
    PriPort setup tuple.2 := by
  obtain ⟨portSet, rfl⟩ := mem_mirrors_values listed
  obtain ⟨target, inside, rfl⟩ := List.mem_map.mp member
  have live : target ∈ topology.targets := (List.mem_filter.mp inside).1
  exact .inr (.inr (.inr ⟨target.port, wired.targets target live, .inr rfl⟩))

theorem mirrorRules_outputs {tuples : List (Mac × Nat)}
    (listed : tuples ∈ topology.mirrors.values) {source : Mac × Nat} (member : source ∈ tuples) :
    OutputsTo (PriPort setup) (mirrorRules tuples source) := by
  have own := wired.mirror_port listed member
  have broadcast : OutputsTo (PriPort setup) [broadcastRule tuples source] := by
    refine .single fun port output => ?_
    obtain ⟨tuple, inside, rfl⟩ := List.mem_map.mp output
    exact wired.mirror_port listed inside
  have pairs : OutputsTo (PriPort setup) (tuples.flatMap (pairRules source)) := by
    refine .flatMap fun destination inside => ?_
    unfold pairRules
    split
    · refine .single fun port output => ?_
      rcases List.mem_pair.mp output with rfl | rfl
      · exact own
      · exact wired.mirror_port listed inside
    · exact .nil
  have rest : OutputsTo (PriPort setup) [sourceRule source] :=
    .single fun port output => List.mem_singleton.mp output ▸ own
  exact broadcast.append (pairs.append rest)

theorem dot1xRules_outputs {device : Attached} (attached : device ∈ topology.devices) :
    OutputsTo (PriPort setup) (dot1xRules topology device) := by
  unfold dot1xRules
  cases gateway : device.gateway with
  | none => exact .nil
  | some portSet =>
      refine .single fun port output => ?_
      have own : port ∈ getGwPorts portSet := by
        obtain ⟨offset, low, rfl⟩ := List.mem_map.mp output
        rw [List.mem_range] at low
        rw [mem_getGwPorts_iff]
        omega
      exact .inr (.inr (.inr ⟨portSet, wired.gateways device attached portSet gateway, .inl own⟩))

omit wired in
theorem dhcpRules_outputs : OutputsTo (PriPort setup) (dhcpRules topology) := by
  unfold dhcpRules
  split
  · refine .append (.flatMap fun device _ => .cons ?_ ?_) (.cons ?_ ?_)
    · exact .single fun port output => .inr (.inl (List.mem_singleton.mp output))
    · exact .single fun port output => .inr (.inl (List.mem_singleton.mp output))
    · exact .single fun _ output => absurd output List.not_mem_nil
    · exact .single fun _ output => absurd output List.not_mem_nil
  · exact .nil

theorem priIncoming_outputs {acls : MainAcls} (generated : generateMainAcls topology = .ok acls) :
    OutputsTo (PriPort setup) acls.priIncoming := by
  rw [generateMainAcls_incoming generated]
  refine .append (.flatMap fun _ => wired.dot1xRules_outputs) (.append ?_ (.append ?_ ?_))
  · refine .flatMap fun tuples listed => .flatMap fun source member => ?_
    exact wired.mirrorRules_outputs listed member
  · exact dhcpRules_outputs
  · exact .single fun _ output => absurd output List.not_mem_nil

theorem portset_outputs {acls : MainAcls} (generated : generateMainAcls topology = .ok acls)
    {portSet : Nat} (numbered : portSet ∈ setup.portNumbers) :
    ∃ rules, acls.portsets.get? portSet = some rules ∧ OutputsTo (PriPort setup) rules := by
  refine ⟨_, generateMainAcls_portset generated (wired.numbers ▸ numbered), ?_⟩
  have mirrored {target : PortTarget} (member : target ∈ topology.members portSet) :
      PriPort setup (mirrorPort target.port) := by
    have live : target ∈ topology.targets := (List.mem_filter.mp member).1
    exact .inr (.inr (.inr ⟨target.port, wired.targets target live, .inr rfl⟩))
  refine .append ?_ (.append (.append ?_ ?_) (.cons ?_ ?_))
  · unfold localRules
    split
    · exact .single fun port output => .inl (List.mem_singleton.mp output)
    · exact .nil
  · intro rule member
    obtain ⟨target, inside, rfl⟩ := List.mem_map.mp member
    refine OutputsTo.single (fun port output => ?_) _ (List.mem_singleton_self _)
    rw [List.mem_singleton.mp output]
    exact mirrored inside
  · split
    · exact .nil
    · refine .single fun port output => ?_
      have listed : port ∈ ((topology.members portSet).map mirrorTuple).map Prod.snd ++
          [switchLocalPort] := output
      rcases List.mem_append.mp listed with mirror | switch
      · rw [List.map_map] at mirror
        obtain ⟨target, inside, rfl⟩ := List.mem_map.mp mirror
        exact mirrored inside
      · exact .inl (List.mem_singleton.mp switch)
  · exact .single fun port output => .inr (.inr (.inl (List.mem_singleton.mp output)))
  · exact .single fun _ output => absurd output List.not_mem_nil

theorem secIncoming_outputs {acls : MainAcls} (generated : generateMainAcls topology = .ok acls) :
    OutputsTo (SecPort setup) acls.secIncoming := by
  unfold generateMainAcls at generated
  obtain ⟨dot1x, first, generated⟩ := Fallible.bind_eq_ok_iff.mp generated
  obtain ⟨⟨_, _⟩, _, generated⟩ := Fallible.bind_eq_ok_iff.mp generated
  obtain ⟨⟨_, _⟩, _, generated⟩ := Fallible.bind_eq_ok_iff.mp generated
  obtain ⟨⟨_, _⟩, _, generated⟩ := Fallible.bind_eq_ok_iff.mp generated
  obtain ⟨_, _, generated⟩ := Fallible.bind_eq_ok_iff.mp generated
  rw [addAclRule_ok rfl, Fallible.ok_bind] at generated
  obtain ⟨secondary, last, generated⟩ := Fallible.bind_eq_ok_iff.mp generated
  obtain ⟨_, _, generated⟩ := Fallible.bind_eq_ok_iff.mp generated
  cases generated
  have started : dot1x.2 = [] ++ topology.devices.flatMap (secondaryRules topology) :=
    Fallible.foldlM_appends Prod.snd (secondaryRules topology)
      (fun _ _ _ => addDot1xDevice_secondary) first
  refine OutputsTo.add ?_ last fun _ output => absurd output List.not_mem_nil
  rw [started, List.nil_append]
  refine .flatMap fun device attached => ?_
  unfold secondaryRules
  split
  · rename_i placed
    refine .single fun port output => .inl ?_
    cases known : device.portNo with
    | none => exact absurd (known ▸ placed.2) fun wrong => wrong rfl
    | some number =>
        have same : port = device.portNo.getD 0 := List.mem_singleton.mp output
        rw [same, known]
        exact wired.devices device attached number known
  · exact .nil

theorem priLocal_outputs {acls : MainAcls} (generated : generateMainAcls topology = .ok acls) :
    OutputsTo (PriPort setup) acls.priLocal := by
  unfold generateMainAcls at generated
  obtain ⟨_, _, generated⟩ := Fallible.bind_eq_ok_iff.mp generated
  obtain ⟨⟨_, localAcl⟩, first, generated⟩ := Fallible.bind_eq_ok_iff.mp generated
  obtain ⟨⟨_, _⟩, _, generated⟩ := Fallible.bind_eq_ok_iff.mp generated
  obtain ⟨⟨_, _⟩, _, generated⟩ := Fallible.bind_eq_ok_iff.mp generated
  obtain ⟨_, _, generated⟩ := Fallible.bind_eq_ok_iff.mp generated
  rw [addAclRule_ok rfl, Fallible.ok_bind, addAclRule_ok rfl, Fallible.ok_bind] at generated
  obtain ⟨_, _, generated⟩ := Fallible.bind_eq_ok_iff.mp generated
  cases generated
  obtain ⟨⟨portsets, allPorts⟩, loop, last⟩ := Fallible.bind_eq_ok_iff.mp first
  have gateways : ∀ port ∈ allPorts, ∃ portSet ∈ setup.portNumbers, port ∈ getGwPorts portSet := by
    split at loop
    · have all : allPorts = [] ++ topology.portNumbers.flatMap getGwPorts := by
        refine Fallible.foldlM_appends Prod.snd getGwPorts ?_ loop
        rintro state number after step
        obtain ⟨_, _, step⟩ := Fallible.bind_eq_ok_iff.mp step
        cases step
        rfl
      intro port member
      rw [all, List.nil_append] at member
      obtain ⟨portSet, numbered, own⟩ := List.mem_flatMap.mp member
      exact ⟨portSet, wired.numbers ▸ numbered, own⟩
    · cases loop
      exact fun _ member => absurd member List.not_mem_nil
  dsimp only at last
  rw [addAclRule_ok rfl] at last
  cases last
  refine OutputsTo.single fun port output => ?_
  obtain ⟨portSet, numbered, own⟩ := gateways port output
  exact .inr (.inr (.inr ⟨portSet, numbered, .inl own⟩))

theorem portAcl_outputs {port : Nat} {rules : List Rule}
    (generated : generatePortAcl topology port = .ok rules) :
    OutputsTo (SecPort setup) rules := by
  intro rule member output outputs
  by_cases uplink : output = topology.secPort
  · exact .inr (uplink.trans wired.uplink)
  · obtain ⟨source, acl, emits⟩ := emits_of_output generated member outputs uplink
    obtain ⟨specs, controller, target, admits, rfl⟩ := emits.admits outputs uplink
    obtain ⟨bridge, _, resolves⟩ := admits.resolves
    exact .inl (wired.targets target resolves.live)

end Wired

/-! The names of lists and files. -/

theorem toString_injective : Function.Injective (toString : Nat → String) := by
  intro first second same
  have digits : Nat.toDigits 10 first = Nat.toDigits 10 second := by
    simpa [Nat.toString_eq_repr] using congrArg String.toList same
  have back := congrArg (fun digits => Nat.ofDigitChars 10 digits 0) digits
  simpa using back

theorem portsetAclName_injective (dp : String) : Function.Injective (portsetAclName dp) := by
  intro first second same
  unfold portsetAclName at same
  rw [String.append_left_inj, String.append_right_inj] at same
  exact toString_injective same

theorem portAclName_injective (dp : String) : Function.Injective (portAclName dp) := by
  intro first second same
  unfold portAclName at same
  rw [String.append_left_inj, String.append_right_inj] at same
  exact toString_injective same

theorem portAclFile_injective (dp : String) : Function.Injective (portAclFile dp) := by
  intro first second same
  unfold portAclFile at same
  rw [String.append_left_inj, String.append_right_inj] at same
  exact toString_injective same

theorem portAclFile_ne (dp : String) (port : Nat) : portAclFile dp port ≠ dpAclFile := by
  intro same
  have letters := congrArg String.toList same
  have directory : "port_acls/dp_".toList = 'p' :: "ort_acls/dp_".toList := by decide +kernel
  have file : dpAclFile.toList = 'd' :: "p_port_acls.yaml".toList := by decide +kernel
  unfold portAclFile at letters
  iterate 4 rewrite [String.toList_append] at letters
  rewrite [directory, file] at letters
  cases letters

/-- The names in the main file, each with the ports its list may output to. -/
inductive MainName (setup : SwitchSetup) : String → (Nat → Prop) → Prop
  | incoming : MainName setup (incomingAclName priName) (PriPort setup)
  | secondary : MainName setup (incomingAclName secName) (SecPort setup)
  | gateway {portSet : Nat} (numbered : portSet ∈ setup.portNumbers) :
      MainName setup (portsetAclName priName portSet) (PriPort setup)
  | switch : MainName setup (localAclName priName) (PriPort setup)

variable {setup : SwitchSetup} {topology : FaucetTopology}

theorem MainName.ne_portAcl {name : String} {kind : Nat → Prop} (main : MainName setup name kind)
    (port : Nat) : name ≠ portAclName secName port := by
  intro same
  have letters := congrArg String.toList same
  cases main with
  | incoming => simp [incomingAclName, portAclName, priName, secName, String.toList_append] at letters
  | secondary => simp [incomingAclName, portAclName, secName, String.toList_append] at letters
  | gateway _ => simp [portsetAclName, portAclName, priName, secName, String.toList_append] at letters
  | switch => simp [localAclName, portAclName, priName, secName, String.toList_append] at letters

theorem incoming_ne_secondary : incomingAclName priName ≠ incomingAclName secName := by
  intro same
  have letters := congrArg String.toList same
  simp [incomingAclName, priName, secName] at letters

theorem incoming_ne_switch (dp : String) (named : dp = priName ∨ dp = secName) :
    incomingAclName dp ≠ localAclName priName := by
  intro same
  have letters := congrArg String.toList same
  rcases named with rfl | rfl
  · simp [incomingAclName, localAclName, priName] at letters
  · simp [incomingAclName, localAclName, priName, secName] at letters

theorem portset_ne_switch (portSet : Nat) :
    portsetAclName priName portSet ≠ localAclName priName := by
  intro same
  have letters := congrArg String.toList same
  simp [portsetAclName, localAclName, priName, String.toList_append] at letters

theorem incoming_ne_portset (dp : String) (named : dp = priName ∨ dp = secName) (portSet : Nat) :
    incomingAclName dp ≠ portsetAclName priName portSet := by
  intro same
  have letters := congrArg String.toList same
  rcases named with rfl | rfl
  · simp [incomingAclName, portsetAclName, priName, String.toList_append] at letters
  · simp [incomingAclName, portsetAclName, priName, secName, String.toList_append] at letters

/-- The main file has a list for each of its names, and no other. -/
structure Main (setup : SwitchSetup) (file : AclFile) : Prop where
  listed : ∀ name kind, MainName setup name kind →
    ∃ rules, file.get? name = some rules ∧ OutputsTo kind rules
  only : ∀ name ∈ file.keys, ∃ kind, MainName setup name kind

theorem mainAclFile_main (wired : Wired setup topology) {acls : MainAcls}
    (generated : generateMainAcls topology = .ok acls) : Main setup (mainAclFile topology acls) where
  listed := by
    intro name kind main
    unfold mainAclFile
    cases main with
    | incoming =>
        refine ⟨acls.priIncoming, ?_, wired.priIncoming_outputs generated⟩
        rw [Dict.get?_insert_of_ne _ _ (incoming_ne_switch _ (.inl rfl)),
          Dict.get?_foldl_insert_of_ne _ _ _ fun portSet _ => incoming_ne_portset _ (.inl rfl) portSet,
          Dict.get?_insert_of_ne _ _ incoming_ne_secondary, Dict.get?_insert_self]
    | secondary =>
        refine ⟨acls.secIncoming, ?_, wired.secIncoming_outputs generated⟩
        rw [Dict.get?_insert_of_ne _ _ (incoming_ne_switch _ (.inr rfl)),
          Dict.get?_foldl_insert_of_ne _ _ _ fun portSet _ => incoming_ne_portset _ (.inr rfl) portSet,
          Dict.get?_insert_self]
    | @gateway portSet numbered =>
        obtain ⟨rules, found, outputs⟩ := wired.portset_outputs generated numbered
        refine ⟨rules, ?_, outputs⟩
        rw [Dict.get?_insert_of_ne _ _ (portset_ne_switch portSet),
          Dict.get?_foldl_insert _ _ (portsetAclName_injective priName) _ _
            (wired.numbers ▸ numbered), found]
        rfl
    | switch =>
        exact ⟨acls.priLocal, Dict.get?_insert_self _ _ _, wired.priLocal_outputs generated⟩
  only := by
    intro name member
    unfold mainAclFile at member
    rw [Dict.mem_keys_insert_iff, Dict.mem_keys_foldl_insert_iff, Dict.mem_keys_insert_iff,
      Dict.mem_keys_insert_iff] at member
    rcases member with rfl | (rfl | rfl | absent) | ⟨portSet, inside, rfl⟩
    · exact ⟨_, .switch⟩
    · exact ⟨_, .secondary⟩
    · exact ⟨_, .incoming⟩
    · exact absurd absent List.not_mem_nil
    · exact ⟨_, .gateway (wired.numbers ▸ inside)⟩

theorem PriList.mainName {port : Nat} {name : String} (list : PriList setup port name) :
    MainName setup name (PriPort setup) := by
  cases list with
  | trunk => exact .incoming
  | gateway numbered _ => exact .gateway numbered
  | switch => exact .switch

/-! The files through the generations. -/

def MainFiled (setup : SwitchSetup) (files : AclFiles) : Prop :=
  ∃ file, files.get? dpAclFile = some file ∧ Main setup file

def PortFiled (setup : SwitchSetup) (port : Nat) (files : AclFiles) : Prop :=
  ∃ rules, files.get? (portAclFile secName port) =
      some (Dict.empty.insert (portAclName secName port) rules) ∧
    OutputsTo (SecPort setup) rules

/-- All files are there, and in order. -/
structure Filed (setup : SwitchSetup) (files : AclFiles) : Prop where
  main : MainFiled setup files
  ports : ∀ port ∈ setup.portNumbers, PortFiled setup port files

/-- A file that is in order stays so. -/
structure Keeps (setup : SwitchSetup) (before after : AclFiles) : Prop where
  main : MainFiled setup before → MainFiled setup after
  ports : ∀ port, PortFiled setup port before → PortFiled setup port after

/-- Writing keeps the files in order. -/
def filing (setup : SwitchSetup) : Daq.Frame AclFiles where
  rel := Keeps setup
  refl _ := ⟨id, fun _ => id⟩
  trans first second := ⟨second.main ∘ first.main, fun port => second.ports port ∘ first.ports port⟩

theorem writeMainAcls_holds (wired : Wired setup topology) (files : AclFiles) :
    (writeMainAcls topology).Holds files fun outcome after =>
      (outcome = .ok () → MainFiled setup after) ∧ Keeps setup files after := by
  unfold writeMainAcls
  rw [Exec.holds_bind, Exec.holds_ofExcept]
  cases generated : generateMainAcls topology with
  | error raised => exact ⟨(nomatch ·), (filing setup).refl files⟩
  | ok acls =>
      rw [Exec.then_ok, Exec.holds_modify]
      have written : MainFiled setup (files.insert dpAclFile (mainAclFile topology acls)) :=
        ⟨_, Dict.get?_insert_self _ _ _, mainAclFile_main wired generated⟩
      refine ⟨fun _ => written, fun _ => written, fun port => ?_⟩
      rintro ⟨rules, found, outputs⟩
      exact ⟨rules, (Dict.get?_insert_of_ne _ _ (portAclFile_ne secName port)).trans found, outputs⟩

theorem writePortAcl_holds (wired : Wired setup topology) (port : Nat) (files : AclFiles) :
    (writePortAcl topology port).Holds files fun outcome after =>
      (outcome = .ok () → PortFiled setup port after) ∧ Keeps setup files after := by
  unfold writePortAcl
  rw [Exec.holds_bind, Exec.holds_ofExcept]
  cases generated : generatePortAcl topology port with
  | error raised => exact ⟨(nomatch ·), (filing setup).refl files⟩
  | ok rules =>
      rw [Exec.then_ok, Exec.holds_modify]
      have written : PortFiled setup port (files.insert (portAclFile secName port)
          (Dict.empty.insert (portAclName secName port) rules)) :=
        ⟨rules, Dict.get?_insert_self _ _ _, wired.portAcl_outputs generated⟩
      refine ⟨fun _ => written, ?_, fun other => ?_⟩
      · rintro ⟨file, found, main⟩
        exact ⟨file, (Dict.get?_insert_of_ne _ _ (portAclFile_ne secName port).symm).trans found,
          main⟩
      · rintro ⟨stored, found, outputs⟩
        by_cases same : other = port
        · exact same ▸ written
        · have apart : portAclFile secName other ≠ portAclFile secName port :=
            fun names => same (portAclFile_injective secName names)
          exact ⟨stored, (Dict.get?_insert_of_ne _ _ apart).trans found, outputs⟩

/-- A generation that returns has brought all files in order; one that raises
leaves those in order that were. -/
theorem generateAcls_holds (wired : Wired setup topology) (files : AclFiles) :
    (generateAcls topology).Holds files fun outcome after =>
      (outcome = .ok () → Filed setup after) ∧ Keeps setup files after := by
  unfold generateAcls
  refine (writeMainAcls_holds wired files).bind
    (fun _ _ kept => ⟨(nomatch ·), kept.2⟩) fun _ reached kept => ?_
  refine Exec.holds_forEach
    (fun remaining state => Keeps setup files state ∧ MainFiled setup state ∧
      ∀ port ∈ setup.portNumbers, port ∉ remaining → PortFiled setup port state) ?_ ?_ _ ?_
  · rintro state ⟨all, main, ports⟩
    exact ⟨fun _ => ⟨main, fun port numbered => ports port numbered List.not_mem_nil⟩, all⟩
  · rintro port rest state ⟨all, main, ports⟩
    refine (writePortAcl_holds wired port state).mono fun outcome after wrote => ⟨fun returned => ?_, ?_⟩
    · refine ⟨(filing setup).trans all wrote.2, wrote.2.main main, fun other numbered done => ?_⟩
      by_cases same : other = port
      · exact same ▸ wrote.1 returned
      · exact wrote.2.ports other (ports other numbered fun ahead =>
          (List.mem_cons.mp ahead).elim same done)
    · rintro raised rfl
      exact ⟨(nomatch ·), (filing setup).trans all wrote.2⟩
  · exact ⟨kept.2, kept.1 rfl, fun port numbered done => absurd (wired.numbers ▸ numbered) done⟩

/-- The directory after one more generation. -/
def regenerate (topology : FaucetTopology) (files : AclFiles) : AclFiles :=
  ((generateAcls topology).run files).2

/-- No reference of a configuration leads nowhere. -/
structure Closed (network : NetworkTopology) (files : AclFiles) : Prop where
  included : ∀ file ∈ network.includes, ∃ acls, files.get? file = some acls
  /-- The list an interface applies is in one of the files, and outputs to ports
  of the interface's own switch. -/
  applied : ∀ dp plane port interface name, network.dps.get? dp = some plane →
    plane.interfaces.get? port = some interface → interface.aclIn = some name →
    ∃ file ∈ network.includes, ∃ acls rules, files.get? file = some acls ∧
      acls.get? name = some rules ∧ OutputsTo (· ∈ plane.interfaces.keys) rules
  /-- No list is given twice. -/
  once : ∀ file ∈ network.includes, ∀ other ∈ network.includes, ∀ acls others name,
    files.get? file = some acls → files.get? other = some others →
    name ∈ acls.keys → name ∈ others.keys → file = other

/-- The switches of a topology. -/
theorem makeBaseNetworkTopology_dps {network : NetworkTopology}
    (made : makeBaseNetworkTopology setup = .ok network) {dp : String} {plane : Dataplane}
    (present : network.dps.get? dp = some plane) :
    makePriInterfaces setup = .ok plane.interfaces ∧ dp = priName ∨
      makeSecInterfaces setup = .ok plane.interfaces ∧ dp = secName := by
  obtain ⟨pri, first, made⟩ := Fallible.bind_eq_ok_iff.mp made
  obtain ⟨dps, second, made⟩ := Fallible.bind_eq_ok_iff.mp made
  cases made
  dsimp only at present
  have priOnly {dp : String} {plane : Dataplane}
      (found : ((Dict.empty : Dict String Dataplane).insert priName
        { dpId := priDpid, interfaces := pri }).get? dp = some plane) :
      makePriInterfaces setup = .ok plane.interfaces ∧ dp = priName := by
    rw [Dict.get?_insert] at found
    split at found
    · rename_i named
      cases found
      exact ⟨first, named⟩
    · cases found
  split at second
  · obtain ⟨sec, third, second⟩ := Fallible.bind_eq_ok_iff.mp second
    cases second
    rw [Dict.get?_insert] at present
    split at present
    · rename_i named
      cases present
      exact .inr ⟨third, named⟩
    · exact .inl (priOnly present)
  · cases second
    exact .inl (priOnly present)

theorem makeBaseNetworkTopology_includes {network : NetworkTopology}
    (made : makeBaseNetworkTopology setup = .ok network) :
    network.includes = makeAclInclude setup := by
  obtain ⟨_, _, made⟩ := Fallible.bind_eq_ok_iff.mp made
  obtain ⟨_, _, made⟩ := Fallible.bind_eq_ok_iff.mp made
  cases made
  rfl

/-- The name of a list tells its file. -/
theorem Filed.file_of_name {files : AclFiles} (filed : Filed setup files) {file name : String}
    {acls : AclFile} (included : file ∈ makeAclInclude setup) (found : files.get? file = some acls)
    (named : name ∈ acls.keys) :
    (file = dpAclFile ∧ ∃ kind, MainName setup name kind) ∨
      ∃ port, file = portAclFile secName port ∧ name = portAclName secName port := by
  rcases List.mem_cons.mp included with rfl | included
  · obtain ⟨stored, there, main⟩ := filed.main
    cases there.symm.trans found
    exact .inl ⟨rfl, main.only name named⟩
  · obtain ⟨port, numbered, rfl⟩ := List.mem_map.mp included
    obtain ⟨rules, there, _⟩ := filed.ports port numbered
    obtain rfl := Option.some.inj (there.symm.trans found)
    rcases Dict.mem_keys_insert_iff.mp named with rfl | absent
    · exact .inr ⟨port, rfl, rfl⟩
    · exact absurd absent List.not_mem_nil

theorem Filed.closed {files : AclFiles} (filed : Filed setup files) {network : NetworkTopology}
    (made : makeBaseNetworkTopology setup = .ok network) : Closed network files where
  included := by
    intro file member
    rw [makeBaseNetworkTopology_includes made] at member
    rcases List.mem_cons.mp member with rfl | member
    · obtain ⟨acls, found, _⟩ := filed.main
      exact ⟨acls, found⟩
    · obtain ⟨port, numbered, rfl⟩ := List.mem_map.mp member
      obtain ⟨rules, found, _⟩ := filed.ports port numbered
      exact ⟨_, found⟩
  applied := by
    intro dp plane port interface name present found applied
    rw [makeBaseNetworkTopology_includes made]
    rcases makeBaseNetworkTopology_dps made present with ⟨primary, _⟩ | ⟨secondary, _⟩
    · obtain ⟨acls, filed, main⟩ := filed.main
      obtain ⟨rules, listed, outputs⟩ := main.listed name _
        (priInterfaces_acl primary found applied).mainName
      refine ⟨dpAclFile, List.mem_cons_self, acls, rules, filed, listed, ?_⟩
      exact outputs.mono fun port kind => (mem_keys_priInterfaces_iff primary).mpr kind
    · have within {rules : List Rule} (outputs : OutputsTo (SecPort setup) rules) :
          OutputsTo (· ∈ plane.interfaces.keys) rules :=
        outputs.mono fun port kind => (mem_keys_secInterfaces_iff secondary).mpr kind
      rcases (mem_keys_secInterfaces_iff secondary).mp (Dict.mem_keys_iff.mpr ⟨_, found⟩) with
        numbered | rfl
      · cases (secInterfaces_port secondary numbered).symm.trans found
        cases applied
        obtain ⟨rules, filed, outputs⟩ := filed.ports port numbered
        exact ⟨portAclFile secName port, List.mem_cons_of_mem _ (List.mem_map_of_mem numbered), _,
          rules, filed, Dict.get?_insert_self _ _ _, within outputs⟩
      · obtain ⟨trunk, made, there⟩ := secInterfaces_trunk secondary
        cases there.symm.trans found
        obtain ⟨tags, _, done⟩ := Fallible.bind_eq_ok_iff.mp made
        cases done
        cases applied
        obtain ⟨acls, filed, main⟩ := filed.main
        obtain ⟨rules, listed, outputs⟩ := main.listed _ _ .secondary
        exact ⟨dpAclFile, List.mem_cons_self, acls, rules, filed, listed, within outputs⟩
  once := by
    intro file member other member' acls others name found found' inside inside'
    rw [makeBaseNetworkTopology_includes made] at member member'
    rcases filed.file_of_name member found inside with ⟨rfl, kind, main⟩ | ⟨port, rfl, rfl⟩
    · rcases filed.file_of_name member' found' inside' with ⟨rfl, _⟩ | ⟨port, rfl, rfl⟩
      · rfl
      · exact absurd rfl (main.ne_portAcl port)
    · rcases filed.file_of_name member' found' inside' with ⟨rfl, kind, main⟩ | ⟨number, rfl, same⟩
      · exact absurd rfl (main.ne_portAcl port)
      · rw [portAclName_injective secName same]

/-- Whatever the runner asks of the switches, and whichever generations of the
lists raise half-way: the configuration of FAUCET refers to nothing that is
missing. -/
theorem references_resolve {setup : SwitchSetup} {network : NetworkTopology}
    (made : makeBaseNetworkTopology setup = .ok network) {first : FaucetTopology}
    (wired : Wired setup first) {before start files : AclFiles}
    (initialized : (generateAcls first).run before = (.ok (), start))
    (reached : Reaches regenerate (fun _ topology => Wired setup topology) start files) :
    Closed network files := by
  have begun : Filed setup start := by
    have holds := generateAcls_holds wired before
    unfold Exec.Holds at holds
    rw [initialized] at holds
    exact holds.1 rfl
  have filed := reached.invariant (Filed setup) begun fun files topology filed wired => ?_
  · exact filed.closed made
  · have kept : Keeps setup files (regenerate topology files) := (generateAcls_holds wired files).2
    exact ⟨kept.main filed.main, fun port numbered => kept.ports port (filed.ports port numbered)⟩

namespace References

/-- A network for the plant of pumps and valves. -/
def cabinet : SwitchSetup where
  secPort := 7
  secDpid := 0x40

/-- The plant with device specs but without the templates for them. -/
def bare : FaucetTopology := { Mirror.plant with deviceSpecs := some .empty }

theorem plant_wired : Wired cabinet Mirror.plant where
  uplink := rfl
  targets := by decide +kernel
  gateways := fun _ absent => absurd absent List.not_mem_nil
  devices := fun _ absent => absurd absent List.not_mem_nil

theorem bare_wired : Wired cabinet bare where
  uplink := rfl
  targets := plant_wired.targets
  gateways := fun _ absent => absurd absent List.not_mem_nil
  devices := fun _ absent => absurd absent List.not_mem_nil

/-- The lists are generated, and then a template is missing. -/
theorem bare_resolves : ∃ network start, makeBaseNetworkTopology cabinet = .ok network ∧
    (generateAcls Mirror.plant).run .empty = (.ok (), start) ∧
    ((generateAcls bare).run start).1 =
      .error (.exception "File inst/acl_templates/template_raw_acl.yaml does not exist.") ∧
    Closed network (regenerate bare start) := by
  have returns : ((generateAcls Mirror.plant).run .empty).1 = .ok () := rfl
  have ran : (generateAcls Mirror.plant).run .empty =
      (.ok (), ((generateAcls Mirror.plant).run .empty).2) := Prod.ext returns rfl
  refine ⟨_, _, rfl, ran, rfl, ?_⟩
  exact references_resolve rfl plant_wired ran (.step bare .start bare_wired)

end References

end Daq.Acl
