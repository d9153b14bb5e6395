import Daq.Acl.Port
import Daq.Lib.Fallible

namespace Daq.Acl

/-! Which device ports the list of a port outputs to. -/

theorem afterPrefix_eq_some_iff {start text rest : String} :
    afterPrefix start text = some rest ↔ text = start ++ rest := by
  unfold afterPrefix
  constructor
  · intro found
    split at found
    · rename_i begins
      obtain ⟨tail, whole⟩ := List.isPrefixOf_iff_prefix.mp begins
      have same : text = start ++ String.ofList tail := by
        apply String.toList_inj.mp
        rw [String.toList_append, String.toList_ofList, whole]
      have dropped : text.toList.drop start.length = tail := by
        rw [← whole, ← String.length_toList, List.drop_left]
      rw [dropped] at found
      cases found
      exact same
    · cases found
  · rintro rfl
    have begins : start.toList.isPrefixOf (start ++ rest).toList = true := by
      rw [String.toList_append]
      exact List.isPrefixOf_iff_prefix.mpr (List.prefix_append _ _)
    rw [if_pos begins, String.toList_append, ← String.length_toList, List.drop_left,
      String.ofList_toList]

section Lists

variable (topology : FaucetTopology)

/-- The rules that the template of a type has under a key. -/
def FaucetTopology.templateRules (key deviceType : String) : List Rule :=
  match topology.templates deviceType with
  | some (some template) => (template.acls.bind (·.get? key)).getD []
  | _ => []

/-- The rules of a type for what its devices send. -/
def FaucetTopology.fromRules (deviceType : String) : List Rule :=
  topology.templateRules (fromAclKey deviceType) deviceType

/-- The rules of a type for what its devices receive. -/
def FaucetTopology.toRules (deviceType : String) : List Rule :=
  topology.templateRules (toAclKey deviceType) deviceType

end Lists

/-- `controllers.c.controlees.c.mac_addrs` of a spec. -/
def DeviceSpec.controlees (spec : DeviceSpec) (controller : String) : List Mac :=
  match spec.controllers.bind (·.get? controller) with
  | none => []
  | some entry =>
      match entry.controlees.bind (·.get? controller) with
      | none => []
      | some controlee => controlee.macAddrs.getD []

variable {topology : FaucetTopology}

theorem rules_templateRules {template : Template} {key deviceType : String} {rules : List Rule}
    (loaded : topology.templates deviceType = some (some template))
    (listed : template.rules key = .ok rules) :
    topology.templateRules key deviceType = rules := by
  unfold FaucetTopology.templateRules
  rw [loaded]
  unfold Template.rules at listed
  split at listed
  · cases listed
  · rename_i acls known
    split at listed
    · cases listed
    · rename_i found
      cases listed
      dsimp only
      rw [known, Option.bind_some, found]
      rfl

theorem getAclTemplate_some {deviceType : String} {template : Option Template}
    {specs : Dict Mac DeviceSpec} (known : topology.deviceSpecs = some specs)
    (loaded : getAclTemplate topology deviceType = .ok template) :
    topology.templates deviceType = some template := by
  unfold getAclTemplate at loaded
  rw [known, Option.isNone_some, if_neg Bool.false_ne_true] at loaded
  split at loaded
  · cases loaded
  · rename_i found
    cases loaded
    exact found

theorem allowTargetMac_iff {specs : Dict Mac DeviceSpec}
    (known : topology.deviceSpecs = some specs) {srcRule : Rule} {controller : String}
    {targetMac : Mac} {allowed : Bool}
    (decided : allowTargetMac topology specs srcRule controller targetMac = .ok allowed) :
    allowed = true ↔ (specs.get? targetMac).isSome ∧
      ∃ toRule ∈ topology.toRules (getDeviceType specs targetMac),
        ruleMatch srcRule toRule controller = true := by
  unfold allowTargetMac at decided
  obtain ⟨template, loaded, decided⟩ := Fallible.bind_eq_ok_iff.mp decided
  have found := getAclTemplate_some known loaded
  cases template with
  | none =>
      cases decided
      have empty : topology.toRules (getDeviceType specs targetMac) = [] := by
        unfold FaucetTopology.toRules FaucetTopology.templateRules
        rw [found]
      rw [empty]
      simp
  | some template =>
      dsimp only at decided
      cases entry : specs.get? targetMac with
      | none =>
          rw [entry] at decided
          cases decided
          simp
      | some info =>
          rw [entry] at decided
          obtain ⟨acls, listed, decided⟩ := Fallible.bind_eq_ok_iff.mp decided
          cases decided
          have rules : topology.toRules (getDeviceType specs targetMac) = acls :=
            rules_templateRules found listed
          rw [rules, List.any_eq_true]
          simp

/-- A live target that a controller of a spec stands for, with a rule of its own
type that matches. -/
structure Resolves (topology : FaucetTopology) (specs : Dict Mac DeviceSpec) (srcRule : Rule)
    (bridge : DeviceSpec) (controller : String) (target : PortTarget) : Prop where
  live : target ∈ topology.portTargets.values
  listed : target.mac ∈ bridge.controlees controller
  specified : (specs.get? target.mac).isSome
  matched : ∃ toRule ∈ topology.toRules (getDeviceType specs target.mac),
    ruleMatch srcRule toRule controller = true

section Resolve

variable {specs : Dict Mac DeviceSpec} {srcRule : Rule} {controller : String}

open Classical in
/-- The live targets with one MAC address, if it is allowed. -/
noncomputable def targetsAt (topology : FaucetTopology) (specs : Dict Mac DeviceSpec)
    (srcRule : Rule) (controller : String) (targetMac : Mac) : List PortTarget :=
  if allowTargetMac topology specs srcRule controller targetMac = .ok true then
    topology.portTargets.values.filter fun target => decide (target.mac = targetMac)
  else []

theorem allowedTargets_mem {targetMacs : List Mac} {targets : List PortTarget}
    (ran : allowedTargets topology specs srcRule controller targetMacs = .ok targets)
    (target : PortTarget) :
    target ∈ targets ↔ target ∈ topology.portTargets.values ∧ target.mac ∈ targetMacs ∧
      allowTargetMac topology specs srcRule controller target.mac = .ok true := by
  have all : targets = [] ++ targetMacs.flatMap (targetsAt topology specs srcRule controller) := by
    refine Fallible.foldlM_appends id _ ?_ ran
    intro before mac after step
    obtain ⟨allowed, decided, step⟩ := Fallible.bind_eq_ok_iff.mp step
    unfold targetsAt
    rw [decided]
    cases allowed with
    | false =>
        cases step
        simp
    | true =>
        cases step
        simp
  rw [all, List.nil_append, List.mem_flatMap]
  unfold targetsAt
  constructor
  · rintro ⟨mac, listed, member⟩
    split at member
    · rename_i allowed
      obtain ⟨live, same⟩ := List.mem_filter.mp member
      obtain rfl := of_decide_eq_true same
      exact ⟨live, listed, allowed⟩
    · exact absurd member List.not_mem_nil
  · rintro ⟨live, listed, allowed⟩
    refine ⟨target.mac, listed, ?_⟩
    rw [if_pos allowed]
    exact List.mem_filter.mpr ⟨live, decide_eq_true rfl⟩

variable (known : topology.deviceSpecs = some specs)

include known

theorem allowedTargets_iff {targetMacs : List Mac} {targets : List PortTarget}
    (ran : allowedTargets topology specs srcRule controller targetMacs = .ok targets)
    (target : PortTarget) :
    target ∈ targets ↔ target ∈ topology.portTargets.values ∧ target.mac ∈ targetMacs ∧
      (specs.get? target.mac).isSome ∧
        ∃ toRule ∈ topology.toRules (getDeviceType specs target.mac),
          ruleMatch srcRule toRule controller = true := by
  rw [allowedTargets_mem ran]
  refine and_congr_right fun _ => and_congr_right fun listed => ?_
  obtain ⟨_, _, step⟩ := Fallible.foldlM_each ran target.mac listed
  obtain ⟨allowed, decided, _⟩ := Fallible.bind_eq_ok_iff.mp step
  rw [decided, ← allowTargetMac_iff known decided]
  exact ⟨Except.ok.inj, congrArg Except.ok⟩

theorem controllerTargets_iff {bridge : DeviceSpec} {targets : Option (List PortTarget)}
    (ran : controllerTargets topology specs srcRule controller bridge = .ok targets)
    (target : PortTarget) :
    target ∈ targets.getD [] ↔ Resolves topology specs srcRule bridge controller target := by
  have nobody : bridge.controlees controller = [] →
      (target ∈ (none : Option (List PortTarget)).getD [] ↔
        Resolves topology specs srcRule bridge controller target) := by
    intro empty
    constructor
    · exact fun member => absurd member List.not_mem_nil
    · intro resolves
      have listed := resolves.listed
      rw [empty] at listed
      exact absurd listed List.not_mem_nil
  unfold controllerTargets at ran
  split at ran
  · rename_i absent
    cases ran
    refine nobody ?_
    unfold DeviceSpec.controlees
    rw [absent]
  · rename_i entry present
    split at ran
    · cases ran
    · rename_i middle between
      split at ran
      · rename_i absent
        cases ran
        refine nobody ?_
        unfold DeviceSpec.controlees
        rw [present]
        dsimp only
        rw [between, Option.bind_some, absent]
      · rename_i controlee found
        split at ran
        · cases ran
        · rename_i targetMacs given
          obtain ⟨resolved, allowed, done⟩ := Fallible.bind_eq_ok_iff.mp ran
          cases done
          have macs : bridge.controlees controller = targetMacs := by
            unfold DeviceSpec.controlees
            rw [present]
            dsimp only
            rw [between, Option.bind_some, found]
            dsimp only
            rw [given]
            rfl
          rw [Option.getD_some, allowedTargets_iff known allowed]
          constructor
          · rintro ⟨live, listed, specified, matched⟩
            exact ⟨live, macs ▸ listed, specified, matched⟩
          · rintro ⟨live, listed, specified, matched⟩
            exact ⟨live, macs ▸ listed, specified, matched⟩

end Resolve

/-! The ports that rules output to. -/

theorem augmentSecPortAcl_outputs {acl rule : Rule} {ports : Option (List Nat)}
    {dlDst : Option Mac} (ran : augmentSecPortAcl topology acl ports dlDst = .ok rule) (port : Nat) :
    port ∈ rule.outputs ↔
      acl.actions.allow = some true ∧ port ∈ ports.getD [] ++ [topology.secPort] := by
  unfold augmentSecPortAcl at ran
  split at ran
  · cases ran
  · rename_i silent
    have none : acl.actions.output = none := Option.not_isSome_iff_eq_none.mp silent
    split at ran
    · cases ran
    · rename_i denied
      cases ran
      simp [Rule.outputs, none, denied]
    · rename_i allowed
      cases ran
      simp [Rule.outputs, allowed]

theorem augmentedRules_outputs {acl : Rule} {targets : Option (List PortTarget)}
    {emitted : List Rule} (ran : augmentedRules topology acl targets = .ok emitted) {port : Nat}
    (other : port ≠ topology.secPort) :
    (∃ rule ∈ emitted, port ∈ rule.outputs) ↔
      acl.actions.allow = some true ∧ ∃ target ∈ targets.getD [], target.port = port := by
  unfold augmentedRules at ran
  cases targets with
  | none =>
      obtain ⟨single, augmented, done⟩ := Fallible.bind_eq_ok_iff.mp ran
      cases done
      simp [augmentSecPortAcl_outputs augmented, other]
  | some targets =>
      obtain ⟨broadcast, first, rest⟩ := Fallible.bind_eq_ok_iff.mp ran
      obtain ⟨unicast, each, done⟩ := Fallible.bind_eq_ok_iff.mp rest
      cases done
      rw [Option.getD_some]
      constructor
      · rintro ⟨rule, member, output⟩
        rcases List.mem_cons.mp member with rfl | member
        · obtain ⟨allowed, member⟩ := (augmentSecPortAcl_outputs first port).mp output
          rcases List.mem_append.mp member with present | trunk
          · obtain ⟨target, inside, rfl⟩ := List.mem_map.mp present
            exact ⟨allowed, target, inside, rfl⟩
          · exact absurd (List.mem_singleton.mp trunk) other
        · obtain ⟨target, inside, augmented⟩ := (Fallible.mem_of_mapM each).mp member
          obtain ⟨allowed, member⟩ := (augmentSecPortAcl_outputs augmented port).mp output
          rcases List.mem_append.mp member with present | trunk
          · exact ⟨allowed, target, inside, (List.mem_singleton.mp present).symm⟩
          · exact absurd (List.mem_singleton.mp trunk) other
      · rintro ⟨allowed, target, inside, rfl⟩
        refine ⟨broadcast, List.mem_cons_self, (augmentSecPortAcl_outputs first _).mpr ?_⟩
        exact ⟨allowed, List.mem_append_left _ (List.mem_map_of_mem inside)⟩

theorem augmentedRules_none {acl : Rule} {emitted : List Rule}
    (ran : augmentedRules topology acl none = .ok emitted) :
    ∀ rule ∈ emitted, ∀ port ∈ rule.outputs, port = topology.secPort := by
  intro rule member port output
  by_contra other
  obtain ⟨_, target, inside, _⟩ := (augmentedRules_outputs ran other).mp ⟨rule, member, output⟩
  exact absurd inside List.not_mem_nil

theorem resolveTemplateField_fst (field : Option String) (targetMac : Option Mac) :
    (resolveTemplateField field targetMac).1 = field := by
  cases field with
  | none => rfl
  | some placeholder => rfl

/-- A rule of a template for a device outputs to the targets that the controller
it names stands for. -/
theorem templateRule_outputs {specs : Dict Mac DeviceSpec}
    (known : topology.deviceSpecs = some specs) {mac : Mac} {acl : Rule} {emitted : List Rule}
    (ran : templateRule topology (some mac) acl = .ok emitted) {port : Nat}
    (other : port ≠ topology.secPort) :
    (∃ rule ∈ emitted, port ∈ rule.outputs) ↔
      acl.actions.allow = some true ∧ ∃ controller bridge target,
        acl.nwDst = some (ctlPrefix ++ controller) ∧ specs.get? mac = some bridge ∧
          Resolves topology specs acl bridge controller target ∧ target.port = port := by
  obtain ⟨targets, resolved, augmented⟩ := Fallible.bind_eq_ok_iff.mp ran
  rw [augmentedRules_outputs augmented other]
  refine and_congr_right fun _ => ?_
  rw [resolveTemplateField_fst] at resolved
  unfold resolveTargets at resolved
  split at resolved
  · rename_i unnamed
    cases resolved
    constructor
    · rintro ⟨target, inside, _⟩
      exact absurd inside List.not_mem_nil
    · rintro ⟨controller, _, _, named, _⟩
      rw [named, Option.bind_some, afterPrefix_eq_some_iff.mpr rfl] at unnamed
      cases unnamed
  · rename_i controller named
    obtain ⟨text, given, named⟩ := Option.bind_eq_some_iff.mp named
    have text' := afterPrefix_eq_some_iff.mp named
    rw [known] at resolved
    dsimp only at resolved
    rw [Option.bind_some] at resolved
    split at resolved
    · cases resolved
    · rename_i bridge present
      have mem := controllerTargets_iff known resolved
      constructor
      · rintro ⟨target, inside, placed⟩
        obtain ⟨live, listed, specified, matched⟩ := (mem target).mp inside
        exact ⟨controller, bridge, target, by rw [given, text'], present,
          ⟨live, listed, specified, matched⟩, placed⟩
      · rintro ⟨controller', bridge', target, named', present', ⟨live, listed, specified, matched⟩,
          placed⟩
        have same : controller' = controller := by
          rw [given, Option.some.injEq] at named'
          exact Option.some.inj ((afterPrefix_eq_some_iff.mpr named').symm.trans named)
        cases same
        cases present.symm.trans present'
        exact ⟨target, (mem target).mpr ⟨live, listed, specified, matched⟩, placed⟩

/-- Without a device there is no controller to resolve. -/
theorem templateRule_none {acl : Rule} {emitted : List Rule}
    (ran : templateRule topology none acl = .ok emitted) :
    ∀ rule ∈ emitted, ∀ port ∈ rule.outputs, port = topology.secPort := by
  obtain ⟨targets, resolved, augmented⟩ := Fallible.bind_eq_ok_iff.mp ran
  unfold resolveTargets at resolved
  split at resolved
  · cases resolved
    exact augmentedRules_none augmented
  · split at resolved
    · cases resolved
    · cases resolved

/-! The list of a port. -/

theorem appendAclTemplate_mem {rules after : List Rule} {deviceType : String}
    {targetMac : Option Mac} {found : Bool} {specs : Dict Mac DeviceSpec}
    (known : topology.deviceSpecs = some specs)
    (ran : appendAclTemplate topology rules deviceType targetMac = .ok (after, found)) :
    (∀ acl ∈ topology.fromRules deviceType,
        ∃ emitted, templateRule topology targetMac acl = .ok emitted) ∧
      ∀ rule, rule ∈ after ↔ rule ∈ rules ∨ ∃ acl ∈ topology.fromRules deviceType,
        ∃ emitted, templateRule topology targetMac acl = .ok emitted ∧ rule ∈ emitted := by
  obtain ⟨template, loaded, rest⟩ := Fallible.bind_eq_ok_iff.mp ran
  have present := getAclTemplate_some known loaded
  cases template with
  | none =>
      cases rest
      have empty : topology.fromRules deviceType = [] := by
        unfold FaucetTopology.fromRules FaucetTopology.templateRules
        rw [present]
      rw [empty]
      simp
  | some template =>
      obtain ⟨acls, listed, rest⟩ := Fallible.bind_eq_ok_iff.mp rest
      obtain ⟨all, loop, done⟩ := Fallible.bind_eq_ok_iff.mp rest
      cases done
      have stated : topology.fromRules deviceType = acls := rules_templateRules present listed
      have each : ∀ acl ∈ acls, ∃ emitted, templateRule topology targetMac acl = .ok emitted := by
        intro acl member
        obtain ⟨_, _, step⟩ := Fallible.foldlM_each loop acl member
        obtain ⟨emitted, ran, _⟩ := Fallible.bind_eq_ok_iff.mp step
        exact ⟨emitted, ran⟩
      have appended : after = rules ++
          acls.flatMap fun acl => (templateRule topology targetMac acl).toOption.getD [] := by
        refine Fallible.foldlM_appends id _ ?_ loop
        intro before acl next step
        obtain ⟨emitted, ran, done⟩ := Fallible.bind_eq_ok_iff.mp step
        cases done
        rw [ran]
        rfl
      rw [stated]
      refine ⟨each, fun rule => ?_⟩
      rw [appended, List.mem_append, List.mem_flatMap]
      refine or_congr_right (exists_congr fun acl => and_congr_right fun member => ?_)
      obtain ⟨emitted, ran⟩ := each acl member
      rw [ran]
      constructor
      · exact fun inside => ⟨emitted, rfl, inside⟩
      · rintro ⟨_, same, inside⟩
        cases same
        exact inside

theorem appendAclTemplate_uplink {rules after : List Rule} {deviceType : String} {found : Bool}
    (ran : appendAclTemplate topology rules deviceType none = .ok (after, found)) {rule : Rule}
    (member : rule ∈ after) :
    rule ∈ rules ∨ ∀ port ∈ rule.outputs, port = topology.secPort := by
  cases known : topology.deviceSpecs with
  | none =>
      unfold appendAclTemplate getAclTemplate at ran
      rw [known] at ran
      cases ran
      exact .inl member
  | some specs =>
      rcases ((appendAclTemplate_mem known ran).2 rule).mp member with old | new
      · exact .inl old
      · obtain ⟨acl, _, emitted, ran, inside⟩ := new
        exact .inr (templateRule_none ran rule inside)

theorem appendAugmentedRule_uplink {rules after : List Rule} {acl : Rule}
    (ran : appendAugmentedRule topology rules acl none = .ok after) {rule : Rule}
    (member : rule ∈ after) :
    rule ∈ rules ∨ ∀ port ∈ rule.outputs, port = topology.secPort := by
  obtain ⟨more, augmented, done⟩ := Fallible.bind_eq_ok_iff.mp ran
  cases done
  exact (List.mem_append.mp member).imp id (augmentedRules_none augmented rule)

theorem makeDefaultAclRules_uplink {rules : List Rule}
    (ran : makeDefaultAclRules topology = .ok rules) :
    ∀ rule ∈ rules, ∀ port ∈ rule.outputs, port = topology.secPort := by
  intro rule member
  obtain ⟨⟨raw, found⟩, template, rest⟩ := Fallible.bind_eq_ok_iff.mp ran
  have raws : rule ∈ raw → ∀ port ∈ rule.outputs, port = topology.secPort := fun inside =>
    (appendAclTemplate_uplink template inside).resolve_left List.not_mem_nil
  dsimp only at rest
  split at rest
  · cases rest
    exact raws member
  · exact (appendAugmentedRule_uplink rest member).elim raws id

theorem appendDeviceDefaultAllow_uplink {specs : Dict Mac DeviceSpec} {rules after : List Rule}
    {targetMac : Mac} (ran : appendDeviceDefaultAllow topology specs rules targetMac = .ok after)
    {rule : Rule} (member : rule ∈ after) :
    rule ∈ rules ∨ ∀ port ∈ rule.outputs, port = topology.secPort := by
  unfold appendDeviceDefaultAllow at ran
  split at ran
  · cases ran
    exact .inl member
  · exact appendAugmentedRule_uplink ran member

/-- The rule is one that a rule of the template for the port's target comes
to. -/
structure Emits (topology : FaucetTopology) (port : Nat) (source : PortTarget) (acl rule : Rule) :
    Prop where
  live : topology.portTargets.get? port = some source
  template : ∃ specs, topology.deviceSpecs = some specs ∧
    acl ∈ topology.fromRules (getDeviceType specs source.mac)
  emitted : ∃ emitted, templateRule topology (some source.mac) acl = .ok emitted ∧ rule ∈ emitted

theorem targetAcl_mem {specs : Dict Mac DeviceSpec} (known : topology.deviceSpecs = some specs)
    {mac : Mac} {before rules : List Rule}
    (ran : targetAcl topology specs mac before = .ok rules) :
    (∀ acl ∈ topology.fromRules (getDeviceType specs mac),
        ∃ emitted, templateRule topology (some mac) acl = .ok emitted) ∧
      ∀ rule ∈ rules, rule ∈ before ∨ (∀ port ∈ rule.outputs, port = topology.secPort) ∨
        ∃ acl ∈ topology.fromRules (getDeviceType specs mac),
          ∃ emitted, templateRule topology (some mac) acl = .ok emitted ∧ rule ∈ emitted := by
  obtain ⟨⟨typed, _⟩, template, rest⟩ := Fallible.bind_eq_ok_iff.mp ran
  obtain ⟨each, mem⟩ := appendAclTemplate_mem known template
  refine ⟨each, fun rule member => ?_⟩
  have first : rule ∈ typed → rule ∈ before ∨ (∀ port ∈ rule.outputs, port = topology.secPort) ∨
      ∃ acl ∈ topology.fromRules (getDeviceType specs mac),
        ∃ emitted, templateRule topology (some mac) acl = .ok emitted ∧ rule ∈ emitted :=
    fun inside => ((mem rule).mp inside).imp id .inr
  dsimp only at rest
  split at rest
  · obtain ⟨others, default, done⟩ := Fallible.bind_eq_ok_iff.mp rest
    cases done
    rcases List.mem_append.mp member with inside | outside
    · exact first inside
    · exact .inr (.inl (makeDefaultAclRules_uplink default rule outside))
  · obtain ⟨⟨based, found⟩, baseline, rest⟩ := Fallible.bind_eq_ok_iff.mp rest
    dsimp only at rest
    split at rest
    · rcases appendDeviceDefaultAllow_uplink rest member with inside | uplink
      · rcases appendAclTemplate_uplink baseline inside with inside | uplink
        · exact first inside
        · exact .inr (.inl uplink)
      · exact .inr (.inl uplink)
    · cases rest

theorem targetAcl_template {specs : Dict Mac DeviceSpec}
    (known : topology.deviceSpecs = some specs) {mac : Mac} {before rules : List Rule}
    (ran : targetAcl topology specs mac before = .ok rules) {acl rule : Rule}
    (listed : acl ∈ topology.fromRules (getDeviceType specs mac)) {emitted : List Rule}
    (comes : templateRule topology (some mac) acl = .ok emitted) (inside : rule ∈ emitted) :
    rule ∈ rules := by
  obtain ⟨⟨typed, _⟩, template, rest⟩ := Fallible.bind_eq_ok_iff.mp ran
  have member : rule ∈ typed :=
    ((appendAclTemplate_mem known template).2 rule).mpr (.inr ⟨acl, listed, emitted, comes, inside⟩)
  dsimp only at rest
  split at rest
  · obtain ⟨others, _, done⟩ := Fallible.bind_eq_ok_iff.mp rest
    cases done
    exact List.mem_append_left _ member
  · obtain ⟨⟨based, found⟩, baseline, rest⟩ := Fallible.bind_eq_ok_iff.mp rest
    have later : rule ∈ based := ((appendAclTemplate_mem known baseline).2 rule).mpr (.inl member)
    dsimp only at rest
    split at rest
    · unfold appendDeviceDefaultAllow at rest
      split at rest
      · cases rest
        exact later
      · obtain ⟨more, _, done⟩ := Fallible.bind_eq_ok_iff.mp rest
        cases done
        exact List.mem_append_left _ later
    · cases rest

theorem addDot1xAllowRule_uplink {rules : List Rule} {outVid : Option Nat}
    (ran : addDot1xAllowRule [] [topology.secPort] none outVid = .ok rules) :
    ∀ rule ∈ rules, ∀ port ∈ rule.outputs, port = topology.secPort := by
  intro rule member port output
  unfold addDot1xAllowRule at ran
  rw [if_neg (show ¬ Truthy none from fun wrong => wrong rfl)] at ran
  split at ran
  · rw [addAclRule_ok rfl] at ran
    cases ran
    rw [List.mem_singleton.mp member, Keywords.rule_outputs] at output
    exact List.mem_singleton.mp output
  · cases ran
    exact absurd member List.not_mem_nil

section Generated

variable {port : Nat} {rules : List Rule} (generated : generatePortAcl topology port = .ok rules)

include generated

theorem emits_of_output {rule : Rule} (member : rule ∈ rules) {output : Nat}
    (outputs : output ∈ rule.outputs) (other : output ≠ topology.secPort) :
    ∃ source acl, Emits topology port source acl rule := by
  obtain ⟨first, dot1x, rest⟩ := Fallible.bind_eq_ok_iff.mp generated
  have uplink : rule ∉ first := fun inside =>
    other (addDot1xAllowRule_uplink dot1x rule inside output outputs)
  split at rest
  · rename_i specs source known live
    rcases (targetAcl_mem known rest).2 rule member with inside | only | emitted
    · exact absurd inside uplink
    · exact absurd (only output outputs) other
    · obtain ⟨acl, template, emitted⟩ := emitted
      exact ⟨source, acl, live, ⟨specs, known, template⟩, emitted⟩
  · obtain ⟨others, default, done⟩ := Fallible.bind_eq_ok_iff.mp rest
    cases done
    rcases List.mem_append.mp member with inside | outside
    · exact absurd inside uplink
    · exact absurd (makeDefaultAclRules_uplink default rule outside output outputs) other

theorem emitted_of_template {specs : Dict Mac DeviceSpec}
    (known : topology.deviceSpecs = some specs) {source : PortTarget}
    (live : topology.portTargets.get? port = some source) {acl : Rule}
    (template : acl ∈ topology.fromRules (getDeviceType specs source.mac)) :
    ∃ emitted, templateRule topology (some source.mac) acl = .ok emitted := by
  obtain ⟨first, _, rest⟩ := Fallible.bind_eq_ok_iff.mp generated
  rw [known, live] at rest
  exact (targetAcl_mem known rest).1 acl template

theorem Emits.mem {source : PortTarget} {acl rule : Rule}
    (emits : Emits topology port source acl rule) : rule ∈ rules := by
  obtain ⟨specs, known, template⟩ := emits.template
  obtain ⟨emitted, comes, inside⟩ := emits.emitted
  obtain ⟨first, _, rest⟩ := Fallible.bind_eq_ok_iff.mp generated
  rw [known, emits.live] at rest
  exact targetAcl_template known rest template comes inside

end Generated

/-- The ports of two rules are equal where both give one. -/
def Agree (src dst : Option Nat) : Prop :=
  ∀ first second, src = some first → dst = some second → first = second

structure SamePorts (srcRule dstRule : Rule) : Prop where
  udpSrc : Agree srcRule.udpSrc dstRule.udpSrc
  udpDst : Agree srcRule.udpDst dstRule.udpDst
  tcpSrc : Agree srcRule.tcpSrc dstRule.tcpSrc
  tcpDst : Agree srcRule.tcpDst dstRule.tcpDst

theorem conditionalMatch_of_agree {src dst : Option Nat} (agree : Agree src dst) :
    conditionalMatch src dst = true := by
  unfold conditionalMatch
  split
  · rename_i both
    cases src with
    | none => exact absurd rfl both.1
    | some first =>
        cases dst with
        | none => exact absurd rfl both.2
        | some second => exact decide_eq_true (congrArg some (agree first second rfl rfl))
  · rfl

theorem ruleMatch_of_samePorts {srcRule dstRule : Rule} {controller : String}
    (named : dstRule.nwSrc = some (ctlPrefix ++ controller)) (ports : SamePorts srcRule dstRule) :
    ruleMatch srcRule dstRule controller = true := by
  unfold ruleMatch
  rw [conditionalMatch_of_agree ports.udpSrc, conditionalMatch_of_agree ports.udpDst,
    conditionalMatch_of_agree ports.tcpSrc, conditionalMatch_of_agree ports.tcpDst, named]
  simp

theorem ruleMatch_named {srcRule dstRule : Rule} {controller : String}
    (matched : ruleMatch srcRule dstRule controller = true) :
    dstRule.nwSrc = some (ctlPrefix ++ controller) := by
  unfold ruleMatch at matched
  simp only [Bool.and_eq_true, decide_eq_true_eq] at matched
  exact matched.1.1.1.1

theorem controller_unique {first second : String} (same : ctlPrefix ++ first = ctlPrefix ++ second) :
    first = second := by
  have here := afterPrefix_eq_some_iff.mpr same
  have there := afterPrefix_eq_some_iff.mpr (rfl : ctlPrefix ++ first = ctlPrefix ++ first)
  exact Option.some.inj (there.symm.trans here)

/-- Both sides have it that a device sends to the one on another port: its spec
lists it, and the other's type has a rule for the controller with the same
protocol and ports. -/
def Consented (topology : FaucetTopology) (mac : Mac) (acl : Rule) (controller : String)
    (port : Nat) : Prop :=
  ∃ specs bridge target, topology.deviceSpecs = some specs ∧ specs.get? mac = some bridge ∧
    target ∈ topology.portTargets.values ∧ target.port = port ∧
    target.mac ∈ bridge.controlees controller ∧
    ∃ toRule ∈ topology.toRules (getDeviceType specs target.mac),
      toRule.nwSrc = some (ctlPrefix ++ controller) ∧ toRule.nwProto = acl.nwProto ∧
        SamePorts acl toRule

/-- A rule of the template for a port's target that allows traffic resolves to a
live target. -/
structure Admits (topology : FaucetTopology) (specs : Dict Mac DeviceSpec) (port : Nat)
    (source : PortTarget) (acl : Rule) (controller : String) (target : PortTarget) : Prop where
  known : topology.deviceSpecs = some specs
  live : topology.portTargets.get? port = some source
  template : acl ∈ topology.fromRules (getDeviceType specs source.mac)
  allowed : acl.actions.allow = some true
  named : acl.nwDst = some (ctlPrefix ++ controller)
  resolves : ∃ bridge, specs.get? source.mac = some bridge ∧
    Resolves topology specs acl bridge controller target

theorem targets_unique {first second : PortTarget} (live : first ∈ topology.portTargets.values)
    (other : second ∈ topology.portTargets.values) (same : first.port = second.port) :
    first = second := by
  obtain ⟨here, firstEntry⟩ := Dict.mem_values_iff.mp live
  obtain ⟨there, secondEntry⟩ := Dict.mem_values_iff.mp other
  have firstKey := topology.keyed _ (Dict.get?_eq_some_iff.mp firstEntry)
  have secondKey := topology.keyed _ (Dict.get?_eq_some_iff.mp secondEntry)
  have keys : here = there := firstKey.symm.trans (same.trans secondKey)
  exact Option.some.inj (firstEntry.symm.trans (keys ▸ secondEntry))

theorem get?_of_live {target : PortTarget} (live : target ∈ topology.portTargets.values) :
    topology.portTargets.get? target.port = some target := by
  obtain ⟨key, entry⟩ := Dict.mem_values_iff.mp live
  have keyed : target.port = key := topology.keyed _ (Dict.get?_eq_some_iff.mp entry)
  exact keyed ▸ entry

/-- What a rule that comes from the template outputs to. -/
theorem Emits.admits {port : Nat} {source : PortTarget} {acl rule : Rule}
    (emits : Emits topology port source acl rule) {output : Nat} (outputs : output ∈ rule.outputs)
    (other : output ≠ topology.secPort) :
    ∃ specs controller target, Admits topology specs port source acl controller target ∧
      target.port = output := by
  obtain ⟨specs, known, template⟩ := emits.template
  obtain ⟨emitted, comes, inside⟩ := emits.emitted
  obtain ⟨allowed, controller, bridge, target, named, present, resolves, placed⟩ :=
    (templateRule_outputs known comes other).mp ⟨rule, inside, outputs⟩
  exact ⟨specs, controller, target,
    ⟨known, emits.live, template, allowed, named, bridge, present, resolves⟩, placed⟩

theorem Admits.emits {port : Nat} {rules : List Rule}
    (generated : generatePortAcl topology port = .ok rules) {specs : Dict Mac DeviceSpec}
    {source target : PortTarget} {acl : Rule} {controller : String}
    (admits : Admits topology specs port source acl controller target)
    (other : target.port ≠ topology.secPort) :
    ∃ rule, Emits topology port source acl rule ∧ target.port ∈ rule.outputs := by
  obtain ⟨emitted, comes⟩ := emitted_of_template generated admits.known admits.live
    admits.template
  obtain ⟨bridge, present, resolves⟩ := admits.resolves
  obtain ⟨rule, inside, outputs⟩ := (templateRule_outputs admits.known comes other).mpr
    ⟨admits.allowed, controller, bridge, target, admits.named, present, resolves, rfl⟩
  exact ⟨rule, ⟨admits.live, ⟨specs, admits.known, admits.template⟩, emitted, comes, inside⟩,
    outputs⟩

/-- Every output to another device port comes from a rule of the template that
names a controller, with the consent of both devices, if and only if, wherever a
rule of the template matches one of a live controlee's type, it matches one that
has the same protocol and no other port either. -/
theorem consented_iff {topology : FaucetTopology} {port : Nat} {rules : List Rule}
    (generated : generatePortAcl topology port = .ok rules) :
    (∀ rule ∈ rules, ∀ output ∈ rule.outputs, output ≠ topology.secPort → output ≠ port →
      (∃ source acl, Emits topology port source acl rule) ∧
        ∀ source acl, Emits topology port source acl rule →
          ∃ controller, acl.nwDst = some (ctlPrefix ++ controller) ∧
            Consented topology source.mac acl controller output) ↔
      ∀ specs source acl controller target,
        Admits topology specs port source acl controller target →
        target.port ≠ topology.secPort → target.port ≠ port →
        ∃ toRule ∈ topology.toRules (getDeviceType specs target.mac),
          ruleMatch acl toRule controller = true ∧ toRule.nwProto = acl.nwProto ∧
            SamePorts acl toRule := by
  constructor
  · intro consents specs source acl controller target admits other another
    obtain ⟨rule, emits, outputs⟩ := admits.emits generated other
    obtain ⟨controller', named, specs', bridge, target', known, present, live, placed, listed,
      toRule, member, from', protocol, ports⟩ :=
      (consents rule (emits.mem generated) _ outputs other another).2 source acl emits
    cases known.symm.trans admits.known
    obtain ⟨_, _, resolves⟩ := admits.resolves
    obtain rfl := targets_unique live resolves.live placed
    obtain rfl := controller_unique (Option.some.inj (named.symm.trans admits.named))
    exact ⟨toRule, member, ruleMatch_of_samePorts from' ports, protocol, ports⟩
  · intro agree rule member output outputs other another
    refine ⟨emits_of_output generated member outputs other, fun source acl emits => ?_⟩
    obtain ⟨specs, controller, target, admits, rfl⟩ := emits.admits outputs other
    obtain ⟨toRule, listed, matched, protocol, ports⟩ :=
      agree specs source acl controller target admits other another
    obtain ⟨bridge, present, resolves⟩ := admits.resolves
    exact ⟨controller, admits.named, specs, bridge, target, admits.known, present, resolves.live,
      rfl, resolves.listed, toRule, listed, ruleMatch_named matched, protocol, ports⟩

/-- The list of a port outputs only to devices of the same port set, if and only
if the rules of the template for its target resolve only to such. -/
theorem sequestered_iff {topology : FaucetTopology} {port : Nat} {rules : List Rule}
    (generated : generatePortAcl topology port = .ok rules) :
    (∀ rule ∈ rules, ∀ output ∈ rule.outputs, output ≠ topology.secPort →
      ∃ source target, topology.portTargets.get? port = some source ∧
        topology.portTargets.get? output = some target ∧ target.portSet = source.portSet) ↔
      ∀ specs source acl controller target,
        Admits topology specs port source acl controller target →
        target.port ≠ topology.secPort → target.portSet = source.portSet := by
  constructor
  · intro inside specs source acl controller target admits other
    obtain ⟨rule, emits, outputs⟩ := admits.emits generated other
    obtain ⟨bridge, _, resolves⟩ := admits.resolves
    obtain ⟨source', target', here, there, same⟩ :=
      inside rule (emits.mem generated) _ outputs other
    cases here.symm.trans admits.live
    cases there.symm.trans (get?_of_live resolves.live)
    exact same
  · intro inside rule member output outputs other
    obtain ⟨source, acl, emits⟩ := emits_of_output generated member outputs other
    obtain ⟨specs, controller, target, admits, rfl⟩ := emits.admits outputs other
    obtain ⟨bridge, _, resolves⟩ := admits.resolves
    exact ⟨source, target, emits.live, get?_of_live resolves.live,
      inside specs source acl controller target admits other⟩

namespace Consent

def bridgeMac : Mac := "9a:02:57:1e:8f:01"
def sensorMac : Mac := "9a:02:57:1e:8f:02"

/-- The sensor is a controlee of the bridge. -/
def linked : DeviceSpec where
  type := some "bacnet"
  controllers := some (Dict.empty.insert "bacnet"
    { controlees := some (Dict.empty.insert "bacnet" { macAddrs := some [sensorMac] }) })

def frdev : Rule where
  actions := { allow := some true }
  dlSrc := some "@mac:bacnet"
  nwProto := some 17
  nwDst := some "@ctrl:bacnet"
  udpDst := some 47808

def todev : Rule where
  actions := { allow := some true }
  dlDst := some "@mac:bacnet"
  nwProto := some 17
  nwSrc := some "@ctrl:bacnet"
  udpDst := some 47808

def templates (todev : Rule) (deviceType : String) : Option (Option Template) :=
  if deviceType = "bacnet" then
    some (some { acls := some ((Dict.empty.insert "@from:template_bacnet_acl" [frdev]).insert
      "@to:template_bacnet_acl" [todev]) })
  else if deviceType = "baseline" then
    some (some { acls := some (Dict.empty.insert "@from:template_baseline_acl" []) })
  else none

/-- The bridge on one port and the sensor on another, which may be in another
port set. -/
def floor (todev : Rule) (portSet : Nat) : FaucetTopology where
  secPort := 7
  deviceSpecs := some ((Dict.empty.insert bridgeMac linked).insert sensorMac
    { type := some "bacnet" })
  templates := templates todev
  portTargets := (Dict.empty.insert 3 ⟨3, "testing", "none", 1, bridgeMac⟩).insert 4
    ⟨4, "testing", "none", portSet, sensorMac⟩
  keyed := by
    intro entry member
    rcases List.mem_pair.mp member with rfl | rfl
    · rfl
    · rfl

theorem floor_generates : ∃ rules, generatePortAcl (floor todev 1) 3 = .ok rules := ⟨_, rfl⟩

theorem floor_admits {todev : Rule} {portSet : Nat} {specs : Dict Mac DeviceSpec}
    {source target : PortTarget} {acl : Rule} {controller : String}
    (admits : Admits (floor todev portSet) specs 3 source acl controller target) :
    acl = frdev ∧ controller = "bacnet" ∧ target.mac = sensorMac := by
  have template := admits.template
  cases admits.known
  cases admits.live
  obtain rfl := List.mem_singleton.mp template
  obtain rfl : controller = "bacnet" := controller_unique (Option.some.inj admits.named).symm
  obtain ⟨bridge, present, resolves⟩ := admits.resolves
  have listed := resolves.listed
  cases present
  exact ⟨rfl, rfl, List.mem_singleton.mp listed⟩

theorem floor_consents : ∃ rules, generatePortAcl (floor todev 1) 3 = .ok rules ∧
    ∀ rule ∈ rules, ∀ output ∈ rule.outputs, output ≠ 7 → output ≠ 3 →
      (∃ source acl, Emits (floor todev 1) 3 source acl rule) ∧
        ∀ source acl, Emits (floor todev 1) 3 source acl rule →
          ∃ controller, acl.nwDst = some (ctlPrefix ++ controller) ∧
            Consented (floor todev 1) source.mac acl controller output := by
  obtain ⟨rules, generated⟩ := floor_generates
  refine ⟨rules, generated, (consented_iff generated).mpr ?_⟩
  intro specs source acl controller target admits _ _
  obtain ⟨rfl, rfl, mac⟩ := floor_admits admits
  cases admits.known
  refine ⟨todev, ?_, by decide +kernel, rfl, ?_⟩
  · rw [mac]
    decide +kernel
  · have port : Agree (some 47808) (some 47808) := by
      rintro _ _ ⟨⟩ ⟨⟩
      rfl
    have none : Agree none none := by
      rintro _ _ ⟨⟩
    exact ⟨none, port, none, none⟩

/-- A rule of the sensor's type for another protocol. -/
def upload : Rule where
  actions := { allow := some true }
  nwProto := some 6
  nwSrc := some "@ctrl:bacnet"
  tcpDst := some 80

theorem upload_generates : ∃ rules, generatePortAcl (floor upload 1) 3 = .ok rules := ⟨_, rfl⟩

def source : PortTarget := ⟨3, "testing", "none", 1, bridgeMac⟩

theorem floor_admitted {todev : Rule} {portSet : Nat}
    (matched : ruleMatch frdev todev "bacnet" = true) :
    Admits (floor todev portSet) ((Dict.empty.insert bridgeMac linked).insert sensorMac
      { type := some "bacnet" }) 3 source frdev "bacnet"
      ⟨4, "testing", "none", portSet, sensorMac⟩ where
  known := rfl
  live := rfl
  template := List.mem_singleton.mpr rfl
  allowed := rfl
  named := rfl
  resolves := ⟨linked, by rfl,
    { live := List.mem_cons_of_mem _ List.mem_cons_self
      listed := List.mem_singleton.mpr rfl
      specified := by rfl
      matched := ⟨todev, List.mem_singleton.mpr rfl, matched⟩ }⟩

/-- The bridge sends UDP to a sensor whose type has no rule for it. -/
theorem upload_not_consented : ¬ ∀ (topology : FaucetTopology) (port : Nat) (rules : List Rule),
    generatePortAcl topology port = .ok rules →
    ∀ rule ∈ rules, ∀ output ∈ rule.outputs, output ≠ topology.secPort → output ≠ port →
      (∃ source acl, Emits topology port source acl rule) ∧
        ∀ source acl, Emits topology port source acl rule →
          ∃ controller, acl.nwDst = some (ctlPrefix ++ controller) ∧
            Consented topology source.mac acl controller output := by
  intro consents
  obtain ⟨rules, generated⟩ := upload_generates
  obtain ⟨rule, emits, outputs⟩ := (floor_admitted (by decide +kernel)).emits generated
    (by decide +kernel)
  obtain ⟨controller, _, specs, bridge, target, known, present, live, placed, _, toRule, member, _,
    protocol, _⟩ := (consents _ 3 rules generated rule (emits.mem generated) 4 outputs
      (by decide +kernel) (by decide +kernel)).2 source frdev emits
  cases known
  have other : target.mac = sensorMac := by
    rcases List.mem_pair.mp live with rfl | rfl
    · cases placed
    · rfl
  rw [other] at member
  obtain rfl := List.mem_singleton.mp member
  cases protocol

theorem floor_sequestered : ∃ rules, generatePortAcl (floor todev 1) 3 = .ok rules ∧
    ∀ rule ∈ rules, ∀ output ∈ rule.outputs, output ≠ 7 →
      ∃ source target, (floor todev 1).portTargets.get? 3 = some source ∧
        (floor todev 1).portTargets.get? output = some target ∧
          target.portSet = source.portSet := by
  obtain ⟨rules, generated⟩ := floor_generates
  refine ⟨rules, generated, (sequestered_iff generated).mpr ?_⟩
  intro specs source acl controller target admits _
  obtain ⟨_, _, resolves⟩ := admits.resolves
  cases admits.live
  rcases List.mem_pair.mp resolves.live with rfl | rfl
  · rfl
  · rfl

theorem split_generates : ∃ rules, generatePortAcl (floor todev 2) 3 = .ok rules := ⟨_, rfl⟩

/-- The bridge sends to the sensor although they are in different port sets. -/
theorem split_not_sequestered : ¬ ∀ (topology : FaucetTopology) (port : Nat) (rules : List Rule),
    generatePortAcl topology port = .ok rules →
    ∀ rule ∈ rules, ∀ output ∈ rule.outputs, output ≠ topology.secPort →
      ∃ source target, topology.portTargets.get? port = some source ∧
        topology.portTargets.get? output = some target ∧ target.portSet = source.portSet := by
  intro inside
  obtain ⟨rules, generated⟩ := split_generates
  obtain ⟨rule, emits, outputs⟩ := (floor_admitted (by decide +kernel)).emits generated
    (by decide +kernel)
  obtain ⟨source, target, here, there, same⟩ := inside _ 3 rules generated rule
    (emits.mem generated) 4 outputs (by decide +kernel)
  cases here
  cases there
  cases same

end Consent

end Daq.Acl
