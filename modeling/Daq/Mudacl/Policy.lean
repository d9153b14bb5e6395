import Daq.Mudacl.Compile

namespace Daq.Mudacl

open Fallible

/-! What becomes of the ACEs of a policy in the rules of a device. -/

section Removal

/-- Rules that are equal are all removed or all kept, so removing leaves those that are kept. -/
theorem foldl_remove {entries : List (Rule × Bool)}
    (marked : ∀ one ∈ entries, ∀ other ∈ entries, one.1.equals other.1 → one.2 = other.2) :
    ((entries.filter fun entry => !entry.2).map Prod.fst).foldl Acl.remove (entries.map Prod.fst) =
      (entries.filter fun entry => entry.2).map Prod.fst := by
  -- the rules in front have been kept
  have behind : ∀ front rest : List (Rule × Bool), front ++ rest = entries →
      ((rest.filter fun entry => !entry.2).map Prod.fst).foldl Acl.remove
          ((front.filter fun entry => entry.2).map Prod.fst ++ rest.map Prod.fst) =
        ((front ++ rest).filter fun entry => entry.2).map Prod.fst := by
    intro front rest
    induction rest generalizing front with
    | nil =>
        intro _
        simp
    | cons entry rest later =>
        intro whole
        have next := later (front ++ [entry]) (by rw [List.append_assoc]; exact whole)
        rw [List.append_assoc, List.singleton_append] at next
        rw [← next]
        obtain ⟨rule, kept⟩ := entry
        cases kept with
        | true => simp
        | false =>
            have self : rule.equals rule := by simp [Rule.equals]
            have others : ∀ other ∈ (front.filter fun entry => entry.2).map Prod.fst,
                ¬ rule.equals other := by
              intro other member same
              obtain ⟨⟨_, flag⟩, chosen, rfl⟩ := List.mem_map.mp member
              obtain ⟨member, isKept⟩ := List.mem_filter.mp chosen
              have equal := marked (rule, false) (whole ▸ by simp) _
                (whole ▸ List.mem_append_left _ member) same
              rw [← equal] at isKept
              cases isKept
            have removed : Acl.remove ((front.filter fun entry => entry.2).map Prod.fst ++
                rule :: rest.map Prod.fst) rule =
                (front.filter fun entry => entry.2).map Prod.fst ++ rest.map Prod.fst := by
              rw [Acl.remove, List.eraseP_append_right _ others, List.eraseP_cons_of_pos self]
            simp [removed]
  exact behind [] entries rfl

end Removal

/-- The rule for an ACE, with the type of the device in its description. -/
def describe (device : DeviceSpec) (rule : Rule) : Rule :=
  { rule with description := s!"type {device.type} rule {rule.description}" }

namespace MudConverter

variable (converter : MudConverter)

/-- The ACEs of the policy for one direction, in its order. -/
def deviceAces (device : DeviceSpec) (isEdge : Bool) : Except Raised (List AclAce) := do
  let mudSpec ← converter.getMudSpec device
  let mudDescriptor ← notNull mudSpec.mudDescriptor
  policyAces mudSpec.accessLists
    (if isEdge then mudDescriptor.fromDevicePolicy else mudDescriptor.toDevicePolicy)

end MudConverter

section Directions

variable {converter : MudConverter} {device : DeviceSpec} {isEdge : Bool}

theorem deviceAcl_compiles {acl : Acl} (made : converter.deviceAcl device isEdge = .ok acl) :
    ∃ aces rules, converter.deviceAces device isEdge = .ok aces ∧
      List.Forall₂ (Compiles converter.dns device.isTemplate isEdge) aces rules ∧
      acl = rules.map (describe device) := by
  obtain ⟨mudSpec, read, made⟩ := bind_eq_ok_iff.mp (processing_eq_ok_iff.mp made)
  obtain ⟨mudDescriptor, given, made⟩ := bind_eq_ok_iff.mp made
  obtain ⟨rules, expanded, made⟩ := bind_eq_ok_iff.mp made
  cases made
  obtain ⟨aces, listed, compiled⟩ := expandAcl_compiles expanded
  refine ⟨aces, rules, ?_, compiled, rfl⟩
  rw [MudConverter.deviceAces, read, ok_bind, given, ok_bind, listed]

theorem exists_deviceAcl {aces : List AclAce} (listed : converter.deviceAces device isEdge = .ok aces)
    (valid : ∀ ace ∈ aces, ∃ rule, Compiles converter.dns device.isTemplate isEdge ace rule) :
    ∃ acl, converter.deviceAcl device isEdge = .ok acl := by
  obtain ⟨mudSpec, read, listed⟩ := bind_eq_ok_iff.mp listed
  obtain ⟨mudDescriptor, given, listed⟩ := bind_eq_ok_iff.mp listed
  obtain ⟨rules, expanded⟩ := exists_expandAcl listed valid
  refine ⟨rules.map (describe device), processing_eq_ok_iff.mpr ?_⟩
  rw [read, ok_bind, given, ok_bind, expanded]
  rfl

end Directions

/-! What an ACE names, and its host. -/

def AclAce.controller (ace : AclAce) : Option String :=
  (ace.aclMatches.bind fun aclMatches => aclMatches.mud).map fun mud => orNull mud.controller

def AclAce.ipv4 (ace : AclAce) : Option NwSpec := ace.aclMatches.bind fun aclMatches => aclMatches.ipv4

/-- An ACE names the host at the other end. -/
def AclAce.dnsNamed (ace : AclAce) : Bool :=
  match ace.ipv4 with
  | none => false
  | some ipv4 => ipv4.dnsSrc.isSome || ipv4.dnsDst.isSome

/-- An ACE names the host at the other end or its controller. -/
def AclAce.namesHost (ace : AclAce) : Bool := ace.controller.isSome || ace.dnsNamed

/-- The controllers of a device are given as far as this one needs them, and it has at most one
host. -/
def DeviceSpec.Single (device : DeviceSpec) (controllerId : String) : Prop :=
  ∃ hosts, device.targets controllerId = .ok hosts ∧ (hosts.getD []).length ≤ 1

/-- The address of the host of a controller. -/
def MudConverter.hostAddress (converter : MudConverter) (device : DeviceSpec)
    (controllerId : String) : Option String :=
  match device.targets controllerId with
  | .ok (some [host]) => (converter.hostLookup.get? host).join
  | _ => none

/-- An ACE names a host that has an address. -/
def MudConverter.resolves (converter : MudConverter) (device : DeviceSpec) (ace : AclAce) : Bool :=
  match ace.controller with
  | some controllerId => (converter.hostAddress device controllerId).isSome
  | none => ace.dnsNamed

/-- The rule for an ACE in an edge ACL. -/
def MudConverter.edgeRule (converter : MudConverter) (device : DeviceSpec) (edgeDevice : String)
    (ace : AclAce) (rule : Rule) : Rule :=
  { describe device rule with
    dlSrc := some edgeDevice
    nwDst :=
      match ace.controller with
      | some controllerId => converter.hostAddress device controllerId
      | none => rule.nwDst }

section Naming

variable {dns : String → Option String} {isTemplate isEdge : Bool} {ace : AclAce} {rule : Rule}

theorem Compiles.controller (compiled : Compiles dns isTemplate isEdge ace rule)
    {controllerId : String} (named : ace.controller = some controllerId) :
    rule.nwSrc = (if isEdge then none else some (controlerPrefix ++ controllerId)) ∧
      rule.nwDst = if isEdge then some (controlerPrefix ++ controllerId) else none := by
  cases compiled with
  | tcp _ addresses _ _ _ _ =>
      cases addresses with
      | controller _ _ =>
          cases named
          exact ⟨rfl, rfl⟩
      | names _ _ => cases named
  | udp _ addresses _ _ _ =>
      cases addresses with
      | controller _ _ =>
          cases named
          exact ⟨rfl, rfl⟩
      | names _ _ => cases named

theorem Compiles.names (compiled : Compiles dns isTemplate isEdge ace rule)
    (unnamed : ace.controller = none) :
    ∃ ipv4, ace.ipv4 = some ipv4 ∧ NameAddress dns isTemplate ipv4.dnsSrc rule.nwSrc ∧
      NameAddress dns isTemplate ipv4.dnsDst rule.nwDst := by
  cases compiled with
  | tcp _ addresses _ _ _ _ =>
      cases addresses with
      | controller _ _ => cases unnamed
      | names source destination => exact ⟨_, rfl, source, destination⟩
  | udp _ addresses _ _ _ =>
      cases addresses with
      | controller _ _ => cases unnamed
      | names source destination => exact ⟨_, rfl, source, destination⟩

theorem NameAddress.isSome_eq {name address : Option String}
    (stands : NameAddress dns isTemplate name address) : address.isSome = name.isSome := by
  cases stands <;> rfl

theorem NameAddress.plain
    (literal : ∀ name address, dns name = some address →
      Acl.afterPrefix controlerPrefix address = none)
    {name address : Option String} (stands : NameAddress dns false name address) :
    address.bind (Acl.afterPrefix controlerPrefix) = none := by
  cases stands with
  | any => rfl
  | template template => cases template
  | resolved device found =>
      rename_i name address
      rw [resolveIpv4Dst] at found
      split_ifs at found with test
      · cases found
        decide
      · cases looked : dns name with
        | none =>
            rw [looked] at found
            cases found
        | some other =>
            rw [looked] at found
            cases found
            exact literal name address looked

end Naming

section Resolving

variable {converter : MudConverter} {device : DeviceSpec} {edgeDevice : String}

theorem maybeResolveController_plain {nwEntry : Option String}
    (plain : nwEntry.bind (Acl.afterPrefix controlerPrefix) = none) :
    converter.maybeResolveController nwEntry edgeDevice = .ok nwEntry := by
  rw [MudConverter.maybeResolveController, plain]

theorem maybeResolveController_named (given : converter.deviceMaps.get? edgeDevice = some device)
    {controllerId : String} (single : device.Single controllerId) :
    converter.maybeResolveController (some (controlerPrefix ++ controllerId)) edgeDevice =
      .ok (converter.hostAddress device controllerId) := by
  have named : (some (controlerPrefix ++ controllerId)).bind (Acl.afterPrefix controlerPrefix) =
      some controllerId := Acl.afterPrefix_eq_some_iff.mpr rfl
  obtain ⟨hosts, targets, few⟩ := single
  rw [MudConverter.maybeResolveController, named, MudConverter.hostAddress]
  dsimp only
  rw [given]
  dsimp only
  rw [targets, ok_bind]
  rcases hosts with _ | _ | ⟨host, _ | ⟨other, rest⟩⟩
  · rfl
  · rfl
  · rfl
  · exact absurd few (by simp)

theorem maybeResolveRule_compiled
    (literal : ∀ name address, converter.dns name = some address →
      Acl.afterPrefix controlerPrefix address = none)
    (given : converter.deviceMaps.get? edgeDevice = some device) {ace : AclAce} {rule : Rule}
    (single : ∀ controllerId, ace.controller = some controllerId → device.Single controllerId)
    (compiled : Compiles converter.dns false true ace rule) :
    converter.maybeResolveRule { describe device rule with dlSrc := some edgeDevice } edgeDevice =
      .ok (converter.edgeRule device edgeDevice ace rule, converter.resolves device ace) := by
  cases named : ace.controller with
  | some controllerId =>
      obtain ⟨source, destination⟩ := compiled.controller named
      have source : (describe device rule).nwSrc = none := source
      have destination : (describe device rule).nwDst = some (controlerPrefix ++ controllerId) :=
        destination
      rw [MudConverter.maybeResolveRule, MudConverter.edgeRule, MudConverter.resolves, named]
      dsimp only
      rw [destination, maybeResolveController_named given (single controllerId named), ok_bind,
        source]
      cases converter.hostAddress device controllerId with
      | some address => rfl
      | none => rfl
  | none =>
      obtain ⟨ipv4, section4, source, destination⟩ := compiled.names named
      have plainSrc := source.plain literal
      have plainDst := destination.plain literal
      rw [MudConverter.maybeResolveRule, MudConverter.edgeRule, MudConverter.resolves, named]
      dsimp only
      rw [AclAce.dnsNamed, section4]
      dsimp only
      rw [← source.isSome_eq, ← destination.isSome_eq]
      have resolvedDst : converter.maybeResolveController (describe device rule).nwDst edgeDevice =
          .ok rule.nwDst := maybeResolveController_plain plainDst
      have resolvedSrc : converter.maybeResolveController (describe device rule).nwSrc edgeDevice =
          .ok rule.nwSrc := maybeResolveController_plain plainSrc
      rw [resolvedDst, ok_bind]
      cases dst : rule.nwDst with
      | some address => simp [describe, dst]
      | none =>
          dsimp only [Option.isSome_none]
          rw [if_neg Bool.false_ne_true, resolvedSrc, ok_bind]
          simp [describe]

theorem exists_resolved
    (literal : ∀ name address, converter.dns name = some address →
      Acl.afterPrefix controlerPrefix address = none)
    (given : converter.deviceMaps.get? edgeDevice = some device) {aces : List AclAce}
    {rules : List Rule}
    (compiled : List.Forall₂ (Compiles converter.dns false true) aces rules)
    (single : ∀ ace ∈ aces, ∀ controllerId, ace.controller = some controllerId →
      device.Single controllerId) :
    ∃ resolved : List (Rule × Bool),
      ((rules.map (describe device)).mapM fun rule =>
        converter.maybeResolveRule { rule with dlSrc := some edgeDevice } edgeDevice) =
          .ok resolved ∧
        List.Forall₂ (fun ace entry => ∃ rule, Compiles converter.dns false true ace rule ∧
          entry = (converter.edgeRule device edgeDevice ace rule, converter.resolves device ace))
          aces resolved := by
  induction compiled with
  | nil => exact ⟨[], rfl, .nil⟩
  | @cons ace rule aces rules here _ later =>
      obtain ⟨singleHere, singleRest⟩ := List.forall_mem_cons.mp single
      obtain ⟨resolved, ran, all⟩ := later singleRest
      refine ⟨_ :: resolved, ?_, .cons ⟨rule, here, rfl⟩ all⟩
      rw [List.map_cons, List.mapM_cons, maybeResolveRule_compiled literal given singleHere here,
        ok_bind, ran]
      rfl

theorem exists_mem_left {α β : Type} {related : α → β → Prop} {left : List α} {right : List β}
    (all : List.Forall₂ related left right) {other : β} (member : other ∈ right) :
    ∃ one ∈ left, related one other := by
  induction all with
  | nil => cases member
  | @cons one first _ _ here _ later =>
      rcases List.mem_cons.mp member with rfl | member
      · exact ⟨one, List.mem_cons_self, here⟩
      · obtain ⟨found, listed, holds⟩ := later member
        exact ⟨found, List.mem_cons_of_mem _ listed, holds⟩

theorem forall₂_filter {property : AclAce → Rule → Prop} {aces : List AclAce}
    {resolved : List (Rule × Bool)} {keep : AclAce → Bool}
    (all : List.Forall₂ (fun ace entry => property ace entry.1 ∧ entry.2 = keep ace) aces resolved) :
    List.Forall₂ property (aces.filter keep)
      ((resolved.filter fun entry => entry.2).map Prod.fst) := by
  induction all with
  | nil => exact .nil
  | @cons ace entry aces resolved here _ later =>
      obtain ⟨holds, same⟩ := here
      rw [List.filter_cons, List.filter_cons, same]
      split
      · exact .cons holds later
      · exact later

/-- A rule gives an address at either end. -/
def Rule.addressed (rule : Rule) : Bool := rule.nwDst.isSome || rule.nwSrc.isSome

theorem edgeRule_addressed {ace : AclAce} {rule : Rule}
    (compiled : Compiles converter.dns false true ace rule) :
    (converter.edgeRule device edgeDevice ace rule).addressed = converter.resolves device ace := by
  cases named : ace.controller with
  | some controllerId =>
      obtain ⟨source, _⟩ := compiled.controller named
      have source : (describe device rule).nwSrc = none := source
      simp [Rule.addressed, MudConverter.edgeRule, MudConverter.resolves, named, source]
  | none =>
      obtain ⟨ipv4, section4, source, destination⟩ := compiled.names named
      have sameSrc : (describe device rule).nwSrc.isSome = ipv4.dnsSrc.isSome := source.isSome_eq
      rw [Rule.addressed, MudConverter.edgeRule, MudConverter.resolves, named]
      dsimp only
      rw [AclAce.dnsNamed, section4, sameSrc, destination.isSome_eq, Bool.or_comm]

theorem equals_addressed {rule other : Rule} (same : rule.equals other) :
    rule.addressed = other.addressed := by
  have both := of_decide_eq_true same
  rw [Rule.addressed, Rule.addressed, both.2.2.2.2.1, both.2.2.2.2.2.1]

end Resolving

/-! The ACLs of a device. -/

section Acls

variable {converter : MudConverter} {device : DeviceSpec} {edgeDevice : String}

/-- One rule of an edge ACL. -/
def EdgeRule (converter : MudConverter) (device : DeviceSpec) (edgeDevice : String) (ace : AclAce)
    (made : Rule) : Prop :=
  ∃ rule, Compiles converter.dns false true ace rule ∧
    made = converter.edgeRule device edgeDevice ace rule

/-- One rule of an upstream ACL. A controller is left to be resolved later. -/
def UpstreamRule (converter : MudConverter) (device : DeviceSpec) (edgeDevice : String)
    (ace : AclAce) (made : Rule) : Prop :=
  (∃ rule, Compiles converter.dns false false ace rule ∧
    made = { describe device rule with dlDst := some edgeDevice }) ∧
  ∀ controllerId, ace.controller = some controllerId →
    made.nwSrc = some (controlerPrefix ++ controllerId)

theorem makeEdgeAcl_rules
    (literal : ∀ name address, converter.dns name = some address →
      Acl.afterPrefix controlerPrefix address = none)
    (given : converter.deviceMaps.get? edgeDevice = some device) (concrete : device.isTemplate = false)
    {aces : List AclAce} (listed : converter.deviceAces device true = .ok aces)
    (valid : ∀ ace ∈ aces, ∃ rule, Compiles converter.dns false true ace rule)
    (single : ∀ ace ∈ aces, ∀ controllerId, ace.controller = some controllerId →
      device.Single controllerId) :
    ∃ acl, converter.makeEdgeAcl device edgeDevice = .ok acl ∧
      List.Forall₂ (EdgeRule converter device edgeDevice) (aces.filter (converter.resolves device))
        acl := by
  obtain ⟨acl, made⟩ := exists_deviceAcl listed (concrete ▸ valid)
  obtain ⟨_, rules, again, compiled, rfl⟩ := deviceAcl_compiles made
  cases listed.symm.trans again
  rw [concrete] at compiled
  obtain ⟨resolved, ran, all⟩ := exists_resolved literal given compiled single
  have marked : ∀ entry ∈ resolved, entry.2 = entry.1.addressed := by
    intro entry member
    obtain ⟨ace, _, rule, compiledRule, rfl⟩ := exists_mem_left all member
    exact (edgeRule_addressed compiledRule).symm
  have equalMarked : ∀ one ∈ resolved, ∀ other ∈ resolved, one.1.equals other.1 →
      one.2 = other.2 := by
    intro one memberOne other memberOther same
    rw [marked one memberOne, marked other memberOther, equals_addressed same]
  refine ⟨(resolved.filter fun entry => entry.2).map Prod.fst, ?_, ?_⟩
  · rw [MudConverter.makeEdgeAcl, made, ok_bind]
    simp only [concrete, if_neg Bool.false_ne_true]
    rw [ran, ok_bind, foldl_remove equalMarked]
    rfl
  · apply forall₂_filter
    refine all.imp fun ace entry => ?_
    rintro ⟨rule, compiledRule, rfl⟩
    exact ⟨⟨rule, compiledRule, rfl⟩, rfl⟩

theorem makeUpstreamAcl_rules (concrete : device.isTemplate = false) {aces : List AclAce}
    (listed : converter.deviceAces device false = .ok aces)
    (valid : ∀ ace ∈ aces, ∃ rule, Compiles converter.dns false false ace rule) :
    ∃ acl, converter.makeUpstreamAcl device edgeDevice = .ok acl ∧
      List.Forall₂ (UpstreamRule converter device edgeDevice) aces acl := by
  obtain ⟨acl, made⟩ := exists_deviceAcl listed (concrete ▸ valid)
  obtain ⟨_, rules, again, compiled, rfl⟩ := deviceAcl_compiles made
  cases listed.symm.trans again
  rw [concrete] at compiled
  refine ⟨(rules.map (describe device)).map fun rule => { rule with dlDst := some edgeDevice },
    ?_, ?_⟩
  · rw [MudConverter.makeUpstreamAcl, made, ok_bind]
    rfl
  · rw [List.map_map, List.forall₂_map_right_iff]
    refine compiled.imp fun ace rule compiledRule => ⟨⟨rule, compiledRule, rfl⟩, ?_⟩
    intro controllerId named
    exact (compiledRule.controller named).1

theorem foldlM_enterHost {devices : List DeviceSpec} {before after : Dict String (Option String)}
    (ran : devices.foldlM enterHost before = .ok after) (host address : String) :
    (after.get? host).join = some address ↔ (before.get? host).join = some address ∨
      ∃ other ∈ devices, other.hostname = some host ∧ other.ipAddr = some address := by
  induction devices generalizing before with
  | nil =>
      cases ran
      simp
  | cons device rest later =>
      rw [List.foldlM_cons] at ran
      obtain ⟨middle, entered, ran⟩ := bind_eq_ok_iff.mp ran
      rw [later ran, List.exists_mem_cons_iff]
      rw [enterHost] at entered
      cases named : device.hostname with
      | none =>
          rw [named] at entered
          cases entered
          simp
      | some hostname =>
          rw [named] at entered
          obtain ⟨new, same⟩ := ite_error_eq_ok_iff.mp entered
          cases same
          rw [Dict.get?_insert]
          by_cases here : hostname = host
          · subst here
            have free : (before.get? hostname).join ≠ some address := by
              intro there
              rw [there] at new
              exact new rfl
            simp [free]
          · have elsewhere : host ≠ hostname := Ne.symm here
            simp [here, elsewhere]

theorem hostLookup_eq_some_iff {deviceMaps : Dict String DeviceSpec}
    {hostLookup : Dict String (Option String)} (entered : setDeviceMaps deviceMaps = .ok hostLookup)
    (host address : String) :
    (hostLookup.get? host).join = some address ↔
      ∃ other ∈ deviceMaps.values, other.hostname = some host ∧ other.ipAddr = some address := by
  have none : ((Dict.empty : Dict String (Option String)).get? host).join ≠ some address := by
    rw [Dict.get?_empty]
    exact nofun
  exact (foldlM_enterHost entered host address).trans (or_iff_right none)

/-- Of the ACEs that name the host at the other end, the edge ACL of a device has a rule for each
but those whose controller has no host; its upstream ACL has a rule for each ACE. Only a controller
with several hosts is refused. -/
theorem makeAcls_policy
    (literal : ∀ name address, converter.dns name = some address →
      Acl.afterPrefix controlerPrefix address = none)
    (entered : setDeviceMaps converter.deviceMaps = .ok converter.hostLookup)
    (given : converter.deviceMaps.get? edgeDevice = some device) (concrete : device.isTemplate = false)
    {fromAces toAces : List AclAce} (fromDevice : converter.deviceAces device true = .ok fromAces)
    (toDevice : converter.deviceAces device false = .ok toAces)
    (validFrom : ∀ ace ∈ fromAces, ∃ rule, Compiles converter.dns false true ace rule)
    (validTo : ∀ ace ∈ toAces, ∃ rule, Compiles converter.dns false false ace rule) :
    ((∀ ace ∈ fromAces, ∀ controllerId, ace.controller = some controllerId →
        device.Single controllerId) →
      ∃ acl, converter.makeEdgeAcl device edgeDevice = .ok acl ∧ ∃ keep : AclAce → Bool,
        (∀ ace ∈ fromAces, ace.namesHost → keep ace = converter.resolves device ace) ∧
        List.Forall₂ (EdgeRule converter device edgeDevice) (fromAces.filter keep) acl) ∧
      (∃ acl, converter.makeUpstreamAcl device edgeDevice = .ok acl ∧
        List.Forall₂ (UpstreamRule converter device edgeDevice) toAces acl) ∧
      ∀ controllerId address, converter.hostAddress device controllerId = some address ↔
        ∃ host other, device.targets controllerId = .ok (some [host]) ∧
          other ∈ converter.deviceMaps.values ∧ other.hostname = some host ∧
          other.ipAddr = some address := by
  refine ⟨fun single => ?_, makeUpstreamAcl_rules concrete toDevice validTo,
    fun controllerId address => ?_⟩
  · obtain ⟨acl, made, rules⟩ :=
      makeEdgeAcl_rules literal given concrete fromDevice validFrom single
    exact ⟨acl, made, converter.resolves device, fun _ _ _ => rfl, rules⟩
  rw [MudConverter.hostAddress]
  constructor
  · intro found
    split at found
    · rename_i host targets
      obtain ⟨other, member, named, has⟩ := (hostLookup_eq_some_iff entered host address).mp found
      exact ⟨host, other, targets, member, named, has⟩
    · cases found
  · rintro ⟨host, other, targets, member, named, has⟩
    rw [targets]
    exact (hostLookup_eq_some_iff entered host address).mpr ⟨other, member, named, has⟩

end Acls

namespace Sample

/-- An ACE for a controller, in either direction. -/
def bacnet : AclAce where
  name := "bacnet"
  aclMatches := some {
    mud := some ⟨some "bacnet"⟩
    ipv4 := some { dnsSrc := none, dnsDst := none, protocol := some 17 }
    ipv6 := none
    tcp := none
    udp := some {
      directionInitiated := none
      sourcePort := some ⟨some "eq", some 47808⟩
      destinationPort := some ⟨some "eq", some 47808⟩ } }
  actions := some ⟨some "accept"⟩

/-- An ACE for a controller that no device is. -/
def orphan : AclAce :=
  { bacnet with
    name := "orphan"
    aclMatches := bacnet.aclMatches.map fun aclMatches => { aclMatches with
      mud := some ⟨some "nobody"⟩ } }

/-- An ACE for a host by its DNS name. -/
def lookup : AclAce :=
  { bacnet with
    name := "lookup"
    aclMatches := bacnet.aclMatches.map fun aclMatches => { aclMatches with
      mud := none
      ipv4 := some { dnsSrc := none, dnsDst := some testDnsName, protocol := some 17 } } }

def accessList (aces : List AclAce) : AclSpec := ⟨some "acl", some "ipv4-acl-type", some aces⟩

/-- A MUD file with the same list for both directions. -/
def mudSpec (aces : List AclAce) : MudSpec where
  mudDescriptor := some
    { fromDevicePolicy := some ⟨some [⟨some "acl"⟩]⟩, toDevicePolicy := some ⟨some [⟨some "acl"⟩]⟩ }
  accessLists := some [accessList aces]

theorem controlees_nodup : ([("bacnet", Controlee.mk (some ["bacnet-controller"]))].map
    Prod.fst).Nodup := List.nodup_singleton _

theorem controllers_nodup :
    ([("bacnet", Controller.mk (some ⟨_, controlees_nodup⟩))].map Prod.fst).Nodup :=
  List.nodup_singleton _

def lightbulb : DeviceSpec where
  type := "lightbulb"
  hostname := some "bacnet-lightbulb"
  ipAddr := some "100.10.0.1"
  controllers := some ⟨_, controllers_nodup⟩

def bacnetController : DeviceSpec where
  type := "bacnet"
  hostname := some "bacnet-controller"
  ipAddr := some "100.10.0.2"

theorem devices_nodup : ([("9a:02:57:1e:8f:01", lightbulb),
    ("9a:02:57:1e:8f:02", bacnetController)].map Prod.fst).Nodup := by
  decide

theorem hosts_nodup : ([("bacnet-lightbulb", some "100.10.0.1"),
    ("bacnet-controller", some "100.10.0.2")].map Prod.fst).Nodup := by
  decide

/-- Two devices, one of which is the controller of the other. -/
def converter (aces : List AclAce) : MudConverter where
  mudFile _ := .ok (mudSpec aces)
  dns _ := none
  deviceMaps := ⟨_, devices_nodup⟩
  hostLookup := ⟨_, hosts_nodup⟩

theorem bacnet_compiles (isEdge : Bool) :
    ∃ rule, Compiles (fun _ => none) false isEdge bacnet rule := by
  have made : ∃ rule, makeAclRule (fun _ => none) bacnet false isEdge = .ok rule := by
    cases isEdge
    · exact ⟨_, rfl⟩
    · exact ⟨_, rfl⟩
  exact made.imp fun rule => makeAclRule_eq_ok_iff.mp

theorem aces_compile (isEdge : Bool) :
    ∀ ace ∈ [bacnet, orphan, lookup],
      ∃ rule, Compiles (fun _ => none) false isEdge ace rule := by
  have made : ∀ ace ∈ [bacnet, orphan, lookup],
      ∃ rule, makeAclRule (fun _ => none) ace false isEdge = .ok rule := by
    refine List.forall_mem_cons.mpr ⟨?_, List.forall_mem_cons.mpr
      ⟨?_, List.forall_mem_singleton.mpr ?_⟩⟩
    all_goals cases isEdge <;> exact ⟨_, rfl⟩
  exact fun ace member => (made ace member).imp fun rule => makeAclRule_eq_ok_iff.mp

theorem lightbulb_aces (isEdge : Bool) :
    (converter [bacnet, orphan, lookup]).deviceAces lightbulb isEdge =
      .ok [bacnet, orphan, lookup] := by
  cases isEdge
  · rfl
  · rfl

theorem lightbulb_single : ∀ ace ∈ [bacnet, orphan, lookup],
    ∀ controllerId, ace.controller = some controllerId → lightbulb.Single controllerId := by
  refine List.forall_mem_cons.mpr ⟨?_, List.forall_mem_cons.mpr
    ⟨?_, List.forall_mem_singleton.mpr ?_⟩⟩
  · rintro _ ⟨⟩
    exact ⟨some ["bacnet-controller"], rfl, le_refl _⟩
  · rintro _ ⟨⟩
    exact ⟨none, rfl, Nat.zero_le _⟩
  · rintro _ ⟨⟩

/-- The ACE of the controller without a host is left out, and only that. -/
theorem lightbulb_policy :
    (∃ acl, (converter [bacnet, orphan, lookup]).makeEdgeAcl lightbulb "9a:02:57:1e:8f:01" =
          .ok acl ∧
        List.Forall₂ (EdgeRule (converter [bacnet, orphan, lookup]) lightbulb "9a:02:57:1e:8f:01")
          [bacnet, lookup] acl) ∧
      ∃ acl, (converter [bacnet, orphan, lookup]).makeUpstreamAcl lightbulb "9a:02:57:1e:8f:01" =
          .ok acl ∧
        List.Forall₂
          (UpstreamRule (converter [bacnet, orphan, lookup]) lightbulb "9a:02:57:1e:8f:01")
          [bacnet, orphan, lookup] acl := by
  obtain ⟨edge, upstream, _⟩ := @makeAcls_policy (converter [bacnet, orphan, lookup]) lightbulb
    "9a:02:57:1e:8f:01" nofun rfl rfl rfl _ _ (lightbulb_aces true) (lightbulb_aces false)
    (aces_compile true) (aces_compile false)
  refine ⟨?_, upstream⟩
  obtain ⟨acl, made, keep, kept, rules⟩ := edge lightbulb_single
  refine ⟨acl, made, ?_⟩
  have chosen : [bacnet, orphan, lookup].filter keep = [bacnet, lookup] := by
    have first : keep bacnet = true := (kept bacnet (by simp) rfl).trans rfl
    have second : keep orphan = false := (kept orphan (by simp) rfl).trans rfl
    have third : keep lookup = true := (kept lookup (by simp) rfl).trans rfl
    simp [first, second, third]
  exact chosen ▸ rules

/-- In an upstream ACL a controller is no host's address, though its host has one. -/
theorem lightbulb_upstream :
    (∀ isEdge, ∃ rule, Compiles (converter [bacnet]).dns false isEdge bacnet rule) ∧
      setDeviceMaps (converter [bacnet]).deviceMaps = .ok (converter [bacnet]).hostLookup ∧
      (converter [bacnet]).deviceMaps.get? "9a:02:57:1e:8f:01" = some lightbulb ∧
      (converter [bacnet]).deviceAces lightbulb false = .ok [bacnet] ∧
      bacnet.controller = some "bacnet" ∧
      (converter [bacnet]).hostAddress lightbulb "bacnet" = some "100.10.0.2" ∧
      ¬ ∃ rule, (converter [bacnet]).makeUpstreamAcl lightbulb "9a:02:57:1e:8f:01" = .ok [rule] ∧
        rule.nwSrc = some "100.10.0.2" := by
  refine ⟨bacnet_compiles, rfl, rfl, rfl, rfl, rfl, ?_⟩
  have made : ∃ rule, (converter [bacnet]).makeUpstreamAcl lightbulb "9a:02:57:1e:8f:01" = .ok [rule] ∧
      rule.nwSrc = some "@ctrl:bacnet" := ⟨_, rfl, rfl⟩
  rintro ⟨rule, upstream, resolved⟩
  obtain ⟨other, same, kept⟩ := made
  cases same.symm.trans upstream
  rw [kept] at resolved
  exact absurd resolved (by decide)

end Sample

end Daq.Mudacl
