import Daq.Lib.Assigned
import Daq.Lib.Json
import Daq.Mudacl.Sanity

namespace Daq.Mudacl

open Fallible

/-! The template files: what the generator writes for a type of device. -/

def Placement.isTemplate (placement : Placement) : Bool := placement.portNum.isNone

/-- The number that is written as `0x` and hexadecimal digits. -/
def hexNumber (text : String) : Option Nat :=
  match Acl.afterPrefix "0x" text with
  | none => none
  | some digits =>
      (digits.toList.mapM Json.hexValue).map fun values =>
        values.foldl (fun number value => 16 * number + value) 0

/-- A rule as it is read back from the YAML that it is written to.  Ports are not
negative. -/
def Rule.written (rule : Rule) : Acl.Rule where
  actions := { allow := some (decide (rule.allow ≠ 0)) }
  description := some rule.description
  dlType := rule.dlType.bind hexNumber
  dlSrc := rule.dlSrc
  dlDst := rule.dlDst
  nwProto := rule.nwProto.map Int.toNat
  nwSrc := rule.nwSrc
  nwDst := rule.nwDst
  tcpSrc := rule.tcpSrc.map Int.toNat
  tcpDst := rule.tcpDst.map Int.toNat
  udpSrc := rule.udpSrc.map Int.toNat
  udpDst := rule.udpDst.map Int.toNat

def makeAclInclude (aclName : String) (portAcl : PortAcl) : Acl.Template where
  acls := some (
    if portAcl.placement.isTemplate then
      (Dict.empty.insert ("@from:" ++ aclName) (portAcl.edgeAcl.map Rule.written)).insert
        ("@to:" ++ aclName) (portAcl.upstreamAcl.map Rule.written)
    else Dict.empty.insert aclName (portAcl.edgeAcl.map Rule.written))

/-- The file of each entry. -/
def writePortAcls (portAclMap : Dict String PortAcl) : Dict String Acl.Template :=
  portAclMap.values.foldl (fun files portAcl =>
    let aclName := makeAclName portAcl.placement.edgeName
    files.insert (aclName ++ ".yaml") (makeAclInclude aclName portAcl)) .empty

/-- What `_load_file` finds for a type of device. -/
def templateFile (portAclMap : Dict String PortAcl) (deviceType : String) :
    Option (Option Acl.Template) :=
  ((writePortAcls portAclMap).get? ("template_" ++ deviceType ++ "_acl" ++ ".yaml")).map some

section Entries

variable {generator : MudAclGenerator}

/-- An entry that has the rules of one target only. -/
structure MudAclGenerator.EntryOf (generator : MudAclGenerator) (target : String × Placement)
    (portAcl : PortAcl) : Prop where
  placement : portAcl.placement = target.2
  edge : generator.makeAcl true (generator.getDeviceSpec target.1) target.1 = .ok portAcl.edgeAcl
  upstream : generator.makeAcl false (generator.getDeviceSpec target.1) target.1 =
    .ok portAcl.upstreamAcl
  passes : ∀ rule ∈ portAcl.edgeAcl, Passes true rule

/-- A target at a new place that adds no error. -/
theorem addTarget_entry {state : Dict String PortAcl × Dict String Raised}
    {target : String × Placement}
    (clear : (generator.addTarget state target).2.size = 0)
    (fresh : state.1.get? target.2.edgeName = none) :
    state.2.size = 0 ∧ ∃ portAcl, generator.EntryOf target portAcl ∧
      (generator.addTarget state target).1 = state.1.insert target.2.edgeName portAcl := by
  unfold MudAclGenerator.addTarget at clear ⊢
  dsimp only at clear ⊢
  have new : portAclAt state.1 target.2 = { placement := target.2 } := by
    rw [portAclAt, fresh]
    rfl
  cases valid : generator.validatePlacement target.2 with
  | error raised =>
      rw [valid] at clear
      exact absurd clear (size_insert_ne_zero _ _ _)
  | ok placement =>
      obtain rfl := validatePlacement_eq_ok valid
      rw [valid] at clear
      dsimp only at clear ⊢
      rw [new] at clear ⊢
      cases edgeMade : generator.makeAcl true (generator.getDeviceSpec target.1) target.1 >>=
          (aclSanity · true) with
      | error raised =>
          rw [edgeMade] at clear
          exact absurd clear (size_insert_ne_zero _ _ _)
      | ok edgeAcl =>
          rw [edgeMade] at clear
          dsimp only at clear ⊢
          cases upstreamMade : generator.makeAcl false (generator.getDeviceSpec target.1) target.1 >>=
              (aclSanity · false) with
          | error raised =>
              rw [upstreamMade] at clear
              exact absurd clear (size_insert_ne_zero _ _ _)
          | ok upstreamAcl =>
              rw [upstreamMade] at clear
              obtain ⟨_, edge, passes, _⟩ := makeAcl_sane edgeMade
              obtain ⟨_, upstream, _, _⟩ := makeAcl_sane upstreamMade
              exact ⟨clear, _, ⟨rfl, edge, upstream, passes⟩, rfl⟩

/-- Targets at places of their own that add no error: each has an entry of its own. -/
theorem foldl_addTarget_entries {targets : List (String × Placement)}
    {state : Dict String PortAcl × Dict String Raised}
    (clear : (targets.foldl generator.addTarget state).2.size = 0)
    (apart : (targets.map fun target => target.2.edgeName).Nodup)
    (fresh : ∀ target ∈ targets, state.1.get? target.2.edgeName = none) :
    (∀ target ∈ targets, ∃ portAcl, generator.EntryOf target portAcl ∧
        (targets.foldl generator.addTarget state).1.get? target.2.edgeName = some portAcl) ∧
      ∀ name, name ∉ targets.map (fun target => target.2.edgeName) →
        (targets.foldl generator.addTarget state).1.get? name = state.1.get? name := by
  induction targets generalizing state with
  | nil => exact ⟨List.forall_mem_nil _, fun _ _ => rfl⟩
  | cons target rest later =>
      rw [List.foldl_cons] at clear ⊢
      rw [List.map_cons, List.nodup_cons] at apart
      obtain ⟨alone, apartRest⟩ := apart
      have clearHere := (@foldl_addTarget_made generator [] rest _ clear).1
      obtain ⟨_, portAcl, entry, inserted⟩ :=
        addTarget_entry clearHere (fresh target List.mem_cons_self)
      have ahead : ∀ other ∈ rest,
          (generator.addTarget state target).1.get? other.2.edgeName = none := by
        intro other member
        have different : other.2.edgeName ≠ target.2.edgeName :=
          fun same => alone (same ▸ List.mem_map_of_mem member)
        rw [inserted, Dict.get?_insert_of_ne _ _ different]
        exact fresh other (List.mem_cons_of_mem _ member)
      obtain ⟨entries, others⟩ := later clear apartRest ahead
      constructor
      · intro other member
        rcases List.mem_cons.mp member with rfl | inside
        · refine ⟨portAcl, entry, ?_⟩
          rw [others _ alone, inserted, Dict.get?_insert_self]
        · exact entries other inside
      · intro name absent
        rw [List.map_cons, List.mem_cons, not_or] at absent
        rw [others name absent.2, inserted, Dict.get?_insert_of_ne _ _ absent.1]

end Entries

/-! The types of devices. -/

/-- A type has this key among the targets of templates. -/
def templateTarget (type : String) : String × Placement := (macTemplatePrefix ++ type, ⟨type, none⟩)

theorem edgeName_template (type : String) :
    (Placement.mk type none).edgeName = "template_" ++ type := rfl

section Types

variable (generator : MudAclGenerator)

theorem templateMap_entries {target : String × Placement} :
    target ∈ generator.makeTemplateDeviceTargetMap.entries ↔
      ∃ type ∈ generator.targetTypes, target = templateTarget type := by
  have stored : ∀ type ∈ generator.targetTypes,
      generator.makeTemplateDeviceTargetMap.get? (macTemplatePrefix ++ type) =
        some ⟨type, none⟩ := by
    intro type listed
    apply Dict.get?_foldl_insert_of_mem listed
    intro other _ same
    rw [(String.append_right_inj macTemplatePrefix).mp same]
  constructor
  · intro member
    have found := Dict.get?_eq_some_iff.mpr member
    by_cases named : target.1 ∈ generator.targetTypes.map (macTemplatePrefix ++ ·)
    · obtain ⟨type, listed, same⟩ := List.mem_map.mp named
      rw [← same, stored type listed] at found
      exact ⟨type, listed, Prod.ext same.symm (Option.some.inj found).symm⟩
    · rw [MudAclGenerator.makeTemplateDeviceTargetMap,
        Dict.get?_foldl_insert_of_not_mem named] at found
      cases found
  · rintro ⟨type, listed, rfl⟩
    exact Dict.get?_eq_some_iff.mp (stored type listed)

theorem templateMap_apart :
    (generator.makeTemplateDeviceTargetMap.entries.map fun target => target.2.edgeName).Nodup := by
  apply List.Nodup.map_on _ (Dict.nodup_entries _)
  intro first firstIn second secondIn same
  obtain ⟨type, _, rfl⟩ := (templateMap_entries generator).mp firstIn
  obtain ⟨other, _, rfl⟩ := (templateMap_entries generator).mp secondIn
  have equal : type = other := (String.append_right_inj "template_").mp same
  rw [equal]

variable {generator}

/-- The types that the generator adds itself. -/
def keywords : List String := ["raw", "baseline"]

/-- Each entry is filed under the name of its template, which is that of a type or
one that the generator adds. -/
def MudAclGenerator.Filed (generator : MudAclGenerator) (portAclMap : Dict String PortAcl) : Prop :=
  ∀ name portAcl, portAclMap.get? name = some portAcl →
    ∃ type, portAcl.placement = ⟨type, none⟩ ∧ name = "template_" ++ type ∧
      (type ∈ generator.targetTypes ∨ type ∈ keywords)

theorem addRules_get? {portAclMap : Dict String PortAcl} {keyword name : String}
    {add : Acl → Acl} (other : name ≠ "template_" ++ keyword) :
    (MudAclGenerator.addRules portAclMap keyword add).get? name = portAclMap.get? name := by
  unfold MudAclGenerator.addRules
  exact Dict.get?_insert_of_ne _ _ other

theorem addRules_get?_self {portAclMap : Dict String PortAcl} {keyword : String}
    {add : Acl → Acl} :
    (MudAclGenerator.addRules portAclMap keyword add).get? ("template_" ++ keyword) =
      some { portAclAt portAclMap ⟨keyword, none⟩ with
        edgeAcl := add (portAclAt portAclMap ⟨keyword, none⟩).edgeAcl } :=
  Dict.get?_insert_self _ _ _

theorem MudAclGenerator.Filed.addRules {portAclMap : Dict String PortAcl}
    (filed : generator.Filed portAclMap) {keyword : String} (added : keyword ∈ keywords)
    (add : Acl → Acl) :
    generator.Filed (MudAclGenerator.addRules portAclMap keyword add) := by
  intro name portAcl present
  by_cases here : name = "template_" ++ keyword
  · subst here
    cases addRules_get?_self.symm.trans present
    refine ⟨keyword, ?_, rfl, .inr added⟩
    unfold portAclAt
    cases there : portAclMap.get? (Placement.mk keyword none).edgeName with
    | none => rfl
    | some stored =>
        obtain ⟨type, placement, named, _⟩ := filed _ stored there
        rw [edgeName_template, String.append_right_inj] at named
        rw [named]
        exact placement
  · rw [addRules_get? here] at present
    exact filed name portAcl present

/-- The map of templates: the rules of each type, and the baseline. -/
structure MudAclGenerator.Templates (generator : MudAclGenerator)
    (portAclMap : Dict String PortAcl) : Prop where
  filed : generator.Filed portAclMap
  types : ∀ type ∈ generator.targetTypes, type ∉ keywords → ∃ portAcl,
    portAclMap.get? ("template_" ++ type) = some portAcl ∧
      generator.EntryOf (templateTarget type) portAcl
  baseline : "baseline" ∉ generator.targetTypes → ∃ portAcl,
    portAclMap.get? ("template_" ++ "baseline") = some portAcl ∧
      portAcl.edgeAcl = AclHelper.baselineRules

theorem makePortAclMap_templates (template : generator.deviceTopology = none)
    {portAclMap : Dict String PortAcl} (made : generator.makePortAclMap = .ok portAclMap) :
    generator.Templates portAclMap := by
  obtain ⟨clear, made⟩ := ite_error_eq_ok_iff.mp made
  have targets : generator.getDeviceTargetMap = generator.makeTemplateDeviceTargetMap := by
    rw [MudAclGenerator.getDeviceTargetMap, template]
    rfl
  rw [targets] at clear made
  have isTemplate : generator.isTemplate = true := by
    rw [MudAclGenerator.isTemplate, template]
    rfl
  rw [if_pos isTemplate] at made
  obtain ⟨entries, others⟩ := foldl_addTarget_entries (not_not.mp clear)
    (templateMap_apart generator) fun _ _ => rfl
  cases made
  have filed : generator.Filed (generator.makeTemplateDeviceTargetMap.entries.foldl
      generator.addTarget (.empty, .empty)).1 := by
    intro name portAcl present
    by_cases named : name ∈
        generator.makeTemplateDeviceTargetMap.entries.map fun target => target.2.edgeName
    · obtain ⟨target, member, rfl⟩ := List.mem_map.mp named
      obtain ⟨stored, entry, found⟩ := entries target member
      cases found.symm.trans present
      obtain ⟨type, listed, rfl⟩ := (templateMap_entries generator).mp member
      exact ⟨type, entry.placement, rfl, .inl listed⟩
    · rw [others name named] at present
      cases present
  have raw : "raw" ∈ keywords := List.mem_cons_self
  have baseline : "baseline" ∈ keywords := List.mem_cons_of_mem _ List.mem_cons_self
  constructor
  · exact (filed.addRules raw _).addRules baseline _
  · intro type listed plain
    have notRaw : "template_" ++ type ≠ "template_" ++ "raw" := by
      rw [ne_eq, String.append_right_inj]
      exact fun same => plain (same ▸ raw)
    have notBaseline : "template_" ++ type ≠ "template_" ++ "baseline" := by
      rw [ne_eq, String.append_right_inj]
      exact fun same => plain (same ▸ baseline)
    obtain ⟨portAcl, entry, found⟩ :=
      entries (templateTarget type) ((templateMap_entries generator).mpr ⟨type, listed, rfl⟩)
    refine ⟨portAcl, ?_, entry⟩
    rw [MudAclGenerator.addTemplateEntries, addRules_get? notBaseline, addRules_get? notRaw]
    exact found
  · intro unlisted
    have absent : (generator.makeTemplateDeviceTargetMap.entries.foldl generator.addTarget
        (.empty, .empty)).1.get? ("template_" ++ "baseline") = none := by
      rw [others]
      · rfl
      · intro named
        obtain ⟨target, member, same⟩ := List.mem_map.mp named
        obtain ⟨type, listed, rfl⟩ := (templateMap_entries generator).mp member
        have equal : type = "baseline" := (String.append_right_inj "template_").mp same
        exact unlisted (equal ▸ listed)
    have apart : "template_" ++ "baseline" ≠ "template_" ++ "raw" := by
      rw [ne_eq, String.append_right_inj]
      decide
    have fresh := (@addRules_get? _ _ _ AclHelper.addRawRules apart).trans absent
    refine ⟨_, addRules_get?_self, ?_⟩
    show AclHelper.addBaselineRules (portAclAt _ (Placement.mk "baseline" none)).edgeAcl = _
    rw [portAclAt, edgeName_template, fresh]
    rfl

/-! The files of the templates. -/

variable {portAclMap : Dict String PortAcl} {type : String} {portAcl : PortAcl}

theorem templateFile_found (filed : generator.Filed portAclMap)
    (found : portAclMap.get? ("template_" ++ type) = some portAcl) :
    templateFile portAclMap type =
      some (some (makeAclInclude ("template_" ++ type ++ "_acl") portAcl)) := by
  obtain ⟨placed, placement, named, _⟩ := filed _ portAcl found
  have same : placed = type := ((String.append_right_inj "template_").mp named).symm
  subst same
  have edgeName : portAcl.placement.edgeName = "template_" ++ placed := by
    rw [placement]
    rfl
  have written : (writePortAcls portAclMap).get?
      (makeAclName portAcl.placement.edgeName ++ ".yaml") =
        some (makeAclInclude (makeAclName portAcl.placement.edgeName) portAcl) := by
    apply Dict.get?_foldl_insert_of_mem (Dict.mem_values_iff.mpr ⟨_, found⟩)
    intro other stored equal
    obtain ⟨name, present⟩ := Dict.mem_values_iff.mp stored
    obtain ⟨elsewhere, otherPlacement, rfl, _⟩ := filed name other present
    have names : other.placement.edgeName = portAcl.placement.edgeName :=
      (String.append_left_inj "_acl").mp ((String.append_left_inj ".yaml").mp equal)
    rw [otherPlacement, edgeName] at names
    have types : elsewhere = placed := (String.append_right_inj "template_").mp names
    rw [types, found] at present
    cases present
    rfl
  unfold templateFile
  rw [edgeName] at written
  exact congrArg (Option.map some) written

theorem templateFile_listed (filed : generator.Filed portAclMap) {template : Option Acl.Template}
    (loaded : templateFile portAclMap type = some template) :
    type ∈ generator.targetTypes ∨ type ∈ keywords := by
  by_cases named : "template_" ++ type ++ "_acl" ++ ".yaml" ∈ portAclMap.values.map fun portAcl =>
      makeAclName portAcl.placement.edgeName ++ ".yaml"
  · obtain ⟨portAcl, stored, same⟩ := List.mem_map.mp named
    obtain ⟨name, present⟩ := Dict.mem_values_iff.mp stored
    obtain ⟨placed, placement, rfl, known⟩ := filed name portAcl present
    have names : portAcl.placement.edgeName = "template_" ++ type :=
      (String.append_left_inj "_acl").mp ((String.append_left_inj ".yaml").mp same)
    rw [placement] at names
    have types : placed = type := (String.append_right_inj "template_").mp names
    exact types ▸ known
  · unfold templateFile at loaded
    rw [writePortAcls, Dict.get?_foldl_insert_of_not_mem named] at loaded
    cases loaded

theorem fromAclKey_eq (type : String) :
    Acl.fromAclKey type = "@from:" ++ ("template_" ++ type ++ "_acl") := by
  have start : "@from:template_" = "@from:" ++ "template_" := rfl
  have keyed : Acl.fromAclKey type = "@from:" ++ "template_" ++ type ++ "_acl" :=
    congrArg (· ++ type ++ "_acl") start
  rewrite [keyed]
  simp only [String.append_assoc]

theorem toAclKey_eq (type : String) :
    Acl.toAclKey type = "@to:" ++ ("template_" ++ type ++ "_acl") := by
  have start : "@to:template_" = "@to:" ++ "template_" := rfl
  have keyed : Acl.toAclKey type = "@to:" ++ "template_" ++ type ++ "_acl" :=
    congrArg (· ++ type ++ "_acl") start
  rewrite [keyed]
  simp only [String.append_assoc]

theorem keys_apart (aclName : String) : "@from:" ++ aclName ≠ "@to:" ++ aclName := by
  intro same
  have keys : "@from:" = "@to:" := (String.append_left_inj aclName).mp same
  exact absurd keys (by decide)

/-- The rules under both keys of a template. -/
theorem makeAclInclude_rules (template : portAcl.placement.isTemplate = true)
    {topology : Acl.FaucetTopology}
    (loaded : topology.templates type =
      some (some (makeAclInclude ("template_" ++ type ++ "_acl") portAcl))) :
    topology.fromRules type = portAcl.edgeAcl.map Rule.written ∧
      topology.toRules type = portAcl.upstreamAcl.map Rule.written := by
  unfold Acl.FaucetTopology.fromRules Acl.FaucetTopology.toRules Acl.FaucetTopology.templateRules
  rw [loaded, makeAclInclude, if_pos template, fromAclKey_eq, toAclKey_eq]
  constructor
  · simp [Dict.get?_insert_of_ne _ _ (keys_apart _)]
  · simp

end Types

end Daq.Mudacl
