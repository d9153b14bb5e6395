import Daq.Acl.Port
import Daq.Lib.Assigned
import Daq.Lib.Fallible
import Daq.Report.ResultLine
import Mathlib.Algebra.Ring.Int.Defs
import Mathlib.Data.List.DropRight

namespace Daq.AclState

open Fallible

/-! The counts of the rules that are applied to a port, collected from the
metric of the switches. -/

/-- What `int` makes of decimal digits, single underscores among them. -/
def natural (digits : List Char) : Option Nat :=
  let groups := digits.splitOn '_'
  if groups.all fun group => !group.isEmpty && group.all Char.isDigit then
    some (groups.flatten.foldl (fun number digit => 10 * number + (digit.toNat - '0'.toNat)) 0)
  else none

/-- `int` of a text whose digits are those of ASCII; Python takes the decimal
digits of other scripts as well. -/
def int (text : String) : Option Int :=
  match (text.toList.dropWhile Report.isSpace).rdropWhile Report.isSpace with
  | '-' :: digits => (natural digits).map fun number => -(number : Int)
  | '+' :: digits => (natural digits).map fun number => (number : Int)
  | digits => (natural digits).map fun number => (number : Int)

/-- A sample of a metric, whose value is a count. -/
structure Sample where
  labels : Dict String String
  value : Int

def Sample.inPort (sample : Sample) : Except Exc Int :=
  match sample.labels.get? "in_port" with
  | none => .error (.typeError
      "int() argument must be a string, a bytes-like object or a number, not 'NoneType'")
  | some text =>
      match int text with
      | none => .error (.valueError ("invalid literal for int() with base 10: '" ++ text ++ "'"))
      | some number => .ok number

/-- A rule as FAUCET holds it, with the cookie that it has been given. -/
structure RuleConfig where
  cookie : Option Int := none
  description : Option String := none

/-- A cookie and a description, neither of them missing, zero or empty. -/
def RuleConfig.Counted (rule : RuleConfig) : Prop :=
  rule.cookie.getD 0 ≠ 0 ∧ rule.description.getD "" ≠ ""

instance (rule : RuleConfig) : Decidable rule.Counted :=
  inferInstanceAs (Decidable (_ ∧ _))

structure AclConfig where
  id : String
  rules : List RuleConfig

structure PortConfig where
  aclsIn : Option (List AclConfig) := none

structure SwitchConfig where
  ports : Dict Int PortConfig

/-- What is returned, before it is made a message: the packet count of each
description. -/
structure RuleCountsMap where
  rules : Dict String Int := .empty
  errors : List String := []

structure RuleCounts where
  rules : Dict String Int32
  errors : List String

structure Collector where
  switchConfigs : Dict String SwitchConfig := .empty

section Counting

variable (switch : String) (port : Int)

/-- `str(sample.labels.get('cookie')) == str(cookie_num)`, and the switch. -/
def Sample.ofRule (sample : Sample) (cookieNum : Int) : Bool :=
  (sample.labels.get? "cookie").getD "None" = toString cookieNum &&
    sample.labels.get? "dp_name" = some switch

/-- The first sample of a cookie at a port of a switch. -/
def firstSample (cookieNum : Int) : List Sample → Except Exc (Option Sample)
  | [] => .ok none
  | sample :: rest =>
      if ¬ sample.ofRule switch cookieNum then firstSample cookieNum rest
      else do
        let inPort ← sample.inPort
        if inPort ≠ port then firstSample cookieNum rest else pure (some sample)

def sampleError (aclId : String) (rule : RuleConfig) : String :=
  "No ACL metric sample available for switch, port, ACL, rule: " ++ switch ++ ", " ++
    toString port ++ ", " ++ aclId ++ ", " ++ rule.description.getD "" ++
    " (cookie=" ++ toString (rule.cookie.getD 0) ++ ")"

/-- What one rule adds to the counts. -/
def countRule (aclId : String) (ruleSamples : List Sample) (counts : RuleCountsMap)
    (rule : RuleConfig) : Except Exc RuleCountsMap :=
  if rule.cookie.getD 0 = 0 then .ok counts
  else if rule.description.getD "" = "" then .ok counts
  else do
    let found ← firstSample switch port (rule.cookie.getD 0) ruleSamples
    match found with
    | some sample =>
        pure { counts with rules := counts.rules.insert (rule.description.getD "") sample.value }
    | none =>
        pure { counts with errors := counts.errors ++ [sampleError switch port aclId rule] }

def portRuleCounts (aclConfig : AclConfig) (ruleSamples : List Sample) :
    Except Exc RuleCountsMap :=
  aclConfig.rules.foldlM (countRule switch port aclConfig.id ruleSamples) {}

/-- The only list that is applied to a port, or what is wrong with it. -/
def verifyPortAclConfig (collector : Collector) : Except String AclConfig :=
  match collector.switchConfigs.get? switch with
  | none => .error ("Switch not defined in Faucet dps config: " ++ switch)
  | some switchConfig =>
      match switchConfig.ports.get? port with
      | none => .error ("Port not defined in Faucet dps config: " ++ switch ++ ", " ++ toString port)
      | some portConfig =>
          match portConfig.aclsIn.getD [] with
          | [] => .error ("No ACLs applied to port: " ++ switch ++ ", " ++ toString port)
          | [aclConfig] => .ok aclConfig
          | _ :: _ :: _ => .error ("More than one ACLs were applied to port: " ++ switch ++ ", " ++
              toString port)

/-- The counts of a port.  `parseDict` makes a message of a dictionary. -/
def getPortRuleCounts (parseDict : RuleCountsMap → Except Exc RuleCounts) (collector : Collector)
    (ruleSamples : List Sample) : Except Exc RuleCounts :=
  match verifyPortAclConfig switch port collector with
  | .error error => parseDict { errors := [error] }
  | .ok aclConfig => do
      let counts ← portRuleCounts switch port aclConfig ruleSamples
      parseDict counts

/-- The list is the only one that is applied to a port of a switch. -/
def AppliedTo (collector : Collector) (aclConfig : AclConfig) : Prop :=
  ∃ switchConfig portConfig, collector.switchConfigs.get? switch = some switchConfig ∧
    switchConfig.ports.get? port = some portConfig ∧ portConfig.aclsIn = some [aclConfig]

/-- A sample of a cookie at a port of a switch. -/
def Sample.isAt (sample : Sample) (cookieNum : Int) : Bool :=
  sample.ofRule switch cookieNum && sample.inPort.toOption = some port

/-- The first sample that a rule has. -/
def sampleOf (samples : List Sample) (rule : RuleConfig) : Option Sample :=
  samples.find? (·.isAt switch port (rule.cookie.getD 0))

/-- The ports of the samples that are gone through for a cookie are numbers. -/
def Readable (samples : List Sample) (cookieNum : Int) : Prop :=
  ∀ sample ∈ samples.takeWhile (!·.isAt switch port cookieNum),
    sample.ofRule switch cookieNum → ∃ number, sample.inPort = .ok number

/-- The description and the count of each rule that has a sample. -/
def sampled (samples : List Sample) (rules : List RuleConfig) : List (String × Int) :=
  (rules.filter fun rule => decide rule.Counted).filterMap fun rule =>
    (sampleOf switch port samples rule).map fun sample =>
      (rule.description.getD "", sample.value)

/-- The rules that have a cookie and a description and no sample. -/
def unsampled (samples : List Sample) (rules : List RuleConfig) : List RuleConfig :=
  (rules.filter fun rule => decide rule.Counted).filter fun rule =>
    (sampleOf switch port samples rule).isNone

variable {switch port}

theorem verifyPortAclConfig_eq {collector : Collector} {aclConfig : AclConfig}
    (applied : AppliedTo switch port collector aclConfig) :
    verifyPortAclConfig switch port collector = .ok aclConfig := by
  obtain ⟨switchConfig, portConfig, known, present, lists⟩ := applied
  rw [verifyPortAclConfig, known]
  dsimp only
  rw [present]
  dsimp only
  rw [lists]
  rfl

theorem isAt_of_inPort {sample : Sample} {cookieNum number : Int}
    (mine : sample.ofRule switch cookieNum = true) (numbered : sample.inPort = .ok number) :
    sample.isAt switch port cookieNum = decide (number = port) := by
  rw [Sample.isAt, mine, numbered]
  simp [Except.toOption]

theorem isAt_of_raised {sample : Sample} {cookieNum : Int} {raised : Exc}
    (failed : sample.inPort = .error raised) : sample.isAt switch port cookieNum = false := by
  rw [Sample.isAt, failed]
  simp [Except.toOption]

theorem isAt_of_other {sample : Sample} {cookieNum : Int}
    (other : sample.ofRule switch cookieNum = false) :
    sample.isAt switch port cookieNum = false := by
  rw [Sample.isAt, other]
  rfl

theorem readable_cons {sample : Sample} {rest : List Sample} {cookieNum : Int} :
    Readable switch port (sample :: rest) cookieNum ↔
      sample.isAt switch port cookieNum = true ∨
        ((sample.ofRule switch cookieNum → ∃ number, sample.inPort = .ok number) ∧
          Readable switch port rest cookieNum) := by
  rw [Readable, List.takeWhile_cons]
  cases here : sample.isAt switch port cookieNum with
  | true => simp
  | false => simp [Readable]

/-- The first sample that matches is found, unless a port before it cannot be
read. -/
theorem firstSample_eq_ok_iff {samples : List Sample} {cookieNum : Int} {found : Option Sample} :
    firstSample switch port cookieNum samples = .ok found ↔
      Readable switch port samples cookieNum ∧
        samples.find? (·.isAt switch port cookieNum) = found := by
  induction samples with
  | nil => simp [firstSample, Readable]
  | cons sample rest induction =>
      rw [firstSample, readable_cons, List.find?_cons]
      cases mine : sample.ofRule switch cookieNum with
      | false =>
          rw [if_pos (by simp), induction, isAt_of_other mine]
          simp
      | true =>
          rw [if_neg (by simp)]
          cases numbered : sample.inPort with
          | error raised =>
              rw [isAt_of_raised numbered]
              simp
          | ok number =>
              rw [isAt_of_inPort mine numbered, ok_bind]
              by_cases here : number = port
              · simp [here]
              · simp [here, induction]

theorem sampled_append (samples : List Sample) (first second : List RuleConfig) :
    sampled switch port samples (first ++ second) =
      sampled switch port samples first ++ sampled switch port samples second := by
  rw [sampled, List.filter_append, List.filterMap_append]
  rfl

theorem unsampled_append (samples : List Sample) (first second : List RuleConfig) :
    unsampled switch port samples (first ++ second) =
      unsampled switch port samples first ++ unsampled switch port samples second := by
  rw [unsampled, List.filter_append, List.filter_append]
  rfl

/-- The counts with those of some rules. -/
def RuleCountsMap.add (counts : RuleCountsMap) (switch : String) (port : Int) (aclId : String)
    (samples : List Sample) (rules : List RuleConfig) : RuleCountsMap where
  rules := counts.rules.assign (sampled switch port samples rules)
  errors := counts.errors ++
    (unsampled switch port samples rules).map (sampleError switch port aclId)

theorem add_append {counts : RuleCountsMap} {aclId : String} {samples : List Sample}
    {first second : List RuleConfig} :
    (counts.add switch port aclId samples first).add switch port aclId samples second =
      counts.add switch port aclId samples (first ++ second) := by
  simp only [RuleCountsMap.add, sampled_append, unsampled_append, Dict.assign, List.foldl_append,
    List.map_append, List.append_assoc]

theorem add_of_not_counted {counts : RuleCountsMap} {aclId : String} {samples : List Sample}
    {rule : RuleConfig} (skipped : ¬ rule.Counted) :
    counts.add switch port aclId samples [rule] = counts := by
  simp [RuleCountsMap.add, sampled, unsampled, skipped, Dict.assign]

theorem countRule_eq_ok_iff {counts after : RuleCountsMap} {aclId : String}
    {samples : List Sample} {rule : RuleConfig} :
    countRule switch port aclId samples counts rule = .ok after ↔
      (rule.Counted → Readable switch port samples (rule.cookie.getD 0)) ∧
        counts.add switch port aclId samples [rule] = after := by
  by_cases both : rule.Counted
  · rw [countRule, if_neg both.1, if_neg both.2, bind_eq_ok_iff]
    simp only [firstSample_eq_ok_iff, both, true_implies]
    rw [exists_congr fun found => and_assoc (c := _), exists_and_left]
    apply and_congr_right
    intro _
    rw [exists_eq_left']
    cases found : samples.find? (·.isAt switch port (rule.cookie.getD 0)) with
    | some sample =>
        simp [RuleCountsMap.add, sampled, unsampled, both, sampleOf, found, Dict.assign]
    | none =>
        simp [RuleCountsMap.add, sampled, unsampled, both, sampleOf, found, Dict.assign]
  · have skips : countRule switch port aclId samples counts rule = .ok counts := by
      rw [countRule]
      split
      · rfl
      · next cookie => exact if_pos (not_not.mp fun described => both ⟨cookie, described⟩)
    rw [skips, add_of_not_counted both]
    simp [both]

theorem foldlM_countRule_eq_ok_iff {rules : List RuleConfig} {counts after : RuleCountsMap}
    {aclId : String} {samples : List Sample} :
    rules.foldlM (countRule switch port aclId samples) counts = .ok after ↔
      (∀ rule ∈ rules, rule.Counted → Readable switch port samples (rule.cookie.getD 0)) ∧
        counts.add switch port aclId samples rules = after := by
  induction rules generalizing counts with
  | nil => simp [RuleCountsMap.add, sampled, unsampled, Dict.assign]
  | cons rule rest induction =>
      rw [List.foldlM_cons, bind_eq_ok_iff]
      simp only [countRule_eq_ok_iff, induction, and_assoc, exists_and_left, exists_eq_left',
        add_append, List.singleton_append, List.forall_mem_cons]

end Counting

/-! What is returned adds up if no count is overwritten by another and all fit
the message. -/

def FitsInt32 (count : Int) : Prop := -2 ^ 31 ≤ count ∧ count < 2 ^ 31

instance (count : Int) : Decidable (FitsInt32 count) :=
  inferInstanceAs (Decidable (_ ∧ _))

/-- `ParseDict` for `RuleCounts`, whose packet counts are of type `int32`. -/
structure ParsesRuleCounts (parseDict : RuleCountsMap → Except Exc RuleCounts) : Prop where
  parses : ∀ counts, (∀ count ∈ counts.rules.values, FitsInt32 count) →
    ∃ message, parseDict counts = .ok message ∧
      message.rules.mapValues (fun _ count => count.toInt) = counts.rules ∧
      message.errors = counts.errors
  refuses : ∀ counts, ∀ count ∈ counts.rules.values, ¬ FitsInt32 count →
    ∃ raised, parseDict counts = .error raised

section Returned

variable (switch : String) (port : Int) (aclConfig : AclConfig) (samples : List Sample)

/-- The packet counts add up to what the rules have, and each rule without a
sample has its error. -/
def NothingLost (returned : Except Exc RuleCounts) : Prop :=
  ∃ counts, returned = .ok counts ∧
    (counts.rules.values.map Int32.toInt).sum =
      (((aclConfig.rules.filter fun rule => decide rule.Counted).filterMap
        (sampleOf switch port samples)).map Sample.value).sum ∧
    counts.errors =
      (unsampled switch port samples aclConfig.rules).map (sampleError switch port aclConfig.id)

/-- The ports of the samples can be read, the counts that last fit the message,
and those that are overwritten come to nothing. -/
structure Kept : Prop where
  readable : ∀ rule ∈ aclConfig.rules, rule.Counted →
    Readable switch port samples (rule.cookie.getD 0)
  fits : ∀ pair ∈ Dict.lasting (sampled switch port samples aclConfig.rules), FitsInt32 pair.2
  nothing : ((Dict.overwritten (sampled switch port samples aclConfig.rules)).map Prod.snd).sum = 0

variable {switch port aclConfig samples}

theorem snd_sampled (rules : List RuleConfig) :
    (sampled switch port samples rules).map Prod.snd =
      (((rules.filter fun rule => decide rule.Counted).filterMap
        (sampleOf switch port samples)).map Sample.value) := by
  rw [sampled, List.map_filterMap, List.map_filterMap]
  simp only [Option.map_map, Function.comp_def]

theorem fits_values_iff {pairs : List (String × Int)} :
    (∀ count ∈ ((Dict.empty : Dict String Int).assign pairs).values, FitsInt32 count) ↔
      ∀ pair ∈ Dict.lasting pairs, FitsInt32 pair.2 := by
  rw [← List.forall_mem_map (f := Prod.snd)]
  apply forall_congr'
  intro count
  rw [(Dict.values_assign_empty_perm pairs).mem_iff]

/-- The counts of a message that has the rules. -/
theorem sum_toInt {message : RuleCounts} {counts : RuleCountsMap}
    (same : message.rules.mapValues (fun _ count => count.toInt) = counts.rules) :
    (message.rules.values.map Int32.toInt).sum = counts.rules.values.sum := by
  rw [← same, Dict.values, Dict.values, Dict.entries_mapValues, List.map_map, List.map_map]
  rfl

/-- What is overwritten is what the sum falls short of. -/
theorem sum_values_eq_iff {rules : List RuleConfig} :
    ((Dict.empty : Dict String Int).assign (sampled switch port samples rules)).values.sum =
        (((rules.filter fun rule => decide rule.Counted).filterMap
          (sampleOf switch port samples)).map Sample.value).sum ↔
      ((Dict.overwritten (sampled switch port samples rules)).map Prod.snd).sum = 0 := by
  rw [← snd_sampled, ← Dict.sum_values_assign]
  exact left_eq_add

variable {parseDict : RuleCountsMap → Except Exc RuleCounts} {collector : Collector}

theorem kept_of_nothingLost (parses : ParsesRuleCounts parseDict)
    (applied : AppliedTo switch port collector aclConfig)
    (adds : NothingLost switch port aclConfig samples
      (getPortRuleCounts switch port parseDict collector samples)) :
    Kept switch port aclConfig samples := by
  rw [getPortRuleCounts, verifyPortAclConfig_eq applied] at adds
  obtain ⟨message, ran, total, _⟩ := adds
  obtain ⟨counts, counted, parsed⟩ := bind_eq_ok_iff.mp ran
  obtain ⟨readable, rfl⟩ := foldlM_countRule_eq_ok_iff.mp counted
  have fits : ∀ count ∈ (RuleCountsMap.add {} switch port aclConfig.id samples
      aclConfig.rules).rules.values, FitsInt32 count := by
    intro count inside
    by_contra large
    obtain ⟨raised, refused⟩ := parses.refuses _ count inside large
    cases refused.symm.trans parsed
  obtain ⟨_, again, same, _⟩ := parses.parses _ fits
  cases again.symm.trans parsed
  rw [sum_toInt same] at total
  exact ⟨readable, fits_values_iff.mp fits, sum_values_eq_iff.mp total⟩

theorem nothingLost_of_kept (parses : ParsesRuleCounts parseDict)
    (applied : AppliedTo switch port collector aclConfig)
    (kept : Kept switch port aclConfig samples) :
    NothingLost switch port aclConfig samples
      (getPortRuleCounts switch port parseDict collector samples) := by
  rw [getPortRuleCounts, verifyPortAclConfig_eq applied]
  obtain ⟨message, parsed, same, errors⟩ := parses.parses
    (RuleCountsMap.add {} switch port aclConfig.id samples aclConfig.rules)
    (fits_values_iff.mpr kept.fits)
  refine ⟨message, bind_eq_ok_iff.mpr ⟨_, ?_, parsed⟩, ?_, errors⟩
  · exact foldlM_countRule_eq_ok_iff.mpr ⟨kept.readable, rfl⟩
  · rw [sum_toInt same]
    exact sum_values_eq_iff.mpr kept.nothing

theorem nothingLost_iff (parses : ParsesRuleCounts parseDict)
    (applied : AppliedTo switch port collector aclConfig) :
    NothingLost switch port aclConfig samples
        (getPortRuleCounts switch port parseDict collector samples) ↔
      Kept switch port aclConfig samples :=
  ⟨kept_of_nothingLost parses applied, nothingLost_of_kept parses applied⟩

theorem readable_of_numbered (numbered : ∀ sample ∈ samples, ∃ number, sample.inPort = .ok number)
    (cookieNum : Int) : Readable switch port samples cookieNum :=
  fun sample gone _ => numbered sample ((List.takeWhile_prefix _).subset gone)

end Returned

/-! The rules that are generated from one rule of a template share its
description. -/

section Generated

variable {topology : Acl.FaucetTopology} {acl : Acl.Rule}

/-- What FAUCET makes of a rule. -/
def RuleConfig.ofRule (cookie : Int) (rule : Acl.Rule) : RuleConfig where
  cookie := some cookie
  description := rule.description

theorem description_augmentSecPortAcl {ports : Option (List Nat)} {dlDst : Option Mac}
    {rule : Acl.Rule} (made : Acl.augmentSecPortAcl topology acl ports dlDst = .ok rule) :
    rule.description = acl.description := by
  rw [Acl.augmentSecPortAcl] at made
  split at made
  · cases made
  · split at made
    · cases made
    · cases made
      rfl
    · cases made
      rfl

theorem description_augmentedRules {targets : Option (List PortTarget)} {rules : List Acl.Rule}
    (made : Acl.augmentedRules topology acl targets = .ok rules) :
    ∀ rule ∈ rules, rule.description = acl.description := by
  cases targets with
  | none =>
      obtain ⟨single, augmented, equality⟩ := bind_eq_ok_iff.mp made
      cases equality
      exact List.forall_mem_singleton.mpr (description_augmentSecPortAcl augmented)
  | some targets =>
      obtain ⟨broadcast, augmented, made⟩ := bind_eq_ok_iff.mp made
      obtain ⟨unicast, each, equality⟩ := bind_eq_ok_iff.mp made
      cases equality
      intro rule member
      cases member with
      | head => exact description_augmentSecPortAcl augmented
      | tail _ member =>
          obtain ⟨target, _, made⟩ := (mem_of_mapM each).mp member
          exact description_augmentSecPortAcl made

theorem exists_of_mem_sampled {switch : String} {port : Int} {samples : List Sample}
    {rules : List RuleConfig} {pair : String × Int}
    (member : pair ∈ sampled switch port samples rules) :
    ∃ rule ∈ rules, rule.description.getD "" = pair.1 := by
  obtain ⟨rule, counted, found⟩ := List.mem_filterMap.mp member
  obtain ⟨sample, _, equality⟩ := Option.map_eq_some_iff.mp found
  exact ⟨rule, List.mem_of_mem_filter counted, congrArg Prod.fst equality⟩

/-- Of the counts of the rules that one rule of a template gives, all but the
last one are lost. -/
theorem overwritten_augmentedRules {targets : Option (List PortTarget)} {rules : List Acl.Rule}
    (made : Acl.augmentedRules topology acl targets = .ok rules) (cookies : List Int)
    (switch : String) (port : Int) (samples : List Sample) :
    Dict.overwritten (sampled switch port samples
        ((cookies.zip rules).map fun given => RuleConfig.ofRule given.1 given.2)) =
      (sampled switch port samples
        ((cookies.zip rules).map fun given => RuleConfig.ofRule given.1 given.2)).dropLast := by
  have one : ∀ pair ∈ sampled switch port samples
      ((cookies.zip rules).map fun given => RuleConfig.ofRule given.1 given.2),
      pair.1 = acl.description.getD "" := by
    intro pair member
    obtain ⟨rule, listed, described⟩ := exists_of_mem_sampled member
    obtain ⟨given, zipped, rfl⟩ := List.mem_map.mp listed
    rw [← described, RuleConfig.ofRule,
      description_augmentedRules made given.2 (List.of_mem_zip zipped).2]
  exact Dict.overwritten_of_one_key one

end Generated

/-! Two ports of a switch.  The rules of the first have descriptions of their
own; those of the second are what one rule of a template gives for one target. -/

namespace Applied

theorem parseError_named : "ParseError" ≠ "" := by decide

def parseRuleCounts (counts : RuleCountsMap) : Except Exc RuleCounts :=
  if counts.rules.values.all fun count => decide (FitsInt32 count) then
    .ok { rules := counts.rules.mapValues fun _ count => Int32.ofInt count
          errors := counts.errors }
  else .error ⟨"ParseError", "Failed to parse packetCount field: Value out of range",
    parseError_named⟩

theorem parseRuleCounts_parses : ParsesRuleCounts parseRuleCounts where
  parses counts fits := by
    refine ⟨_, if_pos (List.all_eq_true.mpr fun count inside => decide_eq_true (fits count inside)),
      ?_, rfl⟩
    apply Dict.ext_entries
    rw [Dict.mapValues_mapValues, Dict.entries_mapValues]
    apply (List.map_congr_left ?_).trans (List.map_id _)
    intro entry member
    obtain ⟨least, most⟩ := fits entry.2 (List.mem_map_of_mem member)
    rw [Int32.toInt_ofInt_of_le least most]
    rfl
  refuses counts count inside large := by
    refine ⟨_, if_neg fun all => large ?_⟩
    exact of_decide_eq_true (List.all_eq_true.mp all count inside)

def sample (inPort cookie : String) (value : Int) : Sample where
  labels := Dict.empty.assign [("dp_name", "sec"), ("in_port", inPort), ("cookie", cookie)]
  value := value

def samples : List Sample := [sample "1" "4" 24, sample "1" "5" 25, sample "2" "6" 26, sample "2" "7" 27]

def template : Acl.Rule where
  actions := { allow := some true }
  description := some "allow dns"
  udpDst := some 53

theorem unplugged_keyed :
    ∀ entry ∈ (Dict.empty : Dict Nat PortTarget).entries, entry.2.port = entry.1 :=
  List.forall_mem_nil _

def generated : List Acl.Rule :=
  ((Acl.augmentedRules { secPort := 7, keyed := unplugged_keyed } template
    (some [⟨3, "bridge", "", 1, "9a:02:57:1e:8f:03"⟩])).toOption).getD []

def first : AclConfig where
  id := "port_1_acl"
  rules := [⟨some 4, some "allow dns"⟩, ⟨some 5, some "allow all"⟩, ⟨none, some "deny"⟩]

def second : AclConfig where
  id := "port_2_acl"
  rules := ([6, 7].zip generated).map fun given => RuleConfig.ofRule given.1 given.2

def collector : Collector where
  switchConfigs := Dict.empty.insert "sec" {
    ports := (Dict.empty.insert 1 { aclsIn := some [first] }).insert 2 { aclsIn := some [second] } }

theorem sampled_first : sampled "sec" 1 samples first.rules = [("allow dns", 24), ("allow all", 25)] := by
  decide +kernel

theorem sampled_second :
    sampled "sec" 2 samples second.rules = [("allow dns", 26), ("allow dns", 27)] := by
  decide +kernel

theorem first_applied : AppliedTo "sec" 1 collector first := ⟨_, _, rfl, rfl, rfl⟩

theorem second_applied : AppliedTo "sec" 2 collector second := ⟨_, _, rfl, rfl, rfl⟩

theorem samples_numbered : ∀ sample ∈ samples, ∃ number, sample.inPort = .ok number := by
  simp only [samples, List.forall_mem_cons]
  exact ⟨⟨1, rfl⟩, ⟨1, rfl⟩, ⟨2, rfl⟩, ⟨2, rfl⟩, List.forall_mem_nil _⟩

theorem first_counted : NothingLost "sec" 1 first samples
    (getPortRuleCounts "sec" 1 parseRuleCounts collector samples) := by
  apply (nothingLost_iff parseRuleCounts_parses first_applied).mpr
  constructor
  · exact fun rule _ _ => readable_of_numbered samples_numbered _
  · rw [sampled_first]
    decide
  · rw [sampled_first]
    decide

/-- The packets of the rule for broadcasts are not in what is returned. -/
theorem second_not_counted : ¬ NothingLost "sec" 2 second samples
    (getPortRuleCounts "sec" 2 parseRuleCounts collector samples) := by
  intro adds
  have nothing := (kept_of_nothingLost parseRuleCounts_parses second_applied adds).nothing
  have made : Acl.augmentedRules { secPort := 7, keyed := unplugged_keyed } template
      (some [⟨3, "bridge", "", 1, "9a:02:57:1e:8f:03"⟩]) = .ok generated := by rfl
  have lost := overwritten_augmentedRules made [6, 7] "sec" 2 samples
  have rules : ([6, 7].zip generated).map (fun given => RuleConfig.ofRule given.1 given.2) =
      second.rules := rfl
  rw [rules, sampled_second] at lost
  rw [sampled_second, lost] at nothing
  exact absurd nothing (by decide)

end Applied

end Daq.AclState
