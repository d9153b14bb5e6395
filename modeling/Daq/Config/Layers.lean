import Daq.Config.Include
import Daq.Config.Merge

namespace Daq.Configurator

/-! `ConnectedHost._load_module_config`: the configs of the device's type, of the device and of its
port are merged one after another into a copy of the runner's base config. -/

variable {γ : Type} [DecidableEq γ]

/-- What a host loads its config from. The last two fields are which other values count as true,
and what a device type raises that is no text. -/
structure ConnectedHost (γ : Type) where
  files : Files γ
  pathExists : String → Bool
  baseConfig : Entries γ
  sitePath : Option String
  deviceBase : Option String
  portBase : Option String
  truthy : γ → Bool
  refuseType : Config γ → Exc

def moduleConfig : String := "module_config.json"

def typeConfig : String := "type_config.json"

def deviceConfig : String := "device_config.json"

def portConfig : String := "port_config.json"

def joinPath (path component : String) : String :=
  .ofList (Path.join path.toList component.toList)

def oldConfig (name : Option String) (oldPath filename : String) : Exc :=
  let shown := name.getD "None"
  .exception s!"Old {shown} config found in {oldPath}, should be renamed to {filename}"

/-- A call that changes a dictionary which no one has any more once it raises. -/
def outcome {σ : Type} (ran : Except Exc Unit × σ) : Except Exc σ := ran.1.map fun _ => ran.2

namespace ConnectedHost

variable (host : ConnectedHost γ)

def loadConfig (name : Option String) (config : Entries γ) (path : Option String)
    (filename : String) : Except Exc Unit × Entries γ :=
  match path with
  | none => (.ok (), config)
  | some path =>
      if path = "" then (.ok (), config)
      else if host.pathExists (joinPath path moduleConfig) then
        (.error (oldConfig name (joinPath path moduleConfig) filename), config)
      else if host.pathExists (joinPath path filename) then
        mergeConfig host.files (joinPath path filename) [] config
      else (.ok (), config)

/-- Whether a value counts as true. -/
def counts : Config γ → Bool
  | .leaf (.text text) => text ≠ ""
  | .leaf (.other value) => host.truthy value
  | .dict entries => !entries.isEmpty

def typePath : Except Exc (Option String) := do
  let devConfig ← outcome (host.loadConfig none [] host.deviceBase deviceConfig)
  match (Assoc.get? devConfig (.text "device_type")).filter host.counts, host.sitePath with
  | none, _ => return none
  | some _, none =>
      throw (.typeError "expected str, bytes or os.PathLike object, not NoneType")
  | some (.leaf (.text deviceType)), some sitePath =>
      return some (host.files.abspath (joinPath (joinPath sitePath "device_types") deviceType))
  | some deviceType, some _ => throw (host.refuseType deviceType)

/-- `get_base_config`, and `_merge_run_info` where there is any. -/
def startConfig (runInfo : Option (Entries γ)) : Entries γ :=
  match runInfo with
  | none => host.baseConfig
  | some info => Assoc.set host.baseConfig (.text "run_info") (.dict info)

def loadModuleConfig (runInfo : Option (Entries γ)) : Except Exc (Entries γ) := do
  let typePath ← host.typePath
  let config ← outcome (host.loadConfig (some "type") (host.startConfig runInfo) typePath typeConfig)
  let config ← outcome (host.loadConfig (some "device") config host.deviceBase deviceConfig)
  outcome (host.loadConfig (some "port") config host.portBase portConfig)

/-- The files that are merged for one directory, the innermost one first. -/
inductive Layer (path : Option String) (filename : String) : List (Entries γ) → Prop
  | empty (missing : ∀ directory, path = some directory →
        directory = "" ∨ host.pathExists (joinPath directory filename) = false) :
      Layer path filename []
  | chain {directory : String} {files : List (Entries γ)} (set : path = some directory)
      (there : host.pathExists (joinPath directory filename) = true)
      (ends : Chain host.files (host.files.abspath (joinPath directory filename)) files) :
      Layer path filename files

end ConnectedHost

/-- The files of a config, merged by themselves. -/
def merged (files : List (Entries γ)) : Config γ :=
  .dict (files.foldl (fun base config => Tree.mergeEntries config base) [])

/-- No file of a config has anything to say about a path. -/
def Silent (files : List (Entries γ)) (path : List (Scalar γ)) : Prop :=
  ∀ file ∈ files, ¬ (Tree.dict file).Touches path

/-- A value of the port's config comes before one of the device's, that before one of the type's,
and that before what the base config has. -/
structure Precedence (start : Entries γ) (typeFiles deviceFiles portFiles : List (Entries γ))
    (config : Entries γ) : Prop where
  port : ∀ path value, (merged portFiles).look path = some (.leaf value) →
    (Tree.dict config).look path = some (.leaf value)
  device : ∀ path value, (merged deviceFiles).look path = some (.leaf value) →
    Silent portFiles path → (Tree.dict config).look path = some (.leaf value)
  type : ∀ path value, (merged typeFiles).look path = some (.leaf value) →
    Silent deviceFiles path → Silent portFiles path →
    (Tree.dict config).look path = some (.leaf value)
  base : ∀ path, Silent typeFiles path → Silent deviceFiles path → Silent portFiles path →
    (Tree.dict config).look path = (Tree.dict start).look path

section Loading

variable {files : Files γ}

theorem Files.readConfig_wellFormed
    (loads : ∀ text config, files.yaml text = .ok config → config.WellFormed)
    {configFile : String} {config : Config γ} (read : files.readConfig configFile = .ok config) :
    config.WellFormed := by
  have loaded : ∀ reader, (∀ text config, reader text = .ok config → config.WellFormed) →
      files.load reader configFile = .ok config → config.WellFormed := by
    intro reader sound loaded
    rw [Files.load] at loaded
    split at loaded
    · cases loaded
    · exact sound _ _ loaded
  rw [Files.readConfig] at read
  split at read
  · exact loaded _ loads read
  · split at read
    · refine loaded _ ?_ read
      intro text config flat
      obtain ⟨entries, parsed, same⟩ := Fallible.bind_eq_ok_iff.mp flat
      cases same
      exact readFlatConfig_wellFormed parsed
    · cases read

theorem Chain.wellFormed
    (loads : ∀ text config, files.yaml text = .ok config → config.WellFormed)
    {configFile : String} {chain : List (Entries γ)} (ends : Chain files configFile chain) :
    ∀ entries ∈ chain, (Tree.dict entries).WellFormed := by
  have reads : ∀ {configFile : String} {entries : Entries γ} {next : Option String},
      Reads files configFile entries next → (Tree.dict entries).WellFormed := by
    intro configFile entries next reads
    cases reads with
    | last read _ => exact Files.readConfig_wellFormed loads read
    | includes read _ => exact (Files.readConfig_wellFormed loads read).filter _
  induction ends with
  | last last => exact List.forall_mem_singleton.mpr (reads last)
  | includes next _ later =>
      exact List.forall_mem_append.mpr ⟨later, List.forall_mem_singleton.mpr (reads next)⟩

end Loading

section Hosts

variable {host : ConnectedHost γ}

theorem ConnectedHost.Layer.wellFormed
    (loads : ∀ text config, host.files.yaml text = .ok config → config.WellFormed)
    {path : Option String} {filename : String} {files : List (Entries γ)}
    (layer : host.Layer path filename files) :
    ∀ entries ∈ files, (Tree.dict entries).WellFormed := by
  cases layer with
  | empty _ => exact List.forall_mem_nil _
  | chain _ _ ends => exact ends.wellFormed loads

/-- A config that has been loaded has had the files of a directory merged into it. -/
theorem outcome_loadConfig {name path : Option String} {filename : String}
    {config result : Entries γ}
    (loaded : outcome (host.loadConfig name config path filename) = .ok result) :
    ∃ files, host.Layer path filename files ∧
      result = files.foldl (fun base config => Tree.mergeEntries config base) config := by
  unfold ConnectedHost.loadConfig at loaded
  split at loaded
  · cases loaded
    refine ⟨[], .empty ?_, rfl⟩
    intro directory same
    cases same
  · rename_i directory
    split_ifs at loaded with unset old there
    · cases loaded
      refine ⟨[], .empty ?_, rfl⟩
      intro _ same
      cases same
      exact .inl unset
    · cases loaded
    · rcases @mergeConfig_spec γ _ host.files (joinPath directory filename) []
          (List.forall_mem_nil _) with
        ⟨chain, ends, merges⟩ | ⟨_, raised, unchanged⟩
      · rw [merges] at loaded
        cases loaded
        exact ⟨chain, .chain rfl there ends, rfl⟩
      · rw [unchanged] at loaded
        cases loaded
    · cases loaded
      refine ⟨[], .empty ?_, rfl⟩
      intro _ same
      cases same
      exact .inr (Bool.eq_false_iff.mpr there)

theorem precedence {start : Entries γ} {typeFiles deviceFiles portFiles : List (Entries γ)}
    (types : ∀ entries ∈ typeFiles, (Tree.dict entries).WellFormed)
    (devices : ∀ entries ∈ deviceFiles, (Tree.dict entries).WellFormed)
    (ports : ∀ entries ∈ portFiles, (Tree.dict entries).WellFormed) :
    Precedence start typeFiles deviceFiles portFiles
      ((typeFiles ++ (deviceFiles ++ portFiles)).foldl
        (fun base config => Tree.mergeEntries config base) start) := by
  rw [List.foldl_append, List.foldl_append]
  constructor
  case port =>
    intro path value leaf
    exact Tree.look_foldl_of_leaf ports leaf _
  case device =>
    intro path value leaf silent
    rw [Tree.look_foldl_of_not_touches ports silent]
    exact Tree.look_foldl_of_leaf devices leaf _
  case type =>
    intro path value leaf silentDevice silent
    rw [Tree.look_foldl_of_not_touches ports silent,
      Tree.look_foldl_of_not_touches devices silentDevice]
    exact Tree.look_foldl_of_leaf types leaf _
  case base =>
    intro path silentType silentDevice silent
    rw [Tree.look_foldl_of_not_touches ports silent,
      Tree.look_foldl_of_not_touches devices silentDevice,
      Tree.look_foldl_of_not_touches types silentType]

/-- The config of a host is that of its runner with those of its type, device and port merged into
it, in this order. -/
theorem loadModuleConfig_layers
    (loads : ∀ text config, host.files.yaml text = .ok config → config.WellFormed)
    {runInfo : Option (Entries γ)} {config : Entries γ}
    (loaded : host.loadModuleConfig runInfo = .ok config) :
    ∃ typePath typeFiles deviceFiles portFiles, host.typePath = .ok typePath ∧
      host.Layer typePath typeConfig typeFiles ∧
      host.Layer host.deviceBase deviceConfig deviceFiles ∧
      host.Layer host.portBase portConfig portFiles ∧
      Precedence (host.startConfig runInfo) typeFiles deviceFiles portFiles config := by
  obtain ⟨typePath, typed, loaded⟩ := Fallible.bind_eq_ok_iff.mp loaded
  obtain ⟨_, loadedType, loaded⟩ := Fallible.bind_eq_ok_iff.mp loaded
  obtain ⟨_, loadedDevice, loadedPort⟩ := Fallible.bind_eq_ok_iff.mp loaded
  obtain ⟨typeFiles, typeLayer, rfl⟩ := outcome_loadConfig loadedType
  obtain ⟨deviceFiles, deviceLayer, rfl⟩ := outcome_loadConfig loadedDevice
  obtain ⟨portFiles, portLayer, rfl⟩ := outcome_loadConfig loadedPort
  refine ⟨typePath, typeFiles, deviceFiles, portFiles, typed, typeLayer, deviceLayer, portLayer, ?_⟩
  rw [← List.foldl_append, ← List.foldl_append]
  exact precedence (typeLayer.wellFormed loads) (deviceLayer.wellFormed loads)
    (portLayer.wellFormed loads)

end Hosts

section Law

open TreeHeap

variable {κ α : Type} [DecidableEq κ]

/-- What `_deep_merge_dict` makes of a dictionary when another one is merged into it. -/
structure DeepMerge (heap : Heap κ α) (base adding : Nat) (entries added : List (κ × Tree κ α))
    (after : Heap κ α) (result : List (κ × Tree κ α)) : Prop where
  merged : MergesTo heap base adding after
  held : ∃ region, Holds after (.dict result) (.dict base) region
  law : Tree.MergeLaw (.dict entries) (.dict added) (.dict result)
  again : ∃ twice region, MergesTo after base adding twice ∧
    Holds twice (.dict result) (.dict base) region
  later : ∀ last, Later base after last → ∃ region, Holds last (.dict added) (.dict adding) region

theorem deepMerge {heap : Heap κ α} {base adding : Nat} {entries added : List (κ × Tree κ α)}
    {region other : Set Nat} (held : Holds heap (.dict entries) (.dict base) region)
    (heldAdding : Holds heap (.dict added) (.dict adding) other) (apart : Disjoint region other)
    (wellFormed : (Tree.dict added).WellFormed) :
    ∃ after result, DeepMerge heap base adding entries added after result := by
  obtain ⟨after, grown, merged, heldAfter, changes⟩ := exists_mergesTo held heldAdding apart
  have heldThen := changes.frame heldAdding apart
  have apartThen := changes.apart heldAdding.lt_next apart
  obtain ⟨twice, regrown, mergedAgain, heldTwice, _⟩ := exists_mergesTo heldAfter heldThen apartThen
  have same : Tree.mergeEntries added (Tree.mergeEntries added entries) =
      Tree.mergeEntries added entries :=
    Tree.dict.inj (Tree.mergeOnto_again wellFormed (some (.dict entries)))
  refine ⟨after, Tree.mergeEntries added entries, merged, ⟨grown, heldAfter⟩,
    Tree.mergeLaw wellFormed (.dict entries), ⟨twice, regrown, mergedAgain, same ▸ heldTwice⟩, ?_⟩
  intro last later
  exact ⟨other, later.frame heldAfter heldThen apartThen⟩

end Law

/-- A deep merge keeps its law, and in the config of a host a value of the port comes before one of
the device, that before one of the type, and that before the base. -/
theorem deepMerge_precedence {κ α γ : Type} [DecidableEq κ] [DecidableEq γ] :
    (∀ (heap : TreeHeap.Heap κ α) (base adding : Nat) (entries added : List (κ × Tree κ α))
        (region other : Set Nat), TreeHeap.Holds heap (.dict entries) (.dict base) region →
        TreeHeap.Holds heap (.dict added) (.dict adding) other → Disjoint region other →
        (Tree.dict added).WellFormed →
        ∃ after result, DeepMerge heap base adding entries added after result) ∧
      ∀ (host : ConnectedHost γ) (runInfo : Option (Entries γ)) (config : Entries γ),
        (∀ text config, host.files.yaml text = .ok config → config.WellFormed) →
        host.loadModuleConfig runInfo = .ok config →
        ∃ typePath typeFiles deviceFiles portFiles, host.typePath = .ok typePath ∧
          host.Layer typePath typeConfig typeFiles ∧
          host.Layer host.deviceBase deviceConfig deviceFiles ∧
          host.Layer host.portBase portConfig portFiles ∧
          Precedence (host.startConfig runInfo) typeFiles deviceFiles portFiles config :=
  ⟨fun _ _ _ _ _ _ _ held heldAdding apart wellFormed => deepMerge held heldAdding apart wellFormed,
    fun _ _ _ loads loaded => loadModuleConfig_layers loads loaded⟩

namespace Sample

def leaseJson : List Char := "lease: 5s".toList

def lease (time : String) : Entries Unit := [(.text "lease", .leaf (.text time))]

/-- A host with a config for its port. -/
def portHost : ConnectedHost Unit where
  files := {
    texts := ⟨[("/port/port_config.json", leaseJson)], List.nodup_singleton _⟩
    cwd := ['/']
    yaml _ := .ok (.dict (lease "5s"))
    refuse _ := .typeError "argument of type is not iterable"
    refuseInclude _ := .attributeError "no attribute 'startswith'" }
  pathExists path := path = "/port/port_config.json"
  baseConfig := lease "500s"
  sitePath := none
  deviceBase := none
  portBase := some "/port"
  truthy _ := true
  refuseType _ := .typeError "join() argument must be str"

theorem lease_wellFormed (time : String) : (Tree.dict (lease time)).WellFormed :=
  .dict (List.nodup_singleton _) (List.forall_mem_singleton.mpr (.leaf _))

theorem portHost_loaded : portHost.loadModuleConfig none = .ok (lease "5s") := by
  have path : joinPath "/port" portConfig = "/port/port_config.json" := by decide
  have abspath : portHost.files.abspath "/port/port_config.json" = "/port/port_config.json" := by
    decide
  have read : portHost.files.readConfig (portHost.files.abspath "/port/port_config.json") =
      .ok (.dict (lease "5s")) := by
    rw [abspath]
    rfl
  have merged : mergeConfig portHost.files "/port/port_config.json" [] (lease "500s") =
      (.ok (), lease "5s") := by
    rw [mergeConfig_dict read List.not_mem_nil]
    rfl
  have port : portHost.loadConfig (some "port") (lease "500s") (some "/port") portConfig =
      (.ok (), lease "5s") := by
    rw [← merged, ← path]
    rfl
  calc portHost.loadModuleConfig none
    _ = outcome (portHost.loadConfig (some "port") (lease "500s") (some "/port") portConfig) := rfl
    _ = .ok (lease "5s") := by
      rw [port]
      rfl

/-- The two dictionaries as objects. -/
def leases : TreeHeap.Heap String String where
  node address := [("lease", .leaf (if address = 0 then "500s" else "5s"))]
  next := 2

theorem leases_holds {address : Nat} (old : address < 2) :
    TreeHeap.Holds leases (.dict [("lease", .leaf (if address = 0 then "500s" else "5s"))])
      (.dict address) {address} := by
  refine ⟨address, ∅, rfl, (insert_empty_eq address).symm, old, Set.notMem_empty _, ?_⟩
  exact ⟨_, [], ∅, ∅, rfl, (Set.union_empty ∅).symm, Set.disjoint_empty _, ⟨rfl, rfl⟩, rfl, rfl⟩

theorem portHost_precedence :
    (∃ after result, DeepMerge leases 0 1 [("lease", .leaf "500s")] [("lease", .leaf "5s")] after
        result) ∧
      ∃ typePath typeFiles deviceFiles portFiles, portHost.typePath = .ok typePath ∧
        portHost.Layer typePath typeConfig typeFiles ∧
        portHost.Layer none deviceConfig deviceFiles ∧
        portHost.Layer (some "/port") portConfig portFiles ∧
        Precedence (lease "500s") typeFiles deviceFiles portFiles (lease "5s") := by
  obtain ⟨law, layers⟩ := @deepMerge_precedence String String Unit _ _
  refine ⟨law leases 0 1 _ _ {0} {1} (leases_holds Nat.two_pos) (leases_holds Nat.one_lt_two)
      (Set.disjoint_singleton.mpr Nat.zero_ne_one)
      (.dict (List.nodup_singleton _) (List.forall_mem_singleton.mpr (.leaf _))),
    layers portHost none _ ?_ portHost_loaded⟩
  intro text config read
  cases read
  exact lease_wellFormed "5s"

end Sample

end Daq.Configurator
