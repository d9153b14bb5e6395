import Daq.Config.Read
import Mathlib.Logic.Relation

namespace Daq.Configurator

/-! `merge_config`: a config file is merged over the files that it includes. -/

variable {γ : Type} [DecidableEq γ]

/-- The config files with their texts, and the YAML loader, for files in which no two places are
one object by an alias. The last two fields are what a value raises that is no dictionary, and an
include that is no text. -/
structure Files (γ : Type) where
  texts : Dict String (List Char)
  cwd : List Char
  yaml : List Char → Except Exc (Config γ)
  refuse : Scalar γ → Exc
  refuseInclude : Config γ → Exc

namespace Files

/-- `open` and what is read from the file. -/
def load (files : Files γ) (read : List Char → Except Exc (Config γ)) (configFile : String) :
    Except Exc (Config γ) :=
  match files.texts.get? configFile with
  | none => .error (.fileNotFoundError configFile)
  | some text => read text

def readConfig (files : Files γ) (configFile : String) : Except Exc (Config γ) :=
  if ".yaml".toList <:+ configFile.toList ∨ ".json".toList <:+ configFile.toList then
    files.load files.yaml configFile
  else if ".conf".toList <:+ configFile.toList then
    files.load (fun text => return .dict (← readFlatConfig text)) configFile
  else .error (.exception s!"Unknown config file type: {configFile}")

def abspath (files : Files γ) (configFile : String) : String :=
  .ofList (Path.abspath files.cwd configFile.toList)

/-- The file that another one includes. -/
def including (configFile included : String) : String :=
  if included.toList.head? = some '/' then included
  else .ofList (Path.join (Path.dirname configFile.toList) included.toList)

theorem mem_keys_of_readConfig {files : Files γ} {configFile : String} {config : Config γ}
    (read : files.readConfig configFile = .ok config) : configFile ∈ files.texts.keys := by
  have loaded : ∀ reader, files.load reader configFile = .ok config →
      configFile ∈ files.texts.keys := by
    intro reader loaded
    rw [load] at loaded
    split at loaded
    · cases loaded
    · exact Dict.mem_keys_iff.mpr ⟨_, ‹_›⟩
  rw [readConfig] at read
  split at read
  · exact loaded _ read
  · split at read
    · exact loaded _ read
    · cases read

end Files

/-- Whether the entry `include` is there, and what it is. -/
def includeKey : Scalar γ := .text "include"

def popInclude (entries : Entries γ) : Entries γ :=
  entries.filter fun entry => entry.1 ≠ includeKey

/-- The files that have not been traversed. -/
def untraversed (files : Files γ) (traversed : List String) : Nat :=
  (files.texts.keys.filter fun configFile => configFile ∉ traversed).length

omit [DecidableEq γ] in
theorem untraversed_lt {files : Files γ} {traversed : List String} {configFile : String}
    (there : configFile ∈ files.texts.keys) (new : configFile ∉ traversed) :
    untraversed files (configFile :: traversed) < untraversed files traversed := by
  have fewer : (files.texts.keys.filter fun other => other ∉ configFile :: traversed) =
      (files.texts.keys.filter fun other => other ∉ traversed).filter
        fun other => other ≠ configFile := by
    rw [List.filter_filter]
    apply List.filter_congr
    intro other _
    simp [List.mem_cons]
  rw [untraversed, untraversed, fewer, List.length_filter_lt_length_iff_exists]
  exact ⟨configFile, List.mem_filter.mpr ⟨there, decide_eq_true new⟩, by simp⟩

def circular (configFile : String) : Exc :=
  .exception s!"Circular include in config file {configFile}"

/-- What a file includes, if anything. -/
def Files.included (files : Files γ) (entries : Entries γ) : Except Exc (Option String) :=
  match Assoc.get? entries includeKey with
  | none => .ok none
  | some (.leaf (.text included)) => .ok (some included)
  | some value => .error (files.refuseInclude value)

/-- The entries are merged after the file that they include. -/
def mergeOver (entries : Entries γ) (inner : Except Exc Unit × Entries γ) :
    Except Exc Unit × Entries γ :=
  match inner.1 with
  | .error raised => (.error raised, inner.2)
  | .ok () => (.ok (), Tree.mergeEntries entries inner.2)

section Loop

attribute [local irreducible] Files.readConfig Files.abspath Files.including

/-- `merge_config`: the base is left as it is until the innermost file has been read. -/
def mergeConfig (files : Files γ) (configFile : String) (traversed : List String)
    (base : Entries γ) : Except Exc Unit × Entries γ :=
  match _read : files.readConfig (files.abspath configFile) with
  | .error raised => (.error raised, base)
  | .ok (.leaf value) =>
      if files.abspath configFile ∈ traversed then
        (.error (circular (files.abspath configFile)), base)
      else (.error (files.refuse value), base)
  | .ok (.dict entries) =>
      if _new : files.abspath configFile ∉ traversed then
        match files.included entries with
        | .error raised => (.error raised, base)
        | .ok none => (.ok (), Tree.mergeEntries entries base)
        | .ok (some included) =>
            mergeOver (popInclude entries)
              (mergeConfig files (Files.including (files.abspath configFile) included)
                (files.abspath configFile :: traversed) base)
      else (.error (circular (files.abspath configFile)), base)
termination_by untraversed files traversed
decreasing_by exact untraversed_lt (Files.mem_keys_of_readConfig _read) _new

end Loop

/-! The chain of files that include each other. -/

section Chains

variable (files : Files γ)

/-- A file can be read, is a dictionary, and includes another one or none. -/
inductive Reads (configFile : String) : Entries γ → Option String → Prop
  | last {entries : Entries γ} (read : files.readConfig configFile = .ok (.dict entries))
      (alone : Assoc.get? entries includeKey = none) : Reads configFile entries none
  | includes {entries : Entries γ} {included : String}
      (read : files.readConfig configFile = .ok (.dict entries))
      (entry : Assoc.get? entries includeKey = some (.leaf (.text included))) :
      Reads configFile (popInclude entries)
        (some (files.abspath (Files.including configFile included)))

/-- The dictionaries of a chain that ends, from the innermost file outwards. -/
inductive Chain : String → List (Entries γ) → Prop
  | last {configFile : String} {entries : Entries γ} (reads : Reads files configFile entries none) :
      Chain configFile [entries]
  | includes {configFile next : String} {entries : Entries γ} {inner : List (Entries γ)}
      (reads : Reads files configFile entries (some next)) (rest : Chain next inner) :
      Chain configFile (inner ++ [entries])

def Follows (configFile next : String) : Prop := ∃ entries, Reads files configFile entries (some next)

/-- The chain comes to a file that cannot be read or is malformed. -/
def Broken (configFile : String) : Prop :=
  ∃ last, Relation.ReflTransGen (Follows files) configFile last ∧
    ∀ entries next, ¬ Reads files last entries next

/-- The chain comes to a file that includes itself, at once or through others. -/
def Cyclic (configFile : String) : Prop :=
  ∃ again, Relation.ReflTransGen (Follows files) configFile again ∧
    Relation.TransGen (Follows files) again again

end Chains

section Merging

variable {files : Files γ} {configFile next : String} {entries others : Entries γ}

theorem Reads.unique {first second : Option String} (reads : Reads files configFile entries first)
    (again : Reads files configFile others second) : entries = others ∧ first = second := by
  cases reads with
  | last read alone =>
      cases again with
      | last readAgain _ =>
          cases read.symm.trans readAgain
          exact ⟨rfl, rfl⟩
      | includes readAgain entry =>
          cases read.symm.trans readAgain
          cases alone.symm.trans entry
  | includes read entry =>
      cases again with
      | last readAgain alone =>
          cases read.symm.trans readAgain
          cases alone.symm.trans entry
      | includes readAgain entryAgain =>
          cases read.symm.trans readAgain
          cases entry.symm.trans entryAgain
          exact ⟨rfl, rfl⟩

theorem Reads.include_text {first : Option String} {value : Config γ}
    (reads : Reads files configFile others first)
    (read : files.readConfig configFile = .ok (.dict entries))
    (entry : Assoc.get? entries includeKey = some value) :
    ∃ included, value = .leaf (.text included) := by
  cases reads with
  | last readAgain alone =>
      cases read.symm.trans readAgain
      cases alone.symm.trans entry
  | includes readAgain text =>
      cases read.symm.trans readAgain
      exact ⟨_, Option.some.inj (entry.symm.trans text)⟩

theorem Follows.unique {other : String} (follows : Follows files configFile next)
    (again : Follows files configFile other) : other = next := by
  obtain ⟨_, reads⟩ := follows
  obtain ⟨_, readsAgain⟩ := again
  exact Option.some.inj (readsAgain.unique reads).2

theorem Chain.not_broken {chain : List (Entries γ)} (ends : Chain files configFile chain) :
    ¬ Broken files configFile := by
  induction ends with
  | last reads =>
      rintro ⟨last, path, unread⟩
      rcases path.cases_head with rfl | ⟨next, ⟨_, follows⟩, _⟩
      · exact unread _ _ reads
      · cases (reads.unique follows).2
  | includes reads _ later =>
      rintro ⟨last, path, unread⟩
      rcases path.cases_head with rfl | ⟨next, follows, path⟩
      · exact unread _ _ reads
      · obtain rfl := Follows.unique ⟨_, reads⟩ follows
        exact later ⟨last, path, unread⟩

theorem Chain.not_cyclic {chain : List (Entries γ)} (ends : Chain files configFile chain) :
    ¬ Cyclic files configFile := by
  induction ends with
  | last reads =>
      rename_i alone _
      have alone : ∀ next, ¬ Follows files alone next := by
        rintro next ⟨_, follows⟩
        cases (reads.unique follows).2
      rintro ⟨again, path, cycle⟩
      rcases path.cases_head with rfl | ⟨next, follows, _⟩
      · obtain ⟨next, follows, _⟩ := Relation.TransGen.head'_iff.mp cycle
        exact alone next follows
      · exact alone next follows
  | includes reads _ later =>
      rintro ⟨again, path, cycle⟩
      rcases path.cases_head with rfl | ⟨next, follows, path⟩
      · -- the cycle is also one of the next file
        obtain ⟨next, follows, path⟩ := Relation.TransGen.head'_iff.mp cycle
        obtain rfl := Follows.unique ⟨_, reads⟩ follows
        exact later ⟨next, .refl, Relation.TransGen.tail'_iff.mpr ⟨_, path, follows⟩⟩
      · obtain rfl := Follows.unique ⟨_, reads⟩ follows
        exact later ⟨again, path, cycle⟩

/-- A file that cannot be read, or is no dictionary. -/
theorem mergeConfig_unread {traversed : List String}
    (unread : ∀ entries, files.readConfig (files.abspath configFile) ≠ .ok (.dict entries)) :
    ∃ raised, ∀ base, mergeConfig files configFile traversed base = (.error raised, base) := by
  cases read : files.readConfig (files.abspath configFile) with
  | error raised =>
      refine ⟨raised, fun base => ?_⟩
      rw [mergeConfig]
      split <;> simp_all
  | ok config =>
      cases config with
      | dict entries => exact absurd read (unread entries)
      | leaf value =>
          by_cases seen : files.abspath configFile ∈ traversed
          · refine ⟨circular (files.abspath configFile), fun base => ?_⟩
            rw [mergeConfig]
            split <;> simp_all
          · refine ⟨files.refuse value, fun base => ?_⟩
            rw [mergeConfig]
            split <;> simp_all

theorem mergeConfig_circular {traversed : List String}
    (read : files.readConfig (files.abspath configFile) = .ok (.dict entries))
    (seen : files.abspath configFile ∈ traversed) (base : Entries γ) :
    mergeConfig files configFile traversed base =
      (.error (circular (files.abspath configFile)), base) := by
  rw [mergeConfig]
  split <;> simp_all

theorem mergeConfig_dict {traversed : List String}
    (read : files.readConfig (files.abspath configFile) = .ok (.dict entries))
    (new : files.abspath configFile ∉ traversed) (base : Entries γ) :
    mergeConfig files configFile traversed base =
      match files.included entries with
      | .error raised => (.error raised, base)
      | .ok none => (.ok (), Tree.mergeEntries entries base)
      | .ok (some included) =>
          mergeOver (popInclude entries)
            (mergeConfig files (Files.including (files.abspath configFile) included)
              (files.abspath configFile :: traversed) base) := by
  rw [mergeConfig]
  split
  · simp_all
  · simp_all
  · rename_i again
    obtain rfl := Tree.dict.inj (Except.ok.inj (read.symm.trans again))
    rw [dif_pos new]

theorem Broken.behind (broken : Broken files next) (follows : Follows files configFile next) :
    Broken files configFile := by
  obtain ⟨last, path, unread⟩ := broken
  exact ⟨last, path.head follows, unread⟩

theorem Cyclic.behind (cyclic : Cyclic files next) (follows : Follows files configFile next) :
    Cyclic files configFile := by
  obtain ⟨again, path, cycle⟩ := cyclic
  exact ⟨again, path.head follows, cycle⟩

/-- A call either merges a chain that ends, or raises and has changed nothing. What has been
traversed leads to the file. -/
theorem mergeConfig_spec (configFile : String) (traversed : List String)
    (behind : ∀ earlier ∈ traversed,
      Relation.TransGen (Follows files) earlier (files.abspath configFile)) :
    (∃ chain, Chain files (files.abspath configFile) chain ∧ ∀ base,
        mergeConfig files configFile traversed base =
          (.ok (), chain.foldl (fun base config => Tree.mergeEntries config base) base)) ∨
      (Broken files (files.abspath configFile) ∨ Cyclic files (files.abspath configFile)) ∧
        ∃ raised, ∀ base, mergeConfig files configFile traversed base = (.error raised, base) := by
  induction measure : untraversed files traversed using Nat.strong_induction_on
    generalizing configFile traversed with
  | _ count later =>
      by_cases readable : ∃ entries,
          files.readConfig (files.abspath configFile) = .ok (.dict entries)
      · obtain ⟨entries, read⟩ := readable
        by_cases seen : files.abspath configFile ∈ traversed
        · exact .inr ⟨.inr ⟨_, .refl, behind _ seen⟩, _, mergeConfig_circular read seen⟩
        · cases entry : Assoc.get? entries includeKey with
          | none =>
              refine .inl ⟨[entries], .last (.last read entry), fun base => ?_⟩
              rw [mergeConfig_dict read seen, Files.included, entry]
              rfl
          | some value =>
              have started := mergeConfig_dict read seen
              rw [Files.included, entry] at started
              rcases value with (included | value) | inner
              · -- the file includes another one
                have follows : Follows files (files.abspath configFile)
                    (files.abspath (Files.including (files.abspath configFile) included)) :=
                  ⟨_, .includes read entry⟩
                have fewer := untraversed_lt (Files.mem_keys_of_readConfig read) seen
                rcases later _ (measure ▸ fewer) (Files.including (files.abspath configFile) included)
                    (files.abspath configFile :: traversed)
                    (List.forall_mem_cons.mpr ⟨.single follows,
                      fun earlier member => (behind earlier member).tail follows⟩) rfl with
                  ⟨chain, ends, merged⟩ | ⟨bad, raised, unchanged⟩
                · refine .inl ⟨chain ++ [popInclude entries], .includes (.includes read entry) ends,
                    fun base => ?_⟩
                  rw [started, List.foldl_append]
                  dsimp only
                  rw [merged]
                  rfl
                · refine .inr ⟨bad.imp (·.behind follows) (·.behind follows), raised, fun base => ?_⟩
                  rw [started]
                  dsimp only
                  rw [unchanged]
                  rfl
              · refine .inr ⟨.inl ⟨_, .refl, ?_⟩, files.refuseInclude (.leaf (.other value)), started⟩
                intro others next reads
                obtain ⟨included, same⟩ := reads.include_text read entry
                cases same
              · refine .inr ⟨.inl ⟨_, .refl, ?_⟩, files.refuseInclude (.dict inner), started⟩
                intro others next reads
                obtain ⟨included, same⟩ := reads.include_text read entry
                cases same
      · refine .inr ⟨.inl ⟨_, .refl, ?_⟩, mergeConfig_unread fun entries read => readable ⟨_, read⟩⟩
        intro entries next reads
        cases reads with
        | last read _ => exact readable ⟨_, read⟩
        | includes read _ => exact readable ⟨_, read⟩

end Merging

/-- A chain with a cycle or with a file that cannot be read or is malformed raises and leaves the
base as it is; any other one is merged into the base, the innermost file first. -/
theorem mergeConfig_chain (files : Files γ) (configFile : String) (base : Entries γ) :
    (Broken files (files.abspath configFile) ∨ Cyclic files (files.abspath configFile) →
        ∃ raised, mergeConfig files configFile [] base = (.error raised, base)) ∧
      (¬ Broken files (files.abspath configFile) → ¬ Cyclic files (files.abspath configFile) →
        ∃ chain, Chain files (files.abspath configFile) chain ∧
          mergeConfig files configFile [] base =
            (.ok (), chain.foldl (fun base config => Tree.mergeEntries config base) base)) := by
  rcases @mergeConfig_spec γ _ files configFile [] (List.forall_mem_nil _) with
    ⟨chain, ends, merged⟩ | ⟨bad, raised, unchanged⟩
  · exact ⟨fun bad => absurd bad (not_or.mpr ⟨ends.not_broken, ends.not_cyclic⟩),
      fun _ _ => ⟨chain, ends, merged base⟩⟩
  · exact ⟨fun _ => ⟨raised, unchanged base⟩,
      fun notBroken notCyclic => absurd bad (not_or.mpr ⟨notBroken, notCyclic⟩)⟩

namespace Sample

def outerYaml : List Char := "include: inner.yaml\nlease: 0s\n".toList

def innerYaml : List Char := "lease: 500s\nsite: local\n".toList

theorem yamls_nodup :
    ([("/outer.yaml", outerYaml), ("/inner.yaml", innerYaml)].map Prod.fst).Nodup := by
  decide

/-- A file that includes another one. -/
def twoFiles : Files Unit where
  texts := ⟨[("/outer.yaml", outerYaml), ("/inner.yaml", innerYaml)], yamls_nodup⟩
  cwd := ['/']
  yaml text :=
    if text = outerYaml then
      .ok (.dict [(.text "include", .leaf (.text "inner.yaml")), (.text "lease", .leaf (.text "0s"))])
    else
      .ok (.dict [(.text "lease", .leaf (.text "500s")), (.text "site", .leaf (.text "local"))])
  refuse _ := .typeError "argument of type is not iterable"
  refuseInclude _ := .attributeError "no attribute 'startswith'"

theorem twoFiles_outer : Reads twoFiles "/outer.yaml" [(.text "lease", .leaf (.text "0s"))]
    (some "/inner.yaml") := by
  have abspath : twoFiles.abspath (Files.including "/outer.yaml" "inner.yaml") = "/inner.yaml" := by
    decide
  have read : twoFiles.readConfig "/outer.yaml" = .ok (.dict
      [(.text "include", .leaf (.text "inner.yaml")), (.text "lease", .leaf (.text "0s"))]) := rfl
  rw [← abspath]
  exact .includes read rfl

theorem twoFiles_inner : Reads twoFiles "/inner.yaml"
    [(.text "lease", .leaf (.text "500s")), (.text "site", .leaf (.text "local"))] none :=
  .last rfl rfl

theorem twoFiles_merged :
    ∃ chain, Chain twoFiles "/outer.yaml" chain ∧ mergeConfig twoFiles "outer.yaml" [] [] =
      (.ok (), chain.foldl (fun base config => Tree.mergeEntries config base) []) := by
  have abspath : twoFiles.abspath "outer.yaml" = "/outer.yaml" := by decide
  have ends : Chain twoFiles "/outer.yaml" _ := .includes twoFiles_outer (.last twoFiles_inner)
  have merged := (mergeConfig_chain twoFiles "outer.yaml" []).2
  rw [abspath] at merged
  exact merged ends.not_broken ends.not_cyclic

end Sample

end Daq.Configurator
