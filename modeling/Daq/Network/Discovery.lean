import Daq.Lib.Fields
import Daq.Stream.Pipe

namespace Daq.Discovery

open Daq.Stream

/-! Finding the address of a host: subnet after subnet is scanned, and what the
scan prints is copied to a file that is read when the pipe of the scan hangs up. -/

/-- A subnet, with the first of its host addresses to scan from. -/
structure Subnet where
  network : String
  address : String
deriving DecidableEq

/-- `open(.., 'r').read()`: all ends of lines are read as one character. -/
def universalNewlines : List Char → List Char
  | [] => []
  | '\r' :: '\n' :: rest => '\n' :: universalNewlines rest
  | '\r' :: rest => '\n' :: universalNewlines rest
  | char :: rest => char :: universalNewlines rest

def linesOf (text : List Char) : List (List Char) := (universalNewlines text).splitOn '\n'

/-- `[section for section in line.split('\t') if section]` -/
def sections (line : List Char) : List (List Char) :=
  (line.splitOn '\t').filter fun section_ => !section_.isEmpty

/-- A scan whose output is copied. -/
structure Scanning where
  pipe : Pipe := {}
  ended : Bool := false
  copying : Copying Unit := { owner := () }

/-- The search for a host, with what the callback has been called with. -/
structure Search (Address : Type) where
  subnets : List Subnet
  scanning : Option Scanning := none
  scanned : List Subnet := []
  calls : List (Option Address) := []

/-- What happens to the pipe of the scan, or the scan is over. -/
inductive Event
  | activity (activity : Activity)
  | ended

/-- A stream without an error handler: an error is logged. -/
def noHandler (_ : Exc) (owner : Unit) : Unit := owner

def monitored (_ : Unit) : Bool := true

section Searching

variable {Address Eui : Type} [DecidableEq Eui]

-- The readers of addresses, which raise where there is nothing here.
variable (ipAddress : List Char → Option Address) (eui : List Char → Option Eui)
variable (mac : List Char)

def processLine (line : List Char) : Option Address :=
  match sections line with
  | first :: second :: _ =>
      (ipAddress first).bind fun deviceIp =>
        (eui mac).bind fun wanted =>
          (eui second).bind fun found => if wanted = found then some deviceIp else none
  | _ => none

def recursiveDiscover (search : Search Address) : Search Address :=
  match search.subnets with
  | [] => { search with calls := search.calls ++ [none] }
  | subnet :: rest =>
      { search with
        subnets := rest
        scanning := some {}
        scanned := search.scanned ++ [subnet] }

def hangupCallbackCallback (deviceIp : Option Address) (search : Search Address) :
    Search Address :=
  match deviceIp with
  | some address => { search with calls := search.calls ++ [some address] }
  | none => recursiveDiscover search

def discoverHostHangupCallback (logFile : List Char) (search : Search Address) :
    Search Address :=
  hangupCallbackCallback ((linesOf logFile).findSome? (processLine ipAddress eui mac)) search

-- How much is read from a pipe at once.
variable (bufferSize : Nat)

/-- What the event loop does for the scan that it monitors: a pipe with something
to read is read, also when the scan is over. -/
def Search.step (search : Search Address) (event : Event) : Search Address :=
  match search.scanning with
  | none => search
  | some scanning =>
      match event with
      | .activity (.written bytes) =>
          { search with
            scanning := some { scanning with
              pipe := (scanning.pipe.act bufferSize (.written bytes)).2 } }
      | .activity .polled =>
          if scanning.pipe.unread = [] then
            if scanning.ended then
              discoverHostHangupCallback ipAddress eui mac scanning.copying.dataSink
                { search with scanning := none }
            else search
          else
            { search with
              scanning := some { scanning with
                pipe := (scanning.pipe.read bufferSize).2
                copying := scanning.copying.read noHandler monitored
                  (scanning.pipe.read bufferSize).1 } }
      | .ended => { search with scanning := some { scanning with ended := true } }

def discoverHost (subnets : List Subnet) : Search Address := recursiveDiscover { subnets }

def Search.run (search : Search Address) (events : List Event) : Search Address :=
  events.foldl (fun search event => search.step ipAddress eui mac bufferSize event) search

/-! What is looked for. -/

/-- The first two fields of a line that are not empty are an address and a
spelling of the MAC. -/
def Names (line : List Char) (address : Address) : Prop :=
  ∃ first tail second rest value,
    Fields.Leads '\t' line first tail ∧ Fields.Leads '\t' tail second rest ∧
      ipAddress first = some address ∧ eui mac = some value ∧ eui second = some value

/-- The address is on the first line that has one. -/
def FirstNamed (text : List Char) (address : Address) : Prop :=
  ∃ before line after, linesOf text = before ++ line :: after ∧
    (∀ earlier ∈ before, ∀ other, ¬ Names ipAddress eui mac earlier other) ∧
      Names ipAddress eui mac line address

/-- No line is one for the host. -/
def Silent (text : List Char) : Prop :=
  ∀ line ∈ linesOf text, ∀ address, ¬ Names ipAddress eui mac line address

def charsOf (bytes : Bytes) : List Char := bytes.map fun byte => Char.ofNat byte.toNat

/-- A subnet, and what happens to the pipe of its scan: what is written, in ASCII,
and the polls between, and enough polls for a hangup once the scan is over. -/
structure Scan where
  subnet : Subnet
  activity : List Activity
  polls : Nat
  ascii : ∀ byte ∈ written activity, byte.toNat < 128
  enough : (written activity).length < polls

namespace Scan

variable (scan : Scan)

def text : List Char := charsOf (written scan.activity)

def events : List Event :=
  scan.activity.map .activity ++ .ended :: List.replicate scan.polls (.activity .polled)

def piped : List Data × Pipe :=
  Pipe.run bufferSize (scan.activity ++ List.replicate scan.polls .polled) {}

/-- What `copy_data` has read when the pipe hangs up. -/
def copied : List Char := charsOf (bytesOf (scan.piped bufferSize).1)

/-- What is left in the reader when the pipe hangs up. -/
def left : Bytes := (scan.piped bufferSize).2.buffered

end Scan

/-- Which of the subnets are to be scanned, and what is to be found, by what a
scan tells. -/
inductive Outcome (told : Scan → List Char) : List Scan → List Subnet → Option Address → Prop
  | found {before after : List Scan} {scan : Scan} {address : Address}
      (silent : ∀ earlier ∈ before, Silent ipAddress eui mac (told earlier))
      (named : FirstNamed ipAddress eui mac (told scan) address) :
      Outcome told (before ++ scan :: after) ((before ++ [scan]).map Scan.subnet) (some address)
  | nothing {scans : List Scan}
      (silent : ∀ scan ∈ scans, Silent ipAddress eui mac (told scan)) :
      Outcome told scans (scans.map Scan.subnet) none

/-- Up to the first scan that has a line for the host, what is left in the reader
makes no difference to the first such line. -/
def Unharmed (scans : List Scan) : Prop :=
  ∀ before scan after, scans = before ++ scan :: after →
    (∀ earlier ∈ before, Silent ipAddress eui mac earlier.text) →
      ∀ address, FirstNamed ipAddress eui mac scan.text address ↔
        FirstNamed ipAddress eui mac (scan.copied bufferSize) address

variable {ipAddress eui mac bufferSize}

theorem processLine_eq_some_iff {line : List Char} {address : Address} :
    processLine ipAddress eui mac line = some address ↔ Names ipAddress eui mac line address := by
  constructor
  · intro found
    unfold processLine at found
    split at found
    · next first second rest fields =>
        obtain ⟨tail, behind, leads, follows⟩ := Fields.fields_two_iff.mp ⟨rest, fields⟩
        simp only [Option.bind_eq_some_iff, Option.ite_none_right_eq_some,
          Option.some.injEq] at found
        obtain ⟨_, read, _, mine, _, other, rfl, rfl⟩ := found
        exact ⟨first, tail, second, behind, _, leads, follows, read, mine, other⟩
    · cases found
  · rintro ⟨first, tail, second, behind, value, leads, follows, read, mine, other⟩
    obtain ⟨rest, fields⟩ := Fields.fields_two_iff.mpr ⟨tail, behind, leads, follows⟩
    have sections_ : sections line = first :: second :: rest := fields
    rw [processLine, sections_]
    dsimp only
    rw [read, mine, other, Option.bind_some, Option.bind_some, Option.bind_some, if_pos rfl]

theorem firstNamed_iff {text : List Char} {address : Address} :
    FirstNamed ipAddress eui mac text address ↔
      (linesOf text).findSome? (processLine ipAddress eui mac) = some address := by
  rw [List.findSome?_eq_some_iff]
  constructor
  · rintro ⟨before, line, after, lines, unnamed, named⟩
    refine ⟨before, line, after, lines, processLine_eq_some_iff.mpr named, ?_⟩
    intro earlier member
    rw [Option.eq_none_iff_forall_ne_some]
    intro other found
    exact unnamed earlier member other (processLine_eq_some_iff.mp found)
  · rintro ⟨before, line, after, lines, named, unnamed⟩
    refine ⟨before, line, after, lines, ?_, processLine_eq_some_iff.mp named⟩
    intro earlier member other names
    have nothing := unnamed earlier member
    rw [processLine_eq_some_iff.mpr names] at nothing
    cases nothing

theorem silent_iff {text : List Char} :
    Silent ipAddress eui mac text ↔
      (linesOf text).findSome? (processLine ipAddress eui mac) = none := by
  rw [List.findSome?_eq_none_iff]
  constructor
  · intro silent line member
    rw [Option.eq_none_iff_forall_ne_some]
    intro address found
    exact silent line member address (processLine_eq_some_iff.mp found)
  · intro nothing line member address names
    have unnamed := nothing line member
    rw [processLine_eq_some_iff.mpr names] at unnamed
    cases unnamed

/-! What a scan copies. -/

theorem encode_chars {bytes : Bytes} (ascii : ∀ byte ∈ bytes, byte.toNat < 128) :
    Utf8.encode (charsOf bytes) = bytes := by
  have small : ∀ byte ∈ bytes, (Char.ofNat byte.toNat).toNat = byte.toNat := by
    intro byte member
    have valid : byte.toNat.isValidChar := .inl ((ascii byte member).trans (by decide))
    rw [Char.ofNat, dif_pos valid]
    rfl
  rw [charsOf, Utf8.encode_ascii, List.map_map]
  · apply (List.map_congr_left ?_).trans (List.map_id _)
    intro byte member
    rw [Function.comp_apply, small byte member, UInt8.ofNat_toNat]
    rfl
  · intro char member
    obtain ⟨byte, inside, rfl⟩ := List.mem_map.mp member
    rw [small byte inside]
    exact ascii byte inside

theorem reads_chars {chunks : List Data} (ascii : ∀ byte ∈ bytesOf chunks, byte.toNat < 128) :
    Copying.reads noHandler monitored chunks { owner := () } =
      { dataSink := charsOf (bytesOf chunks), owner := () } := by
  have decoded : chunks.map Subtype.val = (chunks.map fun data => charsOf data.1).map
      Utf8.encode := by
    rw [List.map_map]
    apply List.map_congr_left
    intro data member
    refine (encode_chars fun byte inside => ascii byte ?_).symm
    exact List.mem_flatMap.mpr ⟨data, member, inside⟩
  rw [Copying.reads_decoded rfl decoded, List.nil_append, charsOf, bytesOf, List.map_flatMap,
    List.flatMap_def]
  rfl

namespace Scan

variable (scan : Scan)

variable (bufferSize) in
theorem piped_content :
    bytesOf (scan.piped bufferSize).1 ++ (scan.piped bufferSize).2.content =
      written scan.activity := by
  have polled : written (List.replicate scan.polls .polled) = [] :=
    List.flatMap_eq_nil_iff.mpr fun _ member => List.eq_of_mem_replicate member ▸ rfl
  rw [piped, Pipe.run_content, written, List.flatMap_append]
  change [] ++ (_ ++ written _) = _
  rw [polled, List.append_nil, List.nil_append]
  rfl

theorem piped_drained (large : 1024 ≤ bufferSize) : (scan.piped bufferSize).2.unread = [] := by
  rw [piped, Pipe.run_append]
  apply Pipe.run_drains large
  have whole := congrArg List.length
    (Pipe.run_content bufferSize scan.activity {})
  rw [List.length_append, List.length_append] at whole
  have enough := scan.enough
  have nothing : (Pipe.content {}).length = 0 := rfl
  omega

/-- What a scan prints is copied, but for what is left in the reader. -/
theorem text_eq (large : 1024 ≤ bufferSize) :
    scan.text = scan.copied bufferSize ++ charsOf (scan.left bufferSize) := by
  have whole := scan.piped_content bufferSize
  rw [Pipe.content, scan.piped_drained large, List.append_nil] at whole
  rw [text, ← whole, charsOf, List.map_append]
  rfl

/-- Polls of an empty pipe copy nothing more. -/
theorem copied_of_unread (empty : (Pipe.run bufferSize scan.activity {}).2.unread = []) :
    scan.copied bufferSize = charsOf (bytesOf (Pipe.run bufferSize scan.activity {}).1) := by
  rw [copied, piped, Pipe.run_append, Pipe.run_still empty, List.append_nil]

variable (bufferSize) in
theorem piped_ascii : ∀ byte ∈ bytesOf (scan.piped bufferSize).1, byte.toNat < 128 := by
  intro byte member
  apply scan.ascii byte
  rw [← scan.piped_content bufferSize]
  exact List.mem_append_left _ member

end Scan

omit [DecidableEq Eui] in
/-- A reader that is empty at every hangup does no harm. -/
theorem unharmed_of_left (large : 1024 ≤ bufferSize) {scans : List Scan}
    (empty : ∀ scan ∈ scans, scan.left bufferSize = []) :
    Unharmed ipAddress eui mac bufferSize scans := by
  rintro before scan after rfl - address
  have nothing := empty scan (List.mem_append_right _ List.mem_cons_self)
  have same := scan.text_eq large
  rw [nothing, charsOf, List.map_nil, List.append_nil] at same
  rw [same]

/-! From a scan to the next. -/

theorem run_append (search : Search Address) (first later : List Event) :
    search.run ipAddress eui mac bufferSize (first ++ later) =
      (search.run ipAddress eui mac bufferSize first).run ipAddress eui mac bufferSize later :=
  List.foldl_append

variable (ipAddress eui mac bufferSize) in
theorem run_idle {search : Search Address} (idle : search.scanning = none) (events : List Event) :
    search.run ipAddress eui mac bufferSize events = search := by
  induction events with
  | nil => rfl
  | cons event rest induction =>
      have stays : search.step ipAddress eui mac bufferSize event = search := by
        rw [Search.step, idle]
      change (search.step ipAddress eui mac bufferSize event).run ipAddress eui mac bufferSize
        rest = search
      rw [stays]
      exact induction

/-- Nothing is scanned, or a scan has just been started. -/
def Fresh (search : Search Address) : Prop :=
  search.scanning = none ∨ search.scanning = some {}

variable (ipAddress eui mac bufferSize) in
theorem run_fresh {search : Search Address} (fresh : Fresh search) (polls : Nat) :
    search.run ipAddress eui mac bufferSize (List.replicate polls (.activity .polled)) =
      search := by
  rcases fresh with idle | started
  · exact run_idle ipAddress eui mac bufferSize idle _
  · have stays : search.step ipAddress eui mac bufferSize (.activity .polled) = search := by
      rw [Search.step, started]
      rfl
    induction polls with
    | zero => rfl
    | succ polls induction =>
        change (search.step ipAddress eui mac bufferSize (.activity .polled)).run ipAddress eui mac
          bufferSize (List.replicate polls (.activity .polled)) = search
        rw [stays]
        exact induction

theorem discoverHostHangupCallback_fresh {search : Search Address} (idle : search.scanning = none)
    (logFile : List Char) :
    Fresh (discoverHostHangupCallback ipAddress eui mac logFile search) := by
  rw [discoverHostHangupCallback]
  cases (linesOf logFile).findSome? (processLine ipAddress eui mac) with
  | some address => exact .inl idle
  | none =>
      rw [hangupCallbackCallback, recursiveDiscover]
      split
      · exact .inl idle
      · exact .inr rfl

variable (ipAddress eui mac bufferSize) in
theorem run_activities (search : Search Address) (pipe : Pipe) (copying : Copying Unit)
    (activities : List Activity) :
    Search.run ipAddress eui mac bufferSize
        { search with scanning := some { pipe, copying } } (activities.map .activity) =
      { search with
        scanning := some {
          pipe := (pipe.run bufferSize activities).2
          copying := copying.reads noHandler monitored (pipe.run bufferSize activities).1 } } := by
  induction activities generalizing pipe copying with
  | nil => rfl
  | cons activity rest induction =>
      have stepped : Search.step ipAddress eui mac bufferSize
          { search with scanning := some { pipe, copying } } (.activity activity) =
          { search with
            scanning := some {
              pipe := (pipe.act bufferSize activity).2
              copying := copying.reads noHandler monitored (pipe.act bufferSize activity).1 } } := by
        cases activity with
        | written bytes => rfl
        | polled =>
            by_cases empty : pipe.unread = []
            · rw [Pipe.act, if_pos empty, Search.step]
              dsimp only
              rw [if_pos empty]
              rfl
            · rw [Pipe.act, if_neg empty, Search.step]
              dsimp only
              rw [if_neg empty]
              rfl
      rw [List.map_cons]
      change Search.run ipAddress eui mac bufferSize (Search.step ipAddress eui mac bufferSize
        { search with scanning := some { pipe, copying } } (.activity activity)) _ = _
      rw [stepped, induction, Pipe.run, Copying.reads, Copying.reads, Copying.reads,
        List.foldl_append]

variable (ipAddress eui mac) in
/-- Once the scan is over the pipe is read until it is empty, and hangs up. -/
theorem run_polls (large : 1024 ≤ bufferSize) (search : Search Address) (pipe : Pipe)
    (copying : Copying Unit) {polls : Nat} (enough : pipe.content.length < polls) :
    Search.run ipAddress eui mac bufferSize
        { search with scanning := some { pipe, copying, ended := true } }
        (List.replicate polls (.activity .polled)) =
      discoverHostHangupCallback ipAddress eui mac
        (copying.reads noHandler monitored
          (pipe.run bufferSize (List.replicate polls .polled)).1).dataSink
        { search with scanning := none } := by
  induction polls generalizing pipe copying with
  | zero => exact absurd enough (Nat.not_lt_zero _)
  | succ polls induction =>
      rw [List.replicate_succ]
      change Search.run ipAddress eui mac bufferSize (Search.step ipAddress eui mac bufferSize
        { search with scanning := some { pipe, copying, ended := true } } (.activity .polled)) _ = _
      rw [Search.step]
      dsimp only
      by_cases empty : pipe.unread = []
      · rw [if_pos empty, if_pos rfl, Pipe.run_still empty]
        exact run_fresh ipAddress eui mac bufferSize (discoverHostHangupCallback_fresh rfl _) polls
      · have reads : pipe.act bufferSize .polled =
            ([(pipe.read bufferSize).1], (pipe.read bufferSize).2) := if_neg empty
        have shrinks := Pipe.read_shrinks empty large
        rw [if_neg empty, induction _ _ (by omega), List.replicate_succ, Pipe.run, reads]
        rfl

variable (ipAddress eui mac) in
theorem run_scan (large : 1024 ≤ bufferSize) (search : Search Address) (scan : Scan) :
    Search.run ipAddress eui mac bufferSize { search with scanning := some {} } scan.events =
      discoverHostHangupCallback ipAddress eui mac (scan.copied bufferSize)
        { search with scanning := none } := by
  have whole := congrArg List.length
    (Pipe.run_content bufferSize scan.activity {})
  rw [List.length_append, List.length_append] at whole
  have nothing : (Pipe.content {}).length = 0 := rfl
  have enough := scan.enough
  rw [Scan.events, run_append, run_activities]
  change Search.run ipAddress eui mac bufferSize { search with scanning := some {
    pipe := _, copying := _, ended := true } } _ = _
  have small : (Pipe.run bufferSize scan.activity {}).2.content.length < scan.polls := by omega
  rw [run_polls ipAddress eui mac large _ _ _ small, Copying.reads, Copying.reads,
    ← List.foldl_append]
  have together := Pipe.run_append bufferSize scan.activity
    (List.replicate scan.polls .polled) {}
  have copied := reads_chars (scan.piped_ascii bufferSize)
  rw [Scan.piped, together, Copying.reads] at copied
  rw [copied, Scan.copied, Scan.piped, together]

section Outcomes

variable {told : Scan → List Char} {scan : Scan} {scans : List Scan} {scanned : List Subnet}
  {answer : Option Address}

omit [DecidableEq Eui] in
theorem outcome_nil_iff :
    Outcome ipAddress eui mac told [] scanned answer ↔ scanned = [] ∧ answer = none := by
  constructor
  · intro outcome
    generalize none_ : ([] : List Scan) = scans at outcome
    cases outcome with
    | found _ _ => exact absurd none_.symm (List.append_ne_nil_of_right_ne_nil _
        (List.cons_ne_nil _ _))
    | nothing _ => exact ⟨none_ ▸ rfl, rfl⟩
  · rintro ⟨rfl, rfl⟩
    exact .nothing (List.forall_mem_nil _)

/-- A scan without a line for the host is passed. -/
theorem outcome_silent_iff (silent : Silent ipAddress eui mac (told scan)) :
    Outcome ipAddress eui mac told (scan :: scans) scanned answer ↔
      ∃ more, scanned = scan.subnet :: more ∧ Outcome ipAddress eui mac told scans more answer := by
  constructor
  · intro outcome
    generalize all : scan :: scans = whole at outcome
    cases outcome with
    | found others named =>
        rename_i before after found address
        cases before with
        | nil =>
            rw [List.nil_append, List.cons.injEq] at all
            rw [← all.1, firstNamed_iff, silent_iff.mp silent] at named
            cases named
        | cons first before =>
            rw [List.cons_append, List.cons.injEq] at all
            obtain ⟨rfl, rfl⟩ := all
            exact ⟨_, rfl, .found (List.forall_mem_cons.mp others).2 named⟩
    | nothing others =>
        subst all
        exact ⟨_, rfl, .nothing (List.forall_mem_cons.mp others).2⟩
  · rintro ⟨more, rfl, later⟩
    cases later with
    | found others named => exact .found (List.forall_mem_cons.mpr ⟨silent, others⟩) named
    | nothing others => exact .nothing (List.forall_mem_cons.mpr ⟨silent, others⟩)

/-- A scan with a line for the host is the last. -/
theorem outcome_named_iff {address : Address}
    (named : FirstNamed ipAddress eui mac (told scan) address) :
    Outcome ipAddress eui mac told (scan :: scans) scanned answer ↔
      scanned = [scan.subnet] ∧ answer = some address := by
  have loud : ¬ Silent ipAddress eui mac (told scan) := by
    rw [silent_iff, firstNamed_iff.mp named]
    exact Option.some_ne_none address
  constructor
  · intro outcome
    generalize all : scan :: scans = whole at outcome
    cases outcome with
    | found others other =>
        rename_i before after found address'
        cases before with
        | nil =>
            rw [List.nil_append, List.cons.injEq] at all
            obtain ⟨rfl, rfl⟩ := all
            rw [firstNamed_iff] at named other
            rw [named, Option.some.injEq] at other
            exact ⟨rfl, congrArg some other.symm⟩
        | cons first before =>
            rw [List.cons_append, List.cons.injEq] at all
            obtain ⟨rfl, rfl⟩ := all
            exact absurd (others _ List.mem_cons_self) loud
    | nothing others =>
        subst all
        exact absurd (others _ List.mem_cons_self) loud
  · rintro ⟨rfl, rfl⟩
    have found : Outcome ipAddress eui mac told ([] ++ scan :: scans)
        (([] ++ [scan]).map Scan.subnet) (some address) := .found (List.forall_mem_nil _) named
    exact found

omit [DecidableEq Eui] in
theorem outcome_scanned {address : Address}
    (outcome : Outcome ipAddress eui mac told scans scanned (some address)) : scanned ≠ [] := by
  cases outcome with
  | found _ _ =>
      rw [List.map_append]
      exact List.append_ne_nil_of_right_ne_nil _ (List.cons_ne_nil _ _)

variable (ipAddress eui mac) in
theorem silent_or_named (text : List Char) :
    Silent ipAddress eui mac text ∨ ∃ address, FirstNamed ipAddress eui mac text address := by
  cases found : (linesOf text).findSome? (processLine ipAddress eui mac) with
  | none => exact .inl (silent_iff.mpr found)
  | some address => exact .inr ⟨address, firstNamed_iff.mpr found⟩

/-- Two texts of which the same is told. -/
theorem alike_iff {text copied : List Char} :
    (∀ address, FirstNamed ipAddress eui mac text address ↔
        FirstNamed ipAddress eui mac copied address) ↔
      (linesOf text).findSome? (processLine ipAddress eui mac) =
        (linesOf copied).findSome? (processLine ipAddress eui mac) := by
  rw [Option.ext_iff]
  exact forall_congr' fun address => by rw [firstNamed_iff, firstNamed_iff]

omit [DecidableEq Eui] in
theorem unharmed_cons_iff :
    Unharmed ipAddress eui mac bufferSize (scan :: scans) ↔
      (∀ address, FirstNamed ipAddress eui mac scan.text address ↔
        FirstNamed ipAddress eui mac (scan.copied bufferSize) address) ∧
      (Silent ipAddress eui mac scan.text → Unharmed ipAddress eui mac bufferSize scans) := by
  constructor
  · intro unharmed
    refine ⟨unharmed [] scan scans rfl (List.forall_mem_nil _), fun silent => ?_⟩
    rintro before later after rfl others
    exact unharmed (scan :: before) later after rfl (List.forall_mem_cons.mpr ⟨silent, others⟩)
  · rintro ⟨here, behind⟩ before later after split others
    cases before with
    | nil =>
        rw [List.nil_append, List.cons.injEq] at split
        exact split.1 ▸ here
    | cons first before =>
        rw [List.cons_append, List.cons.injEq] at split
        obtain ⟨rfl, rfl⟩ := split
        obtain ⟨silent, others⟩ := List.forall_mem_cons.mp others
        exact behind silent before later after rfl others

/-- What is found in what has been copied is what is to be found. -/
theorem outcome_copied_iff
    (copied : Outcome ipAddress eui mac (Scan.copied bufferSize) scans scanned answer) :
    Outcome ipAddress eui mac Scan.text scans scanned answer ↔
      Unharmed ipAddress eui mac bufferSize scans := by
  induction scans generalizing scanned with
  | nil =>
      rw [outcome_nil_iff] at copied ⊢
      refine iff_of_true copied ?_
      intro before scan after split
      exact absurd split.symm (List.append_ne_nil_of_right_ne_nil _ (List.cons_ne_nil _ _))
  | cons scan scans induction =>
      rw [unharmed_cons_iff, alike_iff]
      rcases silent_or_named ipAddress eui mac scan.text with
        silent | ⟨address, named⟩ <;>
      rcases silent_or_named ipAddress eui mac (scan.copied bufferSize) with still | ⟨other, noted⟩
      · obtain ⟨more, rfl, later⟩ := (outcome_silent_iff still).mp copied
        rw [outcome_silent_iff silent, silent_iff.mp silent, silent_iff.mp still]
        constructor
        · rintro ⟨_, same, wanted⟩
          cases same
          exact ⟨rfl, fun _ => (induction later).mp wanted⟩
        · rintro ⟨-, behind⟩
          exact ⟨more, rfl, (induction later).mpr (behind silent)⟩
      · -- a line that has been cut is one for the host
        obtain ⟨rfl, rfl⟩ := (outcome_named_iff noted).mp copied
        rw [outcome_silent_iff silent, silent_iff.mp silent, firstNamed_iff.mp noted]
        apply iff_of_false
        · rintro ⟨_, same, wanted⟩
          cases same
          exact outcome_scanned wanted rfl
        · rintro ⟨impossible, -⟩
          cases impossible
      · -- the line for the host has been lost
        obtain ⟨more, rfl, later⟩ := (outcome_silent_iff still).mp copied
        rw [outcome_named_iff named, firstNamed_iff.mp named, silent_iff.mp still]
        apply iff_of_false
        · rintro ⟨same, rfl⟩
          cases same
          exact outcome_scanned later rfl
        · rintro ⟨impossible, -⟩
          cases impossible
      · obtain ⟨rfl, rfl⟩ := (outcome_named_iff noted).mp copied
        have loud : ¬ Silent ipAddress eui mac scan.text := by
          rw [silent_iff, firstNamed_iff.mp named]
          exact Option.some_ne_none address
        rw [outcome_named_iff named, firstNamed_iff.mp named, firstNamed_iff.mp noted]
        constructor
        · rintro ⟨-, same⟩
          exact ⟨same.symm, fun silent => absurd silent loud⟩
        · rintro ⟨same, -⟩
          exact ⟨rfl, same.symm⟩

end Outcomes

variable (ipAddress eui mac bufferSize) in
theorem run_scans (large : 1024 ≤ bufferSize) (scans : List Scan) (scanned : List Subnet) :
    ∃ more answer,
      ((recursiveDiscover { subnets := scans.map Scan.subnet, scanned := scanned }).run
          ipAddress eui mac bufferSize (scans.flatMap Scan.events)).scanned = scanned ++ more ∧
      ((recursiveDiscover { subnets := scans.map Scan.subnet, scanned := scanned }).run
          ipAddress eui mac bufferSize (scans.flatMap Scan.events)).calls = [answer] ∧
      Outcome ipAddress eui mac (Scan.copied bufferSize) scans more answer := by
  induction scans generalizing scanned with
  | nil => exact ⟨[], none, (List.append_nil _).symm, rfl, .nothing (List.forall_mem_nil _)⟩
  | cons scan rest induction =>
      have first : (recursiveDiscover
          { subnets := (scan :: rest).map Scan.subnet, scanned := scanned }).run
            ipAddress eui mac bufferSize ((scan :: rest).flatMap Scan.events) =
          (discoverHostHangupCallback ipAddress eui mac (scan.copied bufferSize)
            { subnets := rest.map Scan.subnet, scanned := scanned ++ [scan.subnet] }).run
              ipAddress eui mac bufferSize (rest.flatMap Scan.events) := by
        rw [List.flatMap_cons, run_append]
        exact congrArg (Search.run ipAddress eui mac bufferSize · _)
          (run_scan ipAddress eui mac large
            { subnets := rest.map Scan.subnet, scanned := scanned ++ [scan.subnet] } scan)
      rw [first, discoverHostHangupCallback]
      cases found : (linesOf (scan.copied bufferSize)).findSome?
          (processLine ipAddress eui mac) with
      | some address =>
          rw [hangupCallbackCallback, run_idle ipAddress eui mac bufferSize rfl]
          exact ⟨[scan.subnet], some address, rfl, rfl,
            (outcome_named_iff (firstNamed_iff.mpr found)).mpr ⟨rfl, rfl⟩⟩
      | none =>
          obtain ⟨more, answer, visited, called, outcome⟩ := induction (scanned ++ [scan.subnet])
          refine ⟨scan.subnet :: more, answer, ?_, called,
            (outcome_silent_iff (silent_iff.mpr found)).mpr ⟨more, rfl, outcome⟩⟩
          rw [hangupCallbackCallback, visited, List.append_assoc]
          rfl

end Searching

namespace Sample

/-- A part of an address in dots. -/
def octet (digits : List Char) : Option Nat :=
  if digits ≠ [] ∧ digits.length ≤ 3 ∧ digits.all Char.isDigit ∧
      (digits.head? = some '0' → digits.length = 1) then
    let value := digits.foldl (fun value digit => 10 * value + (digit.toNat - 48)) 0
    if value ≤ 255 then some value else none
  else none

def ipv4 (text : List Char) : Option (List Nat) :=
  if (text.splitOn '.').length = 4 then (text.splitOn '.').mapM octet else none

def hexDigit (digit : Char) : Option Nat :=
  if digit.isDigit then some (digit.toNat - 48)
  else if 'a' ≤ digit ∧ digit ≤ 'f' then some (digit.toNat - 87)
  else if 'A' ≤ digit ∧ digit ≤ 'F' then some (digit.toNat - 55)
  else none

/-- A spelling of six bytes, with colons or dashes between. -/
def eui48 (text : List Char) : Option (List (List Nat)) :=
  let bytes := text.splitOnP fun char => char = ':' || char = '-'
  if bytes.length = 6 ∧ bytes.all (fun byte => byte.length = 2) then
    bytes.mapM (List.mapM hexDigit)
  else none

/-- The codes of a text in ASCII. -/
def ascii (text : String) : Bytes :=
  text.toList.map fun char => UInt8.ofNat (char.toNat % 128)

theorem ascii_small {text : String} : ∀ byte ∈ ascii text, byte.toNat < 128 := by
  intro byte member
  obtain ⟨char, _, rfl⟩ := List.mem_map.mp member
  rw [UInt8.toNat_ofNat']
  omega

def lamp : List Char := "9a:02:57:1e:8f:01".toList

def lampLine : Bytes := ascii "10.0.1.7\t9A-02-57-1E-8F-01\tLamp\n"

def otherLine : Bytes := ascii "10.0.1.9\t9a:02:57:1e:8f:09\tOven\n"

/-- Nothing but a line that is none of a host. -/
def quietScan : Scan where
  subnet := { network := "10.0.0.0/24", address := "10.0.0.1" }
  activity := [.written (ascii "Interface: eth0\n"), .polled, .polled]
  polls := 20
  ascii := by
    simp only [written, List.flatMap_cons, List.flatMap_nil, Activity.bytes, List.append_nil]
    exact ascii_small
  enough := by decide

/-- The line for the lamp comes in two reads, behind a line without an address, one
with an address alone and one of another host. -/
def lampScan : Scan where
  subnet := { network := "10.0.1.0/24", address := "10.0.1.1" }
  activity := [.written (ascii "lamp\t9a:02\n10.0.1.4\n" ++ otherLine ++ ascii "10.0."), .polled,
    .written (ascii "1.7\t\t9A-02-57-1E-8F-01\tLamp\n"), .written (ascii "2 hosts")]
  polls := 110
  ascii := by
    simp only [written, List.flatMap_cons, List.flatMap_nil, Activity.bytes, List.append_nil,
      List.nil_append, List.forall_mem_append]
    exact ⟨⟨⟨ascii_small, ascii_small⟩, ascii_small⟩, ascii_small, ascii_small⟩
  enough := by decide

def laterScan : Scan where
  subnet := { network := "10.0.2.0/24", address := "10.0.2.1" }
  activity := [.written lampLine]
  polls := 40
  ascii := by
    simp only [written, List.flatMap_cons, List.flatMap_nil, Activity.bytes, List.append_nil]
    exact ascii_small
  enough := by decide

/-- Forty lines, and the line for the lamp, written before the pipe is polled. -/
def burst : List Activity :=
  [.written ((List.replicate 40 otherLine).flatten ++ lampLine), .polled]

theorem burst_ascii : ∀ byte ∈ written burst, byte.toNat < 128 := by
  simp only [written, burst, List.flatMap_cons, List.flatMap_nil, Activity.bytes, List.append_nil,
    List.forall_mem_append]
  refine ⟨fun byte member => ?_, ascii_small⟩
  obtain ⟨line, copies, inside⟩ := List.mem_flatten.mp member
  obtain rfl := List.eq_of_mem_replicate copies
  exact ascii_small byte inside

def burstScan : Scan where
  subnet := { network := "10.0.1.0/24", address := "10.0.1.1" }
  activity := burst
  polls := 1500
  ascii := burst_ascii
  enough := by decide +kernel

end Sample

end Daq.Discovery
