import Daq.Faucet.Stream
import Daq.Lib.Ignores

namespace Daq.Faucet

open Exec

/-! Lines that are no JSON.  A run in which no call of `next_event` begins with
such a line is matched by a run that never receives them. -/

/-! What is left of a text without its malformed lines. -/

/-- The line that is not complete. -/
def lastFrom : List Char → List Char → List Char
  | line, [] => line
  | line, char :: rest =>
      if char = '\n' then lastFrom [] rest else lastFrom (line ++ [char]) rest

def lastLine (text : List Char) : List Char := lastFrom [] text

theorem lastFrom_append (before text more : List Char) :
    lastFrom before (text ++ more) = lastFrom (lastFrom before text) more := by
  induction text generalizing before with
  | nil => rfl
  | cons char text shorter =>
      rw [List.cons_append, lastFrom, lastFrom]
      split
      · exact shorter []
      · exact shorter _

theorem linesFrom_more (before text more : List Char) :
    linesFrom before (text ++ more) =
      linesFrom before text ++ linesFrom (lastFrom before text) more := by
  induction text generalizing before with
  | nil => rfl
  | cons char text shorter =>
      rw [List.cons_append, linesFrom, linesFrom, lastFrom]
      split
      · rw [shorter, List.cons_append]
      · exact shorter _

theorem lastFrom_partial {text : List Char} (whole : '\n' ∉ text) (before : List Char) :
    lastFrom before text = before ++ text := by
  induction text generalizing before with
  | nil => exact (List.append_nil before).symm
  | cons char text shorter =>
      have other : char ≠ '\n' := fun same => whole (same ▸ List.mem_cons_self)
      rw [lastFrom, if_neg other, shorter fun inside => whole (List.mem_cons_of_mem _ inside)]
      simp

theorem lastLine_line {line : List Char} (whole : '\n' ∉ line) (rest : List Char) :
    lastLine (line ++ '\n' :: rest) = lastLine rest := by
  unfold lastLine
  rw [lastFrom_append, lastFrom_partial whole, lastFrom, if_pos rfl]

/-- The line is JSON. -/
def parses (line : List Char) : Bool := (Json.loads line).isSome

/-- The complete lines that are JSON. -/
def purge (text : List Char) : List Char :=
  ((completeLines text).filter parses).flatMap (· ++ ['\n'])

theorem purge_partial {text : List Char} (whole : '\n' ∉ text) : purge text = [] := by
  rw [purge, completeLines, linesFrom_partial whole]
  rfl

theorem purge_parsed {line : List Char} (whole : '\n' ∉ line) (parsed : parses line = true)
    (rest : List Char) : purge (line ++ '\n' :: rest) = line ++ '\n' :: purge rest := by
  rw [purge, completeLines_line whole, List.filter_cons_of_pos parsed, List.flatMap_cons,
    List.append_assoc]
  rfl

theorem purge_malformed {line : List Char} (whole : '\n' ∉ line) (malformed : parses line = false)
    (rest : List Char) : purge (line ++ '\n' :: rest) = purge rest := by
  rw [purge, completeLines_line whole, List.filter_cons_of_neg (Bool.eq_false_iff.mp malformed)]
  rfl

theorem purge_append {text last : List Char} (whole : '\n' ∉ last) (ends : lastLine text = last)
    (more : List Char) : purge (text ++ more) = purge text ++ purge (last ++ more) := by
  have behind : completeLines (last ++ more) = linesFrom last more := by
    rw [completeLines, linesFrom_more, linesFrom_partial whole, lastFrom_partial whole]
    rfl
  rw [purge, purge, purge, behind, completeLines, linesFrom_more, List.filter_append,
    List.flatMap_append]
  rw [← ends]
  rfl

/-! Any text can come in. -/

theorem first_marked {byte : Nat} (marked : 128 ≤ byte % 256) : ¬ UInt8.ofNat byte < 128 := by
  rw [UInt8.lt_iff_toNat_lt, UInt8.toNat_ofNat']
  exact Nat.not_lt.mpr marked

theorem encodeChar_ascii {char : Char}
    (ascii : ∀ byte ∈ String.utf8EncodeChar char, byte < 128) :
    (String.utf8EncodeChar char).map (fun byte => Char.ofNat byte.toNat) = [char] := by
  unfold String.utf8EncodeChar at ascii ⊢
  dsimp only at ascii ⊢
  split at ascii
  · rename_i small
    rw [if_pos small]
    have same : (UInt8.ofNat char.val.toNat).toNat = char.toNat := by
      rw [UInt8.toNat_ofNat']
      exact Nat.mod_eq_of_lt (by omega)
    rw [List.map_cons, List.map_nil, same, Char.ofNat_toNat]
  · exfalso
    -- the first byte of a longer encoding is marked
    split at ascii
    · exact first_marked (by omega) (ascii _ List.mem_cons_self)
    · split at ascii
      · exact first_marked (by omega) (ascii _ List.mem_cons_self)
      · exact first_marked (by omega) (ascii _ List.mem_cons_self)

theorem encode_ascii {text : List Char}
    (ascii : ∀ byte ∈ text.flatMap String.utf8EncodeChar, byte < 128) :
    (text.flatMap String.utf8EncodeChar).map (fun byte => Char.ofNat byte.toNat) = text := by
  induction text with
  | nil => rfl
  | cons char text shorter =>
      rw [List.flatMap_cons, List.forall_mem_append] at ascii
      rw [List.flatMap_cons, List.map_append, encodeChar_ascii ascii.1, shorter ascii.2]
      rfl

theorem exists_decode (text : List Char) : ∃ chunk, decode chunk = some text := by
  refine ⟨text.flatMap String.utf8EncodeChar, ?_⟩
  unfold decode
  split
  · rename_i ascii
    have small : ∀ byte ∈ text.flatMap String.utf8EncodeChar, byte < 128 := fun byte inside =>
      of_decide_eq_true (List.all_eq_true.mp ascii byte inside)
    rw [encode_ascii small]
  · have bytes : (⟨(text.flatMap String.utf8EncodeChar).toArray⟩ : ByteArray) =
        (String.ofList text).toByteArray := by
      rw [String.toByteArray_ofList]
      unfold List.utf8Encode
      ext1
      simp
    have valid : (⟨(text.flatMap String.utf8EncodeChar).toArray⟩ : ByteArray).IsValidUTF8 :=
      bytes ▸ (String.ofList text).isValidUTF8
    unfold String.fromUTF8?
    rw [dif_pos valid]
    have whole : String.fromUTF8 _ valid = String.ofList text := by
      rw [← String.toByteArray_inj]
      exact bytes
    rw [Option.map_some, whole, String.toList_ofList]

/-- What a client has received, and what it still has to do, without the
malformed lines. -/
def Client.purged (client : Client) : Client :=
  { client with buffer := purge client.buffer, incoming := purge client.incoming }

/-! A line that is JSON is filtered in the same way. -/

section Filter

theorem prependEvent_ignores {event : Json} (sound : event.Sound) :
    Ignores Client.purged (prependEvent event) := by
  refine ignores_modify fun client => ?_
  have parsed : parses (Json.dumps event) = true := by
    rw [parses, Json.loads_dumps sound]
    rfl
  unfold Client.purged
  dsimp only
  rw [purge_parsed (Json.dumps_oneLine _ sound) parsed]

theorem replacePorts_ignores {dpid : Json} (identified : dpid.Sound)
    (ports : List (Json × Except Raised Json))
    (sound : ∀ entry ∈ ports, ∀ status, entry.2 = .ok status → entry.1.Sound ∧ status.Sound) :
    Ignores Client.purged (replacePorts dpid ports) := by
  induction ports with
  | nil => exact ignores_pure ()
  | cons entry ports shorter =>
      have later := shorter fun other inside => sound other (List.mem_cons_of_mem _ inside)
      rw [replacePorts]
      refine ignores_ofExcept_bind fun status known => ?_
      obtain ⟨numbered, stated⟩ := sound entry List.mem_cons_self status known
      exact ignores_bind (prependEvent_ignores (makePortState_sound identified numbered stated))
        fun _ => later

theorem handleDebounce_ignores (state : PortState) (index : Nat) :
    Ignores Client.purged (handleDebounce state index) := ignores_modify fun _ => rfl

theorem debouncePortEvent_ignores (state : PortState) :
    Ignores Client.purged (debouncePortEvent state) := by
  unfold debouncePortEvent
  refine ignores_bind (ignores_read fun _ => rfl) fun index => ?_
  refine ignores_bind (ignores_modify fun _ => rfl) fun _ => ?_
  refine ignores_get_bind (fun _ => rfl) fun client => ?_
  refine ignores_ite (handleDebounce_ignores _ _) ?_
  refine ignores_bind (ignores_whenSome _ fun _ => ignores_modify fun _ => rfl) fun _ => ?_
  exact ignores_ite (handleDebounce_ignores _ _) (ignores_modify fun _ => rfl)

theorem filterPortState_ignores (event : Json) (state : PortState) :
    Ignores Client.purged (filterPortState event state) := by
  unfold filterPortState processStateUpdate
  refine ignores_ite (ignores_bind (debouncePortEvent_ignores state) fun _ => ignores_pure _) ?_
  refine ignores_bind ?_ fun _ => ignores_pure _
  refine ignores_bind (ignores_read fun _ => rfl) fun _ => ignores_ite (ignores_pure _) ?_
  exact ignores_bind (ignores_modify fun _ => rfl) fun _ => ignores_pure _

theorem filterFaucetEvent_ignores {event : Json} (sound : event.Sound) :
    Ignores Client.purged (filterFaucetEvent event) := by
  unfold filterFaucetEvent
  refine ignores_ofExcept_bind fun portState _ => ?_
  split
  · exact filterPortState_ignores event _
  · refine ignores_ofExcept_bind fun portsStatus listed => ?_
    split
    · rename_i dpid status kept
      obtain ⟨identified, stated⟩ := asPortsStatus_sound sound
        (listed.trans (congrArg Except.ok (Option.filter_eq_some_iff.mp kept).1))
      refine ignores_ofExcept_bind fun ports known => ?_
      exact ignores_bind (replacePorts_ignores identified ports (portsOf_sound stated known))
        fun _ => ignores_pure _
    · exact ignores_pure _

/-- The exception is one of the values of a line. -/
def Bound {α : Type} (outcome : Except Raised α) : Prop := outcome ≠ .error .unboundLocalError

section Bound

variable {α β : Type}

theorem bound_bind {first : Except Raised α} {next : α → Except Raised β} (head : Bound first)
    (tail : ∀ value, Bound (next value)) : Bound (first >>= next) := by
  cases first with
  | error raised => exact fun same => head (congrArg Except.error (Except.error.inj same))
  | ok value => exact tail value

theorem bound_ok (value : α) : Bound (.ok value) := fun wrong => by cases wrong

theorem contains_bound (key : Str) (event : Json) : Bound (contains key event) := by
  cases event <;> simp [contains, Bound]

theorem subscript_bound (event : Json) (key : Str) : Bound (subscript event key) := by
  unfold subscript
  split
  · split
    · simp [Bound]
    · exact bound_ok _
  · simp [Bound]

theorem toInt_bound (value : Json) : Bound (toInt value) := by
  unfold toInt
  split
  all_goals first
    | exact bound_ok _
    | (simp [Bound]; done)
    | skip
  unfold intOfStr
  dsimp only
  split
  · exact bound_ok _
  · simp [Bound]

theorem asPortState_bound (event : Json) : Bound (asPortState event) := by
  unfold asPortState
  split
  · exact bound_ok _
  · refine bound_bind (contains_bound _ _) fun applicable => ?_
    split
    · exact bound_ok _
    · refine bound_bind (subscript_bound _ _) fun _ => bound_bind (subscript_bound _ _) fun _ => ?_
      refine bound_bind (subscript_bound _ _) fun _ => bound_bind (toInt_bound _) fun _ => ?_
      refine bound_bind (subscript_bound _ _) fun _ => bound_bind (subscript_bound _ _) fun _ => ?_
      exact bound_ok _

theorem asPortsStatus_bound (event : Json) : Bound (asPortsStatus event) := by
  unfold asPortsStatus
  split
  · exact bound_ok _
  · refine bound_bind (contains_bound _ _) fun applicable => ?_
    split
    · exact bound_ok _
    · refine bound_bind (subscript_bound _ _) fun _ => bound_bind (subscript_bound _ _) fun _ => ?_
      exact bound_ok _

theorem portsOf_bound (status : Json) : Bound (portsOf status) := by
  unfold portsOf
  split
  · exact bound_ok _
  · exact bound_ok _
  · exact bound_ok _
  · simp [Bound]

theorem portsOf_entries_bound {status : Json} {ports : List (Json × Except Raised Json)}
    (listed : portsOf status = .ok ports) : ∀ entry ∈ ports, Bound entry.2 := by
  unfold portsOf at listed
  split at listed
  · cases listed
    intro entry inside
    obtain ⟨member, _, rfl⟩ := List.mem_map.mp inside
    exact bound_ok _
  · cases listed
    intro entry inside
    obtain ⟨item, _, rfl⟩ := List.mem_map.mp inside
    dsimp only
    have indexed : ∀ items index, Bound (listIndex items index) := by
      intro items index
      unfold listIndex
      dsimp only
      generalize (if index < 0 then index + items.length else index) = position
      split
      · simp [Bound]
      · split
        · simp [Bound]
        · exact bound_ok _
    split
    · exact indexed _ _
    · exact indexed _ _
    · simp [Bound]
  · cases listed
    intro entry inside
    obtain ⟨point, _, rfl⟩ := List.mem_map.mp inside
    simp [Bound]
  · cases listed

/-- Whatever an action raises comes from the values of a line. -/
def Binds (action : Action α) : Prop := ∀ client, Bound (action.run client).1

theorem binds_pure (value : α) : Binds (pure value) := fun _ => bound_ok value

theorem binds_modify (update : Client → Client) : Binds (Exec.modify update) := fun _ => bound_ok ()

theorem binds_bind {first : Action α} {next : α → Action β} (head : Binds first)
    (tail : ∀ value, Binds (next value)) : Binds (first >>= next) := by
  intro client
  have start := head client
  cases outcome : first.run client with
  | mk ended reached =>
      rw [outcome] at start
      cases ended with
      | error raised =>
          rw [bind_run_error outcome]
          exact fun same => start (congrArg Except.error (Except.error.inj same))
      | ok value =>
          rw [bind_run_ok outcome]
          exact tail value reached

theorem binds_ofExcept_bind {outcome : Except Raised α} {next : α → Action β} (head : Bound outcome)
    (tail : ∀ value, outcome = .ok value → Binds (next value)) :
    Binds (Exec.ofExcept outcome >>= next) := by
  cases outcome with
  | error raised => exact fun _ same => head (congrArg Except.error (Except.error.inj same))
  | ok value => exact tail value rfl

theorem replacePorts_binds (dpid : Json) (ports : List (Json × Except Raised Json))
    (bound : ∀ entry ∈ ports, Bound entry.2) : Binds (replacePorts dpid ports) := by
  induction ports with
  | nil => exact binds_pure ()
  | cons entry ports shorter =>
      have later := shorter fun other inside => bound other (List.mem_cons_of_mem _ inside)
      rw [replacePorts]
      exact binds_ofExcept_bind (bound entry List.mem_cons_self) fun status _ =>
        binds_bind (binds_modify _) fun _ => later

theorem filterPortState_binds (event : Json) (state : PortState) :
    Binds (filterPortState event state) := by
  unfold filterPortState processStateUpdate
  split
  · refine binds_bind ?_ fun _ => binds_pure _
    intro client
    obtain ⟨after, ran, _⟩ := debouncePortEvent_debounced state client
    rw [ran]
    exact bound_ok ()
  · refine binds_bind (binds_bind (fun _ => bound_ok _) fun previous => ?_) fun _ => binds_pure _
    split
    · exact binds_pure _
    · exact binds_bind (binds_modify _) fun _ => binds_pure _

theorem filterFaucetEvent_binds (event : Json) : Binds (filterFaucetEvent event) := by
  unfold filterFaucetEvent
  refine binds_ofExcept_bind (asPortState_bound event) fun portState _ => ?_
  split
  · exact filterPortState_binds event _
  · refine binds_ofExcept_bind (asPortsStatus_bound event) fun portsStatus _ => ?_
    split
    · refine binds_ofExcept_bind (portsOf_bound _) fun ports listed => ?_
      exact binds_bind (replacePorts_binds _ ports (portsOf_entries_bound listed))
        fun _ => binds_pure _
    · exact binds_pure _

end Bound

/-- Filtering puts whole lines in front of the buffer. -/
def keepsLast : Frame Client := .unchanged fun client => (lastLine client.buffer, client.incoming)

theorem replacePorts_keepsLast {dpid : Json} (identified : dpid.Sound)
    (ports : List (Json × Except Raised Json))
    (sound : ∀ entry ∈ ports, ∀ status, entry.2 = .ok status → entry.1.Sound ∧ status.Sound) :
    (replacePorts dpid ports).Within keepsLast := by
  induction ports with
  | nil => exact within_pure ()
  | cons entry ports shorter =>
      have later := shorter fun other inside => sound other (List.mem_cons_of_mem _ inside)
      rw [replacePorts]
      refine within_ofExcept_bind fun status known => ?_
      obtain ⟨numbered, stated⟩ := sound entry List.mem_cons_self status known
      have whole := Json.dumps_oneLine _ (makePortState_sound identified numbered stated)
      refine within_bind (within_modify fun client => ?_) fun _ => later
      exact congrArg (fun last => (last, client.incoming)) (lastLine_line whole client.buffer)

theorem filterFaucetEvent_keepsLast {event : Json} (sound : event.Sound) :
    (filterFaucetEvent event).Within keepsLast := by
  have debounces : ∀ state, (debouncePortEvent state).Within keepsLast := by
    intro state
    unfold debouncePortEvent
    refine within_bind (within_read _) fun index => ?_
    refine within_bind (within_modify fun _ => rfl) fun _ => within_bind within_get fun _ => ?_
    refine within_ite (within_modify fun _ => rfl) ?_
    refine within_bind (within_whenSome _ fun _ => within_modify fun _ => rfl) fun _ => ?_
    exact within_ite (within_modify fun _ => rfl) (within_modify fun _ => rfl)
  unfold filterFaucetEvent filterPortState processStateUpdate
  refine within_bind (within_ofExcept _) fun portState => ?_
  split
  · refine within_ite (within_bind (debounces _) fun _ => within_pure _) ?_
    refine within_bind ?_ fun _ => within_pure _
    refine within_bind (within_read _) fun _ => within_ite (within_pure _) ?_
    exact within_bind (within_modify fun _ => rfl) fun _ => within_pure _
  · refine within_ofExcept_bind fun portsStatus listed => ?_
    split
    · rename_i dpid status kept
      obtain ⟨identified, stated⟩ := asPortsStatus_sound sound
        (listed.trans (congrArg Except.ok (Option.filter_eq_some_iff.mp kept).1))
      refine within_ofExcept_bind fun ports known => ?_
      exact within_bind (replacePorts_keepsLast identified ports (portsOf_sound stated known))
        fun _ => within_pure _
    · exact within_pure _

end Filter

/-! Runs. -/

/-- What the calls have come to, apart from those that found nothing. -/
def Reader.told (reader : Reader) : List Outcome :=
  reader.outcomes.filter fun outcome => outcome ≠ .nothing

theorem told_finish_nothing (reader : Reader) : (reader.finish .nothing).told = reader.told := by
  simp [Reader.told, Reader.finish]

theorem told_finish {reader clean : Reader} (told : clean.told = reader.told) (outcome : Outcome) :
    (clean.finish outcome).told = (reader.finish outcome).told := by
  unfold Reader.told Reader.finish at *
  rw [List.filter_append, List.filter_append, told]

/-- The first line of a text is complete, and JSON or not. -/
def Front (text : List Char) (good : Bool) : Prop :=
  ∃ line rest, '\n' ∉ line ∧ text = line ++ '\n' :: rest ∧ parses line = good

theorem exists_front {text : List Char} (complete : '\n' ∈ text) : ∃ good, Front text good := by
  obtain ⟨line, rest, split, whole⟩ := List.eq_append_cons_of_mem complete
  exact ⟨_, line, rest, whole, split, rfl⟩

theorem Front.purge_complete {text : List Char} (front : Front text true) :
    '\n' ∈ purge text := by
  obtain ⟨line, rest, whole, rfl, parsed⟩ := front
  rw [purge_parsed whole parsed]
  exact List.mem_append_right _ List.mem_cons_self

/-- Where the other reader is: in the same place, or waiting for a line while
this one deals with a malformed line. -/
inductive Placed (reader : Reader) : Position → Prop
  | check : reader.position = .check → Placed reader .check
  | behind : reader.position = .check → Placed reader .await
  | await : reader.position = .await → Placed reader .await
  | serve : reader.position = .serve →
      reader.client.debouncedQ ≠ [] ∨ Front reader.client.buffer true → Placed reader .serve
  | take : reader.position = .take → Front reader.client.buffer true → Placed reader .take
  | skipping : reader.position = .serve ∨ reader.position = .take →
      Front reader.client.buffer false → Placed reader .await

theorem Placed.queued {reader after : Reader} {position : Position}
    (placed : Placed reader position) (still : after.position = reader.position)
    (buffer : after.client.buffer = reader.client.buffer)
    (queue : reader.client.debouncedQ ≠ [] → after.client.debouncedQ ≠ []) :
    Placed after position := by
  cases placed with
  | check placed => exact .check (still.trans placed)
  | behind placed => exact .behind (still.trans placed)
  | await placed => exact .await (still.trans placed)
  | serve placed ready => exact .serve (still.trans placed) (ready.imp queue (buffer ▸ ·))
  | take placed front => exact .take (still.trans placed) (buffer ▸ front)
  | skipping placed front => exact .skipping (placed.imp still.trans still.trans) (buffer ▸ front)

/-- The other reader has received the same without the malformed lines, and has
told the same. -/
structure Matches (reader clean : Reader) : Prop where
  client : clean.client = reader.client.purged
  told : clean.told = reader.told
  last : lastLine reader.client.buffer = lastLine reader.client.incoming
  placed : Placed reader clean.position

/-- A reader that may do anything. -/
def Free (portDebounceSec : Int) (reader : Reader) : Prop :=
  Reaches Move.step (fun _ _ => True) (.connected portDebounceSec) reader

section Step

variable {portDebounceSec : Int} {reader clean : Reader}

theorem Free.advance (free : Free portDebounceSec reader) (poll : Poll) :
    Free portDebounceSec (reader.advance poll) :=
  Reaches.step (Move.advance poll) free trivial

theorem advance_check (placed : reader.position = .check) (poll : Poll) :
    reader.advance poll = { reader with
      position := if reader.client.debouncedQ = [] then .await else .serve } := by
  unfold Reader.advance
  rw [placed]

theorem advance_await (placed : reader.position = .await) (poll : Poll) :
    reader.advance poll = if '\n' ∈ reader.client.buffer then { reader with position := .serve }
      else reader.receive poll := by
  unfold Reader.advance
  rw [placed]

theorem advance_serve (placed : reader.position = .serve) (empty : reader.client.debouncedQ = [])
    (poll : Poll) : reader.advance poll = { reader with position := .take } := by
  unfold Reader.advance
  rw [placed, empty]

theorem advance_serve_queued (placed : reader.position = .serve) {event : Json}
    {rest : List Json} (queue : reader.client.debouncedQ = event :: rest) (poll : Poll) :
    reader.advance poll =
      { reader with client := { reader.client with debouncedQ := rest } }.finish
        (.event event) := by
  unfold Reader.advance
  rw [placed, queue]

theorem advance_take (placed : reader.position = .take) (poll : Poll) :
    reader.advance poll = reader.take := by
  unfold Reader.advance
  rw [placed]

/-- A reader that waits turns to the queue when there is something in it. -/
theorem Free.turn (free : Free portDebounceSec clean) (waits : clean.position = .await)
    (queued : clean.client.debouncedQ ≠ []) :
    ∃ after, Free portDebounceSec after ∧ after.client = clean.client ∧
      after.told = clean.told ∧ after.position = .serve := by
  have turned := free.advance .silent
  rw [advance_await waits] at turned
  by_cases complete : '\n' ∈ clean.client.buffer
  · rw [if_pos complete] at turned
    exact ⟨_, turned, rfl, rfl, rfl⟩
  · rw [if_neg complete] at turned
    have again := turned.advance .silent
    have placed : (clean.receive .silent).position = .check := rfl
    have still : (clean.receive .silent).client.debouncedQ ≠ [] := queued
    rw [advance_check placed, if_neg still] at again
    exact ⟨_, again, rfl, told_finish_nothing clean, rfl⟩

theorem Matches.serve_queued (same : clean.client = reader.client.purged)
    (told : clean.told = reader.told)
    (last : lastLine reader.client.buffer = lastLine reader.client.incoming)
    (free : Free portDebounceSec clean) (placed : reader.position = .serve)
    (there : clean.position = .serve) (queued : reader.client.debouncedQ ≠ []) (poll : Poll) :
    ∃ after, Free portDebounceSec after ∧ Matches (reader.advance poll) after := by
  obtain ⟨event, rest, queue⟩ := List.exists_cons_of_ne_nil queued
  have queue' : clean.client.debouncedQ = event :: rest := by rw [same]; exact queue
  refine ⟨_, free.advance .silent, ?_⟩
  rw [advance_serve_queued placed queue, advance_serve_queued there queue']
  refine ⟨?_, ?_, last, .check rfl⟩
  · change ({ clean.client with debouncedQ := rest } : Client) = _
    rw [same]
    rfl
  · exact @told_finish { reader with client := _ } { clean with client := _ } told _

theorem Matches.check (same : Matches reader clean) (free : Free portDebounceSec clean)
    (placed : reader.position = .check) (there : clean.position = .check) (poll : Poll) :
    ∃ after, Free portDebounceSec after ∧ Matches (reader.advance poll) after := by
  have queue : clean.client.debouncedQ = reader.client.debouncedQ := by rw [same.client]; rfl
  refine ⟨_, free.advance .silent, ?_⟩
  rw [advance_check placed, advance_check there, queue]
  refine ⟨same.client, same.told, same.last, ?_⟩
  split
  · exact .await rfl
  · rename_i queued
    exact .serve rfl (.inl queued)

theorem Matches.behind (same : Matches reader clean) (free : Free portDebounceSec clean)
    (placed : reader.position = .check) (there : clean.position = .await) (poll : Poll) :
    ∃ after, Free portDebounceSec after ∧ Matches (reader.advance poll) after := by
  rw [advance_check placed]
  by_cases empty : reader.client.debouncedQ = []
  · rw [if_pos empty]
    exact ⟨clean, free, same.client, same.told, same.last, by rw [there]; exact .await rfl⟩
  · rw [if_neg empty]
    have queued : clean.client.debouncedQ ≠ [] := by rw [same.client]; exact empty
    obtain ⟨after, freed, client, told, turned⟩ := free.turn there queued
    exact ⟨after, freed, client.trans same.client, told.trans same.told, same.last,
      by rw [turned]; exact .serve rfl (.inl empty)⟩

theorem Matches.skip (same : Matches reader clean) (free : Free portDebounceSec clean)
    (placed : reader.position = .serve) (there : clean.position = .await)
    (front : Front reader.client.buffer false) (poll : Poll) :
    ∃ after, Free portDebounceSec after ∧ Matches (reader.advance poll) after := by
  by_cases empty : reader.client.debouncedQ = []
  · rw [advance_serve placed empty]
    exact ⟨clean, free, same.client, same.told, same.last,
      by rw [there]; exact .skipping (.inr rfl) front⟩
  · have queued : clean.client.debouncedQ ≠ [] := by rw [same.client]; exact empty
    obtain ⟨after, freed, client, told, turned⟩ := free.turn there queued
    exact serve_queued (client.trans same.client) (told.trans same.told) same.last freed placed
      turned empty poll

/-- Data that comes in. -/
def Reader.hear (reader : Reader) (data : List Char) : Reader :=
  { reader with client := { reader.client with
      buffer := reader.client.buffer ++ data
      incoming := reader.client.incoming ++ data } }

theorem receive_data {chunk : Bytes} {data : List Char} (decoded : decode chunk = some data)
    (present : data ≠ []) (reader : Reader) :
    reader.receive (.received chunk) = reader.hear data := by
  cases data with
  | nil => exact absurd rfl present
  | cons first rest =>
      simp only [Reader.receive, decoded]
      rfl

theorem receive_undecodable {chunk : Bytes} (undecodable : decode chunk = none) (reader : Reader) :
    reader.receive (.received chunk) = reader.finish (.failure .unicodeDecodeError) := by
  simp only [Reader.receive, undecodable]

theorem receive_closed {chunk : Bytes} (closed : decode chunk = some []) (reader : Reader) :
    reader.receive (.received chunk) = reader.finish (.failure .disconnected) := by
  simp only [Reader.receive, closed]

theorem Matches.hear (same : Matches reader clean) (free : Free portDebounceSec clean)
    (placed : reader.position = .await) (there : clean.position = .await)
    (part : '\n' ∉ reader.client.buffer) (data : List Char) :
    ∃ after, Free portDebounceSec after ∧ Matches (reader.hear data) after := by
  have empty : clean.client.buffer = [] := by
    rw [same.client]
    exact purge_partial part
  have last : lastLine reader.client.incoming = reader.client.buffer := by
    rw [← same.last]
    exact lastFrom_partial part []
  have hears : (clean.hear (purge (reader.client.buffer ++ data))).client =
      (reader.hear data).client.purged := by
    unfold Reader.hear Client.purged
    dsimp only
    rw [empty, same.client, purge_append part last]
    rfl
  have ends : lastLine (reader.hear data).client.buffer =
      lastLine (reader.hear data).client.incoming := by
    have before : lastFrom [] reader.client.buffer = lastFrom [] reader.client.incoming := same.last
    unfold Reader.hear lastLine
    dsimp only
    rw [lastFrom_append, lastFrom_append, before]
  have waits : Placed (reader.hear data)
      (clean.hear (purge (reader.client.buffer ++ data))).position :=
    (there ▸ Placed.await placed : Placed (reader.hear data) clean.position)
  by_cases nothing : purge (reader.client.buffer ++ data) = []
  · refine ⟨clean, free, ?_, same.told, ends, waits⟩
    rw [← hears, nothing]
    unfold Reader.hear
    simp only [List.append_nil]
  · obtain ⟨chunk, decoded⟩ := exists_decode (purge (reader.client.buffer ++ data))
    have next := free.advance (.received chunk)
    rw [advance_await there, empty, if_neg List.not_mem_nil, receive_data decoded nothing] at next
    exact ⟨_, next, hears, same.told, ends, waits⟩

/-- Where nothing comes in, or nothing that is text, both calls end alike. -/
theorem Matches.receive (same : Matches reader clean) (free : Free portDebounceSec clean)
    (placed : reader.position = .await) (there : clean.position = .await)
    (part : '\n' ∉ reader.client.buffer) (poll : Poll) :
    ∃ after, Free portDebounceSec after ∧ Matches (reader.receive poll) after := by
  have next := free.advance poll
  rw [advance_await there, same.client] at next
  rw [if_neg (show '\n' ∉ reader.client.purged.buffer by
    rw [show reader.client.purged.buffer = [] from purge_partial part]
    exact List.not_mem_nil)] at next
  have ends : ∀ outcome, Matches (reader.finish outcome) (clean.finish outcome) := fun outcome =>
    ⟨same.client, told_finish same.told outcome, same.last, .check rfl⟩
  cases poll with
  | silent => exact ⟨_, next, ends .nothing⟩
  | received chunk =>
      cases decoded : decode chunk with
      | none =>
          rw [receive_undecodable decoded] at next ⊢
          exact ⟨_, next, ends _⟩
      | some data =>
          cases data with
          | nil =>
              rw [receive_closed decoded] at next ⊢
              exact ⟨_, next, ends _⟩
          | cons first rest =>
              rw [receive_data decoded (List.cons_ne_nil _ _)]
              exact same.hear free placed there part _

theorem Matches.await (same : Matches reader clean) (free : Free portDebounceSec clean)
    (placed : reader.position = .await) (there : clean.position = .await) (poll : Poll) :
    ∃ after, Free portDebounceSec after ∧ Matches (reader.advance poll) after := by
  rw [advance_await placed]
  by_cases complete : '\n' ∈ reader.client.buffer
  · rw [if_pos complete]
    obtain ⟨good, front⟩ := exists_front complete
    cases good with
    | false =>
        exact ⟨clean, free, same.client, same.told, same.last,
          by rw [there]; exact .skipping (.inl rfl) front⟩
    | true =>
        have next := free.advance .silent
        have present : '\n' ∈ clean.client.buffer := by
          rw [same.client]
          exact front.purge_complete
        rw [advance_await there, if_pos present] at next
        exact ⟨_, next, same.client, same.told, same.last, .serve rfl (.inr front)⟩
  · rw [if_neg complete]
    exact same.receive free placed there complete poll

theorem takeLine_parsed {client : Client} {line rest : List Char} {event : Json}
    (whole : '\n' ∉ line) (text : client.buffer = line ++ '\n' :: rest)
    (parsed : Json.loads line = some event) (bound : Bool) :
    (takeLine bound).run client = (filterFaucetEvent event).run { client with buffer := rest } := by
  unfold takeLine
  rw [read_bind_run, text, splitLine_line whole]
  dsimp only
  rw [modify_bind_run, parsed]

theorem takeLine_malformed {client : Client} {line rest : List Char}
    (whole : '\n' ∉ line) (text : client.buffer = line ++ '\n' :: rest)
    (malformed : Json.loads line = none) :
    (takeLine true).run client = (.ok none, { client with buffer := rest }) := by
  unfold takeLine
  rw [read_bind_run, text, splitLine_line whole]
  dsimp only
  rw [modify_bind_run, malformed]
  rfl

theorem Matches.take (same : Matches reader clean) (free : Free portDebounceSec clean)
    (there : clean.position = .take) (front : Front reader.client.buffer true) :
    ∃ after, Free portDebounceSec after ∧ Matches reader.take after := by
  obtain ⟨line, rest, whole, text, parsed⟩ := front
  obtain ⟨event, loaded⟩ := Option.isSome_iff_exists.mp parsed
  have sound := Json.loads_sound loaded
  have text' : clean.client.buffer = line ++ '\n' :: purge rest := by
    rw [same.client]
    change purge reader.client.buffer = _
    rw [text, purge_parsed whole parsed]
  have ran := takeLine_parsed whole text loaded reader.bound
  have purged : ({ clean.client with buffer := purge rest } : Client) =
      ({ reader.client with buffer := rest } : Client).purged := by
    rw [same.client]
    rfl
  have ran' : (takeLine clean.bound).run clean.client =
      (((filterFaucetEvent event).run { reader.client with buffer := rest }).1,
        ((filterFaucetEvent event).run { reader.client with buffer := rest }).2.purged) := by
    rw [takeLine_parsed whole text' loaded, purged]
    exact filterFaucetEvent_ignores sound _
  have last :
      lastLine ((filterFaucetEvent event).run { reader.client with buffer := rest }).2.buffer =
      lastLine ((filterFaucetEvent event).run { reader.client with buffer := rest }).2.incoming := by
    have kept := filterFaucetEvent_keepsLast sound { reader.client with buffer := rest }
    calc
      lastLine _ = lastLine rest := congrArg Prod.fst kept
      _ = lastLine reader.client.incoming := by rw [← same.last, text, lastLine_line whole]
      _ = lastLine _ := (congrArg (fun view => lastLine view.2) kept).symm
  have next := free.advance .silent
  rw [advance_take there] at next
  refine ⟨_, next, ?_⟩
  unfold Reader.take
  rw [ran, ran']
  generalize (filterFaucetEvent event).run { reader.client with buffer := rest } = result at last ⊢
  obtain ⟨outcome, client⟩ := result
  match outcome with
  | .error raised =>
      exact ⟨rfl, @told_finish { reader with client } { clean with client := _ } same.told _, last,
        .check rfl⟩
  | .ok none => exact ⟨rfl, same.told, last, .check rfl⟩
  | .ok (some event) =>
      dsimp only
      split
      · exact ⟨rfl, @told_finish { reader with client } { clean with client := _ } same.told _, last,
          .check rfl⟩
      · exact ⟨rfl, same.told, last, .check rfl⟩

/-- A malformed line is dropped by a call that has taken another one before. -/
theorem Matches.drop (same : Matches reader clean) (free : Free portDebounceSec clean)
    (there : clean.position = .await) (front : Front reader.client.buffer false)
    (bound : reader.bound = true) :
    ∃ after, Free portDebounceSec after ∧ Matches reader.take after := by
  obtain ⟨line, rest, whole, text, malformed⟩ := front
  have unloaded : Json.loads line = none :=
    Option.not_isSome_iff_eq_none.mp (Bool.eq_false_iff.mp malformed)
  refine ⟨clean, free, ?_⟩
  unfold Reader.take
  rw [bound, takeLine_malformed whole text unloaded]
  refine ⟨?_, same.told, ?_, by rw [there]; exact .behind rfl⟩
  · rw [same.client]
    unfold Client.purged
    dsimp only
    rw [text, purge_malformed whole malformed]
  · change lastLine rest = lastLine reader.client.incoming
    rw [← same.last, text, lastLine_line whole]

theorem Matches.expire (same : Matches reader clean) (free : Free portDebounceSec clean)
    (timer : Nat) : ∃ after, Free portDebounceSec after ∧ Matches (reader.expire timer) after := by
  refine ⟨clean.expire timer, Reaches.step (Move.expire timer) free trivial, ?_⟩
  have pending : clean.client.pending = reader.client.pending := by rw [same.client]; rfl
  unfold Reader.expire
  rw [pending]
  split
  · exact same
  · refine ⟨?_, same.told, same.last, ?_⟩
    · rw [same.client]
      rfl
    · exact same.placed.queued rfl rfl fun _ =>
        List.append_ne_nil_of_right_ne_nil _ (List.cons_ne_nil _ _)

end Step

/-- A call of `next_event` does not begin with a malformed line: it has taken
another line before it takes one. -/
def Begun (reader : Reader) : Move → Prop
  | .advance _ => reader.position = .take → reader.bound = false →
      parses (splitLine reader.client.buffer).1 = true
  | .expire _ => True

instance (reader : Reader) : (move : Move) → Decidable (Begun reader move)
  | .advance _ => inferInstanceAs (Decidable (_ → _ → _))
  | .expire _ => inferInstanceAs (Decidable True)

theorem Front.first {text : List Char} {good : Bool} (front : Front text good) :
    parses (splitLine text).1 = good := by
  obtain ⟨line, rest, whole, rfl, parsed⟩ := front
  rw [splitLine_line whole]
  exact parsed

theorem Matches.step {portDebounceSec : Int} {reader clean : Reader} (same : Matches reader clean)
    (free : Free portDebounceSec clean) (move : Move) (begun : Begun reader move) :
    ∃ after, Free portDebounceSec after ∧ Matches (move.step reader) after := by
  cases move with
  | expire timer => exact same.expire free timer
  | advance poll =>
      change ∃ after, Free portDebounceSec after ∧ Matches (reader.advance poll) after
      generalize there : clean.position = position
      have placed := same.placed
      rw [there] at placed
      cases placed with
      | check placed => exact same.check free placed there poll
      | behind placed => exact same.behind free placed there poll
      | await placed => exact same.await free placed there poll
      | serve placed ready =>
          by_cases empty : reader.client.debouncedQ = []
          · have empty' : clean.client.debouncedQ = [] := by rw [same.client]; exact empty
            have next := free.advance .silent
            rw [advance_serve there empty'] at next
            rw [advance_serve placed empty]
            exact ⟨_, next, same.client, same.told, same.last,
              .take rfl (ready.resolve_left fun queued => queued empty)⟩
          · exact Matches.serve_queued same.client same.told same.last free placed there empty poll
      | take placed front =>
          rw [advance_take placed]
          exact same.take free there front
      | skipping placed front =>
          rcases placed with placed | placed
          · exact same.skip free placed there front poll
          · rw [advance_take placed]
            have bound : reader.bound = true := by
              by_contra first
              have parsed := begun placed (Bool.eq_false_iff.mpr first)
              cases parsed.symm.trans front.first
            exact same.drop free there front bound

theorem takeLine_bound {client : Client} {bound : Bool}
    (begun : bound = false → parses (splitLine client.buffer).1 = true) :
    Bound ((takeLine bound).run client).1 := by
  unfold takeLine
  rw [read_bind_run]
  dsimp only
  rw [modify_bind_run]
  cases loaded : Json.loads (splitLine client.buffer).1 with
  | some event => exact filterFaucetEvent_binds event _
  | none =>
      cases bound with
      | true => exact bound_ok _
      | false =>
          have parsed := begun rfl
          rw [parses, loaded] at parsed
          cases parsed

/-- No call has failed for want of a line to speak of. -/
def Reader.Sane (reader : Reader) : Prop := .failure .unboundLocalError ∉ reader.outcomes

theorem Reader.Sane.finish {reader : Reader} (sane : reader.Sane) {outcome : Outcome}
    (other : outcome ≠ .failure .unboundLocalError) : (reader.finish outcome).Sane := by
  intro inside
  rcases List.mem_append.mp inside with old | new
  · exact sane old
  · exact other (List.mem_singleton.mp new).symm

theorem Reader.Sane.take {reader : Reader} (sane : reader.Sane)
    (begun : reader.bound = false → parses (splitLine reader.client.buffer).1 = true) :
    reader.take.Sane := by
  have bound := takeLine_bound begun
  unfold Reader.take
  generalize (takeLine reader.bound).run reader.client = result at bound ⊢
  obtain ⟨outcome, client⟩ := result
  match outcome with
  | .error raised =>
      refine @Reader.Sane.finish { reader with client } sane _ fun same => bound ?_
      exact congrArg Except.error (Outcome.failure.inj same)
  | .ok none => exact sane
  | .ok (some event) =>
      dsimp only
      split
      · exact @Reader.Sane.finish { reader with client } sane _ (by simp)
      · exact sane

theorem Reader.Sane.step {reader : Reader} (sane : reader.Sane) (move : Move)
    (begun : Begun reader move) : (move.step reader).Sane := by
  cases move with
  | expire timer =>
      dsimp only [Move.step]
      unfold Reader.expire
      split
      · exact sane
      · exact sane
  | advance poll =>
      dsimp only [Move.step]
      unfold Reader.advance
      split
      · exact sane
      · split
        · exact sane
        · unfold Reader.receive
          split
          · exact sane.finish (by simp)
          · split
            · exact sane.finish (by simp)
            · exact sane.finish (by simp)
            · exact sane
      · split
        · exact sane
        · exact @Reader.Sane.finish { reader with client := _ } sane _ (by simp)
      · rename_i placed
        exact sane.take (begun placed)

/-- Lines that are not JSON are skipped in every run in which no call begins
with one: there is a run that receives the other lines only and tells the same
events and failures, and no call fails for a malformed line. -/
theorem malformed_skipped {portDebounceSec : Int} {reader : Reader}
    (reached : Reaches Move.step Begun (.connected portDebounceSec) reader) :
    (∃ clean, Reaches Move.step (fun _ _ => True) (.connected portDebounceSec) clean ∧
      clean.client.incoming = purge reader.client.incoming ∧ clean.told = reader.told) ∧
      .failure .unboundLocalError ∉ reader.outcomes := by
  have both : (∃ clean, Free portDebounceSec clean ∧ Matches reader clean) ∧ reader.Sane := by
    refine reached.invariant (fun reader =>
      (∃ clean, Free portDebounceSec clean ∧ Matches reader clean) ∧ reader.Sane) ?_ ?_
    · exact ⟨⟨.connected portDebounceSec, .start, rfl, rfl, rfl, .check rfl⟩, List.not_mem_nil⟩
    · rintro state move ⟨⟨clean, free, same⟩, sane⟩ begun
      exact ⟨same.step free move begun, sane.step move begun⟩
  obtain ⟨⟨clean, free, same⟩, sane⟩ := both
  exact ⟨⟨clean, free, congrArg Client.incoming same.client, same.told⟩, sane⟩

namespace Malformed

/-- The lines `{}`, `x` and `[]`. -/
def lines : Bytes := [123, 125, 10, 120, 10, 91, 93, 10]

/-- A call takes the first two lines, and nothing is left for it to return. -/
def moves : List Move :=
  [.advance .silent, .advance (.received lines), .advance .silent, .advance .silent,
    .advance .silent, .advance .silent, .advance .silent, .advance .silent, .advance .silent]

def skimmed : Reader := moves.foldl (fun reader move => move.step reader) (.connected 0)

theorem skimmed_skips :
    skimmed.client.buffer = ['[', ']', '\n'] ∧
      (∃ clean, Reaches Move.step (fun _ _ => True) (.connected 0) clean ∧
        clean.client.incoming = purge skimmed.client.incoming ∧ clean.told = skimmed.told) ∧
      .failure .unboundLocalError ∉ skimmed.outcomes :=
  ⟨by decide +kernel, malformed_skipped (Reaches.start.run (by decide +kernel))⟩

/-- The first line that comes in is `x`. -/
def struck : Reader :=
  [.advance .silent, .advance (.received [120, 10]), .advance .silent, .advance .silent,
    .advance .silent].foldl (fun reader (move : Move) => move.step reader) (.connected 0)

/-- A call that begins with a malformed line fails. -/
theorem first_line_fatal : ¬ ∀ (portDebounceSec : Int) (reader : Reader),
    Reaches Move.step (fun _ _ => True) (.connected portDebounceSec) reader →
      (∃ clean, Reaches Move.step (fun _ _ => True) (.connected portDebounceSec) clean ∧
        clean.client.incoming = purge reader.client.incoming ∧ clean.told = reader.told) ∧
      .failure .unboundLocalError ∉ reader.outcomes := by
  intro skips
  have fatal : .failure .unboundLocalError ∈ struck.outcomes := by decide +kernel
  exact (skips 0 struck (Reaches.foldl (fun _ _ => trivial) _)).2 fatal

end Malformed

end Daq.Faucet
