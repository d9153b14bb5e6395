import Daq.Faucet.Steps
import Daq.Lib.JsonRoundTrip
import Daq.Lib.Reach

namespace Daq.Faucet

open Exec

/-! Without debouncing the events that are returned only depend on the lines
that were received. -/

/-! Lines. -/

def linesFrom : List Char → List Char → List (List Char)
  | _, [] => []
  | line, char :: rest =>
      if char = '\n' then line :: linesFrom [] rest else linesFrom (line ++ [char]) rest

def completeLines (text : List Char) : List (List Char) := linesFrom [] text

theorem linesFrom_line {line : List Char} (whole : '\n' ∉ line) (before rest : List Char) :
    linesFrom before (line ++ '\n' :: rest) = (before ++ line) :: linesFrom [] rest := by
  induction line generalizing before with
  | nil => rw [List.nil_append, linesFrom, if_pos rfl, List.append_nil]
  | cons char line shorter =>
      have other : char ≠ '\n' := fun same => whole (same ▸ List.mem_cons_self)
      rw [List.cons_append, linesFrom, if_neg other,
        shorter fun inside => whole (List.mem_cons_of_mem _ inside)]
      simp

theorem completeLines_line {line : List Char} (whole : '\n' ∉ line) (rest : List Char) :
    completeLines (line ++ '\n' :: rest) = line :: completeLines rest :=
  linesFrom_line whole [] rest

theorem linesFrom_partial {text : List Char} (whole : '\n' ∉ text) (before : List Char) :
    linesFrom before text = [] := by
  induction text generalizing before with
  | nil => rfl
  | cons char text shorter =>
      have other : char ≠ '\n' := fun same => whole (same ▸ List.mem_cons_self)
      rw [linesFrom, if_neg other]
      exact shorter (fun inside => whole (List.mem_cons_of_mem _ inside)) _

theorem linesFrom_append (text more before : List Char) :
    linesFrom before text <+: linesFrom before (text ++ more) := by
  induction text generalizing before with
  | nil => exact List.nil_prefix
  | cons char text shorter =>
      rw [List.cons_append, linesFrom, linesFrom]
      split
      · exact (List.prefix_cons_inj before).mpr (shorter [])
      · exact shorter _

theorem splitLine_line {line : List Char} (whole : '\n' ∉ line) (rest : List Char) :
    splitLine (line ++ '\n' :: rest) = (line, rest) := by
  induction line with
  | nil => rfl
  | cons char line shorter =>
      have other : char ≠ '\n' := fun same => whole (same ▸ List.mem_cons_self)
      have later := shorter fun inside => whole (List.mem_cons_of_mem _ inside)
      unfold splitLine at later ⊢
      rw [Prod.mk.injEq] at later ⊢
      rw [List.cons_append, List.takeWhile_cons_of_pos (by simpa using other),
        List.dropWhile_cons_of_pos (by simpa using other), later.1]
      exact ⟨rfl, later.2⟩

/-! What a line is to yield. -/

/-- The state of one port of a status. -/
def portStateOf (dpid : Json) (entry : Str × Json) : Option PortState :=
  match intOfStr entry.1 with
  | .ok port =>
      if port = 0 then none
      else some { dpid, port, active := if truthy entry.2 then .bool true else entry.2 }
  | .error _ => none

/-- A port change yields its state and a ports status the state of every port
it lists; any other object yields itself. -/
def eventsOf (event : Json) : Option (List Json) :=
  match event with
  | .object members =>
      if members = .nil ∨ isDebounced event = true then none
      else if (members.get? portChangeKey).isSome then
        match asPortState event with
        | .ok (some state) =>
            if truthy state.dpid = true ∧ state.port ≠ 0 then some [state.event] else none
        | _ => none
      else match members.get? portsStatusKey with
        | none => some [event]
        | some (.object ports) => do
            let dpid ← members.get? dpIdKey
            if truthy dpid then
              (ports.toList.reverse.mapM (portStateOf dpid)).map fun states =>
                states.map PortState.event
            else none
        | some _ => none
  | _ => none

def lineEvents (line : List Char) : Option (List Json) := (Json.loads line).bind eventsOf

def WellFormed (text : List Char) : Prop :=
  ∀ line ∈ completeLines text, (lineEvents line).isSome = true

/-- All that the complete lines of a text are to yield. -/
def due (text : List Char) : List Json :=
  (completeLines text).flatMap fun line => (lineEvents line).getD []

theorem WellFormed.of_append {text more : List Char} (wellFormed : WellFormed (text ++ more)) :
    WellFormed text :=
  fun line inside => wellFormed line ((linesFrom_append text more []).subset inside)

theorem due_line {line : List Char} {events : List Json} (whole : '\n' ∉ line)
    (yields : lineEvents line = some events) (rest : List Char) :
    due (line ++ '\n' :: rest) = events ++ due rest := by
  rw [due, completeLines_line whole, List.flatMap_cons, yields]
  rfl

theorem due_partial {text : List Char} (whole : '\n' ∉ text) : due text = [] := by
  rw [due, completeLines, linesFrom_partial whole]
  rfl

theorem wellFormed_line {line : List Char} (whole : '\n' ∉ line) {rest : List Char} :
    WellFormed (line ++ '\n' :: rest) ↔ (lineEvents line).isSome = true ∧ WellFormed rest := by
  unfold WellFormed
  rw [completeLines_line whole, List.forall_mem_cons]

/-! The lines that take the place of a ports status. -/

theorem asPortState_eq {event dpid change portNo reason status : Json}
    (applicable : contains portChangeKey event = .ok true) (present : truthy event = true)
    (dpId : subscript event dpIdKey = .ok dpid)
    (portChange : subscript event portChangeKey = .ok change)
    (numbered : subscript change portNoKey = .ok portNo)
    (reasoned : subscript change reasonKey = .ok reason)
    (stated : subscript change statusKey = .ok status) :
    asPortState event = (toInt portNo).map fun port => some
      { dpid, port,
        active := if truthy status then .bool (decide (reason ≠ .str delete)) else status } := by
  unfold asPortState
  rw [present, applicable, dpId, portChange]
  simp only [Fallible.ok_bind, reduceCtorEq, if_false, numbered, reasoned, stated]
  cases toInt portNo with
  | error raised => rfl
  | ok port => rfl

def pushedEvent (dpid : Json) (entry : Str × Json) : Json :=
  makePortState dpid (.str entry.1) entry.2 false

theorem asPortState_pushed (dpid : Json) (entry : Str × Json) :
    asPortState (pushedEvent dpid entry) = (intOfStr entry.1).map fun port =>
      some { dpid, port, active := if truthy entry.2 then .bool true else entry.2 } :=
  @asPortState_eq (pushedEvent dpid entry) dpid _ (.str entry.1) (.str modify) entry.2
    rfl rfl rfl rfl rfl rfl rfl

theorem eventsOf_pushed {dpid : Json} {entry : Str × Json} {state : PortState}
    (present : truthy dpid = true) (listed : portStateOf dpid entry = some state) :
    eventsOf (pushedEvent dpid entry) = some [state.event] := by
  unfold portStateOf at listed
  have parsed := asPortState_pushed dpid entry
  cases number : intOfStr entry.1 with
  | error raised =>
      rw [number] at listed
      cases listed
  | ok port =>
      rw [number] at listed parsed
      obtain ⟨nonzero, same⟩ := Option.ite_none_left_eq_some.mp listed
      cases same
      change (match asPortState (pushedEvent dpid entry) with
        | .ok (some state) =>
            if truthy state.dpid = true ∧ state.port ≠ 0 then some [state.event] else none
        | _ => none) = _
      rw [parsed]
      exact if_pos ⟨present, nonzero⟩

theorem get?_sound {key : Str} {value : Json} : ∀ {members : Members}, members.Sound →
    members.get? key = some value → value.Sound
  | .nil, _, found => by cases found
  | .cons other first tail, sound, found => by
      rw [Members.get?] at found
      split at found
      · cases found
        exact sound.2.1
      · exact get?_sound sound.2.2 found

theorem toList_sound {entry : Str × Json} : ∀ {members : Members}, members.Sound →
    entry ∈ members.toList → entry.1.Joined ∧ entry.2.Sound
  | .nil, _, inside => by cases inside
  | .cons key value tail, sound, inside => by
      rcases List.mem_cons.mp inside with same | later
      · cases same
        exact ⟨sound.1, sound.2.1⟩
      · exact toList_sound sound.2.2 later

theorem joined_of_small {value : Str} (small : ∀ point ∈ value, point < 55296) :
    value.Joined := by
  refine ⟨?_, fun point inside => Nat.lt_trans (small point inside) (by decide)⟩
  induction value with
  | nil => exact .nil
  | cons point rest shorter =>
      refine (shorter fun other inside => small other (List.mem_cons_of_mem _ inside)).cons ?_
      intro next _ both
      have low := small point List.mem_cons_self
      have high := both.1.1
      omega

theorem makePortState_sound {dpid port status : Json} (identified : dpid.Sound)
    (numbered : port.Sound) (stated : status.Sound) :
    (makePortState dpid port status false).Sound := by
  have dpId := joined_of_small (show ∀ point ∈ dpIdKey, point < 55296 by decide)
  have portChange := joined_of_small (show ∀ point ∈ portChangeKey, point < 55296 by decide)
  have portNo := joined_of_small (show ∀ point ∈ portNoKey, point < 55296 by decide)
  have statusName := joined_of_small (show ∀ point ∈ statusKey, point < 55296 by decide)
  have reason := joined_of_small (show ∀ point ∈ reasonKey, point < 55296 by decide)
  have modified := joined_of_small (show ∀ point ∈ modify, point < 55296 by decide)
  have debounced := joined_of_small (show ∀ point ∈ debouncedKey, point < 55296 by decide)
  have change : (Json.object (.cons portNoKey port (.cons statusKey status
      (.cons reasonKey (.str modify) .nil)))).Sound :=
    ⟨⟨portNo, numbered, statusName, stated, reason, modified, trivial⟩,
      show [portNoKey, statusKey, reasonKey].Nodup by decide⟩
  exact ⟨⟨dpId, identified, portChange, change, debounced, trivial, trivial⟩,
    show [dpIdKey, portChangeKey, debouncedKey].Nodup by decide⟩

theorem pushedEvent_sound {dpid : Json} {entry : Str × Json} (identified : dpid.Sound)
    (listed : entry.1.Joined ∧ entry.2.Sound) : (pushedEvent dpid entry).Sound :=
  makePortState_sound identified listed.1 listed.2

theorem listIndex_mem {items : List Json} {index : Int} {value : Json}
    (found : listIndex items index = .ok value) : value ∈ items := by
  unfold listIndex at found
  dsimp only at found
  generalize (if index < 0 then index + items.length else index) = position at found
  split at found
  · cases found
  · split at found
    · cases found
    · rename_i present
      cases found
      exact List.mem_of_getElem? present

theorem items_sound : ∀ {items : Items}, items.Sound → ∀ item ∈ Items.toList items, item.Sound
  | .nil, _, _, inside => by cases inside
  | .cons head tail, sound, item, inside => by
      rcases List.mem_cons.mp inside with same | later
      · exact same ▸ sound.1
      · exact items_sound sound.2 item later

theorem portsOf_sound {status : Json} (stated : status.Sound)
    {ports : List (Json × Except Raised Json)} (listed : portsOf status = .ok ports) :
    ∀ entry ∈ ports, ∀ value, entry.2 = .ok value → entry.1.Sound ∧ value.Sound := by
  unfold portsOf at listed
  split at listed
  · rename_i members
    cases listed
    intro entry inside value known
    obtain ⟨member, listed, rfl⟩ := List.mem_map.mp inside
    obtain ⟨joined, sound⟩ := toList_sound stated.1 listed
    cases known
    exact ⟨joined, sound⟩
  · rename_i items
    cases listed
    intro entry inside value known
    obtain ⟨item, listed, rfl⟩ := List.mem_map.mp inside
    refine ⟨items_sound stated item listed, ?_⟩
    dsimp only at known
    split at known
    · exact items_sound stated _ (listIndex_mem known)
    · exact items_sound stated _ (listIndex_mem known)
    · cases known
  · cases listed
    intro entry inside value known
    obtain ⟨point, _, rfl⟩ := List.mem_map.mp inside
    cases known
  · cases listed

theorem subscript_sound {event value : Json} {key : Str} (sound : event.Sound)
    (found : subscript event key = .ok value) : value.Sound := by
  unfold subscript at found
  split at found
  · split at found
    · cases found
    · rename_i present
      cases found
      exact get?_sound sound.1 present
  · cases found

theorem asPortsStatus_sound {event dpid status : Json} (sound : event.Sound)
    (found : asPortsStatus event = .ok (some (dpid, status))) : dpid.Sound ∧ status.Sound := by
  unfold asPortsStatus at found
  split at found
  · cases found
  · obtain ⟨applicable, _, found⟩ := Fallible.bind_eq_ok_iff.mp found
    split at found
    · cases found
    · obtain ⟨identity, named, found⟩ := Fallible.bind_eq_ok_iff.mp found
      obtain ⟨ports, listed, found⟩ := Fallible.bind_eq_ok_iff.mp found
      cases found
      exact ⟨subscript_sound sound named, subscript_sound sound listed⟩

/-- What is put in front of the buffer for the ports of a status. -/
def pushedText (dpid : Json) : List (Str × Json) → List Char
  | [] => []
  | entry :: rest => Json.dumps (pushedEvent dpid entry) ++ '\n' :: pushedText dpid rest

theorem pushedText_append (dpid : Json) (first second : List (Str × Json)) :
    pushedText dpid (first ++ second) = pushedText dpid first ++ pushedText dpid second := by
  induction first with
  | nil => rfl
  | cons entry rest shorter =>
      rw [List.cons_append, pushedText, pushedText, shorter, List.append_assoc, List.cons_append]

theorem lineEvents_pushed {dpid : Json} {entry : Str × Json} {state : PortState}
    (present : truthy dpid = true) (identified : dpid.Sound)
    (sound : entry.1.Joined ∧ entry.2.Sound) (listed : portStateOf dpid entry = some state) :
    lineEvents (Json.dumps (pushedEvent dpid entry)) = some [state.event] := by
  rw [lineEvents, Json.loads_dumps (pushedEvent_sound identified sound)]
  exact eventsOf_pushed present listed

/-- The lines in place of a status yield what the status is to yield. -/
theorem pushedText_yields {dpid : Json} (present : truthy dpid = true)
    (identified : dpid.Sound) {entries : List (Str × Json)}
    (sound : ∀ entry ∈ entries, entry.1.Joined ∧ entry.2.Sound) {states : List PortState}
    (listed : entries.mapM (portStateOf dpid) = some states) (rest : List Char) :
    due (pushedText dpid entries ++ rest) = states.map PortState.event ++ due rest ∧
      (WellFormed (pushedText dpid entries ++ rest) ↔ WellFormed rest) := by
  induction entries generalizing states with
  | nil =>
      cases listed
      exact ⟨rfl, Iff.rfl⟩
  | cons entry entries shorter =>
      simp only [List.mapM_cons, Option.bind_eq_bind, Option.bind_eq_some_iff,
        Option.pure_def, Option.some.injEq] at listed
      obtain ⟨state, first, states, others, rfl⟩ := listed
      have inside := sound entry List.mem_cons_self
      have whole := Json.dumps_oneLine _ (pushedEvent_sound identified inside)
      have yields := lineEvents_pushed present identified inside first
      obtain ⟨events, lines⟩ := shorter
        (fun other member => sound other (List.mem_cons_of_mem _ member)) others
      rw [pushedText, List.append_assoc, List.cons_append]
      rw [due_line whole yields, wellFormed_line whole, yields, events, lines]
      exact ⟨rfl, by simp⟩

/-! Taking a line. -/

def isPortChange : Json → Bool
  | .object members => (members.get? portChangeKey).isSome
  | _ => false

/-- How often the loop goes round for a line: a port change goes through the
queue, and a status is replaced by port changes. -/
def lineWeight (line : List Char) : Nat :=
  2 * ((lineEvents line).getD []).length + if (Json.loads line).any isPortChange then 0 else 1

def weight (text : List Char) : Nat := ((completeLines text).map lineWeight).sum

theorem weight_line {line : List Char} (whole : '\n' ∉ line) (rest : List Char) :
    weight (line ++ '\n' :: rest) = lineWeight line + weight rest := by
  rw [weight, completeLines_line whole, List.map_cons, List.sum_cons]
  rfl

theorem weight_pushedText {dpid : Json} (present : truthy dpid = true)
    (identified : dpid.Sound) {entries : List (Str × Json)}
    (sound : ∀ entry ∈ entries, entry.1.Joined ∧ entry.2.Sound) {states : List PortState}
    (listed : entries.mapM (portStateOf dpid) = some states) (rest : List Char) :
    weight (pushedText dpid entries ++ rest) = 2 * states.length + weight rest := by
  induction entries generalizing states with
  | nil =>
      cases listed
      exact (Nat.zero_add _).symm
  | cons entry entries shorter =>
      simp only [List.mapM_cons, Option.bind_eq_bind, Option.bind_eq_some_iff,
        Option.pure_def, Option.some.injEq] at listed
      obtain ⟨state, first, states, others, rfl⟩ := listed
      have inside := sound entry List.mem_cons_self
      have written := pushedEvent_sound identified inside
      have yields := lineEvents_pushed present identified inside first
      have single : lineWeight (Json.dumps (pushedEvent dpid entry)) = 2 := by
        rw [lineWeight, yields, Json.loads_dumps written]
        rfl
      rw [pushedText, List.append_assoc, List.cons_append,
        weight_line (Json.dumps_oneLine _ written), single,
        shorter (fun other member => sound other (List.mem_cons_of_mem _ member)) others,
        List.length_cons]
      omega

theorem replacePorts_run (dpid : Json) (entries : List (Str × Json)) (client : Client) :
    (replacePorts dpid (entries.map fun entry => (.str entry.1, .ok entry.2))).run client =
      (.ok (), { client with
        buffer := pushedText dpid entries.reverse ++ client.buffer }) := by
  induction entries generalizing client with
  | nil => rfl
  | cons entry entries shorter =>
      rw [List.map_cons, replacePorts]
      refine (bind_run_ok rfl).trans ((bind_run_ok rfl).trans ((shorter _).trans ?_))
      rw [List.reverse_cons, pushedText_append]
      simp only [pushedText, List.append_assoc, List.cons_append, List.nil_append]
      rfl

/-- What taking a line comes to that is to yield some events, from the client
without the line. -/
structure Taken (client : Client) (events : List Json) (cost : Nat) (result : Option Json)
    (after : Client) : Prop where
  debounce : after.portDebounceSec = client.portDebounceSec
  pending : after.pending = client.pending
  incoming : after.incoming = client.incoming
  served : ∀ event, result = some event → truthy event = true ∧ events = [event] ∧
    after.debouncedQ = client.debouncedQ ∧ after.buffer = client.buffer
  queued : result = none → ∃ added, after.debouncedQ = client.debouncedQ ++ added ∧
    (∀ future, added ++ due (after.buffer ++ future) = events ++ due (client.buffer ++ future)) ∧
    ∀ future, WellFormed (client.buffer ++ future) → WellFormed (after.buffer ++ future)
  lighter : weight after.buffer + after.debouncedQ.length <
    cost + weight client.buffer + client.debouncedQ.length

/-- What an event is, as far as the filter is concerned. -/
inductive Kind (event : Json) : List Json → Prop
  | portChange (state : PortState) :
      isDebounced event = false → isPortChange event = true →
      asPortState event = .ok (some state) → truthy state.dpid = true → state.port ≠ 0 →
      Kind event [state.event]
  | portsStatus (dpid : Json) (ports : Members) (states : List PortState) :
      isPortChange event = false → asPortState event = .ok none →
      asPortsStatus event = .ok (some (dpid, .object ports)) → truthy dpid = true →
      dpid.Sound → ports.Sound →
      ports.toList.reverse.mapM (portStateOf dpid) = some states →
      Kind event (states.map PortState.event)
  | other :
      isPortChange event = false → truthy event = true → asPortState event = .ok none →
      asPortsStatus event = .ok none → Kind event [event]

theorem asPortState_absent {members : Members} (absent : members.get? portChangeKey = none) :
    asPortState (.object members) = .ok none := by
  unfold asPortState
  rw [show contains portChangeKey (.object members) = .ok false by rw [contains, absent]; rfl]
  cases truthy (.object members) with
  | true => rfl
  | false => rfl

theorem asPortsStatus_absent {members : Members} (absent : members.get? portsStatusKey = none) :
    asPortsStatus (.object members) = .ok none := by
  unfold asPortsStatus
  rw [show contains portsStatusKey (.object members) = .ok false by rw [contains, absent]; rfl]
  cases truthy (.object members) with
  | true => rfl
  | false => rfl

theorem asPortsStatus_present {members : Members} {dpid status : Json}
    (present : truthy (.object members) = true) (dpId : members.get? dpIdKey = some dpid)
    (listed : members.get? portsStatusKey = some status) :
    asPortsStatus (.object members) = .ok (some (dpid, status)) := by
  unfold asPortsStatus
  rw [present,
    show contains portsStatusKey (.object members) = .ok true by rw [contains, listed]; rfl,
    show subscript (.object members) dpIdKey = .ok dpid by rw [subscript, dpId],
    show subscript (.object members) portsStatusKey = .ok status by rw [subscript, listed]]
  rfl

theorem eventsOf_kind {event : Json} {events : List Json} (sound : event.Sound)
    (yields : eventsOf event = some events) : Kind event events := by
  cases event with
  | object members =>
      rw [eventsOf] at yields
      split at yields
      · cases yields
      · rename_i proper
        obtain ⟨nonempty, undebounced⟩ := not_or.mp proper
        have present : truthy (.object members) = true := decide_eq_true nonempty
        split at yields
        · rename_i changed
          split at yields
          · rename_i state read
            obtain ⟨⟨known, numbered⟩, same⟩ := Option.ite_none_right_eq_some.mp yields
            cases same
            exact .portChange state (Bool.eq_false_iff.mpr undebounced) changed read known numbered
          · cases yields
        · rename_i unchanged
          have absent : members.get? portChangeKey = none := by
            simpa using unchanged
          have unasked : isPortChange (.object members) = false := by
            simp [isPortChange, absent]
          have stateless := asPortState_absent absent
          split at yields
          · rename_i unlisted
            cases yields
            exact .other unasked present stateless (asPortsStatus_absent unlisted)
          · rename_i ports listed
            obtain ⟨dpid, dpId, yields⟩ := Option.bind_eq_some_iff.mp yields
            obtain ⟨known, yields⟩ := Option.ite_none_right_eq_some.mp yields
            obtain ⟨states, all, rfl⟩ := Option.map_eq_some_iff.mp yields
            exact .portsStatus dpid ports states unasked stateless
              (asPortsStatus_present present dpId listed) known (get?_sound sound.1 dpId)
              (get?_sound sound.1 listed).1 all
          · cases yields
  | _ => cases yields

/-- Where nothing is debounced, an event goes right into the queue. -/
theorem debouncePortEvent_run {client : Client} (immediate : client.portDebounceSec = 0)
    (state : PortState) :
    (debouncePortEvent state).run client = (.ok (), { client with
      heard := client.heard ++ [state]
      debouncedQ := client.debouncedQ ++ [state.event]
      handled := client.handled ++
        [⟨state, client.heard.length, (client.heard ++ [state]).length⟩] }) := by
  unfold debouncePortEvent
  simp only [read_bind_run, modify_bind_run, get_bind_run, immediate, if_true]
  rfl

theorem filterFaucetEvent_taken {client : Client} {event : Json} {events : List Json}
    (immediate : client.portDebounceSec = 0) (kind : Kind event events) :
    ∃ result after, (filterFaucetEvent event).run client = (.ok result, after) ∧
      Taken client events (2 * events.length + if isPortChange event then 0 else 1)
        result after := by
  unfold filterFaucetEvent
  cases kind with
  | portChange state undebounced changed read known numbered =>
      have kept : (some state).filter (fun state =>
          decide (truthy state.dpid = true ∧ state.port ≠ 0)) = some state :=
        Option.filter_some_pos (decide_eq_true ⟨known, numbered⟩)
      rw [read, bind_run_ok (ofExcept_run _ _), kept]
      dsimp only [filterPortState]
      rw [if_pos undebounced, bind_run_ok (debouncePortEvent_run immediate state), changed]
      refine ⟨none, _, rfl, ⟨rfl, rfl, rfl, ?_, ?_, ?_⟩⟩
      · intro served wrong
        cases wrong
      · intro _
        exact ⟨[state.event], rfl, fun _ => rfl, fun _ sound => sound⟩
      · simp only [List.length_append, List.length_singleton, if_true]
        omega
  | portsStatus dpid ports states unasked stateless listed known identified sound all =>
      have kept : (some (dpid, Json.object ports)).filter (fun found => truthy found.1) =
          some (dpid, .object ports) := Option.filter_some_pos known
      rw [stateless, bind_run_ok (ofExcept_run _ _), Option.filter_none]
      dsimp only
      rw [listed, bind_run_ok (ofExcept_run _ _), kept]
      dsimp only [portsOf]
      rw [bind_run_ok (ofExcept_run _ _), bind_run_ok (replacePorts_run dpid ports.toList client)]
      have entries : ∀ entry ∈ ports.toList.reverse, entry.1.Joined ∧ entry.2.Sound :=
        fun entry inside => toList_sound sound (List.mem_reverse.mp inside)
      have yields := pushedText_yields known identified entries all
      refine ⟨none, _, rfl, ⟨rfl, rfl, rfl, ?_, ?_, ?_⟩⟩
      · intro served wrong
        cases wrong
      · intro _
        refine ⟨[], (List.append_nil _).symm, fun future => ?_, fun future wellFormed => ?_⟩
        · rw [List.nil_append, List.append_assoc]
          exact (yields _).1
        · rw [List.append_assoc]
          exact (yields _).2.mpr wellFormed
      · rw [weight_pushedText known identified entries all, unasked, List.length_map]
        simp
  | other unasked present stateless unlisted =>
      rw [stateless, bind_run_ok (ofExcept_run _ _), Option.filter_none]
      dsimp only
      rw [unlisted, bind_run_ok (ofExcept_run _ _), Option.filter_none, unasked]
      refine ⟨some event, client, rfl, ⟨rfl, rfl, rfl, ?_, ?_, ?_⟩⟩
      · intro served same
        cases same
        exact ⟨present, rfl, rfl, rfl⟩
      · intro wrong
        cases wrong
      · simp only [List.length_singleton, Bool.false_eq_true, if_false]
        omega

theorem takeLine_taken {client : Client} {line rest : List Char} {events : List Json}
    (immediate : client.portDebounceSec = 0) (whole : '\n' ∉ line)
    (text : client.buffer = line ++ '\n' :: rest) (yields : lineEvents line = some events)
    (bound : Bool) :
    ∃ result after, (takeLine bound).run client = (.ok result, after) ∧
      Taken { client with buffer := rest } events (lineWeight line) result after := by
  obtain ⟨event, parsed, listed⟩ := Option.bind_eq_some_iff.mp yields
  obtain ⟨result, after, ran, taken⟩ :=
    @filterFaucetEvent_taken { client with buffer := rest } _ _ immediate
      (eventsOf_kind (Json.loads_sound parsed) listed)
  refine ⟨result, after, ?_, ?_⟩
  · unfold takeLine
    rw [read_bind_run, text, splitLine_line whole]
    dsimp only
    rw [modify_bind_run, parsed]
    exact ran
  · rw [lineWeight, yields, parsed]
    exact taken

/-! Runs. -/

/-- What comes in is ASCII and the connection is not closed. -/
def Ascii : Move → Prop
  | .advance (.received chunk) => chunk ≠ [] ∧ ∀ byte ∈ chunk, byte < 128
  | _ => True

/-- What was returned, what is queued and what the buffer is to yield are
together what was received is to yield, whatever comes next. -/
structure Flow (reader : Reader) : Prop where
  immediate : reader.client.portDebounceSec = 0
  pending : reader.client.pending = []
  lines : ∀ future, WellFormed (reader.client.incoming ++ future) →
    WellFormed (reader.client.buffer ++ future)
  events : ∀ future, reader.returned ++ (reader.client.debouncedQ ++
    due (reader.client.buffer ++ future)) = due (reader.client.incoming ++ future)
  served : reader.position = .await ∨ reader.position = .take → reader.client.debouncedQ = []
  ready : reader.position = .take ∨ reader.position = .serve ∧ reader.client.debouncedQ = [] →
    '\n' ∈ reader.client.buffer
  unfailed : ∀ raised, Outcome.failure raised ∉ reader.outcomes

theorem flow_connected : Flow (.connected 0) where
  immediate := rfl
  pending := rfl
  lines := fun _ wellFormed => wellFormed
  events := fun _ => rfl
  served := fun _ => rfl
  ready := by
    intro placed
    rcases placed with wrong | ⟨wrong, _⟩
    · cases wrong
    · cases wrong
  unfailed := fun _ => List.not_mem_nil

namespace Flow

variable {reader : Reader}

theorem unfailed_append (flow : Flow reader) {outcome : Outcome}
    (fine : ∀ raised, outcome ≠ .failure raised) (raised : Raised) :
    Outcome.failure raised ∉ reader.outcomes ++ [outcome] := by
  intro inside
  rcases List.mem_append.mp inside with earlier | last
  · exact flow.unfailed raised earlier
  · exact fine raised (List.mem_singleton.mp last).symm

theorem check (flow : Flow reader) (placed : reader.position = .check) (poll : Poll) :
    Flow (reader.advance poll) := by
  unfold Reader.advance
  rw [placed]
  dsimp only
  split
  · rename_i empty
    exact { flow with
      served := fun _ => empty
      ready := by rintro (wrong | ⟨wrong, _⟩) <;> cases wrong }
  · rename_i occupied
    exact { flow with
      served := by rintro (wrong | wrong) <;> cases wrong
      ready := by
        rintro (wrong | ⟨_, wrong⟩)
        · cases wrong
        · exact absurd wrong occupied }

theorem await (flow : Flow reader) (placed : reader.position = .await)
    (complete : '\n' ∈ reader.client.buffer) (poll : Poll) :
    Flow (reader.advance poll) := by
  unfold Reader.advance
  rw [placed]
  dsimp only
  rw [if_pos complete]
  exact { flow with
    served := by rintro (wrong | wrong) <;> cases wrong
    ready := fun _ => complete }

theorem finish_nothing (flow : Flow reader) : Flow (reader.finish .nothing) := by
  exact { flow with
    events := by rw [returned_finish_nothing]; exact flow.events
    served := by rintro (wrong | wrong) <;> cases wrong
    ready := by rintro (wrong | ⟨wrong, _⟩) <;> cases wrong
    unfailed := flow.unfailed_append fun _ wrong => by cases wrong }

theorem receive (flow : Flow reader) (placed : reader.position = .await)
    (data : List Char) :
    Flow { reader with client := { reader.client with
      buffer := reader.client.buffer ++ data
      incoming := reader.client.incoming ++ data } } := by
  exact { flow with
    lines := by
      intro future wellFormed
      rw [List.append_assoc] at wellFormed ⊢
      exact flow.lines _ wellFormed
    events := by
      intro future
      rw [List.append_assoc, List.append_assoc]
      exact flow.events _
    ready := by
      rintro (wrong | ⟨wrong, _⟩)
      · exact absurd (placed.symm.trans wrong) (by decide)
      · exact absurd (placed.symm.trans wrong) (by decide) }

theorem serve (flow : Flow reader) (placed : reader.position = .serve) (poll : Poll) :
    Flow (reader.advance poll) := by
  unfold Reader.advance
  rw [placed]
  dsimp only
  cases queue : reader.client.debouncedQ with
  | nil =>
      exact { flow with
        served := fun _ => queue
        ready := fun _ => flow.ready (.inr ⟨placed, queue⟩) }
  | cons event rest =>
      exact { flow with
        events := by
          intro future
          rw [returned_finish_event, List.append_assoc, List.singleton_append]
          have before := flow.events future
          rw [queue] at before
          exact before
        served := by rintro (wrong | wrong) <;> cases wrong
        ready := by rintro (wrong | ⟨wrong, _⟩) <;> cases wrong
        unfailed := flow.unfailed_append fun _ wrong => by cases wrong }

/-- Taking a line keeps the flow and has less work left. -/
theorem take (flow : Flow reader) (placed : reader.position = .take)
    (wellFormed : WellFormed reader.client.incoming) :
    Flow reader.take ∧ reader.take.client.incoming = reader.client.incoming ∧
      reader.take.position = .check ∧
      weight reader.take.client.buffer + reader.take.client.debouncedQ.length <
        weight reader.client.buffer + reader.client.debouncedQ.length := by
  obtain ⟨line, rest, text, whole⟩ := List.eq_append_cons_of_mem (flow.ready (.inl placed))
  have proper : ∀ future, WellFormed (reader.client.incoming ++ future) →
      (lineEvents line).isSome = true ∧ WellFormed (rest ++ future) := by
    intro future sound
    have lines := flow.lines future sound
    rw [text, List.append_assoc, List.cons_append] at lines
    exact (wellFormed_line whole).mp lines
  obtain ⟨events, yields⟩ := Option.isSome_iff_exists.mp
    (proper [] (by rw [List.append_nil]; exact wellFormed)).1
  obtain ⟨result, after, ran, taken⟩ := takeLine_taken flow.immediate whole text yields reader.bound
  have empty := flow.served (.inr placed)
  have owed : ∀ future, reader.returned ++ (events ++ due (rest ++ future)) =
      due (reader.client.incoming ++ future) := by
    intro future
    rw [← flow.events future, empty, text, List.append_assoc, List.cons_append,
      due_line whole yields, List.nil_append]
  have lighter : weight after.buffer + after.debouncedQ.length <
      weight reader.client.buffer + reader.client.debouncedQ.length := by
    rw [text, weight_line whole]
    exact taken.lighter
  unfold Reader.take
  rw [ran]
  cases result with
  | none =>
      obtain ⟨added, queue, due, lines⟩ := taken.queued rfl
      refine ⟨{
        immediate := taken.debounce.trans flow.immediate
        pending := taken.pending.trans flow.pending
        lines := fun future sound => ?_
        events := fun future => ?_
        served := by rintro (wrong | wrong) <;> cases wrong
        ready := by rintro (wrong | ⟨wrong, _⟩) <;> cases wrong
        unfailed := flow.unfailed }, taken.incoming, rfl, lighter⟩
      · dsimp only at sound ⊢
        rw [taken.incoming] at sound
        exact lines future (proper future sound).2
      · dsimp only
        rw [taken.incoming, queue]
        dsimp only
        rw [empty, List.nil_append, due future]
        exact owed future
  | some event =>
      obtain ⟨present, single, queue, buffer⟩ := taken.served event rfl
      dsimp only
      rw [if_pos present]
      refine ⟨{
        immediate := taken.debounce.trans flow.immediate
        pending := taken.pending.trans flow.pending
        lines := fun future sound => ?_
        events := fun future => ?_
        served := by rintro (wrong | wrong) <;> cases wrong
        ready := by rintro (wrong | ⟨wrong, _⟩) <;> cases wrong
        unfailed := flow.unfailed_append fun _ wrong => by cases wrong },
        taken.incoming, rfl, lighter⟩
      · dsimp only [Reader.finish] at sound ⊢
        rw [taken.incoming] at sound
        rw [buffer]
        exact (proper future sound).2
      · rw [returned_finish_event]
        dsimp only [Reader.finish]
        rw [taken.incoming, queue, buffer]
        dsimp only
        rw [empty, List.nil_append, ← owed future, single, List.append_assoc]
        rfl

theorem expire (flow : Flow reader) (timer : Nat) : Flow (reader.expire timer) := by
  unfold Reader.expire
  rw [flow.pending]
  exact flow

end Flow

theorem decode_ascii {chunk : Bytes} (ascii : ∀ byte ∈ chunk, byte < 128) :
    decode chunk = some (chunk.map fun byte => Char.ofNat byte.toNat) :=
  if_pos (List.all_eq_true.mpr fun byte inside => decide_eq_true (ascii byte inside))

theorem flow_receive {reader : Reader} (placed : reader.position = .await) {poll : Poll}
    (ascii : Ascii (.advance poll))
    (flow : WellFormed reader.client.incoming → Flow reader) :
    WellFormed (reader.receive poll).client.incoming → Flow (reader.receive poll) := by
  cases poll with
  | silent => exact fun wellFormed => (flow wellFormed).finish_nothing
  | received chunk =>
      rw [Reader.receive, decode_ascii ascii.2]
      cases chunk with
      | nil => exact absurd rfl ascii.1
      | cons byte chunk =>
          intro wellFormed
          exact (flow wellFormed.of_append).receive placed _

theorem flow_step {reader : Reader} {move : Move} (ascii : Ascii move)
    (flow : WellFormed reader.client.incoming → Flow reader) :
    WellFormed (move.step reader).client.incoming → Flow (move.step reader) := by
  cases move with
  | expire timer =>
      intro wellFormed
      dsimp only [Move.step] at wellFormed ⊢
      refine (flow ?_).expire timer
      unfold Reader.expire at wellFormed
      split at wellFormed
      · exact wellFormed
      · exact wellFormed
  | advance poll =>
      dsimp only [Move.step]
      cases placed : reader.position with
      | check =>
          intro wellFormed
          refine (flow ?_).check placed poll
          unfold Reader.advance at wellFormed
          rw [placed] at wellFormed
          exact wellFormed
      | await =>
          by_cases complete : '\n' ∈ reader.client.buffer
          · intro wellFormed
            refine (flow ?_).await placed complete poll
            unfold Reader.advance at wellFormed
            rw [placed] at wellFormed
            dsimp only at wellFormed
            rw [if_pos complete] at wellFormed
            exact wellFormed
          · unfold Reader.advance
            rw [placed]
            dsimp only
            rw [if_neg complete]
            exact flow_receive placed ascii flow
      | serve =>
          intro wellFormed
          refine (flow ?_).serve placed poll
          unfold Reader.advance at wellFormed
          rw [placed] at wellFormed
          dsimp only at wellFormed
          split at wellFormed
          · exact wellFormed
          · exact wellFormed
      | take =>
          unfold Reader.advance
          rw [placed]
          intro wellFormed
          have before : WellFormed reader.client.incoming := take_incoming reader ▸ wellFormed
          exact ((flow before).take placed before).1

theorem flow_reached {reader : Reader}
    (reached : Reaches Move.step (fun _ move => Ascii move) (.connected 0) reader) :
    WellFormed reader.client.incoming → Flow reader := by
  induction reached with
  | start => exact fun _ => flow_connected
  | step move _ ascii flow => exact flow_step ascii flow

/-! Calls that find no more data return what there is to return. -/

def rank : Position → Nat
  | .check => 3
  | .await => 2
  | .serve => 1
  | .take => 0

def work (reader : Reader) : Nat :=
  4 * (weight reader.client.buffer + reader.client.debouncedQ.length) + rank reader.position

theorem advance_works {reader : Reader} (flow : Flow reader)
    (wellFormed : WellFormed reader.client.incoming)
    (busy : reader.position = .await → '\n' ∈ reader.client.buffer) :
    (reader.advance .silent).client.incoming = reader.client.incoming ∧
      Flow (reader.advance .silent) ∧ work (reader.advance .silent) < work reader := by
  cases placed : reader.position with
  | check =>
      refine ⟨?_, flow.check placed _, ?_⟩
      · unfold Reader.advance
        rw [placed]
      · unfold Reader.advance work
        rw [placed]
        dsimp only
        split
        · exact Nat.add_lt_add_left (by decide) _
        · exact Nat.add_lt_add_left (by decide) _
  | await =>
      have complete := busy placed
      refine ⟨?_, flow.await placed complete _, ?_⟩
      · unfold Reader.advance
        rw [placed]
        dsimp only
        rw [if_pos complete]
      · unfold Reader.advance work
        rw [placed]
        dsimp only
        rw [if_pos complete]
        exact Nat.add_lt_add_left (show rank .serve < rank .await by decide) _
  | serve =>
      refine ⟨?_, flow.serve placed _, ?_⟩
      · unfold Reader.advance
        rw [placed]
        dsimp only
        split
        · rfl
        · rfl
      · unfold Reader.advance work
        rw [placed]
        dsimp only
        cases queue : reader.client.debouncedQ with
        | nil =>
            dsimp only
            rw [queue]
            exact Nat.add_lt_add_left (by decide) _
        | cons event rest =>
            simp only [Reader.finish, rank, List.length_cons]
            omega
  | take =>
      obtain ⟨after, incoming, position, lighter⟩ := flow.take placed wellFormed
      have step : reader.advance .silent = reader.take := by
        unfold Reader.advance
        rw [placed]
      rw [step]
      refine ⟨incoming, after, ?_⟩
      unfold work
      rw [position, placed, rank, rank]
      omega

theorem drained (reader : Reader) (flow : Flow reader)
    (wellFormed : WellFormed reader.client.incoming) :
    ∃ steps, ((Reader.advance .silent)^[steps] reader).returned = due reader.client.incoming := by
  by_cases busy : reader.position = .await → '\n' ∈ reader.client.buffer
  · obtain ⟨incoming, after, less⟩ := advance_works flow wellFormed busy
    obtain ⟨steps, returned⟩ := drained (reader.advance .silent) after (incoming ▸ wellFormed)
    exact ⟨steps + 1, returned.trans (congrArg due incoming)⟩
  · obtain ⟨placed, incomplete⟩ := Classical.not_imp.mp busy
    have all := flow.events []
    rw [List.append_nil, List.append_nil, flow.served (.inl placed), due_partial incomplete,
      List.nil_append, List.append_nil] at all
    exact ⟨0, all⟩
termination_by work reader

/-- Whatever the pieces are in which lines come in, and whenever `next_event` is
called: the events it has returned are the first of those that the complete
lines are to yield, in their order; no call fails; and calls that find no more
data return all of them. -/
theorem returned_of_lines {reader : Reader}
    (reached : Reaches Move.step (fun _ move => Ascii move) (.connected 0) reader)
    (wellFormed : WellFormed reader.client.incoming) :
    reader.returned <+: due reader.client.incoming ∧
      (∀ raised, Outcome.failure raised ∉ reader.outcomes) ∧
      ∃ steps, ((Reader.advance .silent)^[steps] reader).returned =
        due reader.client.incoming := by
  have flow := flow_reached reached wellFormed
  refine ⟨?_, flow.unfailed, drained reader flow wellFormed⟩
  have all := flow.events []
  rw [List.append_nil, List.append_nil] at all
  exact ⟨_, all⟩

namespace Sample

/-- The start of `{"dp_id":1,"PORTS_STATUS":{"2":true,"3":false}}`. -/
def chunk : Bytes :=
  [123, 34, 100, 112, 95, 105, 100, 34, 58, 49, 44, 34, 80, 79, 82, 84, 83, 95, 83, 84]

/-- The rest of it, and the start of another line. -/
def nextChunk : Bytes :=
  [65, 84, 85, 83, 34, 58, 123, 34, 50, 34, 58, 116, 114, 117, 101, 44, 34, 51, 34, 58, 102, 97,
    108, 115, 101, 125, 125, 10, 123, 34, 97, 34]

def polled : Reader :=
  Move.step (.advance (.received nextChunk)) (Move.step (.advance (.received chunk))
    (Move.step (.advance .silent) (.connected 0)))

theorem polled_reached :
    Reaches Move.step (fun _ move => Ascii move) (.connected 0) polled :=
  .step _ (.step _ (.step _ .start trivial) ⟨List.cons_ne_nil _ _, by decide +kernel⟩)
    ⟨List.cons_ne_nil _ _, by decide +kernel⟩

theorem polled_returned :
    due polled.client.incoming =
        [PortState.event ⟨.int 1, 3, .bool false⟩, PortState.event ⟨.int 1, 2, .bool true⟩] ∧
      polled.returned <+: due polled.client.incoming ∧
      (∀ raised, Outcome.failure raised ∉ polled.outcomes) ∧
      ∃ steps, ((Reader.advance .silent)^[steps] polled).returned =
        due polled.client.incoming :=
  ⟨by decide +kernel, returned_of_lines polled_reached (by unfold WellFormed; decide +kernel)⟩

end Sample

end Daq.Faucet
