import Daq.Usi.Cisco9300
import Daq.Lib.History
import Daq.Lib.Reach
import Mathlib.Data.List.Nodup

namespace Daq.Usi

/-! Which requests get the answers to their own commands: those that install
their handler while nothing else is under way. -/

open History

/-- A handler that is about to be called, and the line whose answer it gets. -/
def Gather.due : Gather → List (Nat × Sent)
  | .delivering request answered _ => [(request, answered)]
  | _ => []

/-- What is said of the answer that is passed on, if there is one. -/
def Gather.readable (legible : Nat → Text → Bool) : Gather → Bool
  | .delivering request _ data => legible request data
  | _ => true

/-- The turns that a thread at this place has left to itself, with what it is
about to write. -/
def Gather.owed : Gather → Nat
  | .polling => 0
  | .delivering _ _ _ => 1
  | .newline => 3

/-- The line is the last command of the request itself. -/
def Final (requests : Nat → Request) (request : Nat) (answered : Sent) : Prop :=
  ∃ text, (requests request).commands.getLast? = some text ∧ answered = .command request text

namespace Controller

/-- What is due to be answered, or has been, once for each request. -/
def served (controller : Controller) : List (Nat × Sent) :=
  controller.calls.map (fun call => (call.request, call.answered)) ++ controller.gather.due

def Served (controller : Controller) (request : Nat) : Prop :=
  request ∈ controller.served.map Prod.fst

/-- Handlers are called at most once, and with the answer to the last command
that their request wrote; nothing is written between two commands of one
request. -/
structure OwnResponses (requests : Nat → Request) (controller : Controller) : Prop where
  own : ∀ call ∈ controller.calls, Final requests call.request call.answered
  once : (controller.calls.map Call.request).Nodup
  uninterrupted : ∀ before first middle last after request,
    controller.written = before ++ first :: (middle ++ last :: after) →
    first.sender = some request → last.sender = some request →
    ∀ sent ∈ middle, sent.sender = some request

/-- The answer that is due can be read. -/
def Readable (containsPrompt : Text → Bool) (requests : Nat → Request)
    (controller : Controller) : Prop :=
  controller.gather.readable (fun request data =>
    ((requests request).message containsPrompt data).isSome) = true

/-- No answer is due when a handler is installed; where an empty line is about
to be written then, there is only one command. -/
def Undisturbed (containsPrompt : Text → Bool) (requests : Nat → Request)
    (controller : Controller) : Move → Prop
  | .install request =>
      controller.unanswered = [] ∧
        (controller.gather = .newline → (requests request).commands.length = 1)
  | .deliver raises => raises = false ∧ controller.Readable containsPrompt requests
  | _ => True

instance (containsPrompt : Text → Bool) (requests : Nat → Request) (controller : Controller) :
    Decidable (controller.Readable containsPrompt requests) :=
  inferInstanceAs (Decidable (_ = true))

instance (containsPrompt : Text → Bool) (requests : Nat → Request) (controller : Controller)
    (move : Move) : Decidable (Undisturbed containsPrompt requests controller move) := by
  cases move <;> unfold Undisturbed <;> infer_instance

/-- A request waits for the answer to a command, after which there are only
empty lines to answer; none of these comes before its last command. -/
structure Busy (requests : Nat → Request) (controller : Controller) (request : Nat)
    (text : String) (blank : List Sent) : Prop where
  handler : controller.responseHandler = some request
  issued : controller.threads request = .issued
  unserved : ¬ controller.Served request
  commands : ∃ earlier,
    (requests request).commands = earlier ++ text :: controller.commands request
  unanswered : controller.unanswered = .command request text :: blank
  newlines : ∀ sent ∈ blank, sent = .newline
  alone : controller.commands request ≠ [] →
    blank = [] ∧ controller.gather ≠ .newline ∧
      controller.written.getLast? = some (.command request text)

structure Exclusive (requests : Nat → Request) (controller : Controller) : Prop where
  connected : controller.connected = true
  idle : controller.commandPending = false → ∀ sent ∈ controller.unanswered, sent = .newline
  busy : controller.commandPending = true →
    ∃ request text blank, Busy requests controller request text blank
  accounted : ∀ request, controller.threads request = .issued →
    (controller.commandPending = true ∧ controller.responseHandler = some request) ∨
      controller.Served request
  issued : ∀ request, controller.Served request → controller.threads request = .issued
  once : (controller.served.map Prod.fst).Nodup
  own : ∀ serving ∈ controller.served, Final requests serving.1 serving.2
  writers : ∀ sent ∈ controller.written, ∀ request, sent.sender = some request →
    controller.threads request = .issued
  grouped : Always (Follows Sent.sender) controller.written

variable {containsPrompt : Text → Bool} {requests : Nat → Request} {controller : Controller}

theorem exclusive_start : Exclusive requests {} where
  connected := rfl
  idle _ _ := fun inside => absurd inside List.not_mem_nil
  busy pending := Bool.noConfusion pending
  accounted _ issued := Thread.noConfusion issued
  issued _ served := absurd served List.not_mem_nil
  once := List.nodup_nil
  own _ inside := absurd inside List.not_mem_nil
  writers _ inside := absurd inside List.not_mem_nil
  grouped := always_nil

/-- Finding the flag down changes nothing but the thread's own place. -/
theorem Exclusive.observe (exclusive : Exclusive requests controller) {request : Nat}
    (waiting : controller.threads request = .waiting) :
    Exclusive requests
      { controller with threads := Function.update controller.threads request .observed } := by
  have same (other : Nat) :
      Function.update controller.threads request .observed other = .issued ↔
        controller.threads other = .issued := by
    by_cases equal : other = request
    · subst equal
      rw [Function.update_self, waiting]
      exact ⟨Thread.noConfusion, Thread.noConfusion⟩
    · rw [Function.update_of_ne equal]
  exact
    { connected := exclusive.connected
      idle := exclusive.idle
      busy := fun pending => by
        obtain ⟨owner, text, blank, busy⟩ := exclusive.busy pending
        exact ⟨owner, text, blank, busy.handler, (same owner).mpr busy.issued, busy.unserved,
          busy.commands, busy.unanswered, busy.newlines, busy.alone⟩
      accounted := fun other issued => exclusive.accounted other ((same other).mp issued)
      issued := fun other served => (same other).mpr (exclusive.issued other served)
      once := exclusive.once
      own := exclusive.own
      writers := fun sent inside other sender =>
        (same other).mpr (exclusive.writers sent inside other sender)
      grouped := exclusive.grouped }

/-- What the lock covers, given the first command and those that follow. -/
theorem issue_run {request : Nat} {threads : Nat → Thread} {text : String} {queue : List String}
    (commands : (requests request).commands = text :: queue) :
    issue request (requests request) { controller with threads } =
      { controller with
        commandPending := true
        responseHandler := some request
        commands := Function.update controller.commands request queue
        threads
        unanswered := controller.unanswered ++ [.command request text]
        written := controller.written ++ [.command request text] } := by
  have installed : issue request (requests request) = install request (requests request).commands := by
    unfold issue Request.commands
    cases (requests request).kind <;> rfl
  rw [installed, commands]
  rfl

/-- A handler that is installed while nothing is due has the next answer to
itself. -/
theorem Exclusive.install (exclusive : Exclusive requests controller) {request : Nat}
    (observed : controller.threads request = .observed)
    (quiet : controller.unanswered = [])
    (single : controller.gather = .newline → (requests request).commands.length = 1) :
    Exclusive requests (issue request (requests request)
      { controller with threads := Function.update controller.threads request .issued }) := by
  have fresh : ¬ controller.threads request = .issued := by
    rw [observed]
    exact Thread.noConfusion
  have unserved : ¬ controller.Served request := fun served =>
    fresh (exclusive.issued request served)
  have kept {other : Nat} (issued : controller.threads other = .issued) :
      Function.update controller.threads request .issued other = .issued := by
    by_cases equal : other = request
    · rw [equal, Function.update_self]
    · rwa [Function.update_of_ne equal]
  obtain ⟨text, queue, commands⟩ := List.exists_cons_of_ne_nil (requests request).commands_ne_nil
  have left : Function.update controller.commands request queue request = queue :=
    Function.update_self ..
  rw [issue_run commands]
  exact
    { connected := exclusive.connected
      idle := Bool.noConfusion
      busy := fun _ =>
        ⟨request, text, [],
          { handler := rfl
            issued := Function.update_self ..
            unserved := unserved
            commands := ⟨[], commands.trans (congrArg (text :: ·) left.symm)⟩
            unanswered := congrArg (· ++ [Sent.command request text]) quiet
            newlines := fun _ inside => absurd inside List.not_mem_nil
            alone := fun more => by
              refine ⟨rfl, fun blank => more ?_, List.getLast?_concat ..⟩
              have one := single blank
              rw [commands, List.length_cons, Nat.add_eq_right, List.length_eq_zero_iff] at one
              exact left.trans one }⟩
      accounted := fun other issued => by
        by_cases equal : other = request
        · subst equal
          exact .inl ⟨rfl, rfl⟩
        · have before : controller.threads other = .issued :=
            (Function.update_of_ne equal ..).symm.trans issued
          rcases exclusive.accounted other before with owner | served
          · obtain ⟨owner, text, blank, busy⟩ := exclusive.busy owner.1
            exact absurd (quiet.symm.trans busy.unanswered) (List.cons_ne_nil _ _).symm
          · exact .inr served
      issued := fun other served => kept (exclusive.issued other served)
      once := exclusive.once
      own := exclusive.own
      writers := fun sent inside other sender => by
        rcases List.mem_append.mp inside with old | new
        · exact kept (exclusive.writers sent old other sender)
        · cases List.mem_singleton.mp new
          cases sender
          exact Function.update_self ..
      grouped := by
        refine always_concat.mpr ⟨exclusive.grouped, fun group sender => .inl ?_⟩
        cases sender
        exact fun earlier inside same => fresh (exclusive.writers earlier inside _ same) }

theorem served_of_polling (polling : controller.gather = .polling) :
    controller.served = controller.calls.map fun call => (call.request, call.answered) := by
  unfold served
  rw [polling]
  exact List.append_nil _

/-- Nobody waits for the answer to an empty line. -/
theorem Exclusive.discard (exclusive : Exclusive requests controller)
    (down : controller.commandPending = false) {answered : Sent} {unanswered : List Sent}
    (due : controller.unanswered = answered :: unanswered) :
    Exclusive requests { controller with unanswered } :=
  { connected := exclusive.connected
    idle := fun _ sent inside =>
      exclusive.idle down sent (due ▸ List.mem_cons_of_mem _ inside)
    busy := fun pending => absurd (down.symm.trans pending) Bool.false_ne_true
    accounted := exclusive.accounted
    issued := exclusive.issued
    once := exclusive.once
    own := exclusive.own
    writers := exclusive.writers
    grouped := exclusive.grouped }

section Busy

variable {request : Nat} {text : String} {blank : List Sent}

/-- The answer to the last command goes to the request's handler. -/
theorem Exclusive.complete (exclusive : Exclusive requests controller)
    (busy : Busy requests controller request text blank)
    (polling : controller.gather = .polling) (last : controller.commands request = [])
    (data : Text) :
    Exclusive requests ({ controller with unanswered := blank }.complete request
      (.command request text) data) := by
  have before : controller.served = _ := served_of_polling polling
  have served : (({ controller with unanswered := blank }.complete request
      (.command request text) data)).served =
        controller.served ++ [(request, .command request text)] := by
    rw [before]
    rfl
  have final : Final requests request (.command request text) := by
    obtain ⟨earlier, commands⟩ := busy.commands
    refine ⟨text, ?_, rfl⟩
    rw [commands, last, List.getLast?_concat]
  exact
    { connected := exclusive.connected
      idle := fun _ => busy.newlines
      busy := Bool.noConfusion
      accounted := fun other issued => by
        unfold Served
        rw [served, List.map_append]
        rcases exclusive.accounted other issued with owner | done
        · cases busy.handler.symm.trans owner.2
          exact .inr (List.mem_append_right _ (List.mem_singleton_self _))
        · exact .inr (List.mem_append_left _ done)
      issued := fun other done => by
        unfold Served at done
        rw [served, List.map_append] at done
        rcases List.mem_append.mp done with old | new
        · exact exclusive.issued other old
        · cases List.mem_singleton.mp new
          exact busy.issued
      once := by
        rw [served, List.map_append]
        exact List.nodup_append_comm.mp (List.nodup_cons.mpr ⟨busy.unserved, exclusive.once⟩)
      own := fun serving inside => by
        rw [served] at inside
        rcases List.mem_append.mp inside with old | new
        · exact exclusive.own serving old
        · cases List.mem_singleton.mp new
          exact final
      writers := exclusive.writers
      grouped := exclusive.grouped }

/-- A sequence goes on with its next command, before anything else is
written. -/
theorem Exclusive.proceed (exclusive : Exclusive requests controller)
    (busy : Busy requests controller request text blank)
    {next : String} {queue : List String} (more : controller.commands request = next :: queue) :
    Exclusive requests ({ controller with unanswered := blank }.writeNext request
      (next :: queue)) := by
  obtain ⟨rfl, polling, written⟩ := busy.alone (by rw [more]; exact List.cons_ne_nil _ _)
  have left : Function.update controller.commands request queue request = queue :=
    Function.update_self ..
  exact
    { connected := exclusive.connected
      idle := fun down => absurd (exclusive.idle down _ (busy.unanswered ▸ List.mem_cons_self))
        Sent.noConfusion
      busy := fun _ =>
        ⟨request, next, [],
          { handler := busy.handler
            issued := busy.issued
            unserved := busy.unserved
            commands := by
              obtain ⟨earlier, commands⟩ := busy.commands
              refine ⟨earlier ++ [text], ?_⟩
              rw [commands, more, List.append_assoc]
              exact congrArg (fun queue => earlier ++ text :: next :: queue) left.symm
            unanswered := rfl
            newlines := fun _ inside => absurd inside List.not_mem_nil
            alone := fun _ => ⟨rfl, polling, List.getLast?_concat ..⟩ }⟩
      accounted := exclusive.accounted
      issued := exclusive.issued
      once := exclusive.once
      own := exclusive.own
      writers := fun sent inside other sender => by
        rcases List.mem_append.mp inside with old | new
        · exact exclusive.writers sent old other sender
        · cases List.mem_singleton.mp new
          cases sender
          exact busy.issued
      grouped := by
        refine always_concat.mpr ⟨exclusive.grouped, fun group sender => .inr ?_⟩
        rw [written]
        exact sender }

/-- The closure of the request in charge has its queue written out before it
completes. -/
theorem handle_run (busy : Busy requests controller request text blank) (data : Text)
    {other : Controller} (same : other.commands = controller.commands) :
    handle (requests request) request (.command request text) data other =
      if controller.commands request = [] then
        other.complete request (.command request text) data
      else other.writeNext request (controller.commands request) := by
  have single (one : (requests request).commands.length = 1) : controller.commands request = [] := by
    obtain ⟨earlier, commands⟩ := busy.commands
    rw [commands, List.length_append, List.length_cons] at one
    exact List.length_eq_zero_iff.mp (by omega)
  unfold Request.commands at single
  unfold handle
  cases kind : (requests request).kind <;> rw [kind] at single
  · rw [if_pos (single rfl)]
  · rw [if_pos (single rfl)]
  all_goals
    rw [same]
    cases controller.commands request with
    | nil => rfl
    | cons => rfl

end Busy

/-- What becomes of an answer: nothing is due, nobody waits for it, a sequence
goes on, or a request completes. -/
inductive Receives (requests : Nat → Request) (data : Text) (controller : Controller) :
    Controller → Prop
  | nothing (due : controller.unanswered = []) : Receives requests data controller controller
  | discard {answered : Sent} {unanswered : List Sent}
      (down : controller.commandPending = false)
      (due : controller.unanswered = answered :: unanswered) :
      Receives requests data controller { controller with unanswered }
  | proceed {request : Nat} {text : String} {blank : List Sent} {next : String}
      {queue : List String} (pending : controller.commandPending = true)
      (busy : Busy requests controller request text blank)
      (more : controller.commands request = next :: queue) :
      Receives requests data controller
        ({ controller with unanswered := blank }.writeNext request (next :: queue))
  | complete {request : Nat} {text : String} {blank : List Sent}
      (pending : controller.commandPending = true)
      (busy : Busy requests controller request text blank)
      (last : controller.commands request = []) :
      Receives requests data controller ({ controller with unanswered := blank }.complete request
        (.command request text) data)

theorem Exclusive.receives (exclusive : Exclusive requests controller) (data : Text) :
    Receives requests (trim data) controller (controller.receiveData requests data) := by
  unfold receiveData
  cases due : controller.unanswered with
  | nil => exact .nothing due
  | cons answered unanswered =>
      by_cases pending : controller.commandPending = true
      · obtain ⟨request, text, blank, busy⟩ := exclusive.busy pending
        obtain ⟨rfl, rfl⟩ := List.cons.inj (due.symm.trans busy.unanswered)
        have handled : parseData requests (.command request text) (trim data)
            { controller with unanswered } =
              handle (requests request) request (.command request text) (trim data)
                { controller with unanswered } := by
          unfold parseData
          rw [if_pos pending, busy.handler]
        refine (congrArg (Receives requests (trim data) controller)
          (handled.trans (handle_run busy _ rfl))).mpr ?_
        cases left : controller.commands request with
        | nil => exact .complete pending busy left
        | cons next queue => exact .proceed pending busy left
      · have down := eq_false_of_ne_true pending
        have ignored : parseData requests answered (trim data) { controller with unanswered } =
            { controller with unanswered } := if_neg pending
        exact (congrArg (Receives requests (trim data) controller) ignored).mpr (.discard down due)

theorem Exclusive.receive (exclusive : Exclusive requests controller)
    (polling : controller.gather = .polling) (data : Text) :
    Exclusive requests (controller.receiveData requests data) := by
  have received := exclusive.receives data
  generalize controller.receiveData requests data = after at received ⊢
  cases received with
  | nothing due => exact exclusive
  | discard down due => exact exclusive.discard down due
  | proceed pending busy more => exact exclusive.proceed busy more
  | complete pending busy last => exact exclusive.complete busy polling last _

/-- The handler is called, and the gather thread goes on. -/
theorem deliver_run {request : Nat} {answered : Sent} {data : Text}
    (delivering : controller.gather = .delivering request answered data)
    (readable : controller.Readable containsPrompt requests) :
    ∃ message, controller.deliver containsPrompt requests false =
      { controller with
        calls := controller.calls ++ [⟨request, answered, message⟩], gather := .polling } := by
  unfold Readable at readable
  unfold deliver
  rw [delivering] at readable ⊢
  obtain ⟨message, made⟩ := Option.isSome_iff_exists.mp readable
  refine ⟨message, ?_⟩
  dsimp only
  rw [made]
  rfl

/-- What was due before the call has been answered after it. -/
theorem served_deliver {request : Nat} {answered : Sent} {data : Text} {message : Message}
    (delivering : controller.gather = .delivering request answered data) :
    ({ controller with
        calls := controller.calls ++ [⟨request, answered, message⟩],
        gather := .polling } : Controller).served = controller.served := by
  unfold served
  rw [delivering, List.map_append]
  exact List.append_nil _

/-- The gather thread may do something else next, as long as what was due
stays so. -/
theorem Exclusive.turn (exclusive : Exclusive requests controller) {gather : Gather}
    {calls : List Call} (served : { controller with gather, calls }.served = controller.served)
    (blank : gather = .newline → controller.commandPending = false) :
    Exclusive requests { controller with gather, calls } := by
  have same (request : Nat) : { controller with gather, calls }.Served request ↔
      controller.Served request := by
    unfold Served
    rw [served]
  exact
    { connected := exclusive.connected
      idle := exclusive.idle
      busy := fun pending => by
        obtain ⟨request, text, idle, busy⟩ := exclusive.busy pending
        refine ⟨request, text, idle,
          { handler := busy.handler
            issued := busy.issued
            unserved := fun done => busy.unserved ((same request).mp done)
            commands := busy.commands
            unanswered := busy.unanswered
            newlines := busy.newlines
            alone := fun more => ?_ }⟩
        obtain ⟨none, _, written⟩ := busy.alone more
        exact ⟨none, fun newline => absurd ((blank newline).symm.trans pending)
          Bool.false_ne_true, written⟩
      accounted := fun request issued =>
        (exclusive.accounted request issued).imp_right (same request).mpr
      issued := fun request done => exclusive.issued request ((same request).mp done)
      once := by
        rw [served]
        exact exclusive.once
      own := fun serving inside => exclusive.own serving (served ▸ inside)
      writers := exclusive.writers
      grouped := exclusive.grouped }

theorem Exclusive.deliver (exclusive : Exclusive requests controller)
    (readable : controller.Readable containsPrompt requests) :
    Exclusive requests (controller.deliver containsPrompt requests false) := by
  cases gather : controller.gather with
  | delivering request answered data =>
      obtain ⟨message, delivered⟩ := deliver_run gather readable
      rw [delivered]
      exact exclusive.turn (served_deliver gather) Gather.noConfusion
  | polling | newline =>
      have nothing : controller.deliver containsPrompt requests false = controller := by
        unfold Controller.deliver
        rw [gather]
      exact nothing.symm ▸ exclusive

theorem Exclusive.notice (exclusive : Exclusive requests controller)
    (polling : controller.gather = .polling) (down : controller.commandPending = false) :
    Exclusive requests { controller with gather := .newline } := by
  refine exclusive.turn ?_ fun _ => down
  rw [served_of_polling polling]
  exact List.append_nil _

/-- The empty line follows whatever is due, and never a command that has more
to come. -/
theorem Exclusive.newline (exclusive : Exclusive requests controller)
    (newline : controller.gather = .newline) :
    Exclusive requests (writeData .newline { controller with gather := .polling }) := by
  have served : { controller with gather := .polling }.served = controller.served := by
    unfold Controller.served
    rw [newline]
    rfl
  have polling := exclusive.turn served Gather.noConfusion
  exact
    { connected := polling.connected
      idle := fun down sent inside => by
        rcases List.mem_append.mp inside with old | new
        · exact polling.idle down sent old
        · exact List.mem_singleton.mp new
      busy := fun pending => by
        obtain ⟨request, text, blank, busy⟩ := exclusive.busy pending
        refine ⟨request, text, blank ++ [Sent.newline],
          { handler := busy.handler
            issued := busy.issued
            unserved := fun done => busy.unserved (by
              unfold Served
              rw [← served]
              exact done)
            commands := busy.commands
            unanswered := congrArg (· ++ [Sent.newline]) busy.unanswered
            newlines := fun sent inside => ?_
            alone := fun more => absurd newline (busy.alone more).2.1 }⟩
        rcases List.mem_append.mp inside with old | new
        · exact busy.newlines sent old
        · exact List.mem_singleton.mp new
      accounted := polling.accounted
      issued := polling.issued
      once := polling.once
      own := polling.own
      writers := fun sent inside request sender => by
        rcases List.mem_append.mp inside with old | new
        · exact polling.writers sent old request sender
        · cases List.mem_singleton.mp new
          cases sender
      grouped := always_concat.mpr ⟨polling.grouped, fun group sender => by cases sender⟩ }

theorem Exclusive.step (exclusive : Exclusive requests controller) (move : Move)
    (undisturbed : Undisturbed containsPrompt requests controller move) :
    Exclusive requests (move.step containsPrompt requests controller) := by
  unfold Move.step
  cases move with
  | observe request =>
      dsimp only
      split_ifs with enabled
      · exact exclusive.observe enabled.1
      · exact exclusive
  | install request =>
      dsimp only
      split_ifs with enabled
      · exact exclusive.install enabled.1 undisturbed.1 undisturbed.2
      · exact exclusive
  | receive data =>
      dsimp only
      split_ifs with enabled
      · exact exclusive.receive enabled.1 data
      · exact exclusive
  | deliver raises =>
      cases undisturbed.1
      exact exclusive.deliver undisturbed.2
  | notice =>
      dsimp only
      split_ifs with enabled
      · exact exclusive.notice enabled.1 enabled.2.2
      · exact exclusive
  | newline =>
      dsimp only
      split_ifs with enabled
      · exact exclusive.newline enabled
      · exact exclusive

theorem exclusive_of_reaches (reached : Reaches (Move.step containsPrompt requests)
    (Undisturbed containsPrompt requests) {} controller) : Exclusive requests controller :=
  reached.invariant (Exclusive requests) exclusive_start
    fun _ move exclusive undisturbed => exclusive.step move undisturbed

theorem Exclusive.ownResponses (exclusive : Exclusive requests controller) :
    OwnResponses requests controller where
  own call inside :=
    exclusive.own (call.request, call.answered)
      (List.mem_append_left _ (List.mem_map_of_mem inside))
  once := by
    have once := exclusive.once
    unfold served at once
    rw [List.map_append, List.map_map] at once
    exact once.of_append_left
  uninterrupted before first middle last after request written starts ends :=
    Always.between (written ▸ exclusive.grouped) starts ends

section Progress

/-- The commands that the request in charge has yet to write. -/
def remaining (controller : Controller) : List String :=
  if controller.commandPending = true then
    (controller.responseHandler.map controller.commands).getD []
  else []

/-- More turns than the gather thread has before nothing is due. -/
def owed (controller : Controller) : Nat :=
  2 * controller.unanswered.length + 2 * controller.remaining.length + controller.gather.owed

/-- What the gather thread does next, given the next answer of the switch. -/
def gatherData (containsPrompt : Text → Bool) (requests : Nat → Request) (controller : Controller)
    (answer : Text) : Controller :=
  match controller.gather with
  | .polling => Move.step containsPrompt requests (.receive answer) controller
  | .newline => Move.step containsPrompt requests .newline controller
  | .delivering _ _ _ => Move.step containsPrompt requests (.deliver false) controller

/-- Whatever request it answers, the answer can be read. -/
def Legible (containsPrompt : Text → Bool) (requests : Nat → Request) (answer : Text) : Prop :=
  ∀ request, ((requests request).message containsPrompt (trim answer)).isSome = true

/-- Nothing that was due is left to the next turn but what `owed` counts. -/
structure Advances (containsPrompt : Text → Bool) (requests : Nat → Request)
    (before after : Controller) : Prop where
  exclusive : Exclusive requests after
  readable : after.Readable containsPrompt requests
  threads : after.threads = before.threads
  owed : after.owed ≤ before.owed - 1

theorem Exclusive.remaining_eq_nil (exclusive : Exclusive requests controller)
    (quiet : controller.unanswered = []) :
    controller.commandPending = false ∧ controller.remaining = [] := by
  have down : ¬ controller.commandPending = true := by
    intro pending
    obtain ⟨request, text, blank, busy⟩ := exclusive.busy pending
    exact absurd (quiet.symm.trans busy.unanswered) (List.cons_ne_nil _ _).symm
  exact ⟨eq_false_of_ne_true down, if_neg down⟩

theorem Exclusive.advances_receive (exclusive : Exclusive requests controller)
    (polling : controller.gather = .polling) {answer : Text}
    (legible : Legible containsPrompt requests answer) :
    Advances containsPrompt requests controller (controller.receiveData requests answer) := by
  have kept := exclusive.receive polling answer
  have received := exclusive.receives answer
  generalize controller.receiveData requests answer = after at received kept ⊢
  have idle : controller.Readable containsPrompt requests := by
    unfold Readable
    rw [polling]
    trivial
  cases received with
  | nothing due =>
      refine ⟨kept, idle, rfl, ?_⟩
      unfold owed
      rw [due, (exclusive.remaining_eq_nil due).2, polling]
      exact Nat.zero_le _
  | @discard answered unanswered down due =>
      refine ⟨kept, idle, rfl, ?_⟩
      have before : controller.unanswered.length = unanswered.length + 1 := congrArg List.length due
      change 2 * unanswered.length + 2 * controller.remaining.length + controller.gather.owed ≤
        2 * controller.unanswered.length + 2 * controller.remaining.length +
          controller.gather.owed - 1
      omega
  | @proceed request text blank next queue pending busy more =>
      refine ⟨kept, idle, rfl, ?_⟩
      have before : controller.remaining = next :: queue := by
        unfold remaining
        rw [if_pos pending, busy.handler, Option.map_some, Option.getD_some, more]
      have after : ({ controller with unanswered := blank }.writeNext request
          (next :: queue)).remaining = queue := by
        unfold remaining
        change (if controller.commandPending = true then
          (controller.responseHandler.map (Function.update controller.commands request queue)).getD []
          else []) = queue
        rw [if_pos pending, busy.handler, Option.map_some, Option.getD_some, Function.update_self]
      unfold owed
      rw [before, after, busy.unanswered]
      change 2 * (blank ++ [Sent.command request next]).length + 2 * queue.length +
        controller.gather.owed ≤ _
      rw [List.length_append, List.length_singleton, List.length_cons, List.length_cons]
      omega
  | @complete request text blank pending busy last =>
      refine ⟨kept, legible _, rfl, ?_⟩
      have before : controller.unanswered.length = blank.length + 1 :=
        congrArg List.length busy.unanswered
      change 2 * blank.length + 2 * 0 + 1 ≤
        2 * controller.unanswered.length + 2 * controller.remaining.length +
          controller.gather.owed - 1
      omega

theorem Exclusive.advances (exclusive : Exclusive requests controller)
    (readable : controller.Readable containsPrompt requests) {answer : Text}
    (legible : Legible containsPrompt requests answer) :
    Advances containsPrompt requests controller
      (controller.gatherData containsPrompt requests answer) := by
  unfold gatherData
  cases gather : controller.gather with
  | polling =>
      have received : Move.step containsPrompt requests (.receive answer) controller =
          controller.receiveData requests answer := if_pos ⟨gather, exclusive.connected⟩
      dsimp only
      rw [received]
      exact exclusive.advances_receive gather legible
  | newline =>
      have written : Move.step containsPrompt requests .newline controller =
          writeData .newline { controller with gather := .polling } := if_pos gather
      dsimp only
      rw [written]
      refine ⟨exclusive.newline gather, rfl, rfl, ?_⟩
      unfold owed
      change 2 * (controller.unanswered ++ [Sent.newline]).length +
        2 * controller.remaining.length + 0 ≤ _
      rw [gather, List.length_append, List.length_singleton]
      change _ ≤ 2 * controller.unanswered.length + 2 * controller.remaining.length + 3 - 1
      omega
  | delivering request answered data =>
      obtain ⟨message, delivered⟩ := deliver_run gather readable
      have kept := exclusive.deliver readable
      change Advances containsPrompt requests controller
        (controller.deliver containsPrompt requests false)
      rw [delivered] at kept ⊢
      refine ⟨kept, rfl, rfl, ?_⟩
      unfold owed
      rw [gather]
      exact Nat.le_refl _

theorem Exclusive.called_of_owed (exclusive : Exclusive requests controller)
    (nothing : controller.owed = 0) {request : Nat}
    (issued : controller.threads request = .issued) :
    request ∈ controller.calls.map Call.request := by
  unfold owed at nothing
  have quiet : controller.unanswered = [] := List.length_eq_zero_iff.mp (by omega)
  have polling : controller.gather = .polling := by
    cases gather : controller.gather with
    | polling => rfl
    | newline | delivering _ _ _ =>
        rw [gather] at nothing
        exact absurd (Nat.eq_zero_of_add_eq_zero_left nothing) (Nat.succ_ne_zero _)
  have down := (exclusive.remaining_eq_nil quiet).1
  rcases exclusive.accounted request issued with owner | done
  · exact absurd (down.symm.trans owner.1) Bool.false_ne_true
  · unfold Served at done
    rwa [served_of_polling polling, List.map_map] at done

/-- Each answer that the gather thread takes brings it further. -/
theorem Exclusive.gathers (exclusive : Exclusive requests controller)
    (readable : controller.Readable containsPrompt requests) {answers : List Text}
    (legible : ∀ answer ∈ answers, Legible containsPrompt requests answer) :
    let after := answers.foldl (gatherData containsPrompt requests) controller
    Exclusive requests after ∧ after.threads = controller.threads ∧
      after.owed ≤ controller.owed - answers.length := by
  induction answers generalizing controller with
  | nil => exact ⟨exclusive, rfl, Nat.le_refl _⟩
  | cons answer answers later =>
      have advances := exclusive.advances readable (legible answer List.mem_cons_self)
      have owed := advances.owed
      obtain ⟨kept, threads, left⟩ := later advances.exclusive advances.readable
        fun answer inside => legible answer (List.mem_cons_of_mem _ inside)
      refine ⟨kept, threads.trans advances.threads, Nat.le_trans left ?_⟩
      rw [List.length_cons]
      omega

end Progress

/-- Where every handler is installed with nothing due, handlers get the answer
to their own commands, at most once, and sequences are not interrupted; and
once the switch has answered all that it owes, every handler has been called. -/
theorem own_responses
    (reached : Reaches (Move.step containsPrompt requests) (Undisturbed containsPrompt requests)
      {} controller) :
    OwnResponses requests controller ∧
      ∀ answers : List Text, controller.Readable containsPrompt requests →
        (∀ answer ∈ answers, Legible containsPrompt requests answer) →
        controller.owed ≤ answers.length →
        let after := answers.foldl (gatherData containsPrompt requests) controller
        OwnResponses requests after ∧ ∀ request, controller.threads request = .issued →
          (after.calls.map Call.request).count request = 1 := by
  have exclusive := exclusive_of_reaches reached
  refine ⟨exclusive.ownResponses, fun answers readable legible enough => ?_⟩
  obtain ⟨kept, threads, owed⟩ := exclusive.gathers readable legible
  have own := kept.ownResponses
  refine ⟨own, fun request issued => List.count_eq_one_of_mem own.once ?_⟩
  refine kept.called_of_owed ?_ (threads ▸ issued)
  exact Nat.le_zero.mp (Nat.sub_eq_zero_of_le enough ▸ owed)

/-! A connect, and then the interface of another port while the empty line of
an idle connection is about to be written. -/

def prompted (line : Text) : Bool := contains line "daq".toList

def asked : Nat → Request
  | 0 => ⟨.connect, 1⟩
  | _ + 1 => ⟨.getInterface, 2⟩

def inTurn : List Move :=
  [.observe 0, .install 0,
    .receive "daq(config)#".toList, .receive "daq(config-if)#".toList,
    .receive "daq(config-if)#".toList, .receive "daq#".toList, .deliver false,
    .notice, .observe 1, .install 1, .newline]

def attended : Controller :=
  inTurn.foldl (fun controller move => move.step prompted asked controller) {}

def status : Text :=
  ("show interface gigabitethernet1/0/2 status\n\n\n" ++
    "Port      Name               Status       Vlan       Duplex  Speed Type\n" ++
    "Gi1/0/4                      connected    trunk      a-full  a-100 10/100/1000BaseTX\n" ++
    "daq#\n").toList

theorem attended_served :
    let after := [status, "daq#".toList, "daq#".toList, "daq#".toList].foldl
      (gatherData prompted asked) attended
    OwnResponses asked after ∧ ∀ request, attended.threads request = .issued →
      (after.calls.map Call.request).count request = 1 := by
  refine (own_responses (Reaches.run .start (by decide +kernel))).2 _ (by decide +kernel) ?_
    (by decide +kernel)
  intro answer inside request
  have both : ∀ answer ∈ [status, "daq#".toList, "daq#".toList, "daq#".toList],
      ((asked 0).message prompted (trim answer)).isSome = true ∧
        ((asked 1).message prompted (trim answer)).isSome = true := by
    decide +kernel
  cases request with
  | zero => exact (both answer inside).1
  | succ _ => exact (both answer inside).2

/-! Two requests that both find the flag down before either raises it. -/

def bothPower (request : Nat) : Request := ⟨.getPower, request + 1⟩

def together : List Move :=
  [.observe 0, .observe 1, .install 0, .install 1,
    .receive "power of the first port".toList, .deliver false]

/-- The second request is given the answer to the command of the first. -/
theorem together_crossed :
    ¬ ∀ (requests : Nat → Request) (controller : Controller),
      Reaches (Move.step prompted requests) (fun _ _ => True) {} controller →
      OwnResponses requests controller := by
  intro all
  have own := (all bothPower _ (Reaches.foldl (fun _ _ => trivial) together)).own
  have called :
      (together.foldl (fun controller move => Move.step prompted bothPower move controller)
        {}).calls =
        [⟨1, .command 0 (showIfacePowerStatusCommand 1),
          .power "power of the first port".toList⟩] := by
    decide +kernel
  rw [called] at own
  obtain ⟨text, _, crossed⟩ := own _ (List.mem_singleton_self _)
  cases crossed

end Controller

end Daq.Usi
