import Daq.Session.Delivery

namespace Daq.Session

/-! The first messages of a session.  A client can be sent other items as soon
as it is registered, before it is greeted. -/

/-- The session is not greeted completely. -/
def Stage.greeting : Stage → Bool
  | .unlock | .findEndpoint | .putEndpoint _ | .checkStarted | .findStarted | .putStarted _ => true
  | _ => false

/-- The session into whose queue another thread is about to put an item. -/
def recipient (server : Server) : Command → Option Nat
  | .proceed task _ _ =>
      match server.tasks task with
      | .put _ client _ _ => some client
      | _ => none
  | _ => none

/-- No other thread puts an item into the queue of a session that is still being
greeted. -/
def Patient (server : Server) (command : Command) : Prop :=
  ∀ client ∈ recipient server command, (server.calls client).stage.greeting = false

instance (server : Server) (command : Command) : Decidable (Patient server command) :=
  inferInstanceAs (Decidable (∀ client ∈ recipient server command, _))

/-- What was queued for a session, as far as it was greeted. -/
def Greeted (stage : Stage) (items : List SessionItem) : Prop :=
  match stage with
  | .idle | .lock | .check | .refuse | .insert | .refused => items = []
  | .unlock | .findEndpoint | .putEndpoint _ => items = []
  | .checkStarted | .findStarted | .putStarted _ => items = [.endpoint]
  | _ => [.endpoint, .result .started] <+: items

def items (server : Server) (call : Nat) : List SessionItem :=
  (server.objects call).log.map Queued.item

theorem greeted_append {stage : Stage} {items : List SessionItem} (greeted : Greeted stage items)
    (enrolled : stage.enrolled = true) (done : stage.greeting = false) (item : SessionItem) :
    Greeted stage (items ++ [item]) := by
  cases stage <;> first
    | exact List.IsPrefix.trans greeted (List.prefix_append _ _)
    | (cases done; done)
    | cases enrolled

theorem put_items (server : Server) (client : Nat) (mac : Mac) (item : SessionItem) :
    items (server.put client mac item) client = items server client ++ [item] := by
  unfold items Server.put
  dsimp only
  rw [Function.update_self, List.map_append]
  rfl

theorem put_items_other (server : Server) {client other : Nat} (apart : other ≠ client) (mac : Mac)
    (item : SessionItem) : items (server.put client mac item) other = items server other := by
  unfold items Server.put
  dsimp only
  rw [Function.update_of_ne apart]

theorem goto_greeted (server : Server) (call : Nat) (next : Stage)
    (greeted : ∀ call, Greeted (server.calls call).stage (items server call))
    (now : Greeted next (items server call)) (other : Nat) :
    Greeted ((server.goto call next).calls other).stage (items (server.goto call next) other) := by
  by_cases same : other = call
  · subst same
    rw [goto_stage]
    exact now
  · rw [goto_other next same]
    exact greeted other

theorem put_greeted (server : Server) (call : Nat) (next : Stage) (mac : Mac) (item : SessionItem)
    (greeted : ∀ call, Greeted (server.calls call).stage (items server call))
    (now : Greeted next (items server call ++ [item])) (other : Nat) :
    Greeted (((server.put call mac item).goto call next).calls other).stage
      (items ((server.put call mac item).goto call next) other) := by
  by_cases same : other = call
  · subst same
    rw [goto_stage]
    exact (put_items server other mac item).symm ▸ now
  · rw [goto_other next same]
    exact (put_items_other server same mac item).symm ▸ greeted other

theorem update_items (server : Server) {call : Nat} {object : SessionClient}
    (same : object.log = (server.objects call).log) (other : Nat) :
    items { server with objects := Function.update server.objects call object } other =
      items server other := by
  unfold items
  dsimp only
  by_cases equal : other = call
  · subst equal
    rw [Function.update_self, same]
  · rw [Function.update_of_ne equal]

theorem register_greeted {server : Server} (call : Nat) (now : Int)
    (greeted : ∀ call, Greeted (server.calls call).stage (items server call)) (other : Nat) :
    Greeted (((server.register call now).goto call .unlock).calls other).stage
      (items ((server.register call now).goto call .unlock) other) := by
  by_cases same : other = call
  · subst same
    rw [goto_stage]
    have empty : items (server.register other now) other = [] := by
      unfold items Server.register
      dsimp only
      rw [Function.update_self]
      rfl
    exact empty
  · rw [goto_other _ same]
    have kept : items (server.register call now) other = items server other := by
      unfold items Server.register
      dsimp only
      rw [Function.update_of_ne same]
    exact kept.symm ▸ greeted other

theorem update_greeted {server : Server}
    (greeted : ∀ call, Greeted (server.calls call).stage (items server call)) {call : Nat}
    {object : SessionClient} (same : object.log = (server.objects call).log) (other : Nat) :
    Greeted (server.calls other).stage
      (items { server with objects := Function.update server.objects call object } other) := by
  rw [update_items server same]
  exact greeted other

theorem get_greeted {server : Server} {call : Nat} (at_ : (server.calls call).stage = .get call)
    (greeted : ∀ call, Greeted (server.calls call).stage (items server call)) (other : Nat) :
    Greeted ((server.get call call).calls other).stage (items (server.get call call) other) := by
  have mine := greeted call
  rw [at_] at mine
  unfold Server.get
  split
  · exact greeted other
  · rename_i item rest _
    have kept := @update_greeted server greeted call
      { server.objects call with returnQueue := rest } rfl
    refine goto_greeted _ call (.touch item) kept ?_ other
    have still := kept call
    rw [at_] at still
    exact still

theorem touch_greeted {server : Server} {call : Nat} {item : Queued} (now : Int)
    (at_ : (server.calls call).stage = .touch item)
    (own : server.clients.get? (server.calls call).request.deviceMac = some call)
    (greeted : ∀ call, Greeted (server.calls call).stage (items server call)) (other : Nat) :
    Greeted ((server.touch call item now).calls other).stage
      (items (server.touch call item now) other) := by
  have kept := @update_greeted server greeted call
    { server.objects call with lastStreamed := now } rfl
  have still := kept call
  rw [at_] at still
  unfold Server.touch
  rw [own]
  dsimp only
  split
  · exact goto_greeted _ call .reapLock kept still other
  · by_cases same : other = call
    · subst same
      dsimp only
      rw [Function.update_self]
      exact still
    · dsimp only
      rw [Function.update_of_ne same]
      exact kept other

theorem advance_greeted {server : Server} (sound : Sound server) (call : Nat) (now : Int)
    (greeted : ∀ call, Greeted (server.calls call).stage (items server call)) (other : Nat) :
    Greeted ((server.advance call now).calls other).stage
      (items (server.advance call now) other) := by
  have held := sound.held call
  have mine := greeted call
  unfold Server.advance
  dsimp only
  cases at_ : (server.calls call).stage <;> rw [at_] at mine <;>
    dsimp only [Server.acquire, Server.release, Server.lookup, Server.notifyEnd, Server.delete]
  case lock =>
      split
      · exact goto_greeted _ call .check greeted mine other
      · exact greeted other
  case check =>
      split
      · exact goto_greeted _ call .refuse greeted mine other
      · exact goto_greeted _ call .insert greeted mine other
  case refuse => exact goto_greeted _ call .refused greeted mine other
  case insert => exact register_greeted call now greeted other
  case unlock => exact goto_greeted _ call .findEndpoint greeted mine other
  case findEndpoint =>
      rw [held.own (by rw [at_]; rfl)]
      exact goto_greeted _ call (.putEndpoint call) greeted mine other
  case putEndpoint client =>
      cases held.finds client (by rw [at_]; rfl)
      refine put_greeted server call .checkStarted _ .endpoint greeted ?_ other
      rw [show items server call = [] from mine]
      rfl
  case checkStarted =>
      rw [held.own (by rw [at_]; rfl)]
      exact goto_greeted _ call .findStarted greeted mine other
  case findStarted =>
      rw [held.own (by rw [at_]; rfl)]
      exact goto_greeted _ call (.putStarted call) greeted mine other
  case putStarted client =>
      cases held.finds client (by rw [at_]; rfl)
      refine put_greeted server call .notify _ (.result .started) greeted ?_ other
      rw [show items server call = [.endpoint] from mine]
      exact List.prefix_rfl
  case notify => exact goto_greeted _ call .ready greeted mine other
  case ready => exact goto_greeted _ call .find greeted mine other
  case find =>
      rw [held.own (by rw [at_]; rfl)]
      exact goto_greeted _ call (.get call) greeted mine other
  case get client =>
      cases held.finds client (by rw [at_]; rfl)
      exact get_greeted at_ greeted other
  case touch item => exact touch_greeted now at_ (held.own (by rw [at_]; rfl)) greeted other
  case yielded => exact goto_greeted _ call .find greeted mine other
  case reapLock =>
      split
      · exact goto_greeted _ call .notifyEnd greeted mine other
      · exact greeted other
  case notifyEnd =>
      rw [held.own (by rw [at_]; rfl)]
      exact goto_greeted _ call .delete greeted mine other
  case delete =>
      rw [held.own (by rw [at_]; rfl)]
      exact goto_greeted _ call .reapUnlock greeted mine other
  case reapUnlock => exact goto_greeted _ call .finished greeted mine other
  all_goals exact greeted other

theorem abandon_greeted {server : Server} (call : Nat)
    (greeted : ∀ call, Greeted (server.calls call).stage (items server call)) (other : Nat) :
    Greeted ((server.abandon call).calls other).stage (items (server.abandon call) other) := by
  have mine := greeted call
  unfold Server.abandon
  cases at_ : (server.calls call).stage <;> rw [at_] at mine
  case ready => exact goto_greeted _ call .dropped greeted mine other
  case yielded => exact goto_greeted _ call .reapLock greeted mine other
  all_goals exact greeted other

theorem start_greeted {server : Server} (call : Nat) (request : Request)
    (greeted : ∀ call, Greeted (server.calls call).stage (items server call)) (other : Nat) :
    Greeted ((server.start call request).calls other).stage
      (items (server.start call request) other) := by
  unfold Server.start
  split
  · rename_i at_
    dsimp only
    by_cases same : other = call
    · subst same
      have mine := greeted other
      rw [at_] at mine
      rw [Function.update_self]
      exact mine
    · rw [Function.update_of_ne same]
      exact greeted other
  · exact greeted other

theorem ask_greeted {server : Server} (task : Nat) (what : Server.Ask)
    (greeted : ∀ call, Greeted (server.calls call).stage (items server call)) (other : Nat) :
    Greeted ((server.ask task what).calls other).stage (items (server.ask task what) other) := by
  unfold Server.ask
  split
  · cases what with
    | sendDeviceResult mac code => exact greeted other
    | closeStream mac => exact greeted other
    | sendDeviceHeartbeats => exact greeted other
  · exact greeted other

theorem proceed_greeted {server : Server} (sound : Sound server) (task : Nat) (key : Mac)
    (now : Int) (patient : Patient server (.proceed task key now))
    (greeted : ∀ call, Greeted (server.calls call).stage (items server call)) (other : Nat) :
    Greeted ((server.proceed task key now).calls other).stage
      (items (server.proceed task key now) other) := by
  unfold Server.proceed
  cases at_ : server.tasks task with
  | put mac client item loop =>
      have waits : recipient server (.proceed task key now) = some client := by
        dsimp only [recipient]
        rw [at_]
      obtain ⟨enrolled, _⟩ := sound.found task mac client item loop at_
      by_cases same : other = client
      · subst same
        have later := greeted_append (greeted other) enrolled (patient other waits) item
        exact (put_items server other mac item).symm ▸ later
      · exact (put_items_other server same mac item).symm ▸ greeted other
  | idle => exact greeted other
  | raised => exact greeted other
  | result mac code =>
      dsimp only
      split
      · exact greeted other
      · exact greeted other
  | send mac item loop =>
      dsimp only
      split
      · exact greeted other
      · exact greeted other
  | beats size =>
      dsimp only
      split
      · exact greeted other
      · split
        · exact greeted other
        · exact greeted other
  | beat mac size =>
      dsimp only
      split
      · exact greeted other
      · exact greeted other

theorem greeted_step {server : Server} (sound : Sound server) {command : Command}
    (patient : Patient server command)
    (greeted : ∀ call, Greeted (server.calls call).stage (items server call)) :
    ∀ call, Greeted ((command.step server).calls call).stage (items (command.step server) call) := by
  cases command with
  | start call request => exact start_greeted call request greeted
  | advance call now => exact advance_greeted sound call now greeted
  | abandon call => exact abandon_greeted call greeted
  | ask task what => exact ask_greeted task what greeted
  | proceed task key now => exact proceed_greeted sound task key now patient greeted

theorem greeted_reached {server : Server} (reached : Reaches Command.step Patient .started server) :
    ∀ call, Greeted (server.calls call).stage (items server call) := by
  induction reached with
  | start => exact fun _ => rfl
  | step command before patient greeted => exact greeted_step (sound_reached before) patient greeted

theorem Greeted.first {stage : Stage} {items : List SessionItem} (greeted : Greeted stage items) :
    items.take 2 <+: [.endpoint, .result .started] := by
  have complete : [.endpoint, .result .started] <+: items →
      items.take 2 <+: [.endpoint, .result .started] := by
    rintro ⟨rest, rfl⟩
    exact List.prefix_rfl
  cases stage <;> first
    | exact complete greeted
    | (rw [show items = [] from greeted]; exact List.nil_prefix)
    | (rw [show items = [.endpoint] from greeted]; exact ⟨_, rfl⟩)

/-- In every run in which no other thread queues an item for a session that is
being greeted, the first two messages that its client receives are the endpoint
and the result STARTED. -/
theorem greeting_received {server : Server}
    (reached : Reaches Command.step Patient .started server) (call : Nat) :
    ((server.calls call).received.map Queued.item).take 2 <+: [.endpoint, .result .started] := by
  have greeted := (greeted_reached reached call).first
  have received := ((sound_reached reached).received call).map Queued.item
  exact (received.take 2).trans greeted

namespace Sample

theorem read_greeted :
    (read.calls 0).received.length = 2 ∧
      ((read.calls 0).received.map Queued.item).take 2 <+: [.endpoint, .result .started] := by
  have permitted : Reaches.Permitted Command.step Patient .started commands := by decide +kernel
  exact ⟨by decide +kernel, greeting_received (Reaches.start.run permitted) 0⟩

/-- Heartbeats are sent right after the session is registered. -/
def hurried : Server :=
  runAll (.start 0 request :: List.replicate 3 (.advance 0 0) ++
    [.ask 0 .sendDeviceHeartbeats, .proceed 0 "m" 0, .proceed 0 "m" 0, .proceed 0 "m" 0,
      .proceed 0 "m" 0] ++ List.replicate 14 (.advance 0 0)) .started

theorem progress_received_first :
    ¬ ∀ server, Reaches Command.step (fun _ _ => True) .started server → ∀ call,
      ((server.calls call).received.map Queued.item).take 2 <+:
        [.endpoint, .result .started] := by
  intro always
  have first := always hurried (Reaches.foldl (fun _ _ => trivial) _) 0
  revert first
  decide +kernel

end Sample

end Daq.Session
