import Daq.Lib.Reach
import Daq.Session.Server

namespace Daq.Session

/-! What holds of every call while others come and go. -/

namespace Stage

/-- The call has made its client object. -/
def enrolled : Stage → Bool
  | .idle | .lock | .check | .refuse | .insert | .refused => false
  | _ => true

/-- The client object is in the dictionary. -/
def registered : Stage → Bool
  | .reapUnlock | .finished | .failed => false
  | stage => stage.enrolled

/-- The call holds the lock. -/
def critical : Stage → Bool
  | .check | .refuse | .insert | .unlock | .notifyEnd | .delete | .reapUnlock => true
  | _ => false

/-- `on_session_end` was called. -/
def told : Stage → Bool
  | .delete | .reapUnlock | .finished => true
  | _ => false

/-- The stream came to its end or was closed after an item. -/
def leaving : Stage → Bool
  | .reapLock | .notifyEnd | .delete | .reapUnlock | .finished | .failed => true
  | _ => false

/-- The client object that a lookup found. -/
def client : Stage → Option Nat
  | .putEndpoint client | .putStarted client | .get client => some client
  | _ => none

/-- The item that was taken from the queue and is not handed on yet. -/
def inHand : Stage → List Queued
  | .touch item => [item]
  | _ => []

/-- The lock apart, a call relies on the same in both stages. -/
def Alike (next before : Stage) : Prop :=
  next.registered = before.registered ∧ next.enrolled = before.enrolled ∧
    next.leaving = before.leaving ∧ next.told = before.told ∧ next.inHand = before.inHand

end Stage

/-- What a call relies on: its client object stays its own. -/
structure Held (call : Nat) (entry : Call) (object : SessionClient) (clients : Dict Mac Nat)
    (lock : Option Nat) (ended : List (Nat × Request)) : Prop where
  own : entry.stage.registered = true → clients.get? entry.request.deviceMac = some call
  free : entry.stage = .insert → clients.get? entry.request.deviceMac = none
  request : entry.stage.enrolled = true → object.initRequest = entry.request
  finds : ∀ client, entry.stage.client = some client → client = call
  blank : entry.stage.enrolled = false → object.log = [] ∧ entry.received = []
  streams : entry.stage.enrolled = true → entry.stage.leaving = false →
    object.log = entry.received ++ entry.stage.inHand ++ object.returnQueue
  leaves : entry.stage.leaving = true → entry.received <+: object.log
  unclosed : ∀ queued ∈ entry.received, queued.item ≠ .close
  critical : entry.stage.critical = true → lock = some call
  ends : ended.filter (fun ending => ending.1 = call) =
    if entry.stage.told then [(call, entry.request)] else []
  unfailed : entry.stage ≠ .failed

structure Sound (server : Server) : Prop where
  held : ∀ call, Held call (server.calls call) (server.objects call) server.clients server.lock
    server.ended
  dict : ∀ mac client, server.clients.get? mac = some client →
    (server.calls client).stage.registered = true ∧
      (server.calls client).request.deviceMac = mac
  holder : ∀ call, server.lock = some call → (server.calls call).stage.critical = true
  stamped : ∀ client, ∀ queued ∈ (server.objects client).log, queued.stamp < server.stamps ∧
    queued.mac = (server.calls client).request.deviceMac
  apart : ∀ first second, ∀ one ∈ (server.objects first).log,
    ∀ other ∈ (server.objects second).log, one.stamp = other.stamp → first = second
  ordered : ∀ client, (server.objects client).log.Pairwise fun first second =>
    first.stamp < second.stamp
  found : ∀ task mac client item loop, server.tasks task = .put mac client item loop →
    (server.calls client).stage.enrolled = true ∧ (server.calls client).request.deviceMac = mac

theorem sound_started : Sound .started where
  held := fun call =>
    { own := fun wrong => by cases wrong
      free := fun wrong => by cases wrong
      request := fun wrong => by cases wrong
      finds := fun _ wrong => by cases wrong
      blank := fun _ => ⟨rfl, rfl⟩
      streams := fun wrong => by cases wrong
      leaves := fun wrong => by cases wrong
      unclosed := fun _ wrong => by cases wrong
      critical := fun wrong => by cases wrong
      ends := rfl
      unfailed := fun wrong => by cases wrong }
  dict := fun _ _ wrong => by cases wrong
  holder := fun _ wrong => by cases wrong
  stamped := fun _ _ wrong => by cases wrong
  apart := fun _ _ _ wrong => by cases wrong
  ordered := fun _ => .nil
  found := fun _ _ _ _ _ wrong => by cases wrong

namespace Held

variable {call : Nat} {entry : Call} {object : SessionClient} {clients : Dict Mac Nat}
  {lock : Option Nat} {ended : List (Nat × Request)}

/-- Another thread puts an item into the queue. -/
theorem put (held : Held call entry object clients lock ended)
    (enrolled : entry.stage.enrolled = true) (queued : Queued) :
    Held call entry { object with
      returnQueue := object.returnQueue ++ [queued]
      log := object.log ++ [queued] } clients lock ended := by
  refine { held with
    blank := ?_
    streams := ?_
    leaves := ?_ }
  · intro outside
    rw [enrolled] at outside
    cases outside
  · intro inside staying
    dsimp only
    rw [held.streams inside staying, List.append_assoc]
  · intro left
    exact (held.leaves left).trans (List.prefix_append _ _)

/-- The lock changes hands between others. -/
theorem relock (held : Held call entry object clients lock ended) (next : Option Nat)
    (outside : lock ≠ some call) : Held call entry object clients next ended :=
  { held with critical := fun inside => absurd (held.critical inside) outside }

theorem told (held : Held call entry object clients lock ended) {other : Nat}
    (apart : other ≠ call) (request : Request) :
    Held call entry object clients lock (ended ++ [(other, request)]) := by
  refine { held with ends := ?_ }
  rw [List.filter_append, List.filter_cons_of_neg (by simpa using apart), List.filter_nil,
    List.append_nil]
  exact held.ends

/-- The call goes on to a stage in which it relies on the same. -/
theorem goto (held : Held call entry object clients lock ended) {before next : Stage}
    (at_ : entry.stage = before) (next_lock : Option Nat)
    (flags : next.Alike before)
    (critical : next.critical = true → next_lock = some call)
    (finds : ∀ client, next.client = some client → client = call)
    (free : next = .insert → clients.get? entry.request.deviceMac = none)
    (unfailed : next ≠ .failed) :
    Held call { entry with stage := next } object clients next_lock ended := by
  subst at_
  obtain ⟨registered, enrolled, leaving, told, inHand⟩ := flags
  refine ⟨?_, free, ?_, finds, ?_, ?_, ?_, held.unclosed, critical, ?_, unfailed⟩
  · exact fun inside => held.own (registered ▸ inside)
  · exact fun inside => held.request (enrolled ▸ inside)
  · exact fun outside => held.blank (enrolled ▸ outside)
  · intro inside staying
    dsimp only at inside staying ⊢
    rw [inHand]
    exact held.streams (enrolled ▸ inside) (leaving ▸ staying)
  · exact fun left => held.leaves (leaving ▸ left)
  · dsimp only
    rw [told]
    exact held.ends

end Held

namespace Sound

variable {server : Server}

theorem replace (sound : Sound server) (after : Server) {call : Nat} {entry : Call}
    {object : SessionClient}
    (calls : after.calls = Function.update server.calls call entry)
    (objects : after.objects = Function.update server.objects call object)
    (tasks : after.tasks = server.tasks)
    (held : Held call entry object after.clients after.lock after.ended)
    (others : ∀ other, other ≠ call → Held other (server.calls other) (server.objects other)
      after.clients after.lock after.ended)
    (dict : ∀ mac client, after.clients.get? mac = some client →
      client ≠ call ∧ server.clients.get? mac = some client ∨
      client = call ∧ entry.stage.registered = true ∧ entry.request.deviceMac = mac)
    (holder : ∀ other, after.lock = some other →
      other ≠ call ∧ server.lock = some other ∨ other = call ∧ entry.stage.critical = true)
    (enrolled : (server.calls call).stage.enrolled = true →
      entry.stage.enrolled = true ∧ entry.request = (server.calls call).request)
    (stamps : server.stamps ≤ after.stamps)
    (logged : ∀ queued ∈ object.log,
      (queued ∈ (server.objects call).log ∨ server.stamps ≤ queued.stamp) ∧
      queued.stamp < after.stamps ∧ queued.mac = entry.request.deviceMac)
    (ordered : object.log.Pairwise fun first second => first.stamp < second.stamp) :
    Sound after := by
  have self : after.calls call = entry := by rw [calls, Function.update_self]
  have mine : after.objects call = object := by rw [objects, Function.update_self]
  have other_calls : ∀ {other}, other ≠ call → after.calls other = server.calls other :=
    fun apart => by rw [calls, Function.update_of_ne apart]
  have other_objects : ∀ {other}, other ≠ call → after.objects other = server.objects other :=
    fun apart => by rw [objects, Function.update_of_ne apart]
  -- A new item of the call has a number that no item had before.
  have new : ∀ one ∈ object.log, ∀ other, other ≠ call → ∀ two ∈ (server.objects other).log,
      one.stamp ≠ two.stamp := by
    intro one inside other apart two within same
    rcases (logged one inside).1 with old | fresh
    · exact apart (sound.apart other call two within one old same.symm)
    · exact Nat.not_lt.mpr fresh (same ▸ (sound.stamped other two within).1)
  refine ⟨?_, ?_, ?_, ?_, ?_, ?_, ?_⟩
  · intro other
    by_cases same : other = call
    · subst same
      rw [self, mine]
      exact held
    · rw [other_calls same, other_objects same]
      exact others other same
  · intro mac client found
    rcases dict mac client found with ⟨apart, before⟩ | ⟨rfl, now⟩
    · rw [other_calls apart]
      exact sound.dict mac client before
    · rw [self]
      exact now
  · intro other holds
    rcases holder other holds with ⟨apart, before⟩ | ⟨rfl, now⟩
    · rw [other_calls apart]
      exact sound.holder other before
    · rw [self]
      exact now
  · intro client queued inside
    by_cases same : client = call
    · subst same
      rw [mine] at inside
      rw [self]
      exact (logged queued inside).2
    · rw [other_objects same] at inside
      rw [other_calls same]
      obtain ⟨small, mac⟩ := sound.stamped client queued inside
      exact ⟨Nat.lt_of_lt_of_le small stamps, mac⟩
  · intro first second one inside two within same
    by_cases left : first = call
    · by_cases right : second = call
      · rw [left, right]
      · rw [left, mine] at inside
        rw [other_objects right] at within
        exact absurd same (new one inside second right two within)
    · rw [other_objects left] at inside
      by_cases right : second = call
      · rw [right, mine] at within
        exact absurd same.symm (new two within first left one inside)
      · rw [other_objects right] at within
        exact sound.apart first second one inside two within same
  · intro client
    by_cases same : client = call
    · subst same
      rw [mine]
      exact ordered
    · rw [other_objects same]
      exact sound.ordered client
  · intro task mac client item loop waits
    rw [tasks] at waits
    obtain ⟨inside, at_⟩ := sound.found task mac client item loop waits
    by_cases same : client = call
    · subst same
      rw [self]
      obtain ⟨still, request⟩ := enrolled inside
      exact ⟨still, request ▸ at_⟩
    · rw [other_calls same]
      exact ⟨inside, at_⟩

theorem logged (sound : Sound server) (call : Nat) : ∀ queued ∈ (server.objects call).log,
    (queued ∈ (server.objects call).log ∨ server.stamps ≤ queued.stamp) ∧
      queued.stamp < server.stamps ∧ queued.mac = (server.calls call).request.deviceMac :=
  fun queued inside => ⟨.inl inside, sound.stamped call queued inside⟩

theorem dict_same (sound : Sound server) {call : Nat} {stage : Stage}
    (registered : (server.calls call).stage.registered = true → stage.registered = true)
    (mac : Mac) (client : Nat) (found : server.clients.get? mac = some client) :
    client ≠ call ∧ server.clients.get? mac = some client ∨
      client = call ∧ stage.registered = true ∧ (server.calls call).request.deviceMac = mac := by
  by_cases same : client = call
  · subst same
    obtain ⟨inside, at_⟩ := sound.dict mac client found
    exact .inr ⟨rfl, registered inside, at_⟩
  · exact .inl ⟨same, found⟩

theorem holder_same (sound : Sound server) {call : Nat} {stage : Stage}
    (critical : (server.calls call).stage.critical = true → stage.critical = true)
    (other : Nat) (holds : server.lock = some other) :
    other ≠ call ∧ server.lock = some other ∨ other = call ∧ stage.critical = true := by
  by_cases same : other = call
  · subst same
    exact .inr ⟨rfl, critical (sound.holder other holds)⟩
  · exact .inl ⟨same, holds⟩

/-- A call goes on without doing anything that others see. -/
theorem goto (sound : Sound server) {call : Nat} {stage : Stage}
    (held : Held call { server.calls call with stage } (server.objects call) server.clients
      server.lock server.ended)
    (registered : (server.calls call).stage.registered = true → stage.registered = true)
    (critical : (server.calls call).stage.critical = true → stage.critical = true)
    (enrolled : (server.calls call).stage.enrolled = true → stage.enrolled = true) :
    Sound (server.goto call stage) := by
  apply sound.replace (server.goto call stage) rfl (Function.update_eq_self call server.objects).symm rfl held
  · exact fun other _ => sound.held other
  · exact sound.dict_same registered
  · exact sound.holder_same critical
  · exact fun inside => ⟨enrolled inside, rfl⟩
  · exact Nat.le_refl _
  · exact sound.logged call
  · exact sound.ordered call

/-- The lock is free or the call's own, and the call takes it or gives it back. -/
theorem relock (sound : Sound server) {call : Nat} {stage : Stage} {next : Option Nat}
    (mine : ∀ other, server.lock = some other → other = call)
    (held : Held call { server.calls call with stage } (server.objects call) server.clients
      next server.ended)
    (registered : (server.calls call).stage.registered = true → stage.registered = true)
    (enrolled : (server.calls call).stage.enrolled = true → stage.enrolled = true)
    (holder : ∀ other, next = some other → other = call ∧ stage.critical = true) :
    Sound ({ server with lock := next }.goto call stage) := by
  apply sound.replace (Server.goto call stage { server with lock := next }) rfl (Function.update_eq_self call server.objects).symm rfl held
  · exact fun other apart => (sound.held other).relock next fun holds => apart (mine other holds)
  · exact sound.dict_same registered
  · exact fun other holds => .inr (holder other holds)
  · exact fun inside => ⟨enrolled inside, rfl⟩
  · exact Nat.le_refl _
  · exact sound.logged call
  · exact sound.ordered call

/-- An item is put into the queue of a call that has its client object. -/
theorem put (sound : Sound server) {client : Nat} {mac : Mac} (item : SessionItem)
    (enrolled : (server.calls client).stage.enrolled = true)
    (at_ : (server.calls client).request.deviceMac = mac) : Sound (server.put client mac item) := by
  apply sound.replace (server.put client mac item) (Function.update_eq_self client server.calls).symm
    rfl rfl ((sound.held client).put enrolled _)
  · exact fun other _ => sound.held other
  · exact sound.dict_same id
  · exact sound.holder_same id
  · exact fun inside => ⟨inside, rfl⟩
  · exact Nat.le_succ _
  · intro queued inside
    rcases List.mem_append.mp inside with old | new
    · obtain ⟨small, same⟩ := sound.stamped client queued old
      exact ⟨.inl old, Nat.lt_succ_of_lt small, same⟩
    · cases List.mem_singleton.mp new
      exact ⟨.inr (Nat.le_refl _), Nat.lt_succ_self _, at_.symm⟩
  · rw [List.pairwise_append]
    refine ⟨sound.ordered client, List.pairwise_singleton .., fun first inside second new => ?_⟩
    cases List.mem_singleton.mp new
    exact (sound.stamped client first inside).1

theorem run (sound : Sound server) {task : Nat} {next : Task}
    (found : ∀ mac client item loop, next = .put mac client item loop →
      (server.calls client).stage.enrolled = true ∧
        (server.calls client).request.deviceMac = mac) : Sound (server.run task next) := by
  refine { sound with found := ?_ }
  intro other mac client item loop waits
  by_cases same : other = task
  · subst same
    have now : (server.run other next).tasks other = next := Function.update_self ..
    exact found mac client item loop (now.symm.trans waits)
  · have before : (server.run task next).tasks other = server.tasks other :=
      Function.update_of_ne same ..
    exact sound.found other mac client item loop (before.symm.trans waits)

/-- A call at a stage goes on to one that looks the same to all others. -/
theorem onward (sound : Sound server) {call : Nat} {before next : Stage}
    (at_ : (server.calls call).stage = before)
    (flags : next.Alike before)
    (critical : next.critical = before.critical)
    (finds : ∀ client, next.client = some client → client = call)
    (free : next = .insert →
      server.clients.get? (server.calls call).request.deviceMac = none)
    (unfailed : next ≠ .failed) : Sound (server.goto call next) := by
  subst at_
  refine sound.goto ((sound.held call).goto rfl server.lock flags ?_ finds free unfailed) ?_ ?_ ?_
  · exact fun inside => (sound.held call).critical (critical ▸ inside)
  · exact fun inside => flags.1.symm ▸ inside
  · exact fun inside => critical.symm ▸ inside
  · exact fun inside => flags.2.1.symm ▸ inside

theorem acquire (sound : Sound server) {call : Nat} {before next : Stage}
    (at_ : (server.calls call).stage = before)
    (flags : next.Alike before)
    (critical : next.critical = true) (finds : next.client = none)
    (free : next ≠ .insert) (unfailed : next ≠ .failed) : Sound (server.acquire call next) := by
  subst at_
  unfold Server.acquire
  split
  · rename_i unlocked
    refine sound.relock (fun other holds => ?_)
      ((sound.held call).goto rfl (some call) flags (fun _ => rfl) ?_ ?_ unfailed) ?_ ?_ ?_
    · rw [unlocked] at holds
      cases holds
    · intro client wrong
      rw [finds] at wrong
      cases wrong
    · exact fun wrong => absurd wrong free
    · exact fun inside => flags.1.symm ▸ inside
    · exact fun inside => flags.2.1.symm ▸ inside
    · exact fun other holds => ⟨(Option.some.inj holds).symm, critical⟩
  · exact sound

theorem release (sound : Sound server) {call : Nat} {before next : Stage}
    (at_ : (server.calls call).stage = before) (holds : before.critical = true)
    (flags : next.Alike before)
    (critical : next.critical = false) (finds : next.client = none)
    (free : next ≠ .insert) (unfailed : next ≠ .failed) : Sound (server.release call next) := by
  subst at_
  have mine := (sound.held call).critical holds
  refine sound.relock (fun other also => ?_)
    ((sound.held call).goto rfl none flags ?_ ?_ ?_ unfailed) ?_ ?_ ?_
  · rw [mine] at also
    exact (Option.some.inj also).symm
  · intro wrong
    rw [critical] at wrong
    cases wrong
  · intro client wrong
    rw [finds] at wrong
    cases wrong
  · exact fun wrong => absurd wrong free
  · exact fun inside => flags.1.symm ▸ inside
  · exact fun inside => flags.2.1.symm ▸ inside
  · intro other wrong
    cases wrong

/-- What a registered call looks up is its own client object. -/
theorem lookup (sound : Sound server) {call : Nat} {before : Stage} {next : Nat → Stage}
    (at_ : (server.calls call).stage = before) (registered : before.registered = true)
    (flags : (next call).Alike before)
    (critical : (next call).critical = before.critical)
    (finds : (next call).client = some call) (free : next call ≠ .insert)
    (unfailed : next call ≠ .failed) : Sound (server.lookup call next) := by
  have own := (sound.held call).own (at_ ▸ registered)
  unfold Server.lookup
  rw [own]
  refine sound.onward at_ flags critical (fun client found => ?_) (fun wrong => absurd wrong free)
    unfailed
  rw [finds] at found
  exact (Option.some.inj found).symm

theorem register (sound : Sound server) {call : Nat} (now : Int)
    (at_ : (server.calls call).stage = .insert) :
    Sound ((server.register call now).goto call .unlock) := by
  have held := sound.held call
  have free := held.free at_
  have mine := held.critical (by rw [at_]; rfl)
  have blank := held.blank (by rw [at_]; rfl)
  apply sound.replace ((server.register call now).goto call .unlock) rfl rfl rfl
  · refine ⟨?_, ?_, fun _ => rfl, ?_, ?_, ?_, ?_, held.unclosed, fun _ => mine, ?_, ?_⟩
    · exact fun _ => Dict.get?_insert_self ..
    · intro wrong
      cases wrong
    · intro client wrong
      cases wrong
    · intro wrong
      cases wrong
    · intro _ _
      exact (congrArg (fun received => received ++ [] ++ []) blank.2).symm
    · intro wrong
      cases wrong
    · have none := held.ends
      rw [at_] at none
      exact none
    · intro wrong
      cases wrong
  · intro other apart
    have theirs := sound.held other
    refine { theirs with own := ?_, free := ?_ }
    · intro inside
      have before := theirs.own inside
      change (server.clients.insert _ call).get? _ = _
      rw [Dict.get?_insert_of_ne _ _ ?_]
      · exact before
      · intro same
        rw [same, free] at before
        cases before
    · intro inside
      have also := theirs.critical (by rw [inside]; rfl)
      rw [mine] at also
      exact absurd (Option.some.inj also).symm apart
  · intro mac client found
    change (server.clients.insert _ call).get? mac = some client at found
    rw [Dict.get?_insert] at found
    split at found
    · rename_i same
      cases found
      exact .inr ⟨rfl, rfl, same.symm⟩
    · refine .inl ⟨fun same => ?_, found⟩
      subst same
      have registered := (sound.dict mac client found).1
      rw [at_] at registered
      cases registered
  · intro other holds
    exact .inr ⟨(Option.some.inj (mine.symm.trans holds)).symm, rfl⟩
  · intro wrong
    rw [at_] at wrong
    cases wrong
  · exact Nat.le_refl _
  · intro queued wrong
    cases wrong
  · exact .nil

theorem get (sound : Sound server) {call client : Nat}
    (at_ : (server.calls call).stage = .get client) : Sound (server.get call client) := by
  have held := sound.held call
  cases held.finds client (by rw [at_]; rfl)
  have streams := held.streams (by rw [at_]; rfl) (by rw [at_]; rfl)
  rw [at_] at streams
  unfold Server.get
  cases queue : (server.objects call).returnQueue with
  | nil => exact sound
  | cons item rest =>
      rw [queue] at streams
      apply sound.replace (Server.goto call (.touch item) { server with
        objects := Function.update server.objects call
          { server.objects call with returnQueue := rest } }) rfl rfl rfl
      · refine ⟨?_, ?_, ?_, ?_, ?_, ?_, ?_, held.unclosed, ?_, ?_, ?_⟩
        · exact fun _ => held.own (by rw [at_]; rfl)
        · intro wrong
          cases wrong
        · exact fun _ => held.request (by rw [at_]; rfl)
        · intro client wrong
          cases wrong
        · intro wrong
          cases wrong
        · intro _ _
          refine streams.trans ?_
          rw [show (Stage.get call).inHand = [] from rfl, List.append_nil, List.append_assoc]
          rfl
        · intro wrong
          cases wrong
        · intro wrong
          cases wrong
        · have none := held.ends
          rw [at_] at none
          exact none
        · intro wrong
          cases wrong
      · exact fun other _ => sound.held other
      · exact sound.dict_same fun _ => rfl
      · refine sound.holder_same fun wrong => ?_
        rw [at_] at wrong
        cases wrong
      · exact fun _ => ⟨rfl, rfl⟩
      · exact Nat.le_refl _
      · exact sound.logged call
      · exact sound.ordered call

theorem touch (sound : Sound server) {call : Nat} {item : Queued} (now : Int)
    (at_ : (server.calls call).stage = .touch item) : Sound (server.touch call item now) := by
  have held := sound.held call
  have own := held.own (by rw [at_]; rfl)
  have streams := held.streams (by rw [at_]; rfl) (by rw [at_]; rfl)
  have none := held.ends
  rw [at_] at streams none
  have request := held.request (by rw [at_]; rfl)
  have outside : (server.calls call).stage.critical = true → False := by
    intro wrong
    rw [at_] at wrong
    cases wrong
  unfold Server.touch
  rw [own]
  dsimp only
  split
  · apply sound.replace (Server.goto call .reapLock { server with
      objects := Function.update server.objects call
        { server.objects call with lastStreamed := now } }) rfl rfl rfl
    · refine ⟨fun _ => own, ?_, fun _ => request, ?_, ?_, ?_, ?_, held.unclosed, ?_, none, ?_⟩
      · intro wrong
        cases wrong
      · intro client wrong
        cases wrong
      · intro wrong
        cases wrong
      · intro _ wrong
        cases wrong
      · intro _
        change _ <+: (server.objects call).log
        rw [streams, List.append_assoc]
        exact List.prefix_append _ _
      · intro wrong
        cases wrong
      · intro wrong
        cases wrong
    · exact fun other _ => sound.held other
    · exact sound.dict_same fun _ => rfl
    · exact sound.holder_same fun wrong => (outside wrong).elim
    · exact fun _ => ⟨rfl, rfl⟩
    · exact Nat.le_refl _
    · exact sound.logged call
    · exact sound.ordered call
  · rename_i open_
    apply sound.replace { server with
      objects := Function.update server.objects call
        { server.objects call with lastStreamed := now }
      calls := Function.update server.calls call { server.calls call with
        stage := .yielded
        received := (server.calls call).received ++ [item] } } rfl rfl rfl
    · refine ⟨fun _ => own, ?_, fun _ => request, ?_, ?_, ?_, ?_, ?_, ?_, none, ?_⟩
      · intro wrong
        cases wrong
      · intro client wrong
        cases wrong
      · intro wrong
        cases wrong
      · intro _ _
        refine streams.trans ?_
        rw [show Stage.yielded.inHand = [] from rfl, List.append_nil]
        rfl
      · intro wrong
        cases wrong
      · intro queued inside
        rcases List.mem_append.mp inside with old | new
        · exact held.unclosed queued old
        · rw [List.mem_singleton.mp new]
          exact open_
      · intro wrong
        cases wrong
      · intro wrong
        cases wrong
    · exact fun other _ => sound.held other
    · exact sound.dict_same fun _ => rfl
    · exact sound.holder_same fun wrong => (outside wrong).elim
    · exact fun _ => ⟨rfl, rfl⟩
    · exact Nat.le_refl _
    · exact sound.logged call
    · exact sound.ordered call

theorem notifyEnd (sound : Sound server) {call : Nat}
    (at_ : (server.calls call).stage = .notifyEnd) : Sound (server.notifyEnd call) := by
  have held := sound.held call
  have own := held.own (by rw [at_]; rfl)
  have request := held.request (by rw [at_]; rfl)
  have mine := held.critical (by rw [at_]; rfl)
  have none := held.ends
  rw [at_] at none
  unfold Server.notifyEnd
  rw [own]
  dsimp only
  rw [request]
  apply sound.replace (Server.goto call .delete { server with
    ended := server.ended ++ [(call, (server.calls call).request)] }) rfl
    (Function.update_eq_self call server.objects).symm rfl
  · refine ⟨fun _ => own, ?_, fun _ => request, ?_, ?_, ?_, ?_, held.unclosed, fun _ => mine, ?_, ?_⟩
    · intro wrong
      cases wrong
    · intro client wrong
      cases wrong
    · intro wrong
      cases wrong
    · intro _ wrong
      cases wrong
    · exact fun _ => held.leaves (by rw [at_]; rfl)
    · change List.filter _ (server.ended ++ [(call, (server.calls call).request)]) = _
      rw [List.filter_append, none]
      simp [Stage.told]
    · intro wrong
      cases wrong
  · exact fun other apart => (sound.held other).told (Ne.symm apart) _
  · exact sound.dict_same fun _ => rfl
  · exact sound.holder_same fun _ => rfl
  · exact fun _ => ⟨rfl, rfl⟩
  · exact Nat.le_refl _
  · exact sound.logged call
  · exact sound.ordered call

theorem delete (sound : Sound server) {call : Nat}
    (at_ : (server.calls call).stage = .delete) : Sound (server.delete call) := by
  have held := sound.held call
  have own := held.own (by rw [at_]; rfl)
  have mine := held.critical (by rw [at_]; rfl)
  have told := held.ends
  rw [at_] at told
  unfold Server.delete
  rw [own]
  apply sound.replace (Server.goto call .reapUnlock { server with
    clients := server.clients.erase (server.calls call).request.deviceMac }) rfl
    (Function.update_eq_self call server.objects).symm rfl
  · refine ⟨?_, ?_, fun _ => held.request (by rw [at_]; rfl), ?_, ?_, ?_, ?_, held.unclosed,
      fun _ => mine, told, ?_⟩
    · intro wrong
      cases wrong
    · intro wrong
      cases wrong
    · intro client wrong
      cases wrong
    · intro wrong
      cases wrong
    · intro _ wrong
      cases wrong
    · exact fun _ => held.leaves (by rw [at_]; rfl)
    · intro wrong
      cases wrong
  · intro other apart
    have theirs := sound.held other
    refine { theirs with own := ?_, free := ?_ }
    · intro inside
      have before := theirs.own inside
      change (server.clients.erase _).get? _ = _
      rw [Dict.get?_erase_of_ne _ ?_]
      · exact before
      · intro same
        rw [same, own] at before
        exact apart (Option.some.inj before).symm
    · intro inside
      have also := theirs.critical (by rw [inside]; rfl)
      rw [mine] at also
      exact absurd (Option.some.inj also).symm apart
  · intro mac client found
    change (server.clients.erase _).get? mac = some client at found
    rw [Dict.get?_erase] at found
    split at found
    · cases found
    · rename_i other
      refine .inl ⟨fun same => ?_, found⟩
      subst same
      exact other (sound.dict mac client found).2.symm
  · exact sound.holder_same fun _ => rfl
  · exact fun _ => ⟨rfl, rfl⟩
  · exact Nat.le_refl _
  · exact sound.logged call
  · exact sound.ordered call

theorem start (sound : Sound server) (call : Nat) (request : Request) :
    Sound (server.start call request) := by
  unfold Server.start
  split
  · rename_i at_
    have held := sound.held call
    have blank := held.blank (by rw [at_]; rfl)
    have none := held.ends
    rw [at_] at none
    apply sound.replace { server with
      calls := Function.update server.calls call ⟨request, .lock, []⟩ } rfl
      (Function.update_eq_self call server.objects).symm rfl
    · refine ⟨?_, ?_, ?_, ?_, fun _ => ⟨blank.1, rfl⟩, ?_, ?_, ?_, ?_, none, ?_⟩
      · intro wrong
        cases wrong
      · intro wrong
        cases wrong
      · intro wrong
        cases wrong
      · intro client wrong
        cases wrong
      · intro wrong
        cases wrong
      · intro wrong
        cases wrong
      · intro queued wrong
        cases wrong
      · intro wrong
        cases wrong
      · intro wrong
        cases wrong
    · exact fun other _ => sound.held other
    · intro mac client found
      refine .inl ⟨fun same => ?_, found⟩
      subst same
      have registered := (sound.dict mac client found).1
      rw [at_] at registered
      cases registered
    · intro other holds
      refine .inl ⟨fun same => ?_, holds⟩
      subst same
      have critical := sound.holder other holds
      rw [at_] at critical
      cases critical
    · intro wrong
      rw [at_] at wrong
      cases wrong
    · exact Nat.le_refl _
    · intro queued inside
      rw [blank.1] at inside
      cases inside
    · exact sound.ordered call
  · exact sound

theorem abandon (sound : Sound server) (call : Nat) : Sound (server.abandon call) := by
  unfold Server.abandon
  cases at_ : (server.calls call).stage with
  | ready =>
      exact sound.onward at_ ⟨rfl, rfl, rfl, rfl, rfl⟩ rfl (fun _ wrong => by cases wrong)
        (fun wrong => by cases wrong) (fun wrong => by cases wrong)
  | yielded =>
      have held := sound.held call
      have none := held.ends
      have streams := held.streams (by rw [at_]; rfl) (by rw [at_]; rfl)
      rw [at_] at none streams
      refine sound.goto ?_ (fun _ => rfl) ?_ (fun _ => rfl)
      · refine ⟨?_, ?_, fun _ => held.request (by rw [at_]; rfl), ?_, ?_, ?_, ?_, held.unclosed, ?_,
          none, ?_⟩
        · exact fun _ => held.own (by rw [at_]; rfl)
        · intro wrong
          cases wrong
        · intro client wrong
          cases wrong
        · intro wrong
          cases wrong
        · intro _ wrong
          cases wrong
        · intro _
          rw [streams, List.append_assoc]
          exact List.prefix_append _ _
        · intro wrong
          cases wrong
        · intro wrong
          cases wrong
      · intro wrong
        rw [at_] at wrong
        cases wrong
  | _ => exact sound

theorem check (sound : Sound server) {call : Nat} (at_ : (server.calls call).stage = .check) :
    Sound (if (server.clients.get? (server.calls call).request.deviceMac).isSome
      then server.goto call .refuse else server.goto call .insert) := by
  split
  · exact sound.onward at_ ⟨rfl, rfl, rfl, rfl, rfl⟩ rfl (fun _ wrong => by cases wrong)
      (fun wrong => by cases wrong) (fun wrong => by cases wrong)
  · rename_i absent
    refine sound.onward at_ ⟨rfl, rfl, rfl, rfl, rfl⟩ rfl (fun _ wrong => by cases wrong)
      (fun _ => ?_) (fun wrong => by cases wrong)
    exact Option.not_isSome_iff_eq_none.mp absent

theorem enrolled_of_registered {stage : Stage} (registered : stage.registered = true) :
    stage.enrolled = true := by
  cases stage <;> first | rfl | cases registered

theorem ask (sound : Sound server) (task : Nat) (what : Server.Ask) :
    Sound (server.ask task what) := by
  unfold Server.ask
  split
  · cases what with
    | sendDeviceResult mac code => exact sound.run fun _ _ _ _ wrong => by cases wrong
    | closeStream mac => exact sound.run fun _ _ _ _ wrong => by cases wrong
    | sendDeviceHeartbeats => exact sound.run fun _ _ _ _ wrong => by cases wrong
  · exact sound

theorem proceed (sound : Sound server) (task : Nat) (key : Mac) (now : Int) :
    Sound (server.proceed task key now) := by
  unfold Server.proceed
  cases at_ : server.tasks task with
  | idle => exact sound
  | raised => exact sound
  | result mac code =>
      dsimp only
      split
      · exact sound.run fun _ _ _ _ wrong => by cases wrong
      · exact sound.run fun _ _ _ _ wrong => by cases wrong
  | send mac item loop =>
      dsimp only
      split
      · exact sound.run fun _ _ _ _ wrong => by cases wrong
      · rename_i client found
        refine sound.run fun _ _ _ _ same => ?_
        cases same
        obtain ⟨registered, place⟩ := sound.dict mac client found
        exact ⟨enrolled_of_registered registered, place⟩
  | put mac client item loop =>
      obtain ⟨enrolled, place⟩ := sound.found task mac client item loop at_
      refine (sound.put item enrolled place).run fun _ _ _ _ wrong => ?_
      cases loop with
      | none => cases wrong
      | some size => cases wrong
  | beats size =>
      dsimp only
      split
      · exact sound.run fun _ _ _ _ wrong => by cases wrong
      · split
        · exact sound.run fun _ _ _ _ wrong => by cases wrong
        · exact sound.run fun _ _ _ _ wrong => by cases wrong
  | beat mac size =>
      dsimp only
      split
      · exact sound.run fun _ _ _ _ wrong => by cases wrong
      · exact sound.run fun _ _ _ _ wrong => by cases wrong

/-- An own item of a call that goes on to a stage it can be at without the client. -/
theorem putOwn (sound : Sound server) {call client : Nat} {before next : Stage}
    (at_ : (server.calls call).stage = before) (item : SessionItem)
    (finds : before.client = some client) (enrolled : before.enrolled = true)
    (flags : next.Alike before) (critical : next.critical = before.critical)
    (unfound : next.client = none) (free : next ≠ .insert) (unfailed : next ≠ .failed) :
    Sound ((server.put client (server.calls call).request.deviceMac item).goto call next) := by
  cases (sound.held call).finds client (at_ ▸ finds)
  refine (sound.put item (at_ ▸ enrolled) rfl).onward at_ flags critical (fun other wrong => ?_)
    (fun wrong => absurd wrong free) unfailed
  rw [unfound] at wrong
  cases wrong

theorem advance (sound : Sound server) (call : Nat) (now : Int) :
    Sound (server.advance call now) := by
  unfold Server.advance
  dsimp only
  cases at_ : (server.calls call).stage with
  | lock =>
      exact sound.acquire at_ ⟨rfl, rfl, rfl, rfl, rfl⟩ rfl rfl (fun wrong => by cases wrong)
        (fun wrong => by cases wrong)
  | check => exact sound.check at_
  | refuse =>
      exact sound.release at_ rfl ⟨rfl, rfl, rfl, rfl, rfl⟩ rfl rfl (fun wrong => by cases wrong)
        (fun wrong => by cases wrong)
  | insert => exact sound.register now at_
  | unlock =>
      exact sound.release at_ rfl ⟨rfl, rfl, rfl, rfl, rfl⟩ rfl rfl (fun wrong => by cases wrong)
        (fun wrong => by cases wrong)
  | findEndpoint =>
      exact sound.lookup at_ rfl ⟨rfl, rfl, rfl, rfl, rfl⟩ rfl rfl (fun wrong => by cases wrong)
        (fun wrong => by cases wrong)
  | putEndpoint client =>
      exact sound.putOwn at_ .endpoint rfl rfl ⟨rfl, rfl, rfl, rfl, rfl⟩ rfl rfl
        (fun wrong => by cases wrong) (fun wrong => by cases wrong)
  | checkStarted =>
      dsimp only
      split
      · exact sound.onward at_ ⟨rfl, rfl, rfl, rfl, rfl⟩ rfl (fun _ wrong => by cases wrong)
          (fun wrong => by cases wrong) (fun wrong => by cases wrong)
      · exact sound.onward at_ ⟨rfl, rfl, rfl, rfl, rfl⟩ rfl (fun _ wrong => by cases wrong)
          (fun wrong => by cases wrong) (fun wrong => by cases wrong)
  | findStarted =>
      exact sound.lookup at_ rfl ⟨rfl, rfl, rfl, rfl, rfl⟩ rfl rfl (fun wrong => by cases wrong)
        (fun wrong => by cases wrong)
  | putStarted client =>
      exact sound.putOwn at_ (.result .started) rfl rfl ⟨rfl, rfl, rfl, rfl, rfl⟩ rfl rfl
        (fun wrong => by cases wrong) (fun wrong => by cases wrong)
  | notify =>
      exact sound.onward at_ ⟨rfl, rfl, rfl, rfl, rfl⟩ rfl (fun _ wrong => by cases wrong)
        (fun wrong => by cases wrong) (fun wrong => by cases wrong)
  | ready =>
      exact sound.onward at_ ⟨rfl, rfl, rfl, rfl, rfl⟩ rfl (fun _ wrong => by cases wrong)
        (fun wrong => by cases wrong) (fun wrong => by cases wrong)
  | find =>
      exact sound.lookup at_ rfl ⟨rfl, rfl, rfl, rfl, rfl⟩ rfl rfl (fun wrong => by cases wrong)
        (fun wrong => by cases wrong)
  | get client => exact sound.get at_
  | touch item => exact sound.touch now at_
  | yielded =>
      exact sound.onward at_ ⟨rfl, rfl, rfl, rfl, rfl⟩ rfl (fun _ wrong => by cases wrong)
        (fun wrong => by cases wrong) (fun wrong => by cases wrong)
  | reapLock =>
      exact sound.acquire at_ ⟨rfl, rfl, rfl, rfl, rfl⟩ rfl rfl (fun wrong => by cases wrong)
        (fun wrong => by cases wrong)
  | notifyEnd => exact sound.notifyEnd at_
  | delete => exact sound.delete at_
  | reapUnlock =>
      exact sound.release at_ rfl ⟨rfl, rfl, rfl, rfl, rfl⟩ rfl rfl (fun wrong => by cases wrong)
        (fun wrong => by cases wrong)
  | _ => exact sound

end Sound

theorem sound_step {server : Server} (sound : Sound server) (command : Command) :
    Sound (command.step server) := by
  cases command with
  | start call request => exact sound.start call request
  | advance call now => exact sound.advance call now
  | abandon call => exact sound.abandon call
  | ask task what => exact sound.ask task what
  | proceed task key now => exact sound.proceed task key now

theorem sound_reached {allowed : Server → Command → Prop} {server : Server}
    (reached : Reaches Command.step allowed .started server) : Sound server :=
  reached.invariant Sound sound_started fun _ command sound _ => sound_step sound command

end Daq.Session
