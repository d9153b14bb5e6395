import Daq.Data

namespace Daq.Session

/-! The session server with its threads.  Every operation on the lock, on a
queue or on the dictionary of clients is a step of its own. -/

structure Request where
  deviceMac : Mac
  deviceVlan : Nat
  assignedVlan : Nat
  endpointIp : String
deriving DecidableEq

/-- An item of a queue, with the MAC it was sent to and a number of its own;
both are history only. -/
structure Queued where
  stamp : Nat
  mac : Mac
  item : SessionItem
deriving DecidableEq

/-- `log` is history only: everything that was put into the queue. -/
structure SessionClient where
  returnQueue : List Queued
  lastStreamed : Int
  initRequest : Request
  log : List Queued

/-- What a call of `StartSession`, and then its stream, does next.  The client
that a lookup found is kept until it is used. -/
inductive Stage
  | idle
  | lock
  | check
  | refuse
  | insert
  | unlock
  | findEndpoint
  | putEndpoint (client : Nat)
  | checkStarted
  | findStarted
  | putStarted (client : Nat)
  | notify
  | ready
  | find
  | get (client : Nat)
  | touch (item : Queued)
  | yielded
  | reapLock
  | notifyEnd
  | delete
  | reapUnlock
  | finished
  | refused
  | dropped
  | failed
deriving DecidableEq

/-- A call of `StartSession`; `received` is what its stream has yielded. -/
structure Call where
  request : Request
  stage : Stage
  received : List Queued

/-- What another thread does next.  A heartbeat loop keeps the size that the
dictionary had when the loop began. -/
inductive Task
  | idle
  | result (mac : Mac) (code : ResultCode)
  | send (mac : Mac) (item : SessionItem) (loop : Option Nat)
  | put (mac : Mac) (client : Nat) (item : SessionItem) (loop : Option Nat)
  | beats (size : Nat)
  | beat (mac : Mac) (size : Nat)
  | raised
deriving DecidableEq

/-- The client objects have the numbers of the calls that made them.  `ended`
and `stamps` are history only: the calls of `on_session_end`, and how many
items were queued. -/
structure Server where
  clients : Dict Mac Nat
  objects : Nat → SessionClient
  lock : Option Nat
  calls : Nat → Call
  tasks : Nat → Task
  disconnectTimeoutSec : Int
  ended : List (Nat × Request)
  stamps : Nat

def noRequest : Request := ⟨"", 0, 0, ""⟩

def Server.started : Server where
  clients := .empty
  objects := fun _ => ⟨[], 0, noRequest, []⟩
  lock := none
  calls := fun _ => ⟨noRequest, .idle, []⟩
  tasks := fun _ => .idle
  disconnectTimeoutSec := 120
  ended := []
  stamps := 0

namespace Server

def goto (call : Nat) (stage : Stage) (server : Server) : Server :=
  { server with
    calls := Function.update server.calls call { server.calls call with stage } }

def run (task : Nat) (next : Task) (server : Server) : Server :=
  { server with tasks := Function.update server.tasks task next }

def put (client : Nat) (mac : Mac) (item : SessionItem) (server : Server) : Server :=
  { server with
    objects := Function.update server.objects client
      { server.objects client with
        returnQueue := (server.objects client).returnQueue ++ [⟨server.stamps, mac, item⟩]
        log := (server.objects client).log ++ [⟨server.stamps, mac, item⟩] }
    stamps := server.stamps + 1 }

def acquire (call : Nat) (next : Stage) (server : Server) : Server :=
  if server.lock = none then { server with lock := some call }.goto call next else server

def release (call : Nat) (next : Stage) (server : Server) : Server :=
  { server with lock := none }.goto call next

/-- `self._clients[device_mac]` -/
def lookup (call : Nat) (next : Nat → Stage) (server : Server) : Server :=
  match server.clients.get? (server.calls call).request.deviceMac with
  | none => server.goto call .failed
  | some client => server.goto call (next client)

def register (call : Nat) (now : Int) (server : Server) : Server :=
  { server with
    clients := server.clients.insert (server.calls call).request.deviceMac call
    objects := Function.update server.objects call ⟨[], now, (server.calls call).request, []⟩ }

/-- `return_queue.get()` waits while the queue is empty. -/
def get (call client : Nat) (server : Server) : Server :=
  match (server.objects client).returnQueue with
  | [] => server
  | item :: rest =>
      { server with
        objects := Function.update server.objects client
          { server.objects client with returnQueue := rest } }.goto call (.touch item)

/-- Note the time and hand the item to the client, unless it closes the stream. -/
def touch (call : Nat) (item : Queued) (now : Int) (server : Server) : Server :=
  match server.clients.get? (server.calls call).request.deviceMac with
  | none => server.goto call .failed
  | some client =>
      let touched : Server := { server with
        objects := Function.update server.objects client
          { server.objects client with lastStreamed := now } }
      if item.item = .close then touched.goto call .reapLock
      else { touched with
        calls := Function.update touched.calls call
          { touched.calls call with
            stage := .yielded
            received := (touched.calls call).received ++ [item] } }

/-- `on_session_end` with the request of the client that is registered. -/
def notifyEnd (call : Nat) (server : Server) : Server :=
  match server.clients.get? (server.calls call).request.deviceMac with
  | none => server.release call .failed
  | some client =>
      { server with
        ended := server.ended ++ [(call, (server.objects client).initRequest)] }.goto call .delete

def delete (call : Nat) (server : Server) : Server :=
  match server.clients.get? (server.calls call).request.deviceMac with
  | none => server.release call .failed
  | some _ =>
      { server with
        clients := server.clients.erase (server.calls call).request.deviceMac }.goto call .reapUnlock

/-- The next step of a call; `on_session` and `on_session_end` return. -/
def advance (call : Nat) (now : Int) (server : Server) : Server :=
  let mac := (server.calls call).request.deviceMac
  match (server.calls call).stage with
  | .idle | .finished | .refused | .dropped | .failed => server
  | .lock => server.acquire call .check
  | .check =>
      if (server.clients.get? mac).isSome then server.goto call .refuse
      else server.goto call .insert
  | .refuse => server.release call .refused
  | .insert => (server.register call now).goto call .unlock
  | .unlock => server.release call .findEndpoint
  | .findEndpoint => server.lookup call .putEndpoint
  | .putEndpoint client => (server.put client mac .endpoint).goto call .checkStarted
  | .checkStarted =>
      if (server.clients.get? mac).isSome then server.goto call .findStarted
      else server.goto call .notify
  | .findStarted => server.lookup call .putStarted
  | .putStarted client => (server.put client mac (.result .started)).goto call .notify
  | .notify => server.goto call .ready
  | .ready => server.goto call .find
  | .find => server.lookup call .get
  | .get client => server.get call client
  | .touch item => server.touch call item now
  | .yielded => server.goto call .find
  | .reapLock => server.acquire call .notifyEnd
  | .notifyEnd => server.notifyEnd call
  | .delete => server.delete call
  | .reapUnlock => server.release call .finished

/-- The stream is closed from outside.  A generator that was never started only
goes away. -/
def abandon (call : Nat) (server : Server) : Server :=
  match (server.calls call).stage with
  | .ready => server.goto call .dropped
  | .yielded => server.goto call .reapLock
  | _ => server

/-- A new call of `StartSession`. -/
def start (call : Nat) (request : Request) (server : Server) : Server :=
  if (server.calls call).stage = .idle then
    { server with calls := Function.update server.calls call ⟨request, .lock, []⟩ }
  else server

/-- The next step of another thread.  Which key a loop comes to next is not
told by the dictionary it began with. -/
def proceed (task : Nat) (key : Mac) (now : Int) (server : Server) : Server :=
  match server.tasks task with
  | .idle | .raised => server
  | .result mac code =>
      if (server.clients.get? mac).isSome then server.run task (.send mac (.result code) none)
      else server.run task .idle
  | .send mac item loop =>
      match server.clients.get? mac with
      | none => server.run task .raised
      | some client => server.run task (.put mac client item loop)
  | .put mac client item loop =>
      (server.put client mac item).run task
        (match loop with | none => .idle | some size => .beats size)
  | .beats size =>
      if server.clients.size ≠ size then server.run task .raised
      else if (server.clients.get? key).isSome then server.run task (.beat key size)
      else server.run task .idle
  | .beat mac size =>
      match server.clients.get? mac with
      | none => server.run task .raised
      | some client =>
          server.run task (.send mac
            (if now - (server.objects client).lastStreamed < server.disconnectTimeoutSec
              then .progress else .close) (some size))

/-- What another thread may be asked for. -/
inductive Ask
  | sendDeviceResult (mac : Mac) (code : ResultCode)
  | closeStream (mac : Mac)
  | sendDeviceHeartbeats
deriving DecidableEq

def ask (task : Nat) (what : Ask) (server : Server) : Server :=
  if server.tasks task = .idle then
    match what with
    | .sendDeviceResult mac code => server.run task (.result mac code)
    | .closeStream mac => server.run task (.send mac .close none)
    | .sendDeviceHeartbeats => server.run task (.beats server.clients.size)
  else server

end Server

inductive Command
  | start (call : Nat) (request : Request)
  | advance (call : Nat) (now : Int)
  | abandon (call : Nat)
  | ask (task : Nat) (what : Server.Ask)
  | proceed (task : Nat) (key : Mac) (now : Int)

def Command.step : Command → Server → Server
  | .start call request, server => server.start call request
  | .advance call now, server => server.advance call now
  | .abandon call, server => server.abandon call
  | .ask task what, server => server.ask task what
  | .proceed task key now, server => server.proceed task key now

end Daq.Session
