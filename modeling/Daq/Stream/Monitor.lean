import Mathlib.Data.List.Sort
import Daq.Data
import Daq.Lib.Reach

namespace Daq.Stream

/-! The stream monitor.  A descriptor is a number, which the operating system
gives to another stream once the stream that had it is closed. -/

abbrev Fd := Nat

/-- A stream as an object, whatever its descriptor. -/
abbrev StreamId := Nat

/-- Entry of `callbacks`: which of the three handlers it has, and the stream.
The number tells one registration from the next. -/
structure Registration where
  number : Nat
  callback : Bool
  hangup : Bool
  error : Bool
  desc : StreamId
deriving DecidableEq

structure StreamMonitor where
  callbacks : Dict Fd Registration := .empty
  fdPriority : Fd → Nat := fun _ => 1
  /-- The descriptors registered with the poller. -/
  poller : Finset Fd := ∅
  /-- The stream that each descriptor in use belongs to. -/
  opened : Fd → Option StreamId := fun _ => none
  nextStream : StreamId := 0
  nextNumber : Nat := 0
  /-- The part of a poll result that has not been gone through. -/
  found : List (Fd × Nat) := []
  /-- The registrations when that result was polled. -/
  polled : Dict Fd Registration := .empty
  /-- Descriptor, event and registration of what has been triggered since. -/
  triggered : List (Fd × Nat × Registration) := []

abbrev Action := Exec StreamMonitor Exc

/-- Start monitoring a specific descriptor. -/
def monitor (fd : Fd) (callback hangup error : Bool) (priority : Nat) : Action Unit := do
  let monitor ← Exec.get
  match monitor.opened fd with
  | none => Exec.raise (.valueError "I/O operation on closed file")
  | some desc => do
      Exec.require (monitor.callbacks.get? fd = none)
        (.assertionError s!"Duplicate descriptor fd {fd}")
      Exec.modify fun monitor => { monitor with
        callbacks := monitor.callbacks.insert fd
          { number := monitor.nextNumber, callback, hangup, error, desc }
        fdPriority := Function.update monitor.fdPriority fd priority
        poller := insert fd monitor.poller
        nextNumber := monitor.nextNumber + 1 }

/-- Stop monitoring the given descriptor. -/
def forget (fd : Fd) : Action Unit := do
  let monitor ← Exec.get
  Exec.require (monitor.callbacks.get? fd ≠ none) (.assertionError s!"Missing descriptor fd {fd}")
  Exec.modify fun monitor => { monitor with
    callbacks := monitor.callbacks.erase fd
    poller := monitor.poller.erase fd }

/-- Closing a stream gives its descriptor back; a stream that is closed already
has none. -/
def close (fd : Fd) (desc : StreamId) : Action Unit :=
  Exec.modify fun monitor =>
    if monitor.opened fd = some desc then
      { monitor with opened := Function.update monitor.opened fd none }
    else monitor

/-- A new stream gets a descriptor that is not in use. -/
def openStream (fd : Fd) : Action Unit :=
  Exec.modify fun monitor =>
    if monitor.opened fd = none then
      { monitor with
        opened := Function.update monitor.opened fd (some monitor.nextStream)
        nextStream := monitor.nextStream + 1 }
    else monitor

/-- What a callback may do. -/
inductive Act
  | monitor (fd : Fd) (callback hangup error : Bool) (priority : Nat)
  | forget (fd : Fd)
  | close (fd : Fd) (desc : StreamId)
  | openStream (fd : Fd)
  | raise (raised : Exc)

def Act.perform : Act → Action Unit
  | .monitor fd callback hangup error priority => Stream.monitor fd callback hangup error priority
  | .forget fd => Stream.forget fd
  | .close fd desc => Stream.close fd desc
  | .openStream fd => Stream.openStream fd
  | .raise raised => Exec.raise raised

def perform (acts : List Act) : Action Unit := Exec.forEach acts Act.perform

/-- What the callback and the error handler do when they are called; without a
callback there is data to be thrown away, which may fail as well. -/
structure Behaviour where
  callback : List Act := []
  handler : List Act := []
  read : Option Exc := none

/-- Call given error handler. -/
def errorHandler (registration : Registration) (behaviour : Behaviour) : Action Unit :=
  if registration.error then Exec.attempt (perform behaviour.handler) fun _ => pure ()
  else pure ()

def noteTriggered (fd : Fd) (event : Nat) (registration : Registration) : Action Unit :=
  Exec.modify fun monitor =>
    { monitor with triggered := monitor.triggered ++ [(fd, event, registration)] }

/-- Trigger a data callback for the given fd. -/
def triggerCallback (registration : Registration) (behaviour : Behaviour) : Action Unit :=
  Exec.attempt
    (if registration.callback then perform behaviour.callback
    else Exec.whenSome behaviour.read Exec.raise)
    fun _ => errorHandler registration behaviour

/-- Trigger hangup callback for the given fd. -/
def triggerHangup (fd : Fd) (registration : Registration) (behaviour : Behaviour) : Action Unit := do
  close fd registration.desc
  Exec.attempt
    (do
      forget fd
      Exec.when (registration.hangup = true) (perform behaviour.callback))
    fun _ => errorHandler registration behaviour

def pollIn : Nat := 1
def pollErr : Nat := 8
def pollHup : Nat := 16
def pollNval : Nat := 32

/-- Process an individual poll result. -/
def processPollResult (event : Nat) (fd : Fd) (registration : Registration)
    (behaviour : Behaviour) : Action Unit :=
  if event &&& pollNval ≠ 0 then Exec.raise (.assertionError s!"POLLNVAL on fd {fd}")
  else if event &&& pollIn ≠ 0 then do
    noteTriggered fd event registration
    triggerCallback registration behaviour
  else if event &&& (pollHup ||| pollErr) ≠ 0 then do
    noteTriggered fd event registration
    triggerHangup fd registration behaviour
  else Exec.raise (.assertionError s!"Unknown event type {event} on fd {fd}")

/-- The next result of a poll, if its descriptor is still monitored; an
exception ends the pass. -/
def processNext (behaviour : Behaviour) : Action Unit := do
  let monitor ← Exec.get
  match monitor.found with
  | [] => pure ()
  | (fd, event) :: rest => do
      Exec.modify fun monitor => { monitor with found := rest }
      match monitor.callbacks.get? fd with
      | none => pure ()
      | some registration =>
          Exec.attempt (processPollResult event fd registration behaviour) fun _ =>
            Exec.modify fun monitor => { monitor with found := [] }

/-- The parts of `event_loop`: the handlers that run before the poll, the poll
and the results it has found. -/
inductive Move
  | handlers (acts : List Act)
  | poll (fds : List (Fd × Nat))
  | process (behaviour : Behaviour)

/-- The poll finds descriptors that are registered with the poller, each once;
the results are gone through by priority. -/
def StreamMonitor.poll (monitor : StreamMonitor) (fds : List (Fd × Nat)) : StreamMonitor :=
  if monitor.found = [] ∧ (fds.map Prod.fst).Nodup ∧
      ∀ fd ∈ fds.map Prod.fst, fd ∈ monitor.poller then
    { monitor with
      found := fds.insertionSort fun first second =>
        monitor.fdPriority second.1 ≤ monitor.fdPriority first.1
      polled := monitor.callbacks
      triggered := [] }
  else monitor

def Move.step : Move → StreamMonitor → StreamMonitor
  | .handlers acts, monitor =>
      if monitor.found = [] then ((perform acts).run monitor).2 else monitor
  | .poll fds, monitor => monitor.poll fds
  | .process behaviour, monitor => ((processNext behaviour).run monitor).2

end Daq.Stream
