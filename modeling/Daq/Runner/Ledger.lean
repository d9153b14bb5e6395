import Daq.Host.Termination
import Daq.Lib.History
import Daq.Runner.Traffic
import Mathlib.Logic.Relation

namespace Daq

/-! What the histories of the target queue, the hosts, the gateways and the
ports are about, as a machine of its own: whatever the runner does consists of
the few writes below, each under the guard the runner makes it with. -/

structure Ledger where
  trail : List Happening
  queue : List DeviceId
  runTests : Bool
  sets : Finset SetNumber
  next : GatewayId
  native : Option GatewayId
  targets : GatewayId → Dict Mac DeviceId
  portSet : GatewayId → SetNumber
  flapping : PortId → Option Nat
  sessions : Dict Mac (List SessionItem)

/-- A device was finalized. -/
def Happening.Finalizes (happening : Happening) : Prop :=
  ∃ device failed, happening = .finalized device failed

namespace Ledger

/-- The last thing that happened. -/
def Ends (ledger : Ledger) (last : Happening) : Prop :=
  ∃ before, ledger.trail = before ++ [last]

/-- The device was activated, and no device was finalized since. -/
def Starting (ledger : Ledger) (device : DeviceId) : Prop :=
  History.Since (fun happening => ∃ popped waiting, happening = .activated device popped waiting)
    Happening.Finalizes ledger.trail

/-- The gateway is the native one, one that was just opened, or one with a
target, unless a device has it without being a target. -/
def Offers (ledger : Ledger) (gateway : GatewayId) (stray : Bool) : Prop :=
  ledger.native = some gateway ∨ ledger.Ends (.opened gateway) ∨
    (stray = false → (ledger.targets gateway).size ≠ 0)

/-- One write.  Sessions are only reaped of these MACs. -/
inductive Step (config : Config) (reaps : Mac → Prop) : Ledger → Ledger → Prop
  | suppress (ledger : Ledger) : Step config reaps ledger { ledger with runTests := false }
  | finalize (ledger : Ledger) (device : DeviceId) (failed : Bool)
      (suppressed : failed = true → config.failMode = true → ledger.runTests = false) :
      Step config reaps ledger
        { ledger with trail := ledger.trail ++ [.finalized device failed] }
  | trigger (ledger : Ledger) (device : DeviceId) (running : ledger.runTests = true)
      (unqueued : device ∉ ledger.queue) :
      Step config reaps ledger { ledger with
        trail := ledger.trail ++ [.triggered device, .activated device false ledger.queue] }
  | enqueue (ledger : Ledger) (device : DeviceId) (unqueued : device ∉ ledger.queue) :
      Step config reaps ledger { ledger with
        queue := ledger.queue ++ [device]
        trail := ledger.trail ++ [.triggered device, .queued device] }
  | consider (ledger : Ledger) (device : DeviceId) (rest : List DeviceId)
      (first : ledger.queue = device :: rest) :
      Step config reaps ledger { ledger with
        queue := rest
        trail := ledger.trail ++ [.activated device true rest] }
  | cancel (ledger : Ledger) (device : DeviceId) :
      Step config reaps ledger { ledger with
        queue := ledger.queue.erase device
        trail := ledger.trail ++ [.cancelled device] }
  | create (ledger : Ledger) (device : DeviceId) (starting : ledger.Starting device) :
      Step config reaps ledger { ledger with trail := ledger.trail ++ [.created device] }
  | openUp (ledger : Ledger) (set : SetNumber) (free : set ∈ ledger.sets) :
      Step config reaps ledger { ledger with
        sets := ledger.sets.erase set
        next := ledger.next + 1
        targets := Function.update ledger.targets ledger.next .empty
        portSet := Function.update ledger.portSet ledger.next set
        trail := ledger.trail ++ [.taken set, .opened ledger.next] }
  | giveBack (ledger : Ledger) (set : SetNumber) (free : set ∈ ledger.sets) :
      Step config reaps ledger { ledger with
        next := ledger.next + 1
        targets := Function.update ledger.targets ledger.next .empty
        portSet := Function.update ledger.portSet ledger.next set
        trail := ledger.trail ++ [.taken set, .returned set] }
  | attach (ledger : Ledger) (gateway : GatewayId) (device : DeviceId) (mac : Mac)
      (stray : Bool) (offered : ledger.Offers gateway stray) :
      Step config reaps ledger { ledger with
        targets := Function.update ledger.targets gateway
          ((ledger.targets gateway).insert mac device)
        trail := ledger.trail ++ [.attached gateway device stray] }
  | detach (ledger : Ledger) (gateway : GatewayId) (device : DeviceId) (mac : Mac)
      (present : (ledger.targets gateway).get? mac ≠ none) :
      Step config reaps ledger { ledger with
        targets := Function.update ledger.targets gateway ((ledger.targets gateway).erase mac)
        trail := ledger.trail ++
          [.detached gateway device ((ledger.targets gateway).erase mac).size] }
  | terminate (ledger : Ledger) (gateway : GatewayId) (device : DeviceId)
      (left : ledger.Ends (.detached gateway device 0))
      (empty : (ledger.targets gateway).size = 0) :
      Step config reaps ledger { ledger with trail := ledger.trail ++ [.terminated gateway] }
  | retire (ledger : Ledger) (gateway : GatewayId) (device : DeviceId)
      (left : ledger.Ends (.detached gateway device 0))
      (empty : (ledger.targets gateway).size = 0) :
      Step config reaps ledger { ledger with
        sets := insert (ledger.portSet gateway) ledger.sets
        trail := ledger.trail ++ [.terminated gateway, .returned (ledger.portSet gateway)] }
  | flap (ledger : Ledger) (info : PortId) (time : Nat) (note : Happening)
      (steady : ¬ Truthy (ledger.flapping info))
      (cause : note = .portDown info time ∨ note = .sessionEnded info time) :
      Step config reaps ledger { ledger with
        flapping := Function.update ledger.flapping info (some time)
        trail := ledger.trail ++ [note] }
  | settle (ledger : Ledger) (info : PortId) (value : Option Nat) (notes : List Happening)
      (steady : ¬ Truthy value)
      (cause : notes = [] ∨ notes = [.portUp info] ∨ notes = [.sessionStarted info]) :
      Step config reaps ledger { ledger with
        flapping := Function.update ledger.flapping info value
        trail := ledger.trail ++ notes }
  | reap (ledger : Ledger) (device : DeviceId) (info : PortId) (time timeoutSec : Nat)
      (flapping : Truthy (ledger.flapping info))
      (overdue : (ledger.flapping info).getD 0 + timeoutSec ≤ time) :
      Step config reaps ledger
        { ledger with trail := ledger.trail ++ [.reaped device info time timeoutSec] }
  | converse (ledger : Ledger) (sessions : Dict Mac (List SessionItem))
      (kept : ∀ mac, ledger.sessions.get? mac ≠ none → sessions.get? mac ≠ none) :
      Step config reaps ledger { ledger with sessions := sessions }
  | leave (ledger : Ledger) (mac : Mac) (reaped : reaps mac) :
      Step config reaps ledger { ledger with sessions := ledger.sessions.erase mac }

theorem firstSet_numbered : 1 ≤ 1 ∧ 1 ≤ maxGateways := by decide

/-- Nothing has happened, and every set number is free; the native gateway has
one all the same. -/
def initial (native : Bool) : Ledger where
  trail := []
  queue := []
  runTests := true
  sets := Finset.univ
  next := if native then 1 else 0
  native := if native then some 0 else none
  targets := fun _ => .empty
  portSet := fun _ => ⟨1, firstSet_numbered⟩
  flapping := fun _ => none
  sessions := .empty

end Ledger

def World.ledger (world : World) : Ledger where
  trail := world.trail
  queue := world.targetSetQueue
  runTests := world.runTests
  sets := world.gatewaySets
  next := world.nextGateway
  native := world.nativeGateway
  targets := fun gateway => (world.gateways gateway).targets
  portSet := fun gateway => (world.gateways gateway).portSet
  flapping := fun info => (world.portInfos info).flappingStart
  sessions := world.sessions

/-- From one state to the other the runner makes ledger writes only. -/
def posts (env : Env) (reaps : Mac → Prop) : Frame World where
  rel before after :=
    Relation.ReflTransGen (Ledger.Step env.config reaps) before.ledger after.ledger
  refl := fun _ => .refl
  trans := fun first second => first.trans second

end Daq
