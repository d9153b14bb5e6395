import Daq.Lib.Reach

namespace Daq.Cloud

/-! A config that is registered in the cloud: the document that users edit, the
snapshots of it on their way to the runner, and the handlers that the main loop
works off.  Documents, deliveries and handlers each take steps of their own. -/

variable {γ τ : Type}

structure Definition (γ τ : Type) where
  config : γ
  saved : τ
  timestamp : τ
deriving DecidableEq

/-- What `_on_snapshot` queues. -/
structure Handler (γ τ : Type) where
  immediate : Bool
  snapshot : Definition γ τ
deriving DecidableEq

/-- The document and the runner's side of it.  `unseen` are the versions of the
document that the current subscription has not delivered, `update` is what the
running handler still has to write, and `applied` is the config that was last
registered or handed to a callback.  The last three are history only: the configs
that were put into the document, the ones that callbacks were given, and whether
handlers were dropped since the last change of the config. -/
structure Channel (γ τ : Type) where
  document : Option (Definition γ τ)
  subscription : Option Bool
  unseen : List (Definition γ τ)
  callbackQueue : List (Handler γ τ)
  callbacks : List (Handler γ τ)
  update : Option τ
  applied : γ
  writes : List (γ × τ)
  calls : List (γ × τ)
  dropped : Bool
deriving DecidableEq

namespace Channel

def initial (config : γ) : Channel γ τ where
  document := none
  subscription := none
  unseen := []
  callbackQueue := []
  callbacks := []
  update := none
  applied := config
  writes := []
  calls := []
  dropped := false

/-- Register a config blob with callback. -/
def registerConfig (channel : Channel γ τ) (config : γ) (timestamp : τ) (immediate : Bool) :
    Channel γ τ :=
  { channel with
    document := some ⟨config, timestamp, timestamp⟩
    subscription := some immediate
    unseen := [⟨config, timestamp, timestamp⟩]
    applied := config
    writes := channel.writes ++ [(config, timestamp)]
    dropped := false }

/-- Release a config blob and remove it from the live data system. -/
def releaseConfig (channel : Channel γ τ) : Channel γ τ :=
  { channel with
    document := none
    subscription := none
    unseen := [] }

/-- A new version of the document, which a subscription will see. -/
def put (channel : Channel γ τ) (definition : Definition γ τ) : Channel γ τ :=
  { channel with
    document := some definition
    unseen := if channel.subscription.isSome then channel.unseen ++ [definition]
      else channel.unseen }

/-- A user saves an edit. -/
def pushConfigChange (channel : Channel γ τ) (config : γ) (timestamp : τ) : Channel γ τ :=
  match channel.document with
  | none => channel
  | some definition =>
      { channel.put { definition with config, timestamp } with
        writes := channel.writes ++ [(config, timestamp)]
        dropped := false }

/-- A version is delivered, perhaps in place of earlier ones. -/
def onSnapshot (channel : Channel γ τ) (skipped : Nat) : Channel γ τ :=
  match channel.subscription, channel.unseen.drop skipped with
  | some immediate, snapshot :: rest =>
      { channel with
        unseen := rest
        callbackQueue := channel.callbackQueue ++ [⟨immediate, snapshot⟩] }
  | _, _ => channel

/-- The stream of snapshots broke and is opened anew. -/
def restartCallback (channel : Channel γ τ) : Channel γ τ :=
  match channel.subscription, channel.document with
  | some _, some definition => { channel with unseen := [definition] }
  | _, _ => channel

/-- The main loop takes all that is queued, once it is done with what it had. -/
def handleQueuedEvents (channel : Channel γ τ) : Channel γ τ :=
  if channel.callbacks = [] ∧ channel.update.isNone then
    { channel with callbacks := channel.callbackQueue, callbackQueue := [] }
  else channel

variable [DecidableEq τ]

def Handler.Calls (handler : Handler γ τ) : Prop :=
  handler.immediate = true ∨ handler.snapshot.saved ≠ handler.snapshot.timestamp

instance (handler : Handler γ τ) : Decidable (Handler.Calls handler) :=
  inferInstanceAs (Decidable (_ ∨ _))

/-- The next handler runs up to its update. -/
def callBack (channel : Channel γ τ) : Channel γ τ :=
  match channel.update, channel.callbacks with
  | none, handler :: rest =>
      if Handler.Calls handler then
        { channel with
          callbacks := rest
          update := some handler.snapshot.timestamp
          applied := handler.snapshot.config
          calls := channel.calls ++ [(handler.snapshot.config, handler.snapshot.timestamp)] }
      else { channel with callbacks := rest }
  | _, _ => channel

/-- The callback of the next handler raises, before or after it took the config
over, and the main loop drops all that it had taken. -/
def failBack (channel : Channel γ τ) (late : Bool) : Channel γ τ :=
  match channel.update, channel.callbacks with
  | none, handler :: _ =>
      if Handler.Calls handler then
        { channel with
          callbacks := []
          applied := if late then handler.snapshot.config else channel.applied
          calls := channel.calls ++ [(handler.snapshot.config, handler.snapshot.timestamp)]
          dropped := true }
      else channel
  | _, _ => channel

/-- The running handler writes its update, which raises when the document is
gone. -/
def save (channel : Channel γ τ) : Channel γ τ :=
  match channel.update, channel.document with
  | some timestamp, some definition =>
      if definition.saved = timestamp then { channel with update := none }
      else { channel.put { definition with saved := timestamp } with update := none }
  | some _, none => { channel with update := none, callbacks := [], dropped := true }
  | none, _ => channel

end Channel

inductive Command (γ τ : Type)
  | register (config : γ) (timestamp : τ) (immediate : Bool)
  | release
  | edit (config : γ) (timestamp : τ)
  | deliver (skipped : Nat)
  | restart
  | take
  | call
  | fail (late : Bool)
  | save

variable [DecidableEq τ]

def Command.step (command : Command γ τ) (channel : Channel γ τ) : Channel γ τ :=
  match command with
  | .register config timestamp immediate => channel.registerConfig config timestamp immediate
  | .release => channel.releaseConfig
  | .edit config timestamp => channel.pushConfigChange config timestamp
  | .deliver skipped => channel.onSnapshot skipped
  | .restart => channel.restartCallback
  | .take => channel.handleQueuedEvents
  | .call => channel.callBack
  | .fail late => channel.failBack late
  | .save => channel.save

/-- No two configs are put into the document with the same timestamp. -/
def Command.Fresh (channel : Channel γ τ) : Command γ τ → Prop
  | .register _ timestamp _ => timestamp ∉ channel.writes.map Prod.snd
  | .edit _ timestamp => timestamp ∉ channel.writes.map Prod.snd
  | _ => True

instance (channel : Channel γ τ) (command : Command γ τ) : Decidable (command.Fresh channel) :=
  match command with
  | .register _ timestamp _ =>
      inferInstanceAs (Decidable (timestamp ∉ channel.writes.map Prod.snd))
  | .edit _ timestamp => inferInstanceAs (Decidable (timestamp ∉ channel.writes.map Prod.snd))
  | .release | .deliver _ | .restart | .take | .call | .fail _ | .save => .isTrue trivial

/-- The states of a channel, from a config that the runner has. -/
def Reached (config : γ) : Channel γ τ → Prop :=
  Reaches Command.step (fun channel command => command.Fresh channel) (.initial config)

/-- Nothing is on its way. -/
structure Channel.Quiet (channel : Channel γ τ) : Prop where
  unseen : channel.unseen = []
  callbackQueue : channel.callbackQueue = []
  callbacks : channel.callbacks = []
  update : channel.update = none

end Daq.Cloud
