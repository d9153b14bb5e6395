import Mathlib.Data.List.Basic
import Daq.Data
import Daq.Lib.History

namespace Daq.TestNetwork

/-! The network that the hosts of a run are attached to.  Nodes are referred to
by number, and each host has at most one link to the primary switch. -/

abbrev NodeId := Nat

/-- An interface at the primary switch: the node at its other end and its name. -/
structure Intf where
  peer : NodeId
  name : String
deriving DecidableEq

structure Link where
  intf1 : Intf
  node2 : NodeId
deriving DecidableEq

structure Switch where
  intfs : Dict Nat Intf := .empty
  ports : Dict Intf Nat := .empty
  nameToIntf : Dict String Intf := .empty

structure Network where
  hosts : List NodeId
  links : List Link
  switchLinks : Dict NodeId Link
  pri : Switch
  next : NodeId

/-- What the calls that one `add_host` makes come to; a call that may be tried
again has an answer for each try. -/
structure Answers where
  addHost : Except Exc Unit := .ok ()
  addLink : Nat → Except Exc (Nat × String)
  described : Except Exc Unit := .ok ()
  built : Bool
  configDefault : Except Exc Unit := .ok ()
  attach : Nat → Except Exc Unit := fun _ => .ok ()
  vsctl : Except Exc Unit := .ok ()
  terminate : Except Exc Unit := .ok ()

/-- The first of three tries that returns, or what the last one raises. -/
def retryFunc {α : Type} (func : Nat → Except Exc α) : Except Exc α :=
  match func 1 with
  | .ok value => .ok value
  | .error _ =>
      match func 2 with
      | .ok value => .ok value
      | .error _ => func 3

/-- What `addHost` does to the network. -/
def Network.withHost (network : Network) : Network :=
  { network with hosts := network.hosts ++ [network.next], next := network.next + 1 }

/-- What `addLink` does to the network and its primary switch. -/
def Network.withLink (network : Network) (link : Link) (port : Nat) : Network :=
  { network with
    links := network.links ++ [link]
    pri := {
      intfs := network.pri.intfs.insert port link.intf1
      ports := network.pri.ports.insert link.intf1 port
      nameToIntf := network.pri.nameToIntf.insert link.intf1.name link.intf1 } }

def linkTo (host : NodeId) (name : String) : Link := ⟨⟨host, name⟩, host⟩

def switchAttach (answers : Answers) : Exec Network Exc Unit := do
  .ofExcept (retryFunc answers.attach)
  .ofExcept answers.vsctl

def attachHost (answers : Answers) (host : NodeId) : Exec Network Exc Unit := do
  let made ← .ofExcept (retryFunc answers.addLink)
  .modify (·.withLink (linkTo host made.2) made.1)
  .ofExcept answers.described
  .modify fun network =>
    { network with switchLinks := network.switchLinks.insert host (linkTo host made.2) }
  .when (answers.built = true) do
    .ofExcept answers.configDefault
    switchAttach answers

def addHost (answers : Answers) : Exec Network Exc NodeId := do
  .ofExcept answers.addHost
  let host ← .read Network.next
  .modify Network.withHost
  .attempt (attachHost answers host) fun raised => do
    .ofExcept answers.terminate
    .raise raised
  pure host

def switchDelIntf (intf : Intf) : Exec Switch Exc Unit := do
  let switch ← .get
  match switch.ports.get? intf with
  | none => .raise (.keyError intf.name)
  | some port => do
      .require (port ∈ switch.intfs.keys) (.keyError (toString port))
      .modify fun switch => { switch with intfs := switch.intfs.erase port }
      .modify fun switch => { switch with ports := switch.ports.erase intf }
      .require (intf.name ∈ switch.nameToIntf.keys) (.keyError intf.name)
      .modify fun switch => { switch with nameToIntf := switch.nameToIntf.erase intf.name }

/-- Take the link of a host away, where it has one. -/
def unlink (host : NodeId) : Exec Network Exc Unit := do
  let network ← .get
  .whenSome (network.switchLinks.get? host) fun link => do
    .modify fun network => { network with switchLinks := network.switchLinks.erase host }
    .zoom Network.pri (fun pri network => { network with pri := pri }) (switchDelIntf link.intf1)
    .require (link ∈ network.links) (.valueError "list.index(x): x not in list")
    .modify fun network => { network with links := network.links.eraseIdx (network.links.idxOf link) }

/-- `if index` does not hold of the host at the front. -/
def removeHost (host : NodeId) : Exec Network Exc Unit := do
  let network ← .get
  .require (host ∈ network.hosts) (.valueError (toString host ++ " is not in list"))
  .when (network.hosts.idxOf host ≠ 0)
    (.modify fun network => { network with hosts := network.hosts.eraseIdx (network.hosts.idxOf host) })
  unlink host

/-! Runs, with the hosts that calls have returned and those of them that have
not been removed. -/

/-- A host is removed by its place among those that have been returned. -/
inductive Event
  | add (answers : Answers)
  | remove (place : Nat)

structure System where
  network : Network
  added : List NodeId := []
  present : List NodeId := []

def System.step (system : System) : Event → System
  | .add answers =>
      match (addHost answers).run system.network with
      | (.ok host, reached) =>
          ⟨reached, system.added ++ [host], system.present ++ [host]⟩
      | (.error _, reached) => { system with network := reached }
  | .remove place =>
      match system.added[place]? with
      | none => system
      | some host =>
          { system with
            network := ((removeHost host).run system.network).2
            present := system.present.filter (· ≠ host) }

def System.run (system : System) (events : List Event) : System :=
  events.foldl System.step system

/-- A network without hosts, whose links join nodes that are there. -/
structure Start where
  links : List Link := []
  pri : Switch := {}
  next : NodeId
  older : ∀ link ∈ links, link.node2 < next

def Start.system (start : Start) : System where
  network := {
    hosts := []
    links := start.links
    switchLinks := .empty
    pri := start.pri
    next := start.next }

/-- The hosts, their links at the primary switch, and the links behind those
that were there from the start are those of the hosts that are present. -/
structure Exactly (start : Start) (system : System) : Prop where
  hosts : system.network.hosts = system.present
  switchLinks : system.network.switchLinks.keys = system.present
  links : system.network.links = start.links ++ system.network.switchLinks.values
  own : ∀ host link, system.network.switchLinks.get? host = some link → link.node2 = host

/-! The condition. -/

/-- Once there is a host nothing fails. -/
structure Answers.Smooth (answers : Answers) : Prop where
  linked : ∃ made, retryFunc answers.addLink = .ok made
  described : answers.described = .ok ()
  configured : answers.built = true → answers.configDefault = .ok () ∧
    retryFunc answers.attach = .ok () ∧ answers.vsctl = .ok ()

/-- The switch still has the interface at its port and by its name. -/
def Switch.Has (switch : Switch) (intf : Intf) : Prop :=
  ∃ port, switch.ports.get? intf = some port ∧ port ∈ switch.intfs.keys ∧
    intf.name ∈ switch.nameToIntf.keys

/-- The host is not the one at the front, and the interface of its link is
there to be deleted. -/
structure Network.Removable (network : Network) (host : NodeId) : Prop where
  behind : network.hosts.head? ≠ some host
  intf : ∀ link, network.switchLinks.get? host = some link → network.pri.Has link.intf1

def System.Sound (system : System) : Event → Prop
  | .add answers => answers.addHost = .ok () → answers.Smooth
  | .remove place => ∀ host, system.added[place]? = some host → system.network.Removable host

/-! What the two operations do where the condition is met. -/

section Operations

variable {network : Network} {host : NodeId} {answers : Answers} {port : Nat} {name : String}

/-- The network with a new host that is linked. -/
def Network.attached (network : Network) (port : Nat) (name : String) : Network :=
  { network.withHost.withLink (linkTo network.next name) port with
    switchLinks := network.switchLinks.insert network.next (linkTo network.next name) }

theorem attachHost_run (smooth : answers.Smooth)
    (linked : retryFunc answers.addLink = .ok (port, name)) :
    (attachHost answers host).run network =
      (.ok (), { network.withLink (linkTo host name) port with
        switchLinks := network.switchLinks.insert host (linkTo host name) }) := by
  rw [attachHost, linked, smooth.described]
  cases built : answers.built with
  | false => rfl
  | true =>
      obtain ⟨configured, attached, opened⟩ := smooth.configured built
      rw [switchAttach, configured, attached, opened]
      rfl

theorem addHost_run (added : answers.addHost = .ok ()) (smooth : answers.Smooth)
    (linked : retryFunc answers.addLink = .ok (port, name)) :
    (addHost answers).run network = (.ok network.next, network.attached port name) := by
  have attempted : (Exec.attempt (attachHost answers network.next) fun raised => do
      Exec.ofExcept answers.terminate
      Exec.raise raised).run network.withHost = (.ok (), network.attached port name) := by
    rw [Exec.attempt]
    dsimp only
    rw [attachHost_run smooth linked]
    rfl
  rw [addHost, added, Exec.bind_run_ok (Exec.ofExcept_run (.ok ()) network), Exec.read_bind_run,
    Exec.modify_bind_run, Exec.bind_run_ok attempted]
  rfl

theorem addHost_run_error {raised : Exc} (failed : answers.addHost = .error raised) :
    (addHost answers).run network = (.error raised, network) := by
  rw [addHost, failed]
  rfl

theorem switchDelIntf_run {switch : Switch} {intf : Intf} (there : switch.Has intf) :
    ∃ reached, (switchDelIntf intf).run switch = (.ok (), reached) := by
  obtain ⟨port, assigned, used, named⟩ := there
  rw [switchDelIntf, Exec.get_bind_run, assigned]
  dsimp only
  rw [Exec.require_bind_run _ _ used, Exec.modify_bind_run, Exec.modify_bind_run,
    Exec.require_bind_run _ _ named]
  exact ⟨_, rfl⟩

theorem unlink_run {link : Link} (linked : network.switchLinks.get? host = some link)
    (there : network.pri.Has link.intf1) (inside : link ∈ network.links) :
    ∃ pri, (unlink host).run network =
      (.ok (), { network with
        switchLinks := network.switchLinks.erase host
        pri := pri
        links := network.links.erase link }) := by
  obtain ⟨pri, deleted⟩ := switchDelIntf_run there
  have zoomed : (Exec.zoom Network.pri (fun pri network => { network with pri := pri })
      (switchDelIntf link.intf1)).run
        { network with switchLinks := network.switchLinks.erase host } =
      (.ok (), { network with switchLinks := network.switchLinks.erase host, pri := pri }) := by
    rw [Exec.zoom]
    dsimp only
    rw [deleted]
  refine ⟨pri, ?_⟩
  rw [unlink, Exec.get_bind_run, linked, Exec.whenSome, Exec.modify_bind_run,
    Exec.bind_run_ok zoomed, Exec.require_bind_run _ _ (by exact inside), Exec.modify_run]
  dsimp only
  rw [List.eraseIdx_idxOf_eq_erase]

theorem removeHost_run {link : Link} (listed : host ∈ network.hosts)
    (removable : network.Removable host) (linked : network.switchLinks.get? host = some link)
    (inside : link ∈ network.links) :
    ∃ pri, (removeHost host).run network =
      (.ok (), { network with
        hosts := network.hosts.erase host
        switchLinks := network.switchLinks.erase host
        pri := pri
        links := network.links.erase link }) := by
  have later : network.hosts.idxOf host ≠ 0 := by
    intro front
    apply removable.behind
    have found := List.getElem?_idxOf listed
    rwa [front, ← List.head?_eq_getElem?] at found
  have unlinked : ∃ pri, (unlink host).run { network with hosts := network.hosts.erase host } =
      (.ok (), { network with
        hosts := network.hosts.erase host
        switchLinks := network.switchLinks.erase host
        pri := pri
        links := network.links.erase link }) :=
    unlink_run linked (removable.intf link linked) inside
  obtain ⟨pri, unlinked⟩ := unlinked
  refine ⟨pri, ?_⟩
  rw [removeHost, Exec.get_bind_run, Exec.require_bind_run _ _ listed, Exec.when, if_pos later,
    Exec.modify_bind_run, List.eraseIdx_idxOf_eq_erase]
  exact unlinked

theorem removeHost_run_unlisted (unlisted : host ∉ network.hosts) :
    ((removeHost host).run network).2 = network := by
  rw [removeHost, Exec.get_bind_run, Exec.require_bind_run_not _ _ unlisted]

end Operations

/-! A sound step keeps the registry exact, and so does a run of them. -/

section Runs

variable {start : Start} {system : System}

/-- The registry is exact, and its hosts are younger than what was there from
the start and older than what is to come. -/
structure Kept (start : Start) (system : System) : Prop extends Exactly start system where
  grown : start.next ≤ system.network.next
  young : ∀ host ∈ system.present, start.next ≤ host
  old : ∀ host ∈ system.present, host < system.network.next

theorem kept_start (start : Start) : Kept start start.system where
  hosts := rfl
  switchLinks := rfl
  links := (List.append_nil _).symm
  own _ _ linked := by cases linked
  grown := le_rfl
  young _ none := absurd none List.not_mem_nil
  old _ none := absurd none List.not_mem_nil

theorem Kept.present_nodup (kept : Kept start system) : system.present.Nodup :=
  kept.switchLinks ▸ system.network.switchLinks.nodup

theorem Kept.exists_link {host : NodeId} (kept : Kept start system)
    (member : host ∈ system.present) :
    ∃ link, system.network.switchLinks.get? host = some link :=
  Dict.mem_keys_iff.mp (kept.switchLinks ▸ member)

theorem Kept.attached (kept : Kept start system) (port : Nat) (name : String) (added : List NodeId) :
    Kept start ⟨system.network.attached port name, added,
      system.present ++ [system.network.next]⟩ := by
  have fresh : system.network.next ∉ system.network.switchLinks.keys := by
    rw [kept.switchLinks]
    exact fun member => lt_irrefl _ (kept.old _ member)
  have entries := Dict.entries_insert_of_absent fresh (linkTo system.network.next name)
  constructor
  · constructor
    · exact congrArg (· ++ [system.network.next]) kept.hosts
    · rw [← kept.switchLinks]
      change ((system.network.switchLinks.insert _ _).entries).map Prod.fst = _
      rw [entries, List.map_append]
      rfl
    · change system.network.links ++ [_] =
        start.links ++ ((system.network.switchLinks.insert _ _).entries).map Prod.snd
      rw [entries, List.map_append, kept.links, List.append_assoc]
      rfl
    · exact Dict.forall_get?_insert kept.own rfl
  · exact kept.grown.trans (Nat.le_succ _)
  · intro host member
    cases List.mem_append.mp member with
    | inl before => exact kept.young host before
    | inr new => exact List.mem_singleton.mp new ▸ kept.grown
  · intro host member
    apply Nat.lt_succ_of_le
    cases List.mem_append.mp member with
    | inl before => exact (kept.old host before).le
    | inr new => exact (List.mem_singleton.mp new).le

theorem Kept.erase_links {host : NodeId} {link : Link} (kept : Kept start system)
    (member : host ∈ system.present)
    (linked : system.network.switchLinks.get? host = some link) :
    system.network.links.erase link =
      start.links ++ (system.network.switchLinks.erase host).values := by
  obtain ⟨before, behind, split⟩ := List.append_of_mem (Dict.get?_eq_some_iff.mp linked)
  have elsewhere : link ∉ start.links := by
    intro inside
    have young := kept.young host member
    rw [← kept.own host link linked] at young
    exact absurd (start.older link inside) (Nat.not_lt_of_le young)
  have distinct : host ∉ before.map Prod.fst := by
    have nodup := system.network.switchLinks.nodup
    rw [split, List.map_append, List.map_cons, List.nodup_middle, List.nodup_cons] at nodup
    exact fun early => nodup.1 (List.mem_append_left _ early)
  have early : link ∉ before.map Prod.snd := by
    intro inside
    obtain ⟨entry, inside, same⟩ := List.mem_map.mp inside
    have listed : entry ∈ system.network.switchLinks.entries :=
      split ▸ List.mem_append_left _ inside
    have own := kept.own entry.1 entry.2 (Dict.get?_eq_some_iff.mpr listed)
    rw [same, kept.own host link linked] at own
    exact distinct (own ▸ List.mem_map_of_mem inside)
  rw [kept.links, List.erase_append_right _ elsewhere, Dict.values, Dict.values,
    Dict.entries_erase_middle split, split, List.map_append, List.map_append, List.map_cons,
    List.erase_append_right _ early, List.erase_cons_head]

theorem Kept.removed {host : NodeId} {link : Link} (kept : Kept start system)
    (member : host ∈ system.present)
    (linked : system.network.switchLinks.get? host = some link) (pri : Switch) :
    Kept start { system with
      network := { system.network with
        hosts := system.network.hosts.erase host
        switchLinks := system.network.switchLinks.erase host
        pri := pri
        links := system.network.links.erase link }
      present := system.present.filter (· ≠ host) } := by
  constructor
  · constructor
    · dsimp only
      rw [kept.hosts, kept.present_nodup.erase_eq_filter]
      apply List.filter_congr
      intro other _
      exact Bool.eq_iff_iff.mpr (by simp)
    · dsimp only
      rw [← kept.switchLinks, Dict.keys, Dict.keys, Dict.erase, List.filter_map]
      rfl
    · exact kept.erase_links member linked
    · intro other found linked
      dsimp only at linked
      rw [Dict.get?_erase] at linked
      split at linked
      · cases linked
      · exact kept.own other found linked
  · exact kept.grown
  · exact fun other inside => kept.young other (List.mem_of_mem_filter inside)
  · exact fun other inside => kept.old other (List.mem_of_mem_filter inside)

theorem Kept.step_add {answers : Answers} (kept : Kept start system)
    (sound : system.Sound (.add answers)) : Kept start (system.step (.add answers)) := by
  rw [System.step]
  cases added : answers.addHost with
  | error raised =>
      rw [addHost_run_error added]
      exact kept
  | ok _ =>
      have smooth := sound added
      obtain ⟨⟨port, name⟩, linked⟩ := smooth.linked
      rw [addHost_run added smooth linked]
      exact kept.attached port name _

theorem Kept.step_remove {place : Nat} (kept : Kept start system)
    (sound : system.Sound (.remove place)) : Kept start (system.step (.remove place)) := by
  rw [System.step]
  cases returned : system.added[place]? with
  | none => exact kept
  | some host =>
      dsimp only
      by_cases member : host ∈ system.present
      · obtain ⟨link, linked⟩ := kept.exists_link member
        have inside : link ∈ system.network.links := by
          rw [kept.links]
          exact List.mem_append_right _
            (List.mem_map_of_mem (Dict.get?_eq_some_iff.mp linked))
        obtain ⟨pri, ran⟩ := removeHost_run (kept.hosts ▸ member) (sound host returned) linked inside
        rw [ran]
        exact kept.removed member linked pri
      · rw [removeHost_run_unlisted (kept.hosts ▸ member), List.filter_eq_self.mpr]
        · exact kept
        · exact fun other inside => decide_eq_true fun same => member (same ▸ inside)

theorem Kept.step {event : Event} (kept : Kept start system) (sound : system.Sound event) :
    Kept start (system.step event) := by
  cases event with
  | add answers => exact kept.step_add sound
  | remove place => exact kept.step_remove sound

theorem Kept.run {events : List Event} (kept : Kept start system)
    (sound : History.Always (fun before event => (system.run before).Sound event) events) :
    Kept start (system.run events) := by
  induction events generalizing system with
  | nil => exact kept
  | cons event rest induction =>
      rw [History.always_cons] at sound
      exact induction (kept.step sound.1) sound.2

theorem exactly_of_sound {events : List Event}
    (sound : History.Always (fun before event => (start.system.run before).Sound event) events) :
    Exactly start (start.system.run events) :=
  ((kept_start start).run sound).toExactly

end Runs

/-! A network with a link to the secondary switch, and two hosts. -/

namespace Trunk

def start : Start where
  links := [linkTo 0 "pri-eth1"]
  next := 1
  older := by
    intro link member
    cases List.mem_singleton.mp member
    exact Nat.zero_lt_one

def answers (port : Nat) (name : String) : Answers where
  addLink _ := .ok (port, name)
  built := true

def firstHost : Answers := answers 10 "pri-eth10"

def secondHost : Answers := answers 11 "pri-eth11"

theorem smooth (port : Nat) (name : String) : (answers port name).Smooth where
  linked := ⟨_, rfl⟩
  described := rfl
  configured _ := ⟨rfl, rfl, rfl⟩

theorem second_removed : Exactly start
    (start.system.run [.add firstHost, .add secondHost, .remove 1]) := by
  apply exactly_of_sound
  simp only [History.always_cons, History.always_nil, and_true]
  refine ⟨fun _ => smooth _ _, fun _ => smooth _ _, fun host returned => ?_⟩
  cases returned
  constructor
  · decide
  · intro link linked
    cases linked
    exact ⟨11, by decide, by decide, by decide⟩

example : (start.system.run
    [.add { firstHost with configDefault := .error (.exception "no such device") }]).network.hosts =
      [1] := by
  decide

/-- The host that was added first stays when it is removed. -/
theorem first_stays : ¬ Exactly start
    (start.system.run [.add firstHost, .add secondHost, .remove 0]) := by
  intro exactly
  have hosts := exactly.hosts
  revert hosts
  decide

end Trunk

end Daq.TestNetwork
