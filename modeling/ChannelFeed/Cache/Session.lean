import ChannelFeed.Cache.Receiver
import ChannelFeed.Names

/-!
# Sessions

A session drives one cache by commands. It keeps what the commands hand out under names of its own: slots
that were looked up, claims, receivers and waits. A name that is used again drops what was there before.
-/

namespace ChannelFeed.Cache

inductive Command (α : Type) where
  /-- Looks a slot up, which is made if there is none. -/
  | entry (key name : String)
  | get (key name : String)
  | invalidate (key : String)
  | remove (key : String)
  | clear
  | size
  /-- Whether two names are those of one slot. -/
  | same (a b : String)
  | claim (entry name : String)
  | settle (claim : String) (state : FetchState α)
  | dropClaim (claim : String)
  | markStale (entry : String)
  | snapshot (entry : String)
  | state (entry : String)
  | dropEntry (entry : String)
  | subscribe (entry name : String)
  | hasChanged (receiver : String)
  | changed (receiver : String)
  | borrow (receiver : String)
  | update (receiver : String)
  | wait (entry name : String)
  | poll (wait : String)
  | dropWait (wait : String)

inductive Answer (α : Type) where
  | nothing
  | flag (b : Bool)
  | slot (s : Slot α)
  | size (n : Nat)
  | generation (n : Nat)
  | state (s : FetchState α)
  | news (n : News)
  | pending
  | closed
  /-- The command uses a name that leads to nothing. -/
  | noHandle

structure Session (α : Type) where
  registry : Registry α
  entries : Names EntryId
  claims : Names Claim
  receivers : Names Receiver
  waits : Names Wait

namespace Session

variable {α : Type}

/-- An empty cache, of which nothing is in anyone's hands. -/
def start : Session α := ⟨.empty 1, [], [], [], []⟩

/-- Whether anyone is left who could publish a version of the slot: the cache, or someone who holds the
slot, a claim on it or a wait for it. -/
def isOwned (s : Session α) (entry : EntryId) : Bool :=
  s.registry.isListed entry || s.entries.things.contains entry ||
    s.claims.things.any (·.entry == entry) || s.waits.things.any (·.entry == entry)

def giveUp (s : Session α) (name : String) : Session α :=
  match s.claims.get? name with
  | some claim => { s with registry := s.registry.release claim, claims := s.claims.erase name }
  | none => s

def withHandle {β : Type} (s : Session α) (handle : Option β)
    (f : β → Answer α × Session α) : Answer α × Session α :=
  match handle with
  | some x => f x
  | none => (.noHandle, s)

/-- Polls a wait. A slot is the answer and ends the wait; otherwise the wait is kept under the name. -/
def pollWait (s : Session α) (name : String) (w : Wait) (finish : Session α → Session α) :
    Answer α × Session α :=
  match w.poll s.registry with
  | .done slot => (.slot slot, finish s)
  | .pending w => (.pending, { s with waits := s.waits.put name w })

def step (s : Session α) : Command α → Answer α × Session α
  | .entry key name =>
    let (entry, registry) := s.registry.entry 0 key
    (.slot (registry.slot entry), { s with registry, entries := s.entries.put name entry })
  | .get key name =>
    match s.registry.get? 0 key with
    | some entry => (.slot (s.registry.slot entry), { s with entries := s.entries.put name entry })
    | none => (.nothing, s)
  | .invalidate key =>
    let (known, registry) := s.registry.invalidate 0 key
    (.flag known, { s with registry })
  | .remove key =>
    let (known, registry) := s.registry.remove 0 key
    (.flag known, { s with registry })
  | .clear => (.nothing, { s with registry := s.registry.clear 0 })
  | .size => (.size (s.registry.size 0), s)
  | .same a b =>
    s.withHandle (s.entries.get? a) fun a =>
      s.withHandle (s.entries.get? b) fun b => (.flag (a == b), s)
  | .claim entry name =>
    s.withHandle (s.entries.get? entry) fun entry =>
      match s.registry.claim? entry with
      | none => (.flag false, s)
      | some (claim, registry) =>
        let s := giveUp { s with registry } name
        (.flag true, { s with claims := s.claims.put name claim })
  | .settle claim state =>
    s.withHandle (s.claims.get? claim) fun c =>
      (.nothing, { s with registry := s.registry.settle c state, claims := s.claims.erase claim })
  | .dropClaim claim => s.withHandle (s.claims.get? claim) fun _ => (.nothing, s.giveUp claim)
  | .markStale entry =>
    s.withHandle (s.entries.get? entry) fun entry =>
      let (generation, registry) := s.registry.markStale entry
      (.generation generation, { s with registry })
  | .snapshot entry =>
    s.withHandle (s.entries.get? entry) fun entry => (.slot (s.registry.slot entry), s)
  | .state entry =>
    s.withHandle (s.entries.get? entry) fun entry => (.state (s.registry.slot entry).state, s)
  | .dropEntry entry =>
    s.withHandle (s.entries.get? entry) fun _ => (.nothing, { s with entries := s.entries.erase entry })
  | .subscribe entry name =>
    s.withHandle (s.entries.get? entry) fun entry =>
      (.nothing, { s with receivers := s.receivers.put name (.subscribe s.registry entry) })
  | .hasChanged receiver =>
    s.withHandle (s.receivers.get? receiver) fun rx =>
      (if s.isOwned rx.entry then .flag (rx.isBehind s.registry) else .closed, s)
  | .changed receiver =>
    s.withHandle (s.receivers.get? receiver) fun rx =>
      let (news, rx) := rx.poll s.registry (s.isOwned rx.entry)
      (.news news, { s with receivers := s.receivers.put receiver rx })
  | .borrow receiver =>
    s.withHandle (s.receivers.get? receiver) fun rx => (.slot (s.registry.slot rx.entry), s)
  | .update receiver =>
    s.withHandle (s.receivers.get? receiver) fun rx =>
      (.slot (s.registry.slot rx.entry),
        { s with receivers := s.receivers.put receiver (rx.caughtUp s.registry) })
  | .wait entry name =>
    s.withHandle (s.entries.get? entry) fun entry => s.pollWait name (.start entry) id
  | .poll wait =>
    s.withHandle (s.waits.get? wait) fun w =>
      s.pollWait wait w fun s => { s with waits := s.waits.erase wait }
  | .dropWait wait =>
    s.withHandle (s.waits.get? wait) fun _ => (.nothing, { s with waits := s.waits.erase wait })

/-- Carries out commands in turn and collects the answers. -/
def run (s : Session α) : List (Command α) → List (Answer α)
  | [] => []
  | command :: rest =>
    let (answer, s) := s.step command
    answer :: s.run rest

end Session

end ChannelFeed.Cache
