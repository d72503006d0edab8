import ChannelFeed.Proofs.Feed.CallAccess
import ChannelFeed.Proofs.Feed.Turns
import ChannelFeed.Proofs.Sharing.Replay

/-!
# Logs

What is done to slots in the turns of a world, one operation after the other.
-/
namespace ChannelFeed

open Cache

namespace Call

/-- What a call does to its slot with its next access. -/
def operations (inRuntime : Bool) (c : Call) : Log (List Channel) :=
  match c.phase with
  | .starting | .retrying _ => if inRuntime then [(c.entry, .claim)] else []
  | .waiting _ | .checking _ => []

/-- What a call does to its slot in one poll. -/
def log (inRuntime : Bool) (c : Call) (r : Registry (List Channel)) : Nat → Log (List Channel)
  | 0 => []
  | n + 1 =>
    c.operations inRuntime ++
      match (c.access inRuntime r).1 with
      | .going next => next.log inRuntime (c.access inRuntime r).2.2 n
      | .blocked _ | .settled _ => []

end Call

namespace World

section
variable (w : World)

/-- What is done to slots for a feed that is known by a number. -/
def feedLog (number : Nat) (log : Feed → Log (List Channel)) : Log (List Channel) :=
  match w.feeds[number]? with
  | some feed => log feed
  | none => []

/-- A fetch is to be started by whoever is able to. -/
def fetchLog (inRuntime : Bool) (entry : EntryId) : Log (List Channel) := if inRuntime then [(entry, .claim)] else []

/-- The slot of a key is marked stale if there is one. -/
def markLog (cache : Nat) (key : String) : Log (List Channel) :=
  (w.registry.get? cache key).toList.map fun entry => (entry, .mark)

/-- The claim under a name is given up if there is one. -/
def giveUpLog (name : String) : Log (List Channel) :=
  (w.claims.get? name).toList.map fun claim => (claim.entry, .release)

/-- A claim on a slot is asked for by hand. If it is granted, the one that was under its name is given up. -/
def claimLog (entry : EntryId) (name : String) : Log (List Channel) :=
  (entry, .claim) :: if (w.registry.slot entry).canClaim then w.giveUpLog name else []

/-- What is done to a slot that is known by a name. -/
def keptLog (name : String) (log : EntryId → Log (List Channel)) : Log (List Channel) :=
  match w.entries.get? name with
  | some entry => log entry
  | none => []

/-- The slot that a notification refreshes: that of the channels, if the feed heeds the trigger and something is known.
-/
def refreshed? (feed : Feed) (trigger : Trigger) : Option EntryId :=
  if feed.options.allows trigger then
    match w.registry.get? feed.cache channelsKey with
    | some entry => if (w.registry.slot entry).state.isPending then none else some entry
    | none => none
  else none

def commandLog (inRuntime : Bool) : Command → Log (List Channel)
  | .restart => w.flights.map fun f => (f.claim.entry, .release)
  | .channels number | .subscribe number _ => w.feedLog number fun feed => fetchLog inRuntime (w.entry feed).1
  | .load number _ => w.feedLog number fun feed =>
    (Call.load feed (w.entry feed).1).log inRuntime (w.entry feed).2.registry maxAccesses
  | .refetch number _ => w.feedLog number fun feed =>
    let (entry, w) := w.entry feed
    let (generation, registry) := w.registry.markStale entry
    (entry, .mark) :: (Call.refetch feed entry generation).log inRuntime registry maxAccesses
  | .invalidate number => w.feedLog number fun feed => w.markLog feed.cache channelsKey
  | .notify number trigger => w.feedLog number fun feed =>
    match w.refreshed? feed trigger with
    | some entry => (entry, .mark) :: fetchLog inRuntime entry
    | none => []
  | .cacheInvalidate cache key => w.markLog cache key
  | .claim cache name =>
    let (entry, registry) := w.registry.getOrAdd cache channelsKey
    claimLog { w with registry } entry name
  | .settle name state => (w.claims.get? name).toList.map fun claim => (claim.entry, .settle claim.generation state)
  | .dropClaim name => w.giveUpLog name
  | .mark name => w.keptLog name fun entry => [(entry, .mark)]
  | .claimKept kept name => w.keptLog kept fun entry => w.claimLog entry name
  | _ => []

/-- What is done to slots in a turn, the first operation coming first. -/
def log : Turn → Log (List Channel)
  | .command inRuntime command => w.commandLog inRuntime command
  | .poll inRuntime place =>
    match w.calls[place]? with
    | some (_, c) => c.log inRuntime w.registry maxAccesses
    | none => []
  | .fly place =>
    match w.flights[place]? with
    | some f =>
      (f.advance w.isHolding w.network).1.fetched?.toList.map fun fetched =>
        (f.claim.entry, .settle f.claim.generation (ChannelState.ofFetch fetched))
    | none => []

def logs (w : World) : List Turn → Log (List Channel)
  | [] => []
  | turn :: rest => w.log turn ++ (w.turn turn).logs rest

end

variable {w : World} {inRuntime : Bool} {entry : EntryId} {feed : Feed} {trigger : Trigger}

theorem refreshed?_eq_some (refreshed : w.refreshed? feed trigger = some entry) :
    w.registry.get? feed.cache channelsKey = some entry ∧ (w.registry.slot entry).state.isPending = false := by
  unfold refreshed? at refreshed
  split at refreshed
  · split at refreshed
    · next found leads =>
      rw [Option.ite_none_left_eq_some, Option.some.injEq] at refreshed
      obtain ⟨known, rfl⟩ := refreshed
      exact ⟨leads, Bool.eq_false_iff.mpr known⟩
    · cases refreshed
  · cases refreshed

theorem notify_eq (w : World) (inRuntime : Bool) (feed : Feed) (trigger : Trigger) :
    w.notify inRuntime feed trigger =
      match w.refreshed? feed trigger with
      | none => (false, w)
      | some entry => startFetch { w with registry := (w.registry.markStale entry).2 } inRuntime feed entry := by
  unfold notify refreshed?
  cases feed.options.allows trigger with
  | false => rfl
  | true =>
    cases w.registry.get? feed.cache channelsKey with
    | none => rfl
    | some entry =>
      simp only [Bool.not_true, Bool.false_eq_true, if_false, if_true]
      split <;> rfl

theorem mem_feedLog {number : Nat} {log : Feed → Log (List Channel)} {operation : Operation (List Channel)}
    (there : (entry, operation) ∈ w.feedLog number log) :
    ∃ feed, w.feeds[number]? = some feed ∧ (entry, operation) ∈ log feed := by
  unfold feedLog at there
  split at there
  · next feed known => exact ⟨feed, known, there⟩
  · cases there

theorem mem_fetchLog {asked : EntryId} {operation : Operation (List Channel)} :
    (entry, operation) ∈ fetchLog inRuntime asked ↔ inRuntime = true ∧ entry = asked ∧ operation = .claim := by
  rw [fetchLog]
  split <;> simp [*]

theorem mem_markLog {cache : Nat} {key : String} {operation : Operation (List Channel)} :
    (entry, operation) ∈ w.markLog cache key ↔ w.registry.get? cache key = some entry ∧ operation = .mark := by
  simp only [markLog, List.mem_map, Option.mem_toList, Prod.mk.injEq]
  constructor
  · rintro ⟨found, leads, rfl, rfl⟩
    exact ⟨leads, rfl⟩
  · rintro ⟨leads, rfl⟩
    exact ⟨entry, leads, rfl, rfl⟩

theorem mem_giveUpLog {name : String} {operation : Operation (List Channel)} :
    (entry, operation) ∈ w.giveUpLog name ↔
      (∃ claim, w.claims.get? name = some claim ∧ claim.entry = entry) ∧ operation = .release := by
  simp only [giveUpLog, List.mem_map, Option.mem_toList, Prod.mk.injEq]
  constructor
  · rintro ⟨claim, under, on, rfl⟩
    exact ⟨⟨claim, under, on⟩, rfl⟩
  · rintro ⟨⟨claim, under, on⟩, rfl⟩
    exact ⟨claim, under, on, rfl⟩

theorem mem_claimLog {asked : EntryId} {name : String} {operation : Operation (List Channel)} :
    (entry, operation) ∈ w.claimLog asked name ↔
      entry = asked ∧ operation = .claim ∨
        (w.registry.slot asked).canClaim = true ∧ (entry, operation) ∈ w.giveUpLog name := by
  rw [claimLog, List.mem_cons, Prod.mk.injEq, List.mem_ite_nil_right]

theorem mem_of_mem_keptLog {name : String} {log : EntryId → Log (List Channel)} {operation : Operation (List Channel)}
    (there : (entry, operation) ∈ w.keptLog name log) :
    ∃ kept, w.entries.get? name = some kept ∧ (entry, operation) ∈ log kept := by
  unfold keptLog at there
  split at there
  · next kept known => exact ⟨kept, known, there⟩
  · cases there

/-- All that a call does to slots is to ask for the right to fetch its own. -/
theorem eq_claim_of_mem_log {c : Call} {r : Registry (List Channel)} {n : Nat} {operation : Operation (List Channel)}
    (there : (entry, operation) ∈ c.log inRuntime r n) : entry = c.entry ∧ operation = .claim := by
  induction n generalizing c r with
  | zero => cases there
  | succ n ih =>
    rw [Call.log, List.mem_append] at there
    rcases there with first | later
    · unfold Call.operations at first
      split at first
      · exact (mem_fetchLog.mp first).2
      · exact (mem_fetchLog.mp first).2
      · cases first
      · cases first
    · cases progress : (c.access inRuntime r).1 with
      | going next =>
        rw [progress] at later
        obtain ⟨own, asks⟩ := ih later
        exact ⟨own.trans (Call.same_access (congrArg Call.Progress.polled progress)).2.1, asks⟩
      | blocked next =>
        rw [progress] at later
        cases later
      | settled state =>
        rw [progress] at later
        cases later

end World

end ChannelFeed
