import ChannelFeed.Proofs.Sharing.Tables
import ChannelFeed.Proofs.Sharing.Keys

/-!
# One cache among many threads

Threads ask one cache for slots, each under a lock of its own: whoever asks for the slot of a key looks it up under one
lock and, if there is none, makes it under another, and others may do anything between the two. Still every query has
its effect at one moment between its call and its return, and in the order of these moments all threads together see one
table: the cache is linearizable.
-/
namespace ChannelFeed.Cache

variable {α : Type}

/-- The table of the keys of a cache. -/
def Directory.table (d : Directory) : Finmap fun _ : String => EntryId :=
  List.toFinmap (d.map fun pair => (⟨pair.1, pair.2⟩ : Sigma fun _ : String => EntryId))

theorem Directory.lookup_table (d : Directory) (key : String) : d.table.lookup key = d.get? key := by
  rw [Directory.table, Finmap.dlookup_list_toFinmap]
  induction d with
  | nil => rfl
  | cons pair d ih =>
    obtain ⟨other, entry⟩ := pair
    rw [Names.get?_cons, List.map_cons]
    by_cases same : key = other
    · subst same
      rw [if_pos rfl]
      exact List.dlookup_cons_eq ..
    · rw [if_neg same, ← ih]
      exact List.dlookup_cons_ne _ (⟨other, entry⟩ : Sigma fun _ : String => EntryId) same

/-- A table is as large as the list of its keys if each stands once. -/
theorem Directory.card_table {d : Directory} (distinct : d.Distinct) : d.table.keys.card = d.length := by
  have keys : d.table.keys = (d.map Prod.fst).toFinset := by
    ext key
    rw [Finmap.mem_keys, Directory.table, Finmap.mem_list_toFinmap, List.mem_toFinset]
    simp
  rw [keys, List.toFinset_card_of_nodup distinct, List.length_map]

/-- Where a thread is with its query. -/
inductive Thread where
  | idle
  | asked (query : Query)
  /-- It has found no slot for a key, and is about to make one. -/
  | missed (key : String)
  | answered (query : Query) (response : Response)
deriving DecidableEq

/-- What a thread does when it first gets the lock. -/
def Query.access (r : Registry α) (cache : Nat) : Query → Thread × Registry α
  | .entry key =>
    match r.get? cache key with
    | some there => (.answered (.entry key) (.entry there), r)
    | none => (.missed key, r)
  | .get key => (.answered (.get key) (.found (r.get? cache key)), r)
  | .remove key =>
    let (known, r) := r.remove cache key
    (.answered (.remove key) (.flag known), r)
  | .clear => (.answered .clear .done, r.clear cache)
  | .size => (.answered .size (.size (r.size cache)), r)

/-- What happens to a thread. -/
inductive Event where
  | called (thread : Nat) (query : Query)
  /-- It gets the lock and does what it has to do under it. -/
  | locked (thread : Nat)
  | returned (thread : Nat) (query : Query) (response : Response)

/-- Any number of threads, and the slots and caches that they share. -/
structure Crowd (α : Type) where
  registry : Registry α
  threads : Nat → Thread

namespace Crowd

def start (caches : Nat) : Crowd α := ⟨.empty caches, fun _ => .idle⟩

def put (s : Crowd α) (thread : Nat) (next : Thread) : Crowd α :=
  { s with threads := fun other => if other = thread then next else s.threads other }

/-- What an event makes of the threads and of what they share. There is no result if it cannot happen. -/
def step (cache : Nat) (s : Crowd α) : Event → Option (Crowd α)
  | .called thread query =>
    match s.threads thread with
    | .idle => some (s.put thread (.asked query))
    | _ => none
  | .locked thread =>
    match s.threads thread with
    | .asked query =>
      let (next, registry) := query.access s.registry cache
      some ({ s with registry }.put thread next)
    | .missed key =>
      let (entry, registry) := s.registry.getOrAdd cache key
      some ({ s with registry }.put thread (.answered (.entry key) (.entry entry)))
    | _ => none
  | .returned thread query response =>
    if s.threads thread = .answered query response then some (s.put thread .idle) else none

/-- Lets the events of a run happen, the newest of which comes first in the list. -/
def run (cache : Nat) (s : Crowd α) : List Event → Option (Crowd α)
  | [] => some s
  | event :: past => (s.run cache past).bind (·.step cache event)

variable {s t : Crowd α} {cache : Nat} {past : List Event}

theorem run_cons {event : Event} :
    s.run cache (event :: past) = some t ↔ ∃ m, s.run cache past = some m ∧ m.step cache event = some t := by
  simp [run, Option.bind_eq_some_iff]

/-- A thread that nobody interrupts does under its two locks what looking the slot up does in one go. -/
theorem run_entry {thread : Nat} {key : String} (asked : s.threads thread = .asked (.entry key)) :
    ∃ locks, (locks = [.locked thread] ∨ locks = [.locked thread, .locked thread]) ∧ ∃ t, s.run cache locks = some t ∧
      t.registry = (s.registry.entry cache key).2 ∧
      t.threads thread = .answered (.entry key) (.entry (s.registry.entry cache key).1) := by
  unfold Registry.entry
  cases found : s.registry.get? cache key with
  | some entry =>
    have once : s.run cache [.locked thread] = some (s.put thread (.answered (.entry key) (.entry entry))) := by
      simp [run, step, asked, Query.access, found]
    exact ⟨_, .inl rfl, _, once, rfl, if_pos rfl⟩
  | none =>
    have twice : s.run cache [.locked thread, .locked thread] =
        some (put { s.put thread (.missed key) with registry := (s.registry.getOrAdd cache key).2 } thread
          (.answered (.entry key) (.entry (s.registry.getOrAdd cache key).1))) := by
      simp [run, step, asked, Query.access, found, put]
    exact ⟨_, .inr rfl, _, twice, rfl, if_pos rfl⟩

end Crowd

namespace Registry

variable {r : Registry α} {cache : Nat} {key : String}

/-- The keys of one cache and all slots, as one who is alone with them sees them. -/
def table (r : Registry α) (cache : Nat) : Table := ⟨(r.directory cache).table, Finset.range r.cells.length⟩

/-- There is such a cache, and each of its keys stands once. -/
structure Tidy (r : Registry α) (cache : Nat) : Prop where
  known : cache < r.caches.length
  distinct : (r.directory cache).Distinct

theorem lookup_table (r : Registry α) (cache : Nat) (key : String) :
    (r.table cache).keys.lookup key = r.get? cache key := (r.directory cache).lookup_table key

theorem tidy_empty {caches : Nat} (known : cache < caches) : (empty caches : Registry α).Tidy cache := by
  refine ⟨(List.length_replicate (n := caches)).symm ▸ known, ?_⟩
  simp [directory, empty, known, Names.Distinct]

theorem directory_modify {cells : List (Cell α)} {f : Directory → Directory} (known : cache < r.caches.length) :
    (⟨cells, r.caches.modify cache f⟩ : Registry α).directory cache = f (r.directory cache) := by
  simp [directory, known]

namespace Tidy

theorem of_modify (tidy : r.Tidy cache) {cells : List (Cell α)} {f : Directory → Directory}
    (distinct : (f (r.directory cache)).Distinct) : (⟨cells, r.caches.modify cache f⟩ : Registry α).Tidy cache :=
  ⟨(List.length_modify f r.caches cache).symm ▸ tidy.known, (directory_modify tidy.known).symm ▸ distinct⟩

/-- A key leads to its slot, or to a new one that is put under it. -/
theorem getOrAdd (tidy : r.Tidy cache) (key : String) :
    (r.getOrAdd cache key).2.Tidy cache ∧
      (r.table cache).Gives (.entry key, .entry (r.getOrAdd cache key).1) ((r.getOrAdd cache key).2.table cache) := by
  unfold Registry.getOrAdd
  cases found : r.get? cache key with
  | some entry => exact ⟨tidy, .known ((r.lookup_table cache key).trans found)⟩
  | none =>
    have missing : (r.directory cache).get? key = none := found
    have added : ((r.directory cache) ++ [(key, r.cells.length)] : Directory).table =
        (r.directory cache).table.insert key r.cells.length := by
      refine Finmap.ext_lookup fun other => ?_
      rw [Directory.lookup_table, Names.get?_append, Names.get?_cons]
      by_cases same : other = key
      · subst same
        rw [missing, if_pos rfl, Finmap.lookup_insert]
        rfl
      · rw [if_neg same, Finmap.lookup_insert_of_ne _ same, Directory.lookup_table]
        exact Option.or_none
    refine ⟨tidy.of_modify ?_, ?_⟩
    · have put := tidy.distinct.put key r.cells.length
      rw [Names.put, Names.erase_eq_self_of_get?_eq_none missing] at put
      exact put
    · have now : table ⟨r.cells ++ [Cell.fresh], r.caches.modify cache (· ++ [(key, r.cells.length)])⟩ cache =
          ⟨(r.table cache).keys.insert key r.cells.length, insert r.cells.length (r.table cache).made⟩ := by
        simp only [table, directory_modify tidy.known, added, List.length_append, List.length_singleton,
          Finset.range_add_one]
      rw [now]
      exact .new ((r.lookup_table cache key).trans found) Finset.notMem_range_self

theorem remove (tidy : r.Tidy cache) (key : String) :
    (r.remove cache key).2.Tidy cache ∧
      (r.table cache).Gives (.remove key, .flag (r.remove cache key).1) ((r.remove cache key).2.table cache) := by
  have removed : Directory.table ((r.directory cache).erase key) = (r.directory cache).table.erase key := by
    refine Finmap.ext_lookup fun other => ?_
    rw [Directory.lookup_table, Names.get?_erase]
    by_cases same : other = key
    · subst same
      rw [if_pos rfl, Finmap.lookup_erase]
    · rw [if_neg same, Finmap.lookup_erase_ne same, Directory.lookup_table]
  have now : (r.remove cache key).2.table cache = { r.table cache with keys := (r.table cache).keys.erase key } := by
    simp only [table, Registry.remove, directory_modify tidy.known]
    exact congrArg (Table.mk · _) removed
  rw [now]
  refine ⟨tidy.of_modify (tidy.distinct.erase key), ?_⟩
  rw [Registry.remove, ← r.lookup_table cache key]
  exact .remove key

theorem clear (tidy : r.Tidy cache) :
    (r.clear cache).Tidy cache ∧ (r.table cache).Gives (.clear, .done) ((r.clear cache).table cache) := by
  have now : (r.clear cache).table cache = { r.table cache with keys := ∅ } := by
    simp only [table, Registry.clear, directory_modify tidy.known]
    rfl
  rw [now]
  exact ⟨tidy.of_modify List.nodup_nil, .clear⟩

theorem size (tidy : r.Tidy cache) : (r.table cache).Gives (.size, .size (r.size cache)) (r.table cache) := by
  have card : (r.table cache).keys.keys.card = r.size cache := Directory.card_table tidy.distinct
  rw [← card]
  exact .size

/-- What a thread does when it first gets the lock has the effect of its query, unless it finds no slot for a key. -/
theorem access (tidy : r.Tidy cache) (query : Query) :
    (query.access r cache).2.Tidy cache ∧
      ((∃ key, query = .entry key ∧ query.access r cache = (.missed key, r)) ∨
        ∃ response, (query.access r cache).1 = .answered query response ∧
          (r.table cache).Gives (query, response) ((query.access r cache).2.table cache)) := by
  cases query with
  | entry key =>
    simp only [Query.access]
    cases found : r.get? cache key with
    | some entry => exact ⟨tidy, .inr ⟨_, rfl, .known ((r.lookup_table cache key).trans found)⟩⟩
    | none => exact ⟨tidy, .inl ⟨key, rfl, rfl⟩⟩
  | get key => exact ⟨tidy, .inr ⟨_, rfl, .get (r.lookup_table cache key)⟩⟩
  | remove key => exact ⟨(tidy.remove key).1, .inr ⟨_, rfl, (tidy.remove key).2⟩⟩
  | clear => exact ⟨tidy.clear.1, .inr ⟨_, rfl, tidy.clear.2⟩⟩
  | size => exact ⟨tidy, .inr ⟨_, rfl, tidy.size⟩⟩

end Tidy

end Registry

/-- What is seen of a thread, and when its query has its effect. -/
inductive Moment where
  | called (thread : Nat) (query : Query)
  | effect (thread : Nat) (x : Effect)
  | returned (thread : Nat) (query : Query) (response : Response)

namespace Moment

def thread : Moment → Nat
  | .called thread _ | .effect thread _ | .returned thread _ _ => thread

def effect? : Moment → Option Effect
  | .effect _ x => some x
  | _ => none

end Moment

def Event.seen? : Event → Option Moment
  | .called thread query => some (.called thread query)
  | .locked _ => none
  | .returned thread query response => some (.returned thread query response)

/-- How a thread looks from outside. -/
def Thread.outside : Thread → Thread
  | .missed key => .asked (.entry key)
  | thread => thread

/-- A thread calls, its query has an effect, and it returns with the response that belongs to the effect; then it may
call again. This is how far it has come. -/
inductive InTurn (thread : Nat) : List Moment → Thread → Prop where
  | start : InTurn thread [] .idle
  | called {past : List Moment} (query : Query) : InTurn thread past .idle →
    InTurn thread (.called thread query :: past) (.asked query)
  | effect {past : List Moment} {query : Query} (response : Response) : InTurn thread past (.asked query) →
    InTurn thread (.effect thread (query, response) :: past) (.answered query response)
  | returned {past : List Moment} {query : Query} {response : Response} :
    InTurn thread past (.answered query response) →
    InTurn thread (.returned thread query response :: past) .idle
  | other {past : List Moment} {state : Thread} {moment : Moment} : moment.thread ≠ thread →
    InTurn thread past state → InTurn thread (moment :: past) state

/-- The moments at which queries have their effects, in between what is seen of a run that led to a crowd: every effect
stands between the call and the return of its thread, and all of them together are those of one table. -/
structure Linearizes (cache : Nat) (past : List Event) (s : Crowd α) (moments : List Moment) : Prop where
  seen : moments.filter (·.effect?.isNone) = past.filterMap Event.seen?
  inTurn : ∀ thread, InTurn thread moments (s.threads thread).outside
  table : Table.Runs (moments.filterMap Moment.effect?) (s.registry.table cache)

namespace Linearizes

variable {s t : Crowd α} {cache : Nat} {past : List Event} {moments : List Moment} {thread : Nat}

theorem inTurn_put (linearizes : Linearizes cache past s moments) {registry : Registry α} {moment : Moment}
    {next : Thread} (mine : moment.thread = thread) (goes : InTurn thread (moment :: moments) next.outside)
    (other : Nat) :
    InTurn other (moment :: moments) ((Crowd.put { s with registry } thread next).threads other).outside := by
  unfold Crowd.put
  by_cases same : other = thread
  · subst same
    simp only [if_pos]
    exact goes
  · simp only [if_neg same]
    exact .other (fun equal => same (equal.symm.trans mine)) (linearizes.inTurn other)

theorem called (linearizes : Linearizes cache past s moments) {thread : Nat} {query : Query}
    (happens : s.step cache (.called thread query) = some t) :
    t.registry = s.registry ∧
      Linearizes cache (.called thread query :: past) t (.called thread query :: moments) := by
  simp only [Crowd.step] at happens
  cases state : s.threads thread with
  | idle =>
    rw [state] at happens
    cases happens
    have before := linearizes.inTurn thread
    rw [state] at before
    refine ⟨rfl, ?_, ?_, linearizes.table⟩
    · exact congrArg (Moment.called thread query :: ·) linearizes.seen
    · exact linearizes.inTurn_put rfl (.called query before)
  | _ =>
    rw [state] at happens
    cases happens

theorem returned (linearizes : Linearizes cache past s moments) {thread : Nat} {query : Query} {response : Response}
    (happens : s.step cache (.returned thread query response) = some t) :
    t.registry = s.registry ∧
      Linearizes cache (.returned thread query response :: past) t (.returned thread query response :: moments) := by
  simp only [Crowd.step, Option.ite_none_right_eq_some] at happens
  obtain ⟨state, ⟨⟩⟩ := happens
  have before := linearizes.inTurn thread
  rw [state] at before
  refine ⟨rfl, ?_, ?_, linearizes.table⟩
  · exact congrArg (Moment.returned thread query response :: ·) linearizes.seen
  · exact linearizes.inTurn_put rfl (.returned before)

theorem effect (linearizes : Linearizes cache past s moments) {thread : Nat} {registry : Registry α} {query : Query}
    {response : Response} (asked : (s.threads thread).outside = .asked query)
    (gives : (s.registry.table cache).Gives (query, response) (registry.table cache)) :
    Linearizes cache (.locked thread :: past) (Crowd.put { s with registry } thread (.answered query response))
      (.effect thread (query, response) :: moments) := by
  have before := linearizes.inTurn thread
  rw [asked] at before
  exact ⟨linearizes.seen, linearizes.inTurn_put rfl (.effect response before), .next linearizes.table gives⟩

/-- An access that finds no slot to look up is not seen from outside. -/
theorem misses (linearizes : Linearizes cache past s moments) {thread : Nat} {key : String}
    (state : s.threads thread = .asked (.entry key)) :
    Linearizes cache (.locked thread :: past) (s.put thread (.missed key)) moments := by
  refine ⟨linearizes.seen, fun other => ?_, linearizes.table⟩
  have before := linearizes.inTurn other
  unfold Crowd.put
  by_cases same : other = thread
  · subst same
    rw [state] at before
    simp only [if_pos]
    exact before
  · simp only [if_neg same]
    exact before

theorem locked (linearizes : Linearizes cache past s moments) (tidy : s.registry.Tidy cache) {thread : Nat}
    (happens : s.step cache (.locked thread) = some t) :
    t.registry.Tidy cache ∧ ∃ moments', Linearizes cache (.locked thread :: past) t moments' := by
  simp only [Crowd.step] at happens
  cases state : s.threads thread with
  | asked query =>
    rw [state] at happens
    cases happens
    obtain ⟨kept, ⟨key, rfl, missed⟩ | ⟨response, answered, gives⟩⟩ := tidy.access query
    · rw [missed]
      exact ⟨tidy, moments, linearizes.misses state⟩
    · rw [answered]
      exact ⟨kept, _, linearizes.effect (congrArg Thread.outside state) gives⟩
  | missed key =>
    rw [state] at happens
    cases happens
    obtain ⟨kept, gives⟩ := tidy.getOrAdd key
    exact ⟨kept, _, linearizes.effect (congrArg Thread.outside state) gives⟩
  | _ =>
    rw [state] at happens
    cases happens

theorem step (linearizes : Linearizes cache past s moments) (tidy : s.registry.Tidy cache) {event : Event}
    (happens : s.step cache event = some t) :
    t.registry.Tidy cache ∧ ∃ moments', Linearizes cache (event :: past) t moments' := by
  cases event with
  | called thread query =>
    obtain ⟨same, extended⟩ := linearizes.called happens
    exact ⟨same ▸ tidy, _, extended⟩
  | returned thread query response =>
    obtain ⟨same, extended⟩ := linearizes.returned happens
    exact ⟨same ▸ tidy, _, extended⟩
  | locked thread => exact linearizes.locked tidy happens

theorem run {caches : Nat} (known : cache < caches) (ran : (Crowd.start caches).run cache past = some t) :
    t.registry.Tidy cache ∧ ∃ moments, Linearizes cache past t moments := by
  induction past generalizing t with
  | nil =>
    cases ran
    refine ⟨Registry.tidy_empty known, [], rfl, fun thread => .start, ?_⟩
    have nothing : (Registry.empty caches : Registry α).table cache = Table.empty := by
      simp [Registry.table, Registry.directory, Registry.empty, Table.empty, known, Directory.table]
    change Table.Runs [] ((Registry.empty caches : Registry α).table cache)
    rw [nothing]
    exact .start
  | cons event past ih =>
    obtain ⟨m, earlier, happens⟩ := Crowd.run_cons.mp ran
    obtain ⟨tidy, moments, linearizes⟩ := ih earlier
    exact linearizes.step tidy happens

end Linearizes

/-- What follows for the slots that queries are handed, the newest effect being the first. -/
structure Coherent (effects : List Effect) : Prop where
  /-- Between two removals of a key, all who ask for it once it has a slot are handed that slot. -/
  same : ∀ later between x earlier key entry, effects = later ++ between ++ x :: earlier → x.Hands key entry →
    (∀ y ∈ between, y.1.removes key = false) → ∀ y ∈ between, y.1.asksFor key = true → y.Hands key entry
  /-- A slot whose key is removed is not handed out any more, for whatever key. -/
  gone : ∀ later y earlier x key entry, effects = later ++ y :: earlier → y.1.removes key = true → x ∈ earlier →
    x.Hands key entry → ∀ z ∈ later, ∀ other, ¬z.Hands other entry
  /-- Different keys do not share a slot. -/
  apart : ∀ x ∈ effects, ∀ y ∈ effects, ∀ key key' entry, x.Hands key entry → y.Hands key' entry → key = key'

theorem Table.Runs.coherent {effects : List Effect} {t : Table} (runs : Table.Runs effects t) : Coherent effects where
  same := by
    rintro later between x earlier key entry rfl hands kept
    rw [List.append_assoc] at runs
    obtain ⟨t, before⟩ := runs.earlier
    exact (before.same_between hands kept).2
  gone := by
    rintro later y earlier x key entry rfl removes there hands
    exact (runs.never_again removes there hands).2
  apart := runs.owns.apart

/-- Whatever threads ask of one cache, and however the accesses are mixed that they make under its lock, there is for each
query a moment between its call and its return such that the responses are those which one table gives to the queries in
the order of these moments. So all who ask for a key between two removals of it are handed one slot, a slot whose key was
removed is not handed out any more, and different keys do not share a slot. -/
theorem cache_is_linearizable {caches cache : Nat} (known : cache < caches) {past : List Event} {s : Crowd α}
    (ran : (Crowd.start caches).run cache past = some s) :
    ∃ moments, Linearizes cache past s moments ∧ Coherent (moments.filterMap Moment.effect?) := by
  obtain ⟨-, moments, linearizes⟩ := Linearizes.run known ran
  exact ⟨moments, linearizes, linearizes.table.coherent⟩

/-- Two threads find no slot for a key before either makes one, and are handed the same. After the cache is cleared the
key leads to a new slot. -/
def bothMiss : List Event :=
  [.returned 0 (.entry "channels") (.entry 1), .locked 0, .locked 0, .called 0 (.entry "channels"),
    .returned 1 (.entry "channels") (.entry 0), .returned 0 .clear .done, .locked 0, .called 0 .clear,
    .returned 0 (.entry "channels") (.entry 0), .locked 1, .locked 0, .locked 1, .locked 0,
    .called 1 (.entry "channels"), .called 0 (.entry "channels")]

theorem linearizable_if_both_miss :
    ∃ s : Crowd Nat, (Crowd.start 1).run 0 bothMiss = some s ∧ s.registry.get? 0 "channels" = some 1 ∧
      ∃ moments, Linearizes 0 bothMiss s moments ∧ Coherent (moments.filterMap Moment.effect?) := by
  have ran : (Crowd.start 1 : Crowd Nat).run 0 bothMiss = some _ := rfl
  exact ⟨_, ran, rfl, cache_is_linearizable Nat.one_pos ran⟩

end ChannelFeed.Cache
