import ChannelFeed.Proofs.Feed.Claims

/-!
# How turns get at slots

A turn gets at a slot by what it has in hands, a call, a fetch or a claim, or by a key while the key leads to the slot.
It operates on no other slot.
-/
namespace ChannelFeed

open Cache

namespace World

section
variable (w : World)

/-- The slots that a turn gets at by what it has in hands. -/
def handles : Turn → List EntryId
  | .poll _ place => (w.calls[place]?).toList.map (·.2.entry)
  | .fly place => (w.flights[place]?).toList.map (·.claim.entry)
  | .command _ .restart => w.flights.map (·.claim.entry)
  | .command _ (.claim _ name) | .command _ (.settle name _) | .command _ (.dropClaim name) =>
    (w.claims.get? name).toList.map (·.entry)
  | .command _ (.look name) | .command _ (.mark name) | .command _ (.wait name _) => (w.entries.get? name).toList
  | .command _ (.claimKept kept name) =>
    (w.entries.get? kept).toList ++ (w.claims.get? name).toList.map (·.entry)
  | .command _ (.pollWait name) => (w.waits.get? name).toList.map (·.entry)
  | _ => []

/-- The cache and the key by which a turn gets at a slot. -/
def key? : Turn → Option (Nat × String)
  | .command _ (.channels number) | .command _ (.load number _) | .command _ (.refetch number _)
  | .command _ (.invalidate number) | .command _ (.notify number _) | .command _ (.subscribe number _) =>
    (w.feeds[number]?).map fun feed => (feed.cache, channelsKey)
  | .command _ (.cacheEntry cache key) | .command _ (.cacheInvalidate cache key) | .command _ (.keep cache key _) =>
    some (cache, key)
  | .command _ (.claim cache _) => some (cache, channelsKey)
  | _ => none

end

/-- A turn gets at a slot, in hands or by a key. -/
inductive Reaches (w : World) (turn : Turn) (entry : EntryId) : Prop where
  | handle : entry ∈ w.handles turn → Reaches w turn entry
  | key {cache : Nat} {key : String} : w.key? turn = some (cache, key) →
    (w.registry.getOrAdd cache key).1 = entry → Reaches w turn entry

variable {w : World} {entry : EntryId}

theorem entry_of_get? {feed : Feed} (leads : w.registry.get? feed.cache channelsKey = some entry) :
    w.entry feed = (entry, w) := by
  rw [entry_eq, Registry.getOrAdd, leads]

theorem getOrAdd_of_get? {cache : Nat} {key : String} (found : w.registry.get? cache key = some entry) :
    (w.registry.getOrAdd cache key).1 = entry := by
  rw [Registry.getOrAdd, found]

theorem reaches_of_mem_log {turn : Turn} {operation : Operation (List Channel)}
    (there : (entry, operation) ∈ w.log turn) : w.Reaches turn entry := by
  have keyed {number : Nat} {feed : Feed} (known : w.feeds[number]? = some feed) :
      (w.feeds[number]?).map (fun feed => (feed.cache, channelsKey)) = some (feed.cache, channelsKey) := by
    rw [known]
    rfl
  have looked {feed : Feed} (same : entry = (w.entry feed).1) :
      (w.registry.getOrAdd feed.cache channelsKey).1 = entry := by
    rw [same, entry_eq]
  have named {name : String} (given : (entry, operation) ∈ w.giveUpLog name) :
      entry ∈ (w.claims.get? name).toList.map (·.entry) := by
    obtain ⟨⟨claim, under, on⟩, -⟩ := mem_giveUpLog.mp given
    exact List.mem_map.mpr ⟨claim, Option.mem_toList.mpr under, on⟩
  cases turn with
  | poll inRuntime place =>
    unfold log at there
    dsimp only at there
    cases waiting : w.calls[place]? with
    | none =>
      rw [waiting] at there
      cases there
    | some pair =>
      rw [waiting] at there
      refine .handle ?_
      simp only [handles, waiting, Option.toList_some, List.map_cons, List.map_nil]
      exact List.mem_singleton.mpr (eq_claim_of_mem_log there).1
  | fly place =>
    unfold log at there
    dsimp only at there
    cases flying : w.flights[place]? with
    | none =>
      rw [flying] at there
      cases there
    | some f =>
      rw [flying] at there
      obtain ⟨fetched, -, ⟨⟩⟩ := List.mem_map.mp there
      refine .handle ?_
      simp only [handles, flying, Option.toList_some, List.map_cons, List.map_nil]
      exact List.mem_singleton.mpr rfl
  | command inRuntime command =>
    unfold log at there
    cases command with
    | restart =>
      obtain ⟨f, flies, ⟨⟩⟩ := List.mem_map.mp there
      exact .handle (List.mem_map_of_mem flies)
    | channels number | subscribe number name =>
      obtain ⟨feed, known, asked⟩ := mem_feedLog there
      exact .key (keyed known) (looked (mem_fetchLog.mp asked).2.1)
    | load number name =>
      obtain ⟨feed, known, polled⟩ := mem_feedLog there
      exact .key (keyed known) (looked (eq_claim_of_mem_log polled).1)
    | refetch number name =>
      obtain ⟨feed, known, done⟩ := mem_feedLog there
      rcases List.mem_cons.mp done with marked | polled
      · exact .key (keyed known) (looked (congrArg Prod.fst marked))
      · exact .key (keyed known) (looked (eq_claim_of_mem_log polled).1)
    | invalidate number =>
      obtain ⟨feed, known, marked⟩ := mem_feedLog there
      exact .key (keyed known) (getOrAdd_of_get? (mem_markLog.mp marked).1)
    | notify number trigger =>
      obtain ⟨feed, known, done⟩ := mem_feedLog there
      cases refreshed : w.refreshed? feed trigger with
      | none =>
        rw [refreshed] at done
        cases done
      | some found =>
        rw [refreshed] at done
        refine .key (keyed known) (getOrAdd_of_get? ?_)
        rcases List.mem_cons.mp done with marked | asked
        · cases marked
          exact (refreshed?_eq_some refreshed).1
        · rw [(mem_fetchLog.mp asked).2.1]
          exact (refreshed?_eq_some refreshed).1
    | cacheInvalidate cache key => exact .key rfl (getOrAdd_of_get? (mem_markLog.mp there).1)
    | claim cache name =>
      rcases mem_claimLog.mp there with ⟨same, -⟩ | ⟨-, given⟩
      · exact .key rfl same.symm
      · exact .handle (named given)
    | mark name =>
      obtain ⟨kept, known, marked⟩ := mem_of_mem_keptLog there
      cases List.mem_singleton.mp marked
      exact .handle (Option.mem_toList.mpr known)
    | claimKept under name =>
      obtain ⟨kept, known, claimed⟩ := mem_of_mem_keptLog there
      rcases mem_claimLog.mp claimed with ⟨rfl, -⟩ | ⟨-, given⟩
      · exact .handle (List.mem_append_left _ (Option.mem_toList.mpr known))
      · exact .handle (List.mem_append_right _ (named given))
    | settle name state =>
      obtain ⟨claim, under, ⟨⟩⟩ := List.mem_map.mp there
      exact .handle (List.mem_map.mpr ⟨claim, under, rfl⟩)
    | dropClaim name => exact .handle (named there)
    | _ => cases there

theorem cell_of_not_reaches (intact : w.Intact) {turn : Turn} (off : ¬w.Reaches turn entry) :
    (w.turn turn).registry.cell entry = w.registry.cell entry := by
  have none : (w.log turn).on entry = [] := by
    refine Log.on_eq_nil ?_
    rintro ⟨other, operation⟩ there rfl
    exact off (reaches_of_mem_log there)
  have done := intact.follows (keeps_turn intact turn) entry
  rw [none] at done
  exact done

end World

end ChannelFeed
