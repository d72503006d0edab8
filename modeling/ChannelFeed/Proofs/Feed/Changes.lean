import ChannelFeed.Proofs.Feed.Claims
import ChannelFeed.Proofs.Feed.Polling
import Mathlib.Logic.Relation

/-!
# Changes

Every turn of a world is made of changes of few kinds. What each of them does to slots, claims, calls and owners is
said here once; what holds along all changes holds along all turns.
-/
namespace ChannelFeed

open Cache

/-- Whether a turn may end a claim, or is one by which a claim is taken or ended by hand. -/
def Turn.EndsClaims : Turn → Prop
  | .fly _ | .command _ .restart | .command _ (.claim _ _) | .command _ (.claimKept _ _) | .command _ (.settle _ _)
  | .command _ (.dropClaim _) => True
  | _ => False

namespace World

/-- Whether a turn can come to use a slot: the slot has an owner, or it was made in the turn, which began with so many
slots. -/
def Knows (w : World) (before : Nat) (entry : EntryId) : Prop := w.isOwned entry = true ∨ before ≤ entry

/-- One change of a world in a turn that began with so many slots, and that may end claims or not. -/
inductive Change (ends : Prop) (before : Nat) : World → World → Prop where
  | network {w : World} (network : Http.Network) (isHolding : Bool) : Change ends before w { w with network, isHolding }
  | add {w : World} (cache : Nat) (key : String) :
    Change ends before w { w with registry := (w.registry.getOrAdd cache key).2 }
  | remove {w : World} (cache : Nat) (key : String) :
    Change ends before w { w with registry := (w.registry.remove cache key).2 }
  | clear {w : World} (cache : Nat) : Change ends before w { w with registry := w.registry.clear cache }
  | mark {w : World} {entry : EntryId} : w.Knows before entry → entry < w.registry.cells.length →
    Change ends before w { w with registry := (w.registry.markStale entry).2 }
  | launch {w : World} {entry : EntryId} {claim : Claim} {registry : Registry (List Channel)} (feed : Feed) :
    w.Knows before entry → entry < w.registry.cells.length → w.registry.claim? entry = some (claim, registry) →
    Change ends before w (World.launch { w with registry } feed (some claim))
  | exchange {w : World} {flights : List Flight} : flights.map Flight.claim ⊆ w.flights.map Flight.claim →
    Change ends before w { w with flights }
  /-- Whoever is put in line waits for a fetch that is on its way. -/
  | line {w : World} {calls : List (String × Call)} :
    (∀ c ∈ calls, c ∈ w.calls ∨ w.Knows before c.2.entry ∧ c.2.Waits w.registry ∧
      (w.registry.slot c.2.entry).isFetching = true) →
    Change ends before w { w with calls }
  | hands {w : World} {entries : Names EntryId} {waits : Names Wait} :
    (∀ entry, isKept { w with entries, waits } entry = true → w.Knows before entry) →
    Change ends before w { w with entries, waits }
  | take {w : World} {entry : EntryId} {claim : Claim} {registry : Registry (List Channel)} {claims : Names Claim} :
    ends → w.Knows before entry → entry < w.registry.cells.length →
    w.registry.claim? entry = some (claim, registry) → (∀ c ∈ claims.things, c ∈ w.claims.things ∨ c = claim) →
    Change ends before w { w with registry, claims }
  /-- A claim that is held changes its slot and is let go. -/
  | finish {w : World} {claim : Claim} {f : Slot (List Channel) → Slot (List Channel)} {flights : List Flight}
    {claims : Names Claim} :
    ends → claim ∈ w.custody.claims → (∀ slot, slot.generation ≤ (f slot).generation) →
    flights.map Flight.claim ⊆ w.flights.map Flight.claim → claims.things ⊆ w.claims.things →
    Change ends before w { w with registry := w.registry.update claim.entry f, flights, claims }

abbrev Changes (ends : Prop) (before : Nat) : World → World → Prop := Relation.ReflTransGen (Change ends before)

variable {w w' : World} {ends : Prop} {before : Nat} {entry : EntryId}

theorem isOwned_eq_false : w.isOwned entry = false ↔ w.registry.isListed entry = false ∧ w.isKept entry = false ∧
    (∀ claim ∈ w.claims.things, claim.entry ≠ entry) ∧ (∀ claim ∈ w.flights.map Flight.claim, claim.entry ≠ entry) ∧
      ∀ c ∈ w.calls, c.2.entry ≠ entry := by
  simp [isOwned, and_assoc]

theorem isOwned_of_isKept (kept : w.isKept entry = true) : w.isOwned entry = true := by simp [isOwned, kept]

theorem isOwned_of_call {c : String × Call} (waiting : c ∈ w.calls) : w.isOwned c.2.entry = true := by
  simp only [isOwned, Bool.or_eq_true, List.any_eq_true]
  exact .inr ⟨c, waiting, beq_self_eq_true _⟩

/-! ## What a change does -/

namespace Change

/-- Slots are published anew or left as they are, and none is lost. -/
theorem precedes (change : Change ends before w w') (entry : EntryId) :
    (w.registry.cell entry).Precedes (w'.registry.cell entry) ∧ w.registry.cells.length ≤ w'.registry.cells.length := by
  have length (claimed : EntryId) (f : Slot (List Channel) → Slot (List Channel)) :
      w.registry.cells.length ≤ (w.registry.update claimed f).cells.length :=
    Nat.le_of_eq (Registry.length_update ..).symm
  cases change with
  | network => exact ⟨.refl _, Nat.le_refl _⟩
  | add cache key =>
    refine ⟨?_, w.registry.length_getOrAdd cache key⟩
    rw [show Registry.cell _ entry = w.registry.cell entry from w.registry.cell_getOrAdd cache key entry]
    exact .refl _
  | remove => exact ⟨.refl _, Nat.le_refl _⟩
  | clear => exact ⟨.refl _, Nat.le_refl _⟩
  | mark => exact ⟨w.registry.precedes_update _ entry (Nat.le_succ _), length _ _⟩
  | launch feed known made granted =>
    obtain ⟨-, -, rfl⟩ := Registry.claim?_eq_some.mp granted
    exact ⟨w.registry.precedes_update _ entry (Nat.le_refl _), length _ _⟩
  | exchange => exact ⟨.refl _, Nat.le_refl _⟩
  | line => exact ⟨.refl _, Nat.le_refl _⟩
  | hands => exact ⟨.refl _, Nat.le_refl _⟩
  | take ends known made granted =>
    obtain ⟨-, -, rfl⟩ := Registry.claim?_eq_some.mp granted
    exact ⟨w.registry.precedes_update _ entry (Nat.le_refl _), length _ _⟩
  | finish ends holds grows => exact ⟨w.registry.precedes_update _ entry (grows _), length _ _⟩

/-- A slot that has no owner has none afterwards, and stays as it is. -/
theorem unowned (change : Change ends before w w') (early : entry < before) (made : before ≤ w.registry.cells.length)
    (gone : w.isOwned entry = false) :
    w'.isOwned entry = false ∧ w'.registry.cell entry = w.registry.cell entry := by
  obtain ⟨unlisted, unkept, unheld, unfetched, unwanted⟩ := isOwned_eq_false.mp gone
  have unlisted_of {r : Registry (List Channel)}
      (none : r.isListed entry = true → w.registry.isListed entry = true) : r.isListed entry = false := by
    refine Bool.eq_false_iff.mpr fun listed => ?_
    rw [none listed] at unlisted
    cases unlisted
  have other {known : EntryId} (knows : w.Knows before known) : known ≠ entry := by
    rintro rfl
    rcases knows with owned | late
    · rw [gone] at owned
      cases owned
    · exact absurd early (Nat.not_lt.mpr late)
  have same {known : EntryId} (apart : known ≠ entry) (f : Slot (List Channel) → Slot (List Channel)) :
      (w.registry.update known f).cell entry = w.registry.cell entry := w.registry.cell_update_of_ne f (Ne.symm apart)
  cases change with
  | network => exact ⟨gone, rfl⟩
  | add cache key =>
    refine ⟨isOwned_eq_false.mpr ⟨?_, unkept, unheld, unfetched, unwanted⟩, w.registry.cell_getOrAdd cache key entry⟩
    exact unlisted_of (Registry.isListed_of_getOrAdd (Nat.lt_of_lt_of_le early made))
  | remove =>
    refine ⟨isOwned_eq_false.mpr ⟨?_, unkept, unheld, unfetched, unwanted⟩, rfl⟩
    exact unlisted_of Registry.isListed_of_remove
  | clear =>
    refine ⟨isOwned_eq_false.mpr ⟨?_, unkept, unheld, unfetched, unwanted⟩, rfl⟩
    exact unlisted_of Registry.isListed_of_clear
  | mark known => exact ⟨gone, same (other known) _⟩
  | launch feed known made granted =>
    obtain ⟨-, rfl, rfl⟩ := Registry.claim?_eq_some.mp granted
    refine ⟨isOwned_eq_false.mpr ⟨unlisted, unkept, unheld, ?_, unwanted⟩, same (other known) _⟩
    intro claim there
    rw [World.launch, List.map_append, List.mem_append] at there
    rcases there with old | new
    · exact unfetched claim old
    · rw [List.mem_singleton.mp new]
      exact other known
  | exchange kept =>
    have unfetched := fun c there => unfetched c (kept there)
    exact ⟨isOwned_eq_false.mpr ⟨unlisted, unkept, unheld, unfetched, unwanted⟩, rfl⟩
  | line each =>
    refine ⟨isOwned_eq_false.mpr ⟨unlisted, unkept, unheld, unfetched, ?_⟩, rfl⟩
    intro c there
    rcases each c there with old | ⟨known, -⟩
    · exact unwanted c old
    · exact other known
  | hands each =>
    refine ⟨isOwned_eq_false.mpr ⟨unlisted, ?_, unheld, unfetched, unwanted⟩, rfl⟩
    exact Bool.eq_false_iff.mpr fun kept => other (each entry kept) rfl
  | take ends known made granted each =>
    obtain ⟨-, rfl, rfl⟩ := Registry.claim?_eq_some.mp granted
    refine ⟨isOwned_eq_false.mpr ⟨unlisted, unkept, ?_, unfetched, unwanted⟩, same (other known) _⟩
    intro claim there
    rcases each claim there with old | rfl
    · exact unheld claim old
    · exact other known
  | finish ends holds grows flights claims =>
    have apart : _ ≠ entry := (List.mem_append.mp holds).elim (unfetched _) (unheld _)
    refine ⟨isOwned_eq_false.mpr ⟨unlisted, unkept, ?_, ?_, unwanted⟩, same apart _⟩
    · exact fun claim there => unheld claim (claims there)
    · exact fun claim there => unfetched claim (flights there)

theorem waits (change : Change ends before w w') (waiting : ∀ c ∈ w.calls, c.2.Waits w.registry) :
    ∀ c ∈ w'.calls, c.2.Waits w'.registry := by
  have still {c : String × Call} (there : c ∈ w.calls) : c.2.Waits w'.registry :=
    (waiting c there).precedes (change.precedes c.2.entry).1
  cases change with
  | line each =>
    intro c there
    rcases each c there with old | ⟨-, new, -⟩
    · exact still old
    · exact new
  | _ => exact fun c there => still there

theorem watches (change : Change ends before w w') : w'.watches = w.watches ∧ w'.streams = w.streams := by
  cases change <;> exact ⟨rfl, rfl⟩

end Change

namespace Changes

theorem precedes (changes : Changes ends before w w') (entry : EntryId) :
    (w.registry.cell entry).Precedes (w'.registry.cell entry) ∧ w.registry.cells.length ≤ w'.registry.cells.length := by
  induction changes with
  | refl => exact ⟨.refl _, Nat.le_refl _⟩
  | tail earlier change ih =>
    obtain ⟨later, grows⟩ := change.precedes entry
    exact ⟨ih.1.trans later, Nat.le_trans ih.2 grows⟩

theorem unowned (changes : Changes ends before w w') (early : entry < before)
    (made : before ≤ w.registry.cells.length) (gone : w.isOwned entry = false) :
    w'.isOwned entry = false ∧ w'.registry.cell entry = w.registry.cell entry := by
  induction changes with
  | refl => exact ⟨gone, rfl⟩
  | tail earlier change ih =>
    have made := Nat.le_trans made (Changes.precedes earlier entry).2
    obtain ⟨still, same⟩ := change.unowned early made ih.1
    exact ⟨still, same.trans ih.2⟩

theorem waits (changes : Changes ends before w w') (waiting : ∀ c ∈ w.calls, c.2.Waits w.registry) :
    ∀ c ∈ w'.calls, c.2.Waits w'.registry := by
  induction changes with
  | refl => exact waiting
  | tail earlier change ih => exact change.waits ih

theorem watches (changes : Changes ends before w w') : w'.watches = w.watches ∧ w'.streams = w.streams := by
  induction changes with
  | refl => exact ⟨rfl, rfl⟩
  | tail earlier change ih => exact ⟨change.watches.1.trans ih.1, change.watches.2.trans ih.2⟩

end Changes

/-! ## What turns are made of -/

/-- What holds of a world between turns, the calls in line included. -/
structure Ready (w : World) : Prop extends Intact w where
  waits : ∀ c ∈ w.calls, c.2.Waits w.registry

/-- A watch that is in hands after a turn was there before, be it that it was polled since, or was made in the turn. -/
inductive Holds (w : World) (x : Watch) : Prop where
  | kept : x ∈ w.watches.things ++ w.streams.things → Holds w x
  | polled {old : Watch} : old ∈ w.watches.things ++ w.streams.things → x = (w.pollWatch old).2 → Holds w x
  | made {r : Registry (List Channel)} {entry : EntryId} : entry < w.registry.cells.length →
    (r.cell entry).Precedes (w.registry.cell entry) → x = .subscribe r entry → Holds w x

/-- A world comes from another one by changes, after which watches are polled, made or let go. -/
structure Becomes (ends : Prop) (before : Nat) (w w' : World) : Prop where
  changes : ∃ m watches streams, Changes ends before w m ∧ w' = { m with watches, streams } ∧
    ∀ x ∈ watches.things ++ streams.things, m.Holds x

theorem Becomes.of_changes (changes : Changes ends before w w') : Becomes ends before w w' :=
  ⟨w', w'.watches, w'.streams, changes, rfl, fun _ there => .kept there⟩

theorem Becomes.refl (w : World) : Becomes ends before w w := .of_changes .refl

theorem changes_entry (w : World) (feed : Feed) : Changes ends before w (w.entry feed).2 := by
  unfold World.entry
  rw [Registry.entry_eq_getOrAdd]
  exact .single (.add feed.cache channelsKey)

theorem knows_of_get? {cache : Nat} {key : String} (found : w.registry.get? cache key = some entry) :
    w.Knows before entry := by
  refine .inl ?_
  simp [isOwned, Registry.isListed_of_get? found]

theorem knows_getOrAdd (enough : before ≤ w.registry.cells.length) (cache : Nat) (key : String) :
    Knows { w with registry := (w.registry.getOrAdd cache key).2 } before (w.registry.getOrAdd cache key).1 := by
  unfold Registry.getOrAdd
  split
  · next entry found => exact knows_of_get? found
  · exact .inr enough

theorem knows_entry (enough : before ≤ w.registry.cells.length) (feed : Feed) :
    (w.entry feed).2.Knows before (w.entry feed).1 := by
  unfold World.entry
  rw [Registry.entry_eq_getOrAdd]
  exact knows_getOrAdd enough feed.cache channelsKey

theorem knows_launch {claim : Claim} {registry : Registry (List Channel)} (feed : Feed)
    (granted : w.registry.claim? entry = some (claim, registry)) :
    (launch { w with registry } feed (some claim)).Knows before entry := by
  obtain ⟨-, rfl, rfl⟩ := Registry.claim?_eq_some.mp granted
  refine .inl ?_
  simp [launch, isOwned, Flight.start]

theorem changes_startFetch (inRuntime : Bool) (feed : Feed) (known : w.Knows before entry)
    (made : entry < w.registry.cells.length) : Changes ends before w (w.startFetch inRuntime feed entry).2 := by
  unfold startFetch
  split
  · next claim registry granted => exact .single (.launch feed known made (Call.claim?_eq_some.mp granted |>.2))
  · exact .refl

theorem Polls.changes {c : Call} {inRuntime : Bool} {polled : Polled Call ChannelState}
    (polls : Polls w inRuntime c (polled, w')) (known : w.Knows before c.entry)
    (made : c.entry < w.registry.cells.length) : Changes ends before w w' := by
  cases polls with
  | blocked => exact .refl
  | ended => exact .refl
  | renewed idle old granted => exact .single (.launch c.feed known made (Call.claim?_eq_some.mp granted).2)
  | outdated => exact .refl

theorem Polls.calls {c : Call} {inRuntime : Bool} {polled : Polled Call ChannelState}
    (polls : Polls w inRuntime c (polled, w')) : w'.calls = w.calls := by
  cases polls <;> rfl

/-- Those who were in line stay there, or some of them do, and a call that has to wait is put behind them. -/
theorem Polls.changes_line {c : Call} {inRuntime : Bool} {polled : Polled Call ChannelState}
    (polls : Polls w inRuntime c (polled, w')) (known : w.Knows before c.entry)
    (made : c.entry < w.registry.cells.length) (since : c.since ≤ (w.registry.slot c.entry).generation)
    {calls : List (String × Call)} (others : calls ⊆ w.calls) :
    Changes ends before w (w'.withCalls calls) ∧
      ∀ rest name, polled = .pending rest → Changes ends before w (w'.withCalls (calls ++ [(name, rest)])) := by
  have others : ∀ c ∈ calls, c ∈ w'.calls := fun c there => polls.calls ▸ others there
  have changes : Changes ends before w w' := polls.changes known made
  refine ⟨changes.tail (.line fun c there => .inl (others c there)), ?_⟩
  rintro rest name rfl
  obtain ⟨-, same, -, waits, busy⟩ := polls.waits made since
  have known' : w'.Knows before c.entry := by
    cases polls with
    | blocked => exact known
    | renewed idle old granted => exact knows_launch c.feed (Call.claim?_eq_some.mp granted).2
  refine changes.tail (.line fun pair there => ?_)
  rcases List.mem_append.mp there with old | new
  · exact .inl (others pair old)
  · rw [List.mem_singleton.mp new]
    exact .inr ⟨same ▸ known', waits, same ▸ busy⟩

theorem Knows.startFetch (known : w.Knows before entry) (inRuntime : Bool) (feed : Feed) :
    (w.startFetch inRuntime feed entry).2.Knows before entry := by
  unfold World.startFetch
  split
  · next claim registry granted => exact knows_launch feed (Call.claim?_eq_some.mp granted).2
  · exact known

theorem changes_begin {c : Call} (inRuntime : Bool) (name : String) (phase : c.phase = .starting)
    (known : w.Knows before c.entry) (made : c.entry < w.registry.cells.length)
    (since : c.since ≤ (w.registry.slot c.entry).generation) :
    Changes ends before w (w.begin inRuntime name c).2 := by
  have started : Changes ends before w _ := changes_startFetch inRuntime c.feed known made
  have polls := polls_starting inRuntime made phase
  have known' := known.startFetch inRuntime c.feed
  have made' : c.entry < (w.startFetch inRuntime c.feed c.entry).2.registry.cells.length := by
    rw [length_startFetch]
    exact made
  have since' := Nat.le_trans since (started.precedes c.entry).1.generation
  unfold begin pollCall
  generalize w.advance inRuntime c maxAccesses = result at polls ⊢
  obtain ⟨polled, w'⟩ := result
  have others : w'.calls ⊆ (w.startFetch inRuntime c.feed c.entry).2.calls := polls.calls ▸ List.Subset.refl _
  have lined : Changes ends before _ _ ∧ _ := polls.changes_line known' made' since' others
  obtain ⟨rested, kept⟩ := lined
  cases polled with
  | pending rest => exact started.trans (kept rest name rfl)
  | done state => exact started.trans rested

theorem changes_poll (ready : w.Ready) (inRuntime : Bool) (place : Nat) :
    Changes ends before w (w.turn (.poll inRuntime place)) := by
  cases there : w.calls[place]? with
  | none =>
    simp only [turn, there]
    exact .refl
  | some pair =>
    obtain ⟨name, c⟩ := pair
    have waiting := List.mem_of_getElem? there
    have polls := polls_waiting inRuntime (ready.calls _ waiting) (ready.waits _ waiting)
    have known : w.Knows before c.entry := .inl (isOwned_of_call waiting)
    rw [turn_poll there]
    unfold pollCall
    generalize w.advance inRuntime c maxAccesses = result at polls ⊢
    obtain ⟨polled, w'⟩ := result
    have fewer : w.calls.eraseIdx place ⊆ w.calls := List.eraseIdx_subset
    have lined : Changes ends before w _ ∧ _ :=
      polls.changes_line known (ready.calls _ waiting) (ready.waits _ waiting).since fewer
    obtain ⟨rested, kept⟩ := lined
    cases polled with
    | pending rest => exact kept rest name rfl
    | done state =>
      rw [putBack, List.append_nil]
      exact rested

/-! ### Fetches that end -/

theorem changes_fly (may : ends) (place : Nat) : Changes ends before w (w.turn (.fly place)) := by
  simp only [turn]
  split
  · exact .refl
  · next f there =>
    have holds : f.claim ∈ w.flights.map Flight.claim := List.mem_map_of_mem (List.mem_of_getElem? there)
    have fewer : (w.flights.eraseIdx place).map Flight.claim ⊆ w.flights.map Flight.claim :=
      List.map_subset _ List.eraseIdx_subset
    obtain ⟨fetched, -, same⟩ | ⟨-, same⟩ := runFlight_cases { w with flights := w.flights.eraseIdx place } f
    · rw [same]
      refine (Relation.ReflTransGen.single (.network (f.advance w.isHolding w.network).2 w.isHolding)).tail ?_
      exact .finish may (List.mem_append_left _ holds) (fun _ => Nat.le_refl _) fewer (List.Subset.refl _)
    · rw [same]
      refine (Relation.ReflTransGen.single (.network (f.advance w.isHolding w.network).2 w.isHolding)).tail (.exchange ?_)
      simp only [List.map_append, List.map_cons, List.map_nil]
      exact List.append_subset.mpr ⟨fewer, List.cons_subset.mpr ⟨holds, List.nil_subset _⟩⟩

theorem changes_restart (may : ends) (w : World) : Changes ends before w w.restart := by
  have each (flights : List Flight) (r : Registry (List Channel)) :
      Changes ends before { w with registry := r, flights }
        { w with registry := flights.foldl (fun r f => r.release f.claim) r, flights := [] } := by
    induction flights generalizing r with
    | nil => exact .refl
    | cons f flights ih =>
      have first : Change ends before { w with registry := r, flights := f :: flights }
          { w with registry := r.release f.claim, flights } :=
        .finish may (List.mem_append_left _ List.mem_cons_self) (fun _ => Nat.le_refl _)
          (List.subset_cons_self f.claim (flights.map Flight.claim)) (List.Subset.refl w.claims.things)
      exact .head first (ih _)
  exact each w.flights w.registry

theorem changes_giveUp (may : ends) (w : World) (name : String) : Changes ends before w (w.giveUp name) := by
  unfold World.giveUp
  split
  · next claim found =>
    have holds := List.mem_append_right (w.flights.map Flight.claim) (Names.mem_things_of_get? found)
    exact .single (.finish may holds (fun _ => Nat.le_refl _) (List.Subset.refl _)
      fun _ there => Names.mem_things_of_erase there)
  · exact .refl

/-- A claim is taken by hand. It is held besides the one under its name until that is given up. -/
theorem changes_claimEntry (may : ends) (known : w.Knows before entry) (made : entry < w.registry.cells.length)
    (name : String) : Changes ends before w (w.claimEntry entry name).2 := by
  unfold World.claimEntry
  split
  · exact .refl
  · next claim registry granted =>
    unfold World.giveUp
    dsimp only
    cases found : w.claims.get? name with
    | none => exact .single (.take may known made granted fun c there => Names.mem_things_put there)
    | some old =>
      have both (c : Claim) : c ∈ Names.things (w.claims ++ [(name, claim)]) ↔ c ∈ w.claims.things ∨ c = claim := by
        simp [Names.things, or_comm]
      have taken : Change ends before w { w with registry, claims := w.claims ++ [(name, claim)] } :=
        .take may known made granted fun c there => (both c).mp there
      have ended : Change ends before { w with registry, claims := w.claims ++ [(name, claim)] }
          { w with registry := registry.release old, claims := (w.claims.erase name).put name claim } := by
        refine .finish may ?_ (fun _ => Nat.le_refl _) (List.Subset.refl _) ?_
        · exact List.mem_append_right _ ((both old).mpr (.inl (Names.mem_things_of_get? found)))
        · exact fun c there => (both c).mpr ((Names.mem_things_put there).imp_left Names.mem_things_of_erase)
      exact (Relation.ReflTransGen.single taken).tail ended

theorem changes_claim (ready : w.Ready) (may : ends) (enough : before ≤ w.registry.cells.length) (cache : Nat)
    (name : String) : Changes ends before w (w.claim cache name).2 := by
  have known := knows_getOrAdd enough cache channelsKey
  have made := ready.closed.getOrAdd_lt cache channelsKey
  unfold World.claim
  rw [Registry.entry_eq_getOrAdd]
  exact .head (.add cache channelsKey) (changes_claimEntry may known made name)

/-! ### Slots in hands -/

theorem knows_of_isKept (kept : w.isKept entry = true) : w.Knows before entry := .inl (isOwned_of_isKept kept)

theorem changes_keep (enough : before ≤ w.registry.cells.length) (cache : Nat) (key name : String) :
    Changes ends before w { w with
      registry := (w.registry.getOrAdd cache key).2
      entries := w.entries.put name (w.registry.getOrAdd cache key).1 } := by
  refine (Relation.ReflTransGen.single (.add cache key)).tail (.hands fun other kept => ?_)
  rcases isKept_put kept with old | rfl
  · exact knows_of_isKept old
  · exact knows_getOrAdd enough cache key

theorem changes_pollWait (name : String) {wait : Wait} {others : Names Wait} (fewer : others.things ⊆ w.waits.things)
    (known : w.Knows before wait.entry) : Changes ends before w (w.pollWait name wait others).2 := by
  obtain ⟨waits, same, each⟩ := w.pollWait_eq name wait fewer
  rw [same]
  refine .single (.hands fun other kept => ?_)
  rcases each other kept with old | rfl
  · exact knows_of_isKept old
  · exact known

/-! ### Whole turns -/

theorem changes_invalidate (ready : w.Ready) (cache : Nat) (key : String) :
    Changes ends before w { w with registry := (w.registry.invalidate cache key).2 } := by
  unfold Registry.invalidate
  split
  · next entry found => exact .single (.mark (knows_of_get? found) (ready.closed.get?_lt found))
  · exact .refl

theorem changes_notify (ready : w.Ready) (inRuntime : Bool) (feed : Feed) (trigger : Trigger) :
    Changes ends before w (w.notify inRuntime feed trigger).2 := by
  unfold World.notify
  split
  · exact .refl
  · split
    · exact .refl
    · next entry found =>
      have known : w.Knows before entry := knows_of_get? found
      have made := ready.closed.get?_lt found
      split
      · exact .refl
      · refine .head (.mark known made) (changes_startFetch inRuntime feed known ?_)
        rw [Registry.markStale, Registry.length_update]
        exact made

theorem changes_release (w : World) : Changes ends before w w.release.2 := by
  obtain ⟨flights, same, claims⟩ := w.release_eq
  rw [same]
  exact .single (.exchange (claims ▸ List.Subset.refl _))

theorem becomes_withHandle {β : Type} {handle : Option β} {f : β → Answer × World}
    (each : ∀ x, handle = some x → Becomes ends before w (f x).2) : Becomes ends before w (w.withHandle handle f).2 := by
  cases handle with
  | none => exact .refl w
  | some x => exact each x rfl

theorem holds_put_watch {x : Watch} (new : w.Holds x) (name : String) :
    ∀ y ∈ (w.watches.put name x).things ++ w.streams.things, w.Holds y := by
  refine List.forall_mem_append.mpr ⟨?_, fun y there => .kept (List.mem_append_right _ there)⟩
  intro y there
  rcases Names.mem_things_put there with old | rfl
  · exact .kept (List.mem_append_left _ old)
  · exact new

theorem holds_put_stream {x : Watch} (new : w.Holds x) (name : String) :
    ∀ y ∈ w.watches.things ++ (w.streams.put name x).things, w.Holds y := by
  refine List.forall_mem_append.mpr ⟨fun y there => .kept (List.mem_append_left _ there), ?_⟩
  intro y there
  rcases Names.mem_things_put there with old | rfl
  · exact .kept (List.mem_append_right _ old)
  · exact new

/-- A command comes to changes, and to a watch that is made, polled or let go. -/
theorem becomes_step (ready : w.Ready) (inRuntime : Bool) (command : Command) :
    Becomes (Turn.command inRuntime command).EndsClaims w.registry.cells.length w (w.step inRuntime command).2 := by
  have enough := Nat.le_refl w.registry.cells.length
  cases command with
  | setReplies replies => exact .of_changes (.single (.network _ w.isHolding))
  | hold => exact .of_changes (.single (.network w.network true))
  | unhold => exact .of_changes (.single (.network w.network false))
  | release => exact .of_changes (changes_release w)
  | restart => exact .of_changes (changes_restart trivial w)
  | channels feed =>
    refine becomes_withHandle fun feed _ => .of_changes ?_
    have made := (ready.toIntact.entry feed).2
    exact (changes_entry w feed).trans (changes_startFetch inRuntime feed (knows_entry enough feed) made)
  | load feed name =>
    refine becomes_withHandle fun feed _ => .of_changes ?_
    have made := (ready.toIntact.entry feed).2
    exact (changes_entry w feed).trans (changes_begin inRuntime name rfl (knows_entry enough feed) made (Nat.zero_le _))
  | refetch feed name =>
    refine becomes_withHandle fun feed _ => .of_changes ?_
    have known := knows_entry enough feed
    have made := (ready.toIntact.entry feed).2
    refine ((changes_entry w feed).tail (.mark known made)).trans ?_
    refine changes_begin inRuntime name rfl known ?_ (Nat.le_refl _)
    rw [Registry.markStale, Registry.length_update]
    exact made
  | cancel call =>
    refine becomes_withHandle fun _ _ => .of_changes (.single (.line fun c there => .inl ?_))
    exact List.mem_of_mem_eraseP there
  | state feed => exact becomes_withHandle fun _ _ => .refl w
  | invalidate feed => exact becomes_withHandle fun feed _ => .of_changes (changes_invalidate ready feed.cache channelsKey)
  | notify feed trigger =>
    exact becomes_withHandle fun feed _ => .of_changes (changes_notify ready inRuntime feed trigger)
  | options feed => exact becomes_withHandle fun _ _ => .refl w
  | subscribe feed name =>
    refine becomes_withHandle fun feed _ => ?_
    have made := (ready.toIntact.entry feed).2
    have fetched : Changes False w.registry.cells.length (w.entry feed).2 _ :=
      changes_startFetch inRuntime feed (knows_entry enough feed) made
    refine ⟨_, _, _, (changes_entry w feed).trans fetched, rfl, ?_⟩
    refine holds_put_watch (.made ?_ (fetched.precedes (w.entry feed).1).1 rfl) name
    exact Nat.lt_of_lt_of_le made (fetched.precedes (w.entry feed).1).2
  | current watch => exact becomes_withHandle fun _ _ => .refl w
  | watchState watch => exact becomes_withHandle fun _ _ => .refl w
  | changed watch =>
    refine becomes_withHandle fun x found => ⟨w, _, w.streams, .refl, rfl, holds_put_watch (.polled ?_ rfl) watch⟩
    exact List.mem_append_left _ (Names.mem_things_of_get? found)
  | intoStream watch name =>
    refine becomes_withHandle fun x found => ⟨w, _, _, .refl, rfl, List.forall_mem_append.mpr ⟨?_, ?_⟩⟩
    · exact fun y there => .kept (List.mem_append_left _ (Names.mem_things_of_erase there))
    · have was := List.mem_append_left w.streams.things (Names.mem_things_of_get? found)
      exact (List.forall_mem_append.mp (holds_put_stream (.kept was) name)).2
  | next stream =>
    refine becomes_withHandle fun x found => ?_
    have was := List.mem_append_right w.watches.things (Names.mem_things_of_get? found)
    split
    · refine ⟨w, w.watches, _, .refl, rfl, List.forall_mem_append.mpr ⟨?_, ?_⟩⟩
      · exact fun y there => .kept (List.mem_append_left _ there)
      · exact fun y there => .kept (List.mem_append_right _ (Names.mem_things_of_erase there))
    · next news y stays polled =>
      exact ⟨w, w.watches, _, .refl, rfl, holds_put_stream (.polled was (congrArg Prod.snd polled).symm) stream⟩
  | cacheEntry cache key =>
    simp only [World.step, Registry.entry_eq_getOrAdd]
    exact .of_changes (.single (.add cache key))
  | cacheInvalidate cache key => exact .of_changes (changes_invalidate ready cache key)
  | cacheRemove cache key => exact .of_changes (.single (.remove cache key))
  | cacheClear cache => exact .of_changes (.single (.clear cache))
  | cacheSize cache => exact .refl w
  | claim cache name => exact .of_changes (changes_claim ready trivial enough cache name)
  | settle name state =>
    refine becomes_withHandle fun claim found => .of_changes (.single ?_)
    refine .finish trivial ?_ (fun _ => Nat.le_refl _) (List.Subset.refl _) ?_
    · exact List.mem_append_right _ (Names.mem_things_of_get? found)
    · exact fun c there => Names.mem_things_of_erase there
  | dropClaim name => exact becomes_withHandle fun _ _ => .of_changes (changes_giveUp trivial w name)
  | keep cache key name =>
    simp only [World.step, Registry.entry_eq_getOrAdd]
    exact .of_changes (changes_keep enough cache key name)
  | look name => exact becomes_withHandle fun _ _ => .refl w
  | mark name =>
    refine becomes_withHandle fun entry found => .of_changes (.single ?_)
    have kept := isKept_of_entry found
    exact .mark (knows_of_isKept kept) (ready.kept entry kept)
  | claimKept under name =>
    refine becomes_withHandle fun entry found => .of_changes ?_
    have kept := isKept_of_entry found
    exact changes_claimEntry trivial (knows_of_isKept kept) (ready.kept entry kept) name
  | wait under name =>
    refine becomes_withHandle fun entry found => .of_changes ?_
    exact changes_pollWait name (List.Subset.refl _) (knows_of_isKept (isKept_of_entry found))
  | pollWait name =>
    refine becomes_withHandle fun wait found => .of_changes ?_
    exact changes_pollWait name (fun _ => Names.mem_things_of_erase) (knows_of_isKept (isKept_of_wait found))
  | dropWait name =>
    exact becomes_withHandle fun _ _ => .of_changes (.single (.hands fun _ kept => knows_of_isKept (isKept_of_dropWait kept)))
  | letGo name =>
    exact becomes_withHandle fun _ _ => .of_changes (.single (.hands fun _ kept => knows_of_isKept (isKept_of_letGo kept)))

theorem becomes_turn (ready : w.Ready) (turn : Turn) :
    Becomes turn.EndsClaims w.registry.cells.length w (w.turn turn) := by
  cases turn with
  | command inRuntime command => exact becomes_step ready inRuntime command
  | poll inRuntime place => exact .of_changes (changes_poll ready inRuntime place)
  | fly place => exact .of_changes (changes_fly trivial place)

namespace Becomes

theorem precedes (becomes : Becomes ends before w w') (entry : EntryId) :
    (w.registry.cell entry).Precedes (w'.registry.cell entry) ∧ w.registry.cells.length ≤ w'.registry.cells.length := by
  obtain ⟨m, watches, streams, changes, rfl, -⟩ := becomes
  exact changes.precedes entry

theorem unowned (becomes : Becomes ends before w w') (early : entry < before)
    (made : before ≤ w.registry.cells.length) (gone : w.isOwned entry = false) :
    w'.isOwned entry = false ∧ w'.registry.cell entry = w.registry.cell entry := by
  obtain ⟨m, watches, streams, changes, rfl, -⟩ := becomes
  exact changes.unowned early made gone

theorem waits (becomes : Becomes ends before w w') (waiting : ∀ c ∈ w.calls, c.2.Waits w.registry) :
    ∀ c ∈ w'.calls, c.2.Waits w'.registry := by
  obtain ⟨m, watches, streams, changes, rfl, -⟩ := becomes
  exact changes.waits waiting

end Becomes

theorem ready_start (network : Http.Network) (caches : Nat) (feeds : List Feed) :
    (start network caches feeds).Ready where
  toIntact := intact_start network caches feeds
  waits := by
    intro c there
    cases there

theorem Ready.turn (ready : w.Ready) (turn : Turn) : (w.turn turn).Ready where
  toIntact := ready.toIntact.turn turn
  waits := (becomes_turn ready turn).waits ready.waits

theorem Ready.turns (ready : w.Ready) (turns : List Turn) : (w.turns turns).Ready := by
  induction turns generalizing w with
  | nil => exact ready
  | cons turn turns ih => exact ih (ready.turn turn)

end World

end ChannelFeed
