import ChannelFeed.Feed.Command

/-!
# What is done without looking

Who waits in line, and which watches and streams are in hands, does not matter to most of what is done in a world, and
is left as it is. What does not look at them goes alike in worlds that differ in nothing else.
-/
namespace ChannelFeed

open Cache

/-- A command that uses no call, watch or stream. -/
def Command.isUnseeing : Command → Bool
  | .load _ _ | .refetch _ _ | .cancel _ | .subscribe _ _ | .current _ | .watchState _ | .changed _ | .intoStream _ _
  | .next _ => false
  | _ => true

/-- Who waits in line, and what is in hands to look with. -/
structure Dress where
  calls : List (String × Call)
  watches : Names Watch
  streams : Names Watch

namespace World

/-- The world with a change of who waits in line and of the watches and streams in hands. -/
def dressed (w : World) (change : Dress → Dress) : World :=
  let dress := change ⟨w.calls, w.watches, w.streams⟩
  { w with calls := dress.calls, watches := dress.watches, streams := dress.streams }

/-- Something that is done alike whoever waits or is in hands, and that leaves them. -/
def Unseeing {β : Type} (f : World → β × World) : Prop :=
  ∀ w change, f (w.dressed change) = ((f w).1, (f w).2.dressed change)

section
variable {β γ : Type} {f : World → β × World}

theorem Unseeing.keeps (unseeing : Unseeing f) (w : World) :
    (f w).2.calls = w.calls ∧ (f w).2.watches = w.watches ∧ (f w).2.streams = w.streams := by
  have same : (f w).2 = (f w).2.dressed fun _ => ⟨w.calls, w.watches, w.streams⟩ :=
    congrArg Prod.snd (unseeing w fun _ => ⟨w.calls, w.watches, w.streams⟩)
  refine ⟨?_, ?_, ?_⟩ <;> rw [same] <;> rfl

theorem Unseeing.map (unseeing : Unseeing f) (g : β → γ) : Unseeing fun w => (g (f w).1, (f w).2) := by
  intro w change
  dsimp only
  rw [unseeing]

/-- What is done with a handle goes alike in a world that was changed, if it does for all that the handle can lead to. -/
theorem withHandle_alike (change : World → World) (w : World) {handle : Option β} {f f' : β → Answer × World}
    (each : ∀ x, f' x = ((f x).1, change (f x).2)) :
    (change w).withHandle handle f' = ((w.withHandle handle f).1, change (w.withHandle handle f).2) := by
  cases handle with
  | none => rfl
  | some x => exact each x

theorem unseeing_withHandle {handle : World → Option β} {f : β → World → Answer × World}
    (found : ∀ w change, handle (w.dressed change) = handle w) (each : ∀ x, Unseeing (f x)) :
    Unseeing fun w => w.withHandle (handle w) fun x => f x w := by
  intro w change
  dsimp only
  rw [found]
  exact withHandle_alike (·.dressed change) w fun x => each x w change

end

theorem entry_dressed (w : World) (change : Dress → Dress) (feed : Feed) :
    (w.dressed change).entry feed = ((w.entry feed).1, (w.entry feed).2.dressed change) := rfl

theorem unseeing_startFetch (inRuntime : Bool) (feed : Feed) (entry : EntryId) :
    Unseeing (·.startFetch inRuntime feed entry) := by
  intro w change
  have same : (w.dressed change).registry = w.registry := rfl
  simp only [startFetch, same]
  cases Call.claim? inRuntime w.registry entry <;> rfl

theorem unseeing_release : Unseeing release := by
  intro w change
  have same : (w.dressed change).oldestHeld? = w.oldestHeld? := rfl
  simp only [release, same]
  cases w.oldestHeld? <;> rfl

theorem unseeing_notify (inRuntime : Bool) (feed : Feed) (trigger : Trigger) :
    Unseeing (·.notify inRuntime feed trigger) := by
  intro w change
  have same : (w.dressed change).registry = w.registry := rfl
  simp only [notify, same]
  split
  · rfl
  · split
    · rfl
    · next entry found =>
      split
      · rfl
      · exact unseeing_startFetch inRuntime feed entry { w with registry := (w.registry.markStale entry).2 } change

theorem unseeing_giveUp (name : String) : Unseeing fun w => ((), w.giveUp name) := by
  intro w change
  have same : (w.dressed change).claims = w.claims := rfl
  simp only [giveUp, same]
  cases w.claims.get? name <;> rfl

theorem unseeing_claimEntry (entry : EntryId) (name : String) : Unseeing (·.claimEntry entry name) := by
  intro w change
  have same : (w.dressed change).registry = w.registry := rfl
  simp only [claimEntry, same]
  split
  · rfl
  · next claim registry granted =>
    have given : ({ w with registry }.dressed change).giveUp name = _ :=
      congrArg Prod.snd (unseeing_giveUp name { w with registry } change)
    unfold dressed at given ⊢
    simp only [given]

theorem unseeing_claim (cache : Nat) (name : String) : Unseeing (·.claim cache name) := by
  intro w change
  exact unseeing_claimEntry _ name { w with registry := (w.registry.entry cache channelsKey).2 } change

theorem unseeing_pollWait (name : String) (wait : Wait) (others : World → Names Wait)
    (same : ∀ w change, others (w.dressed change) = others w) :
    Unseeing fun w => w.pollWait name wait (others w) := by
  intro w change
  have registry : (w.dressed change).registry = w.registry := rfl
  simp only [pollWait, same, registry]
  cases wait.poll w.registry <;> rfl

theorem unseeing_runFlight (f : Flight) : Unseeing fun w => ((), w.runFlight f) := by
  intro w change
  simp only [runFlight, dressed]
  split <;> rfl

theorem unseeing_channels (inRuntime : Bool) (feed : Feed) : Unseeing (·.channels inRuntime feed) := by
  intro w change
  have started := unseeing_startFetch inRuntime feed (w.entry feed).1 (w.entry feed).2 change
  dsimp only at started
  simp only [channels, entry_dressed, started]
  rfl

theorem unseeing_advance (inRuntime : Bool) (c : Call) (n : Nat) : Unseeing (·.advance inRuntime c n) := by
  induction n generalizing c with
  | zero => exact fun _ _ => rfl
  | succ n ih =>
    intro w change
    have started (claim : Option Claim) (registry : Registry (List Channel)) :
        launch { w.dressed change with registry } c.feed claim =
          (launch { w with registry } c.feed claim).dressed change := by
      cases claim <;> rfl
    have same : (w.dressed change).registry = w.registry := rfl
    simp only [advance, same, started]
    cases (c.access inRuntime w.registry).1 with
    | going next => exact ih next ..
    | blocked next => rfl
    | settled state => rfl

theorem unseeing_pollCall (inRuntime : Bool) (c : Call) : Unseeing (·.pollCall inRuntime c) := by
  intro w change
  have advanced := unseeing_advance inRuntime c maxAccesses w change
  dsimp only at advanced
  simp only [pollCall, advanced]
  obtain ⟨polled, w'⟩ := w.advance inRuntime c maxAccesses
  cases polled <;> rfl

theorem pollCall_dressed (w : World) (change : Dress → Dress) (inRuntime : Bool) (c : Call) :
    (w.dressed change).pollCall inRuntime c =
      ((w.pollCall inRuntime c).1, (w.pollCall inRuntime c).2.dressed change) :=
  unseeing_pollCall inRuntime c w change

theorem unseeing_step (inRuntime : Bool) {command : Command} (unseeing : command.isUnseeing = true) :
    Unseeing (·.step inRuntime command) := by
  cases command with
  | load | refetch | cancel | subscribe | current | watchState | changed | intoStream | next => cases unseeing
  | release => exact unseeing_release.map Answer.flag
  | channels number =>
    exact unseeing_withHandle (fun _ _ => rfl) fun feed => (unseeing_channels inRuntime feed).map Answer.channels
  | state number | invalidate number | options number =>
    exact unseeing_withHandle (fun _ _ => rfl) fun feed _ _ => rfl
  | notify number trigger =>
    exact unseeing_withHandle (fun _ _ => rfl) fun feed => (unseeing_notify inRuntime feed trigger).map Answer.flag
  | claim cache name => exact (unseeing_claim cache name).map Answer.flag
  | settle name state | look name | mark name | dropWait name | letGo name =>
    exact unseeing_withHandle (fun _ _ => rfl) fun x _ _ => rfl
  | dropClaim name =>
    exact unseeing_withHandle (fun _ _ => rfl) fun x => (unseeing_giveUp name).map fun _ => Answer.nothing
  | claimKept entry name =>
    exact unseeing_withHandle (fun _ _ => rfl) fun entry => (unseeing_claimEntry entry name).map Answer.flag
  | wait entry name =>
    exact unseeing_withHandle (fun _ _ => rfl) fun entry => unseeing_pollWait name _ _ fun _ _ => rfl
  | pollWait name =>
    exact unseeing_withHandle (fun _ _ => rfl) fun x => unseeing_pollWait name x _ fun _ _ => rfl
  | _ => exact fun _ _ => rfl

end World

end ChannelFeed
