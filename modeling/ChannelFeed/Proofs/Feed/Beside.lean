import ChannelFeed.Proofs.Feed.Turns

/-!
# Worlds side by side

Who waits in line, and which streams are in hands, does not matter to what else is done in a world. Two worlds that
differ in nothing else go on side by side: what becomes of the one becomes of the other.
-/
namespace ChannelFeed

open Cache

/-- A command that neither makes nor drops a call, nor polls or hands over a watch. -/
def Command.isPlain : Command → Bool
  | .load _ _ | .refetch _ _ | .cancel _ | .changed _ | .intoStream _ _ | .next _ => false
  | _ => true

def Command.makesCall : Command → Bool
  | .load _ _ | .refetch _ _ => true
  | _ => false

/-- To take away the first with a name is to take away the one in its place. -/
theorem eraseP_name (calls : List (String × Call)) (name : String) :
    calls.eraseP (·.1 == name) = calls.eraseIdx (calls.findIdx (·.1 == name)) := by
  induction calls with
  | nil => rfl
  | cons pair calls ih =>
    rw [List.eraseP_cons, List.findIdx_cons]
    cases pair.1 == name with
    | true => rfl
    | false =>
      rw [cond_false, cond_false, List.eraseIdx_cons_succ, ih]

namespace World

/-- The world with other calls in line and other streams in hands. -/
abbrev beside (w : World) (calls : List (String × Call)) (streams : Names Watch) : World :=
  w.dressed ({ · with calls, streams })

variable (w : World) (calls : List (String × Call)) (streams : Names Watch)

theorem beside_self : w.beside w.calls w.streams = w := rfl

theorem begin_beside (inRuntime : Bool) (name : String) (c : Call) :
    (w.beside calls streams).begin inRuntime name c =
      ((w.begin inRuntime name c).1, (w.begin inRuntime name c).2.beside
        (calls ++ ((w.begin inRuntime name c).2.calls.drop w.calls.length)) streams) := by
  have line := calls_pollCall w inRuntime c
  unfold begin
  rw [pollCall_dressed]
  generalize w.pollCall inRuntime c = result at line ⊢
  obtain ⟨polled, w'⟩ := result
  dsimp only at line
  cases polled with
  | pending rest => simp [dressed, line]
  | done given => simp [line]

theorem begin_same (inRuntime : Bool) (name : String) (c : Call) :
    (w.begin inRuntime name c).2.calls = w.calls ++ (w.begin inRuntime name c).2.calls.drop w.calls.length ∧
      (w.begin inRuntime name c).2.streams = w.streams := by
  have same := congrArg Prod.snd (begin_beside w w.calls w.streams inRuntime name c)
  rw [beside_self] at same
  have line := congrArg World.calls same
  have left := congrArg World.streams same
  exact ⟨line, left⟩

theorem step_beside (inRuntime : Bool) {command : Command} (plain : command.isPlain = true) :
    (w.beside calls streams).step inRuntime command =
      ((w.step inRuntime command).1, (w.step inRuntime command).2.beside calls streams) := by
  cases command with
  | load | refetch | cancel | changed | intoStream | next => cases plain
  | subscribe number name =>
    refine withHandle_alike (·.beside calls streams) w fun feed => ?_
    have started := unseeing_startFetch inRuntime feed (w.entry feed).1 (w.entry feed).2 ({ · with calls, streams })
    dsimp only at started
    simp only [subscribe, entry_dressed, started]
    rfl
  | current name | watchState name => exact withHandle_alike (·.beside calls streams) w fun x => rfl
  | _ => exact unseeing_step inRuntime rfl w _

theorem step_same (inRuntime : Bool) {command : Command} (plain : command.isPlain = true) :
    (w.step inRuntime command).2.calls = w.calls ∧ (w.step inRuntime command).2.streams = w.streams := by
  have same := congrArg Prod.snd (step_beside w w.calls w.streams inRuntime plain)
  rw [beside_self] at same
  rw [same]
  exact ⟨rfl, rfl⟩

/-- Those who are put in line by a new call are so in both worlds. -/
theorem step_makesCall (inRuntime : Bool) {command : Command} (makes : command.makesCall = true) :
    ∃ more, (w.step inRuntime command).2.calls = w.calls ++ more ∧
      (w.step inRuntime command).2.streams = w.streams ∧
      ∀ calls streams, (w.beside calls streams).step inRuntime command =
        ((w.step inRuntime command).1, (w.step inRuntime command).2.beside (calls ++ more) streams) := by
  have made {handle : Option Feed} {name : String} (w₁ : Feed → World) (call : Feed → Call)
      (line : ∀ feed, (w₁ feed).calls = w.calls) (left : ∀ feed, (w₁ feed).streams = w.streams) :
      ∃ more, (w.withHandle handle fun feed => (w₁ feed).begin inRuntime name (call feed)).2.calls = w.calls ++ more ∧
        (w.withHandle handle fun feed => (w₁ feed).begin inRuntime name (call feed)).2.streams = w.streams ∧
        ∀ calls streams, (w.beside calls streams).withHandle handle
            (fun feed => ((w₁ feed).beside calls streams).begin inRuntime name (call feed)) =
          ((w.withHandle handle fun feed => (w₁ feed).begin inRuntime name (call feed)).1,
            (w.withHandle handle fun feed => (w₁ feed).begin inRuntime name (call feed)).2.beside
              (calls ++ more) streams) := by
    cases handle with
    | none => exact ⟨[], (List.append_nil _).symm, rfl, fun calls streams => by rw [List.append_nil]; rfl⟩
    | some feed =>
      obtain ⟨joined, kept⟩ := begin_same (w₁ feed) inRuntime name (call feed)
      rw [line feed] at joined
      refine ⟨_, joined, kept.trans (left feed), ?_⟩
      intro calls streams
      have both := begin_beside (w₁ feed) calls streams inRuntime name (call feed)
      rw [line feed] at both
      exact both
  cases command with
  | load number name =>
    exact made (fun feed => (w.entry feed).2) (fun feed => .load feed (w.entry feed).1)
      (fun _ => rfl) fun _ => rfl
  | refetch number name =>
    exact made
      (fun feed => { w with registry := ((w.entry feed).2.registry.markStale (w.entry feed).1).2 })
      (fun feed => .refetch feed (w.entry feed).1 ((w.entry feed).2.registry.markStale (w.entry feed).1).1)
      (fun _ => rfl) fun _ => rfl
  | _ => cases makes

section
variable {w}

/-- What becomes of the streams when one of them is polled: it is let go when it ends. -/
def afterNext (streams : Names Watch) (name : String) : Watch.News × Watch → Names Watch
  | (.closed, _) => streams.erase name
  | (_, x) => streams.put name x

theorem get?_afterNext {streams : Names Watch} {name other : String} (polled : Watch.News × Watch)
    (different : other ≠ name) : (afterNext streams name polled).get? other = streams.get? other := by
  obtain ⟨news, x⟩ := polled
  cases news with
  | closed => rw [afterNext, Names.get?_erase, if_neg different]
  | _ => rw [afterNext, Names.get?_put, if_neg different]; simp

theorem get?_afterNext_self (streams : Names Watch) (name : String) (polled : Watch.News × Watch) :
    (afterNext streams name polled).get? name =
      match polled.1 with
      | .closed => none
      | _ => some polled.2 := by
  obtain ⟨news, x⟩ := polled
  cases news with
  | closed => rw [afterNext, Names.get?_erase, if_pos rfl]
  | _ => rw [afterNext, Names.get?_put, if_pos rfl]; simp

theorem step_next {name : String} {x : Watch} (found : w.streams.get? name = some x) (inRuntime : Bool) :
    w.step inRuntime (.next name) =
      (.news (w.pollWatch x).1, w.beside w.calls (afterNext w.streams name (w.pollWatch x))) := by
  simp only [step, found, withHandle]
  obtain ⟨news, y⟩ := w.pollWatch x
  cases news <;> rfl

theorem step_next_none {name : String} (missing : w.streams.get? name = none) (inRuntime : Bool) :
    w.step inRuntime (.next name) = (.noHandle, w) := by
  simp only [step, missing, withHandle]

theorem step_cancel (w : World) (inRuntime : Bool) (name : String) :
    w.step inRuntime (.cancel name) =
      (if w.calls.any (·.1 == name) then .nothing else .noHandle,
        w.beside (w.calls.eraseIdx (w.calls.findIdx (·.1 == name))) w.streams) := by
  have looked : (w.calls.lookup name).isSome = w.calls.any (·.1 == name) := by
    rw [Bool.eq_iff_iff, List.lookup_isSome_iff, List.any_eq_true]
    simp only [beq_iff_eq, eq_comm (a := name)]
  rw [← looked]
  cases found : w.calls.lookup name with
  | some c =>
    simp only [step, found, withHandle, eraseP_name]
    rfl
  | none =>
    rw [found, Option.isSome_none, eq_comm, List.any_eq_false] at looked
    simp only [step, found, withHandle, ← eraseP_name, List.eraseP_of_forall_not looked]
    rfl

end

end World

end ChannelFeed
