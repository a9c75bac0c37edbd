import TestDouble.Proofs.Matcher.Replacing
import TestDouble.Proofs.Recording.Placement

/-!
# Pure rounds

From pure matchers come pure resolutions: arguments without a matcher are compared, and links are replaced by objects.
-/

namespace TestDouble

/-- All registered matchers are pure. -/
def Round.Pure (r : Round) : Prop := ∀ m ∈ r.matchers, m.matcher.Pure

/-- All calls are described by pure matchers. -/
def Resolution.Pure (res : Resolution) : Prop := ∀ c ∈ res, Matcher.PureEach c.matcher.args

namespace Round

variable {r : Round} {b : Bindings}

theorem Pure.boundMatcher? (h : r.Pure) {a : Address} {m : Matcher} (hm : r.boundMatcher? b a = some m) : m.Pure := by
  obtain ⟨reg, hreg, rfl⟩ := Option.map_eq_some_iff.mp hm
  obtain ⟨i, -, hi⟩ := Option.bind_eq_some_iff.mp hreg
  exact h reg (List.mem_of_getElem? hi)

theorem Pure.argMatcher (h : r.Pure) (call : Nat) (varargSlot : Option Nat) (arg : Value × Nat) :
    (r.argMatcher b call varargSlot arg).Pure := by
  have heq : ∀ v, (Matcher.eq v).Pure := fun v => by simp only [Matcher.Pure]
  unfold Round.argMatcher
  split
  · rename_i m hm
    exact h.boundMatcher? hm
  · split
    · rename_i items _
      split
      · have helements : ∀ m ∈ items.zipIdx.map (fun item =>
            (r.boundMatcher? b ⟨call, arg.2, some item.2⟩).getD (.eq item.1)), m.Pure := by
          intro m hm
          obtain ⟨item, -, rfl⟩ := List.mem_map.mp hm
          cases hbound : r.boundMatcher? b ⟨call, arg.2, some item.2⟩ with
          | none => exact heq _
          | some m => exact h.boundMatcher? hbound
        dsimp only
        cases hfind : (items.zipIdx.map fun item =>
            (r.boundMatcher? b ⟨call, arg.2, some item.2⟩).getD (.eq item.1)).find? Matcher.isVarargWildcard with
        | none =>
            simp only [Option.getD_none, Matcher.Pure]
            exact Matcher.pureEach_iff.mpr helements
        | some m => exact helements m (List.mem_of_find?_eq_some hfind)
      · exact heq _
    · exact heq _

theorem Pure.resolved (h : r.Pure) (b : Bindings) : Resolution.Pure (r.resolved b) := by
  intro c hc
  obtain ⟨captured, -, rfl⟩ := List.mem_map.mp hc
  refine Matcher.pureEach_iff.mpr fun m hm => ?_
  obtain ⟨arg, -, rfl⟩ := List.mem_map.mp hm
  exact h.argMatcher _ _ arg

end Round

namespace Resolution

variable {res : Resolution}

theorem ofRounds_pure {rounds : List Round} {phase : Phase} (h : ∀ r ∈ rounds, r.Pure)
    (hres : ofRounds rounds phase = .ok res) : res.Pure := by
  cases rounds with
  | nil => cases hres; exact fun c hc => absurd hc List.not_mem_nil
  | cons first rest =>
      obtain ⟨-, b, -, rfl⟩ := ofRounds_cons.mp hres
      exact (h _ (List.getLast_mem _)).resolved b

theorem Pure.apply {m : CallMatcher} (h : Matcher.PureEach m.args) (links : Links) :
    Matcher.PureEach (links.apply m).args := by
  induction links generalizing m with
  | nil => exact h
  | cons l links ih => exact ih (Matcher.PureEach.replaceObjectEach m.args h)

/-- What links are replaced by makes no predicates. -/
theorem Pure.linked (registry : Registry) (links : Links) (h : res.Pure) : Resolution.Pure (res.linked registry links).1 := by
  induction res generalizing links with
  | nil => exact h
  | cons c cs ih =>
      have hcs : Resolution.Pure cs := fun d hd => h d (List.mem_cons_of_mem c hd)
      have hcons : ∀ rest : Resolution, rest.Pure → Resolution.Pure ({ c with matcher := links.apply c.matcher } :: rest) :=
        fun rest hrest d hd => by
          rcases List.mem_cons.mp hd with rfl | hd
          · exact Pure.apply (h c List.mem_cons_self) links
          · exact hrest d hd
      unfold Resolution.linked
      dsimp only
      split
      · exact hcons _ (ih links hcs)
      · split
        · exact hcons _ (ih _ hcs)
        · exact hcons _ (ih links hcs)

theorem Pure.matchers (h : res.Pure) : ∀ m ∈ res.matchers, Matcher.PureEach m.args := fun _ hm => by
  obtain ⟨c, hc, rfl⟩ := List.mem_map.mp hm
  exact h c hc

theorem Pure.topLevel (h : res.Pure) : res.topLevel.Pure := fun c hc => h c (List.mem_filter.mp hc).1

end Resolution

end TestDouble
