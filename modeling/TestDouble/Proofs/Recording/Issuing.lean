import TestDouble.Proofs.Recording.Bands
import TestDouble.Proofs.Recording.Recorded

/-!
# Issued values

The values that a round issues for shapes that can be told apart differ from each other, however lists are nested,
until a request gives up: the first draw for what its lists hold in the end, and all redraws, gave values that were
issued before. A flag in a list has no other value to be told from.
-/

namespace TestDouble

namespace Value

/-- A value within `n` lists. -/
def nested (v : Value) : Nat → Value
  | 0 => v
  | n + 1 => .list [v.nested n]

theorem singleton_beq (v w : Value) : (Value.list [v] == .list [w]) = (v == w) := by
  simp [BEq.beq, beq, beqList]

theorem isDistinguishable_nested {v : Value} (hv : v.isDistinguishable = true) :
    {n : Nat} → (v.nested n).isDistinguishable = true
  | 0 => hv
  | _ + 1 => rfl

/-- How deep a value that is no list was put tells the results apart. -/
theorem eq_of_nested_beq {v : Value} (hv : v.elements = []) : {m n : Nat} → (v.nested m == v.nested n) = true → m = n
  | 0, 0, _ => rfl
  | m + 1, n + 1, h => by
      rw [nested, nested, singleton_beq] at h
      rw [eq_of_nested_beq hv h]
  | 0, n + 1, h => by
      obtain ⟨x, hx, -⟩ := exists_element_of_beq (PartialEquivBEq.symm h) List.mem_cons_self
      rw [nested, hv] at hx
      cases hx
  | m + 1, 0, h => by
      obtain ⟨x, hx, -⟩ := exists_element_of_beq h List.mem_cons_self
      rw [nested, hv] at hx
      cases hx

end Value

/-- The number of lists around what they hold in the end. -/
def Shape.depth : Shape → Nat
  | .list element => element.depth + 1
  | _ => 0

theorem Value.elements_eq_nil {v : Value} (h : v.shape.depth = 0) : v.elements = [] := by
  cases v with
  | list vs => cases vs <;> cases h
  | _ => rfl

namespace Generator

/-! ## What a round keeps -/

/-- Issued values can be told apart, with a list its elements were issued, and the identities of objects are taken. -/
structure Kept (st : Generator × Nat) : Prop where
  distinguishable : ∀ v ∈ st.1.issued, v.isDistinguishable = true
  elements : ∀ v ∈ st.1.issued, ∀ x ∈ v.elements, x.isDistinguishable = true → x ∈ st.1.issued
  taken : ∀ v ∈ st.1.issued, ∀ o, v.object? = some o → o.id < st.2

theorem Kept.of_issued {st st' : Generator × Nat} (h : Kept st) (hissued : st'.1.issued = st.1.issued)
    (hle : st.2 ≤ st'.2) : Kept st' where
  distinguishable := hissued ▸ h.distinguishable
  elements := hissued ▸ h.elements
  taken v hv o ho := Nat.lt_of_lt_of_le (h.taken v (hissued ▸ hv) o ho) hle

/-- What drawing may do: values are added to the issued ones, and the elements of what is drawn are among them. -/
structure Adds (before : Generator × Nat) (r : Option Value × (Generator × Nat)) : Prop where
  kept : Kept r.2
  grown : before.1.issued <+: r.2.1.issued
  elements : ∀ v, r.1 = some v → ∀ x ∈ v.elements, x.isDistinguishable = true → x ∈ r.2.1.issued

def Keeps (d : Drawing (Option Value)) : Prop := ∀ st, Kept st → Adds st (d st)

theorem Adds.trans {a : Generator × Nat} {r r' : Option Value × (Generator × Nat)} (h : Adds a r) (h' : Adds r.2 r') :
    Adds a r' := ⟨h'.kept, h.grown.trans h'.grown, h'.elements⟩

variable {s : Shape} {d : Drawing (Option Value)} {st st' : Generator × Nat} {v : Value}

theorem redraw_adds (hd : Keeps d) (n : Nat) (h : Kept st)
    (hv : ∀ x ∈ v.elements, x.isDistinguishable = true → x ∈ st.1.issued) : Adds st (redraw d n v st) := by
  induction n generalizing v st with
  | zero => exact ⟨h, List.prefix_rfl, fun w hw => by cases hw; exact hv⟩
  | succ n ih =>
      rw [redraw_succ]
      split
      · have hadds := hd st h
        cases hw : (d st).1 with
        | none => exact ⟨hadds.kept, hadds.grown, nofun⟩
        | some w => exact hadds.trans (ih hadds.kept (hadds.elements w hw))
      · exact ⟨h, List.prefix_rfl, fun w hw => by cases hw; exact hv⟩

/-- The value that is issued in the end, not yet added to the issued ones. -/
def choice (d : Drawing (Option Value)) : Drawing (Option Value) := fun st =>
  match (d st).1 with
  | none => (none, (d st).2)
  | some v => redraw d maxRedraws v (d st).2

/-- Add a value to the issued ones. -/
def enter (v : Value) (st : Generator × Nat) : Generator × Nat := ({ st.1 with issued := st.1.issued ++ [v] }, st.2)

theorem issue_of_not_distinguishable (h : s.isDistinguishable = false) : issue s d st = d st := by
  rw [issue_apply]
  rcases d st with ⟨_ | v, st'⟩
  · rfl
  · simp only [h, Bool.false_eq_true, ↓reduceIte]

theorem issue_of_distinguishable (h : s.isDistinguishable = true) : issue s d st =
    ((choice d st).1, (choice d st).1.elim (choice d st).2 fun v => enter v (choice d st).2) := by
  rw [issue_apply, choice]
  rcases d st with ⟨_ | v, st'⟩
  · rfl
  · simp only [h, ↓reduceIte]
    rcases redraw d maxRedraws v st' with ⟨_ | w, st''⟩ <;> rfl

theorem choice_draws (h : Draws s d) : Draws s (choice d) := by
  intro st
  rw [choice]
  obtain ⟨hadv, hdraw⟩ := h st
  cases hv : (d st).1 with
  | none => exact ⟨hadv, nofun⟩
  | some v => exact redraw_draws h maxRedraws v st (d st).2 hadv (hdraw v hv)

theorem choice_adds (hd : Keeps d) (h : Kept st) : Adds (d st).2 (choice d st) := by
  have hadds := hd st h
  rw [choice]
  cases hv : (d st).1 with
  | none => exact ⟨hadds.kept, List.prefix_rfl, nofun⟩
  | some v => exact redraw_adds hd maxRedraws hadds.kept (hadds.elements v hv)

theorem Kept.enter (h : Kept st) (hdist : v.isDistinguishable = true)
    (hv : ∀ x ∈ v.elements, x.isDistinguishable = true → x ∈ st.1.issued)
    (ho : ∀ o, v.object? = some o → o.id < st.2) : Kept (enter v st) where
  distinguishable w hw := by
    rcases List.mem_append.mp hw with hw | hw
    · exact h.distinguishable w hw
    · cases List.mem_singleton.mp hw
      exact hdist
  elements w hw x hx hdist := by
    rcases List.mem_append.mp hw with hw | hw
    · exact List.mem_append_left [v] (h.elements w hw x hx hdist)
    · cases List.mem_singleton.mp hw
      exact List.mem_append_left [v] (hv x hx hdist)
  taken w hw o hwo := by
    rcases List.mem_append.mp hw with hw | hw
    · exact h.taken w hw o hwo
    · cases List.mem_singleton.mp hw
      exact ho o hwo

theorem issue_adds (hdraws : Draws s d) (hd : Keeps d) (h : Kept st) : Adds (d st).2 (issue s d st) := by
  cases hs : s.isDistinguishable with
  | false =>
      rw [issue_of_not_distinguishable hs]
      exact ⟨(hd st h).kept, List.prefix_rfl, (hd st h).elements⟩
  | true =>
      have hadds := choice_adds hd h
      rw [issue_of_distinguishable hs]
      cases hv : (choice d st).1 with
      | none => exact ⟨hadds.kept, hadds.grown, nofun⟩
      | some v =>
          have hdrawn := (choice_draws hdraws st).2 v hv
          have hdist : v.isDistinguishable = true := by rw [Value.isDistinguishable, hdrawn.shape, hs]
          refine ⟨hadds.kept.enter hdist (hadds.elements v hv) fun o ho => (hdrawn.fresh o ho).2, ?_,
            fun w hw x hx hdist => ?_⟩
          · exact hadds.grown.trans (List.prefix_append _ _)
          · cases hw
            exact List.mem_append_left [v] (hadds.elements v hv x hx hdist)

theorem issue_keeps (hdraws : Draws s d) (hd : Keeps d) : Keeps (issue s d) :=
  fun st h => (hd st h).trans (issue_adds hdraws hd h)

/-- What is issued is the last of the issued values. -/
theorem issue_last (hd : Keeps d) (h : Kept st) (hs : s.isDistinguishable = true) (hv : (issue s d st).1 = some v) :
    ∃ new, (issue s d st).2.1.issued = st.1.issued ++ (new ++ [v]) := by
  rw [issue_of_distinguishable hs] at hv ⊢
  have hchoice : (choice d st).1 = some v := hv
  obtain ⟨new, hnew⟩ := ((hd st h).trans (choice_adds hd h)).grown
  refine ⟨new, ?_⟩
  rw [hchoice, ← List.append_assoc, hnew]
  rfl

/-- Only lists issue anything while they are drawn. -/
theorem draw_issued : (s : Shape) → s.depth = 0 → (st : Generator × Nat) → (draw s st).2.1.issued = st.1.issued
  | .unit, _, _ | .bool, _, _ | .byte, _, _ | .short, _, _ | .int, _, _ | .long, _, _ | .float, _, _ | .double, _, _
  | .char, _, _ | .str, _, _ | .duration, _, _ | .object _, _, _ | .generic, _, _ => rfl

theorem Keeps.scalar (h : s.depth = 0) : Keeps (draw s) := by
  intro st hst
  obtain ⟨hadv, hdraw⟩ := draw_draws s st
  have hissued := draw_issued s h st
  refine ⟨hst.of_issued hissued hadv.le, hissued ▸ List.prefix_rfl, fun v hv x hx => ?_⟩
  rw [Value.elements_eq_nil ((hdraw v hv).shape ▸ h)] at hx
  cases hx

theorem draw_keeps : (s : Shape) → Keeps (draw s)
  | .list element => fun st h => by
      have hadds := issue_keeps (draw_draws element) (draw_keeps element) st h
      refine ⟨hadds.kept, hadds.grown, fun v hv x hx hdist => ?_⟩
      obtain ⟨w, hw, rfl⟩ := Option.map_eq_some_iff.mp hv
      have hw : (issue element (draw element) st).1 = some w := hw
      obtain rfl := List.mem_singleton.mp hx
      rw [Value.isDistinguishable, ((issue_draws (draw_draws element) st).2 _ hw).shape] at hdist
      obtain ⟨new, hnew⟩ := issue_last (draw_keeps element) h hdist hw
      have hissued : (draw (.list element) st).2.1.issued = st.1.issued ++ (new ++ [_]) := hnew
      rw [hissued]
      exact List.mem_append_right _ (List.mem_append_right _ List.mem_cons_self)
  | .unit | .bool | .byte | .short | .int | .long | .float | .double | .char | .str | .duration | .object _
  | .generic => .scalar rfl

theorem signature?_keeps (s : Shape) : Keeps (signature? s) := issue_keeps (draw_draws s) (draw_keeps s)

/-! ## Giving up -/

/-- The state after `k` draws. -/
def afterDraws (d : Drawing (Option Value)) : Nat → Generator × Nat → Generator × Nat
  | 0, st => st
  | k + 1, st => afterDraws d k (d st).2

/-- The `k`-th draw from here gives a value that has been issued. -/
def Repeats (d : Drawing (Option Value)) (st : Generator × Nat) (k : Nat) : Prop :=
  ∃ v, (d (afterDraws d k st)).1 = some v ∧ st.1.issued.contains v = true

/-- A request gives up: the first draw for what its lists hold in the end, and all redraws, repeat issued values. -/
def GivesUp (s : Shape) (st : Generator × Nat) : Prop := ∀ k ≤ maxRedraws, Repeats (draw s.innermost) st k

instance (d : Drawing (Option Value)) (st : Generator × Nat) (k : Nat) : Decidable (Repeats d st k) :=
  decidable_of_iff ((d (afterDraws d k st)).1.any st.1.issued.contains = true) (by simp [Repeats, Option.any_eq_true])

instance (s : Shape) (st : Generator × Nat) : Decidable (GivesUp s st) := Nat.decidableBallLE _ _

theorem repeats_zero (hv : (d st).1 = some v) : Repeats d st 0 ↔ st.1.issued.contains v = true := by
  rw [Repeats, afterDraws, hv]
  simp only [Option.some.injEq, exists_eq_left']

/-- A drawing that always gives a value, and issues none. -/
structure Plain (d : Drawing (Option Value)) : Prop where
  some : ∀ st, ∃ v, (d st).1 = some v
  issued : ∀ st, (d st).2.1.issued = st.1.issued

theorem Plain.repeats_succ (h : Plain d) (st : Generator × Nat) (k : Nat) :
    Repeats d st (k + 1) ↔ Repeats d (d st).2 k := by
  rw [Repeats, Repeats, h.issued, afterDraws]

/-- Redrawing ends with an issued value exactly if all values were issued. -/
theorem redraw_plain (h : Plain d) (n : Nat) (v : Value) (st : Generator × Nat) : ∃ w st',
    redraw d n v st = (some w, st') ∧ st'.1.issued = st.1.issued ∧
      (st.1.issued.contains w = true ↔ st.1.issued.contains v = true ∧ ∀ k < n, Repeats d st k) := by
  induction n generalizing v st with
  | zero => exact ⟨v, st, rfl, rfl, by simp⟩
  | succ n ih =>
      rw [redraw_succ]
      by_cases hv : st.1.issued.contains v = true
      · obtain ⟨v', hv'⟩ := h.some st
        obtain ⟨w, st', hredraw, hissued, hiff⟩ := ih v' (d st).2
        rw [if_pos hv, hv']
        refine ⟨w, st', hredraw, hissued.trans (h.issued st), ?_⟩
        rw [h.issued] at hiff
        rw [hiff, Nat.forall_lt_succ_left, repeats_zero hv']
        simp only [hv, true_and, h.repeats_succ]
      · exact ⟨v, st, if_neg hv, rfl, by simp [hv]⟩

theorem redraw_of_not_contains {n : Nat} (h : st.1.issued.contains v = false) :
    redraw d n v st = (some v, st) := by
  cases n with
  | zero => rfl
  | succ n => rw [redraw_succ, h]; rfl

/-- A scalar is issued again exactly if its request gives up. -/
theorem signature?_scalar (hs : s.isDistinguishable = true) (h : Plain (draw s)) (hinnermost : s.innermost = s)
    (st : Generator × Nat) : ∃ v st', signature? s st = (some v, enter v st') ∧ st'.1.issued = st.1.issued ∧
      (st.1.issued.contains v = true ↔ GivesUp s st) := by
  obtain ⟨v, hv⟩ := h.some st
  obtain ⟨w, st', hredraw, hissued, hiff⟩ := redraw_plain h maxRedraws v (draw s st).2
  have hchoice : choice (draw s) st = (some w, st') := by rw [choice, hv]; exact hredraw
  refine ⟨w, st', ?_, hissued.trans (h.issued st), ?_⟩
  · rw [signature?, issue_of_distinguishable hs, hchoice]
    rfl
  · rw [h.issued] at hiff
    rw [hiff, GivesUp, hinnermost]
    simp only [← Nat.lt_succ_iff, Nat.forall_lt_succ_left, repeats_zero hv, h.repeats_succ]

/-! ## Requests -/

theorem draw_plain (hdepth : s.depth = 0) (hknown : s.isKnown = true) : Plain (draw s) where
  some st := (draw_always s hknown st).imp fun _ hv => hv.1
  issued := draw_issued s hdepth

/-- A value within lists is new where it is itself. -/
theorem Kept.contains_of_nested (h : Kept st) (hv : v.isDistinguishable = true) :
    {n : Nat} → st.1.issued.contains (v.nested n) = true → st.1.issued.contains v = true
  | 0, hn => hn
  | n + 1, hn => by
      obtain ⟨w, hw, hsame⟩ := List.contains_iff_exists_mem_beq.mp hn
      obtain ⟨x, hx, hsame'⟩ := Value.exists_element_of_beq hsame List.mem_cons_self
      have hdist : x.isDistinguishable = true := by
        rw [← Value.isDistinguishable_of_beq hsame', Value.isDistinguishable_nested hv]
      exact h.contains_of_nested hv (List.contains_iff_exists_mem_beq.mpr ⟨x, h.elements w hw x hx hdist, hsame'⟩)

/-- What a request issues. The first value `v` repeats an issued one exactly if the request gives up; otherwise it is
issued with the lists around it. -/
structure Requested (s : Shape) (st : Generator × Nat) (v : Value) : Prop where
  plain : v.elements = []
  distinguishable : v.isDistinguishable = true
  fresh : ∀ o, v.object? = some o → st.2 ≤ o.id
  repeats : st.1.issued.contains v = true ↔ GivesUp s st
  first : st.1.issued ++ [v] <+: (signature? s st).2.1.issued
  result : st.1.issued.contains v = false → (signature? s st).1 = some (v.nested s.depth)
  issued : st.1.issued.contains v = false →
    (signature? s st).2.1.issued = st.1.issued ++ (List.range (s.depth + 1)).map v.nested

theorem Requested.scalar (hdepth : s.depth = 0) (hinnermost : s.innermost = s) (hs : s.isDistinguishable = true)
    (hknown : s.isKnown = true) (st : Generator × Nat) : ∃ v, Requested s st v := by
  obtain ⟨v, st', hsignature, hissued, hiff⟩ := signature?_scalar hs (draw_plain hdepth hknown) hinnermost st
  have hdrawn := (signature?_draws s st).2 v (by rw [hsignature])
  have hafter : (signature? s st).2.1.issued = st.1.issued ++ [v] := by rw [hsignature, enter, hissued]
  have hplain : v.elements = [] := Value.elements_eq_nil (hdrawn.shape ▸ hdepth)
  have hdist : v.isDistinguishable = true := by rw [Value.isDistinguishable, hdrawn.shape, hs]
  refine ⟨v, hplain, hdist, fun o ho => (hdrawn.fresh o ho).1, hiff, ?_, ?_, ?_⟩
  · rw [hafter]
  · rw [hsignature, hdepth]
    exact fun _ => rfl
  · rw [hafter, hdepth]
    exact fun _ => rfl

namespace Requested

variable {element : Shape}

/-- The list around what was issued last is new too. -/
theorem signature?_list (h : Requested element st v) (hst : Kept st) (hfresh : st.1.issued.contains v = false) :
    signature? (.list element) st =
      (some (v.nested (element.depth + 1)), enter (v.nested (element.depth + 1)) (signature? element st).2) := by
  have hdraw : draw (.list element) st = (some (v.nested (element.depth + 1)), (signature? element st).2) := by
    rw [draw_list, h.result hfresh]
    rfl
  have hnew : (signature? element st).2.1.issued.contains (v.nested (element.depth + 1)) = false := by
    rw [Bool.eq_false_iff, h.issued hfresh, List.contains_append, Ne, Bool.or_eq_true]
    rintro (hold | hnested)
    · rw [hst.contains_of_nested h.distinguishable hold] at hfresh
      cases hfresh
    · obtain ⟨w, hw, hsame⟩ := List.contains_iff_exists_mem_beq.mp hnested
      obtain ⟨n, hn, rfl⟩ := List.mem_map.mp hw
      exact absurd (Value.eq_of_nested_beq h.plain hsame) (Nat.ne_of_gt (List.mem_range.mp hn))
  have hchoice : choice (draw (.list element)) st =
      (some (v.nested (element.depth + 1)), (signature? element st).2) := by
    rw [choice, hdraw]
    exact redraw_of_not_contains hnew
  rw [signature?, issue_of_distinguishable rfl, hchoice]
  rfl

theorem list (h : Requested element st v) (hst : Kept st) : Requested (.list element) st v where
  plain := h.plain
  distinguishable := h.distinguishable
  fresh := h.fresh
  repeats := h.repeats
  first := h.first.trans (issue_adds (draw_draws (.list element)) (draw_keeps (.list element)) hst).grown
  result hfresh := by rw [h.signature?_list hst hfresh]; rfl
  issued hfresh := by
    rw [h.signature?_list hst hfresh, enter, h.issued hfresh, List.append_assoc, Shape.depth,
      List.range_succ (n := element.depth + 1), List.map_append]
    rfl

end Requested

theorem exists_requested : (s : Shape) → s.innermost.isDistinguishable = true → s.isKnown = true →
    {st : Generator × Nat} → Kept st → ∃ v, Requested s st v
  | .list element, hs, hknown, _, h =>
      (exists_requested element hs hknown h).imp fun _ hv => hv.list h
  | .byte, hs, hknown, st, _ | .short, hs, hknown, st, _ | .int, hs, hknown, st, _ | .long, hs, hknown, st, _
  | .float, hs, hknown, st, _ | .double, hs, hknown, st, _ | .char, hs, hknown, st, _ | .str, hs, hknown, st, _
  | .duration, hs, hknown, st, _ | .object _, hs, hknown, st, _ =>
      Requested.scalar rfl rfl hs hknown st

/-- An object is never issued again. -/
theorem Kept.not_givesUp (h : Kept st) {className : String} (hs : s.innermost = .object className) :
    ¬ GivesUp s st := by
  intro hgives
  obtain ⟨v, hv, hissued⟩ := hgives 0 (Nat.zero_le _)
  rw [hs] at hv
  cases hv
  obtain ⟨w, hw, hsame⟩ := List.contains_iff_exists_mem_beq.mp hissued
  cases w with
  | object o => exact Nat.ne_of_gt (h.taken _ hw o rfl) (ObjectRef.beq_iff.mp hsame)
  | _ => cases hsame

/-- A request may repeat values if they are flags within lists, or if it gives up; objects are never repeated. -/
def MayRepeat (s : Shape) (st : Generator × Nat) : Prop :=
  s.innermost.isDistinguishable = false ∨ GivesUp s st ∧ ∀ className, s.innermost ≠ .object className

instance : (s : Shape) → Decidable (∀ className, s ≠ .object className)
  | .object className => .isFalse fun h => h className rfl
  | .unit | .bool | .byte | .short | .int | .long | .float | .double | .char | .str | .duration | .list _
  | .generic => .isTrue nofun

instance (s : Shape) (st : Generator × Nat) : Decidable (MayRepeat s st) := instDecidableOr

theorem exists_fresh (h : Kept st) (hknown : s.innermost ≠ .generic) (hrepeat : ¬ MayRepeat s st) :
    ∃ v, Requested s st v ∧ st.1.issued.contains v = false := by
  obtain ⟨hs, hgives⟩ := not_or.mp hrepeat
  obtain ⟨v, hv⟩ := exists_requested s (Bool.eq_true_of_not_eq_false hs) (Shape.isKnown_iff.mpr hknown) h
  refine ⟨v, hv, ?_⟩
  rw [Bool.eq_false_iff, Ne, hv.repeats]
  exact fun hg => hgives ⟨hg, fun className hobject => h.not_givesUp hobject hg⟩

/-- Nothing that was issued before equals a new value, within however many lists. -/
theorem Requested.new (hv : Requested s st v) (h : Kept st) (hfresh : st.1.issued.contains v = false) :
    ∀ u ∈ st.1.issued, ∀ n, (u == v.nested n) = false := by
  intro u hu n
  rw [Bool.eq_false_iff]
  intro hsame
  have hcontains := List.contains_iff_exists_mem_beq.mpr ⟨u, hu, PartialEquivBEq.symm hsame⟩
  rw [h.contains_of_nested hv.distinguishable hcontains] at hfresh
  cases hfresh

/-- What a request issues differs from what was issued before, and among itself. -/
theorem signature?_apart (s : Shape) (h : Kept st) : ∃ new,
    (signature? s st).2.1.issued = st.1.issued ++ new ∧ (MayRepeat s st ∨
      new.Pairwise (fun v w => (v == w) = false) ∧ ∀ v ∈ st.1.issued, ∀ w ∈ new, (v == w) = false) := by
  obtain ⟨new, hissued⟩ := (signature?_keeps s st h).grown
  by_cases hrepeat : MayRepeat s st
  · exact ⟨new, hissued.symm, .inl hrepeat⟩
  by_cases hgeneric : s.innermost = .generic
  · exact ⟨[], by rw [signature?_unknown hgeneric, List.append_nil], .inr ⟨.nil, nofun⟩⟩
  obtain ⟨v, hv, hfresh⟩ := exists_fresh h hgeneric hrepeat
  refine ⟨_, hv.issued hfresh, .inr ⟨?_, fun u hu w hw => ?_⟩⟩
  · refine List.pairwise_map.mpr (List.pairwise_lt_range.imp fun hlt => ?_)
    exact Bool.eq_false_iff.mpr fun hsame => absurd (Value.eq_of_nested_beq hv.plain hsame) (Nat.ne_of_lt hlt)
  · obtain ⟨n, -, rfl⟩ := List.mem_map.mp hw
    exact hv.new h hfresh u hu n

/-- A request that gives up repeats an issued value. -/
theorem signature?_repeats (h : Kept st) (hs : s.innermost.isDistinguishable = true)
    (hgives : GivesUp s st) : ∃ v new, (signature? s st).2.1.issued = st.1.issued ++ v :: new ∧
      st.1.issued.contains v = true := by
  by_cases hgeneric : s.innermost = .generic
  · obtain ⟨v, hv, -⟩ := hgives 0 (Nat.zero_le _)
    rw [hgeneric] at hv
    cases hv
  · obtain ⟨v, hv⟩ := exists_requested s hs (Shape.isKnown_iff.mpr hgeneric) h
    obtain ⟨new, hissued⟩ := hv.first
    exact ⟨v, new, by rw [← hissued, List.append_assoc]; rfl, hv.repeats.mpr hgives⟩

end Generator

/-! ## A round -/

/-- A value that was issued, with the shape that was asked for and the state before that. -/
structure Issued where
  value : Value
  shape : Shape
  before : Generator × Nat

/-- A round in which values are issued. -/
structure IssuingRound where
  recording : OpenRound
  generator : Generator
  store : Store
  issued : List Issued := []

/-- What happens while values are issued. -/
inductive IssuingStep where
  | draw (shape : Shape)
  | register (m : Matcher) (shape : Shape)
  | capture (target : ObjectRef) (method : Method) (args : List Value) (caller : Option Frame)
  /-- Objects are made elsewhere. -/
  | elsewhere (objects : Nat)

namespace IssuingRound

def start (g : Generator) (index : Nat) (hints : Hints) (s : Store) : IssuingRound where
  recording := .start index hints
  generator := g.startRound index
  store := s

/-- What the next request finds. -/
abbrev state (r : IssuingRound) : Generator × Nat := (r.generator, r.store.nextObject)

/-- What a request for this shape has issued. -/
def issuedFor (r : IssuingRound) (shape : Shape) (g : Generator) : List Issued :=
  (g.issued.drop r.generator.issued.length).map fun v => ⟨v, shape, r.state⟩

def take (r : IssuingRound) : IssuingStep → IssuingRound
  | .draw shape =>
    let (_, g, s) := OpenRound.drawing r.generator r.store (Generator.signature? shape)
    { r with generator := g, store := s, issued := r.issued ++ r.issuedFor shape g }
  | .register m shape =>
    let (_, o, g, s) := r.recording.register r.generator r.store m shape
    ⟨o, g, s, r.issued ++ r.issuedFor shape g⟩
  | .capture target method args caller =>
    let shape := (r.recording.hints.lookup r.recording.round.calls.length).getD method.returns
    let (_, o, g, s) := r.recording.capture r.generator r.store target method args caller
    ⟨o, g, s, r.issued ++ r.issuedFor shape g⟩
  | .elsewhere objects => { r with store := { r.store with nextObject := r.store.nextObject + objects } }

def run (r : IssuingRound) (steps : List IssuingStep) : IssuingRound := steps.foldl take r

/-! ### Steps -/

/-- The round asks for a value of this shape; identities may be taken besides. -/
structure Asks (r : IssuingRound) (shape : Shape) (r' : IssuingRound) : Prop where
  generator : r'.generator = (Generator.signature? shape r.state).2.1
  taken : (Generator.signature? shape r.state).2.2 ≤ r'.store.nextObject
  issued : r'.issued = r.issued ++ r.issuedFor shape r'.generator

theorem asks_draw (r : IssuingRound) (shape : Shape) : r.Asks shape (r.take (.draw shape)) := ⟨rfl, Nat.le_refl _, rfl⟩

theorem asks_register (r : IssuingRound) (m : Matcher) (shape : Shape) : r.Asks shape (r.take (.register m shape)) := by
  rcases hs : Generator.signature? shape r.state with ⟨_ | v, g, n⟩
  · refine ⟨?_, ?_, rfl⟩ <;> simp only [take, OpenRound.register, OpenRound.drawing, hs]
    · rfl
    · exact Nat.le_succ n
  · refine ⟨?_, ?_, rfl⟩ <;> simp only [take, OpenRound.register, OpenRound.drawing, hs]
    exact Nat.le_refl n

theorem asks_capture (r : IssuingRound) (target : ObjectRef) (method : Method) (args : List Value)
    (caller : Option Frame) : r.Asks ((r.recording.hints.lookup r.recording.round.calls.length).getD method.returns)
      (r.take (.capture target method args caller)) := by
  rcases hs : Generator.signature? ((r.recording.hints.lookup r.recording.round.calls.length).getD method.returns)
    r.state with ⟨_ | v, g, n⟩
  · refine ⟨?_, ?_, rfl⟩ <;> simp only [take, OpenRound.capture, OpenRound.drawing, hs]
    · rfl
    · exact Nat.le_succ n
  · refine ⟨?_, ?_, rfl⟩ <;> simp only [take, OpenRound.capture, OpenRound.drawing, hs]
    exact Nat.le_refl n

/-- What holds in every round: the values that were issued differ, where no request may repeat them. -/
structure Sound (r : IssuingRound) : Prop where
  kept : Generator.Kept r.state
  values : r.issued.map (·.value) = r.generator.issued
  apart : r.issued.Pairwise fun a b => Generator.MayRepeat b.shape b.before ∨ (a.value == b.value) = false

theorem Sound.asks {r r' : IssuingRound} {shape : Shape} (h : r.Sound) (hasks : r.Asks shape r') : r'.Sound := by
  have hkept := (Generator.signature?_keeps shape _ h.kept).kept
  obtain ⟨new, hnew, hapart⟩ := Generator.signature?_apart shape h.kept
  rw [← hasks.generator] at hnew
  have hissued : r'.issued = r.issued ++ new.map fun v => ⟨v, shape, r.state⟩ := by
    rw [hasks.issued, issuedFor, hnew, List.drop_left]
  refine ⟨hkept.of_issued (congrArg Generator.issued hasks.generator) hasks.taken, ?_, ?_⟩
  · rw [hissued, List.map_append, h.values, hnew, List.map_map]
    congr 1
    exact List.map_id new
  · rw [hissued, List.pairwise_append, List.pairwise_map]
    rcases hapart with hrepeat | ⟨hdistinct, hfresh⟩
    · refine ⟨h.apart, List.pairwise_of_forall fun _ _ => .inl hrepeat, fun a _ b hb => ?_⟩
      obtain ⟨v, -, rfl⟩ := List.mem_map.mp hb
      exact .inl hrepeat
    · refine ⟨h.apart, hdistinct.imp .inr, fun a ha b hb => ?_⟩
      obtain ⟨v, hv, rfl⟩ := List.mem_map.mp hb
      exact .inr (hfresh a.value (h.values ▸ List.mem_map_of_mem ha) v hv)

theorem Sound.take {r : IssuingRound} (h : r.Sound) : (step : IssuingStep) → (r.take step).Sound
  | .draw shape => h.asks (r.asks_draw shape)
  | .register m shape => h.asks (r.asks_register m shape)
  | .capture target method args caller => h.asks (r.asks_capture target method args caller)
  | .elsewhere _ => ⟨h.kept.of_issued rfl (Nat.le_add_right _ _), h.values, h.apart⟩

theorem Sound.run {r : IssuingRound} (h : r.Sound) (steps : List IssuingStep) : (r.run steps).Sound := by
  induction steps generalizing r with
  | nil => exact h
  | cons step steps ih => exact ih (h.take step)

theorem start_sound (g : Generator) (index : Nat) (hints : Hints) (s : Store) : (start g index hints s).Sound :=
  ⟨⟨nofun, nofun, nofun⟩, rfl, .nil⟩

/-- Whatever is drawn in a round, two values that it issues differ, unless the request for the later one may repeat
values. -/
theorem run_apart (g : Generator) (index : Nat) (hints : Hints) (s : Store) (steps : List IssuingStep) :
    ((start g index hints s).run steps).issued.map (·.value) = ((start g index hints s).run steps).generator.issued ∧
    ((start g index hints s).run steps).issued.Pairwise fun a b =>
      Generator.MayRepeat b.shape b.before ∨ (a.value == b.value) = false :=
  have h := (start_sound g index hints s).run steps
  ⟨h.values, h.apart⟩

/-- A band of 32 bytes has no 33 stand-ins, and a round has one list with a flag. -/
theorem run_repeats :
    (¬ ((start (.ofSeed none) 0 [] {}).run (.replicate 33 (.draw .byte))).generator.issued.Pairwise
      fun v w => (v == w) = false) ∧
    ¬ ((start (.ofSeed none) 0 [] {}).run (.replicate 2 (.draw (.list .bool)))).generator.issued.Pairwise
      fun v w => (v == w) = false := by
  decide +kernel

end IssuingRound

end TestDouble
