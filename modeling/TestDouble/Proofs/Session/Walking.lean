import TestDouble.Proofs.Recording.Chaining
import TestDouble.Proofs.Session.Leading

/-!
# Walking along a chain

In a chain every call is made on the result of the one before. Replacing its links by the children that the mocks
answer with is a walk from mock to mock. Where it stops, no later call is made on a mock.
-/

namespace TestDouble

namespace Resolution

/-- The first call is made on this object, each later one on what the call before it has returned. -/
inductive Chain (last : ResolvedCall) : ObjectRef → Resolution → Prop
  | last {o : ObjectRef} (htarget : last.matcher.target = o) : Chain last o [last]
  | link {o x : ObjectRef} {cs : Resolution} (c : ResolvedCall) (htarget : c.matcher.target = o)
      (hreturned : c.returned.object? = some x) (rest : Chain last x cs) : Chain last o (c :: cs)

/-- From link to link, each time to what the newest entry of the link's shape answers with. What is reached, and the
last call with the links replaced by what was passed. -/
def walk? (r : Registry) (current : ObjectRef) (links : Links) : Resolution → Option (ObjectRef × CallMatcher)
  | [] => none
  | c :: cs =>
    match c.linkObject? with
    | none => some (current, links.apply c.matcher)
    | some x =>
      match (r.stub? current.id).bind (·.chainChild? (links.apply c.matcher)) with
      | none => none
      | some child => walk? r child (links ++ [(x.id, child)]) cs

/-- Every call but the last is a link. -/
def Linking (res : Resolution) : Prop :=
  ∀ k c, res[k]? = some c → (c.intermediate = true ↔ k + 1 < res.length)

variable {r : Registry} {res cs : Resolution} {c d last : ResolvedCall} {o x current : ObjectRef} {links : Links}
  {s : Store}

theorem Linking.tail (h : Linking (c :: cs)) : Linking cs := fun k d hd => by
  rw [h (k + 1) d hd, List.length_cons, Nat.add_lt_add_iff_right]

theorem Linking.not_last (h : Linking [last]) : last.intermediate = false :=
  Bool.eq_false_iff.mpr fun hlink => absurd ((h 0 last rfl).mp hlink) (Nat.lt_irrefl 1)

theorem Linking.head (h : Linking (c :: cs)) (hcs : cs ≠ []) : c.intermediate = true :=
  (h 0 c rfl).mpr (Nat.succ_lt_succ (List.length_pos_of_ne_nil hcs))

/-! ## The links of a recorded chain -/

theorem Chain.ne_nil (h : Chain last o res) : res ≠ [] := by
  cases h <;> exact List.cons_ne_nil _ _

theorem Chain.next (h : Chain last o res) {k : Nat} (hc : res[k]? = some c) (hd : res[k + 1]? = some d) :
    c.returned.object? = some d.matcher.target := by
  induction h generalizing k with
  | last _ => cases hd
  | link e _ hreturned rest ih =>
      cases k with
      | zero =>
          cases hc
          cases rest <;> cases hd <;> rename_i htarget <;> exact htarget ▸ hreturned
      | succ k => exact ih hc hd

/-- The links of a chain are the calls whose results are used. -/
theorem Traced.linking {res : Resolution} (h : res.Traced s) (hchain : Chain last o res) : res.Linking := by
  rcases h.last with rfl | ⟨round, b, hround, rfl⟩
  · exact absurd rfl hchain.ne_nil
  intro k c hc
  have hcall := round.resolved_getElem? b k
  rw [hc] at hcall
  obtain ⟨e, he, rfl⟩ := Option.map_eq_some_iff.mp hcall.symm
  rw [Round.length_resolved]
  refine ⟨fun hlink => ?_, fun hk => ?_⟩
  · obtain ⟨id, hands⟩ := Round.mem_intermediates.mp (List.contains_iff_mem.mp hlink)
    exact hands.lt
  · have huser := List.getElem?_eq_getElem hk
    have hd := round.resolved_getElem? b (k + 1)
    rw [huser, Option.map_some] at hd
    have hreturns : round.Returns k (round.calls[k + 1]).call.target.id := ⟨e, _, he, hchain.next hc hd, rfl⟩
    have hhands := hround.recorded.hands_iff.mpr ⟨hreturns, k + 1, _, Nat.lt_succ_self k, huser, .inl rfl⟩
    obtain ⟨l, y, hl, hy, -⟩ := hhands.link b
    cases hc.symm.trans hl
    exact (ResolvedCall.linkObject?_eq_some.mp hy).1

/-! ## Replacing the links -/

theorem linked_last (h : last.intermediate = false) (r : Registry) (links : Links) :
    linked r links [last] = ([{ last with matcher := links.apply last.matcher }], []) := by
  have hnone : ResolvedCall.linkObject? { last with matcher := links.apply last.matcher } = none :=
    if_neg (ne_true_of_eq_false h)
  rw [linked]
  dsimp only
  rw [hnone]
  rfl

theorem linked_child {child : ObjectRef} (h : c.linkObject? = some x)
    (hchild : (r.stub? (links.apply c.matcher).target.id).bind (·.chainChild? (links.apply c.matcher)) = some child) :
    linked r links (c :: cs) = ({ c with matcher := links.apply c.matcher } ::
      (linked r (links ++ [(x.id, child)]) cs).1, (linked r (links ++ [(x.id, child)]) cs).2) := by
  have hlink : ResolvedCall.linkObject? { c with matcher := links.apply c.matcher } = some x := h
  rw [linked]
  dsimp only
  rw [hlink]
  dsimp only
  rw [hchild]

theorem linked_detached (h : c.linkObject? = some x)
    (hnone : (r.stub? (links.apply c.matcher).target.id).bind (·.chainChild? (links.apply c.matcher)) = none) :
    linked r links (c :: cs) = ({ c with matcher := links.apply c.matcher } :: (linked r links cs).1,
      x.id :: (linked r links cs).2) := by
  have hlink : ResolvedCall.linkObject? { c with matcher := links.apply c.matcher } = some x := h
  rw [linked]
  dsimp only
  rw [hlink]
  dsimp only
  rw [hnone]

theorem topLevel_cons_link (h : c.linkObject? = some x) (m : CallMatcher) :
    topLevel ({ c with matcher := m } :: cs) = topLevel cs := by
  rw [topLevel, List.filter_cons_of_neg (by simp [(ResolvedCall.linkObject?_eq_some.mp h).1]), topLevel]

theorem topLevel_last (h : last.intermediate = false) (m : CallMatcher) :
    topLevel [{ last with matcher := m }] = [{ last with matcher := m }] := by
  rw [topLevel, List.filter_cons_of_pos (by simp [h]), List.filter_nil]

/-- A walk that arrives has replaced all links. -/
theorem Chain.linked_of_walk (hchain : Chain last o cs) (hlinking : cs.Linking) (hlead : links.lead o = current)
    (hnodup : (links.map (·.1) ++ (cs.filterMap ResolvedCall.linkObject?).map (·.id)).Nodup)
    {t : ObjectRef} {m : CallMatcher} (hwalk : cs.walk? r current links = some (t, m)) :
    (cs.linked r links).1.topLevel.matchers = [m] ∧ (cs.linked r links).2 = [] ∧ m.target = t ∧
      ∃ links' : Links, m = links'.apply last.matcher := by
  induction hchain generalizing links current with
  | last htarget =>
      have hlast := hlinking.not_last
      have hnone : last.linkObject? = none := if_neg (ne_true_of_eq_false hlast)
      rw [walk?, hnone] at hwalk
      cases hwalk
      rw [linked_last hlast, topLevel_last hlast]
      exact ⟨rfl, rfl, by rw [Links.target_apply, htarget, hlead], links, rfl⟩
  | @link o x cs c htarget hreturned rest ih =>
      have hlink := ResolvedCall.linkObject?_eq_some.mpr ⟨hlinking.head rest.ne_nil, hreturned⟩
      have hcurrent : (links.apply c.matcher).target = current := by rw [Links.target_apply, htarget, hlead]
      rw [List.filterMap_cons_some hlink, List.map_cons] at hnodup
      rw [walk?, hlink] at hwalk
      dsimp only at hwalk
      cases hchild : (r.stub? current.id).bind (·.chainChild? (links.apply c.matcher)) with
      | none => rw [hchild] at hwalk; cases hwalk
      | some child =>
          rw [hchild] at hwalk
          have hx : x.id ∉ links.map (·.1) := fun hmem =>
            (List.nodup_append.mp hnodup).2.2 _ hmem _ List.mem_cons_self rfl
          rw [linked_child hlink (hcurrent ▸ hchild), topLevel_cons_link hlink]
          exact ih hlinking.tail (Links.lead_append_self hx child) (by simpa using hnodup) hwalk

/-- After a link without a child all further links stay detached. -/
theorem Chain.linked_of_gone (hchain : Chain last x cs) (hlinking : cs.Linking) (hx : x.id ∉ links.map (·.1))
    (hgone : r.stub? x.id = none)
    (hlinks : ∀ c ∈ cs, ∀ y, c.linkObject? = some y → y.id ∉ links.map (·.1) ∧ r.stub? y.id = none) :
    (cs.linked r links).1.topLevel.matchers = [links.apply last.matcher] ∧
      (links.apply last.matcher).target.id ∈ x.id :: (cs.linked r links).2 := by
  induction hchain with
  | last htarget =>
      rw [linked_last hlinking.not_last, topLevel_last hlinking.not_last, Links.target_apply, htarget,
        Links.lead_of_notMem hx]
      exact ⟨rfl, List.mem_cons_self⟩
  | @link o y cs c htarget hreturned rest ih =>
      have hlink := ResolvedCall.linkObject?_eq_some.mpr ⟨hlinking.head rest.ne_nil, hreturned⟩
      have hcurrent : (links.apply c.matcher).target = o := by
        rw [Links.target_apply, htarget, Links.lead_of_notMem hx]
      obtain ⟨hy, hygone⟩ := hlinks c List.mem_cons_self y hlink
      obtain ⟨hmatchers, hmem⟩ := ih hlinking.tail hy hygone fun d hd => hlinks d (List.mem_cons_of_mem c hd)
      rw [linked_detached hlink (by rw [hcurrent, hgone]; rfl), topLevel_cons_link hlink]
      exact ⟨hmatchers, List.mem_cons_of_mem _ hmem⟩

/-- Where a walk stops, the last call is left with a detached target. -/
theorem Chain.linked_of_stop (hchain : Chain last o cs) (hlinking : cs.Linking) (hlead : links.lead o = current)
    (hnodup : (links.map (·.1) ++ (cs.filterMap ResolvedCall.linkObject?).map (·.id)).Nodup)
    (hgone : ∀ c ∈ cs, ∀ y, c.linkObject? = some y → r.stub? y.id = none) (hwalk : cs.walk? r current links = none) :
    ∃ links' : Links, (cs.linked r links).1.topLevel.matchers = [links'.apply last.matcher] ∧
      (links'.apply last.matcher).target.id ∈ (cs.linked r links).2 := by
  induction hchain generalizing links current with
  | last htarget =>
      have hnone : last.linkObject? = none := if_neg (ne_true_of_eq_false hlinking.not_last)
      rw [walk?, hnone] at hwalk
      cases hwalk
  | @link o x cs c htarget hreturned rest ih =>
      have hlink := ResolvedCall.linkObject?_eq_some.mpr ⟨hlinking.head rest.ne_nil, hreturned⟩
      have hcurrent : (links.apply c.matcher).target = current := by rw [Links.target_apply, htarget, hlead]
      rw [List.filterMap_cons_some hlink, List.map_cons] at hnodup
      have hx : x.id ∉ links.map (·.1) := fun hmem =>
        (List.nodup_append.mp hnodup).2.2 _ hmem _ List.mem_cons_self rfl
      rw [walk?, hlink] at hwalk
      dsimp only at hwalk
      cases hchild : (r.stub? current.id).bind (·.chainChild? (links.apply c.matcher)) with
      | none =>
          rw [linked_detached hlink (hcurrent ▸ hchild), topLevel_cons_link hlink]
          refine ⟨links, rest.linked_of_gone hlinking.tail hx (hgone c List.mem_cons_self x hlink) fun d hd y hy => ?_⟩
          refine ⟨fun hmem => ?_, hgone d (List.mem_cons_of_mem c hd) y hy⟩
          have hlater : y.id ∈ (cs.filterMap ResolvedCall.linkObject?).map (·.id) :=
            List.mem_map.mpr ⟨y, List.mem_filterMap.mpr ⟨d, hd, hy⟩, rfl⟩
          exact (List.nodup_append.mp hnodup).2.2 _ hmem _ (List.mem_cons_of_mem _ hlater) rfl
      | some child =>
          rw [hchild] at hwalk
          rw [linked_child hlink (hcurrent ▸ hchild), topLevel_cons_link hlink]
          exact ih hlinking.tail (Links.lead_append_self hx child) (by simpa using hnodup) (fun d hd => hgone d (List.mem_cons_of_mem c hd)) hwalk

end Resolution

end TestDouble
