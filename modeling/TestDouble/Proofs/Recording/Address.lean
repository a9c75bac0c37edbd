import TestDouble.Recording.Binding

/-!
# Addresses

What stands at an address of a round, and the order in which a round lists its addresses.
-/

namespace TestDouble

namespace Address

/-- The place within a slot; the whole comes before its elements. -/
def offset (a : Address) : Nat := a.element.elim 0 (· + 1)

/-- By call, then by slot; a whole list comes before its elements. -/
def Before (a b : Address) : Prop :=
  a.call < b.call ∨ a.call = b.call ∧ (a.slot < b.slot ∨ a.slot = b.slot ∧ a.offset < b.offset)

theorem Before.asymm {a b : Address} (h : a.Before b) : ¬ b.Before a := by
  unfold Before at *; omega

theorem overlaps_self (a : Address) : a.overlaps a = true := by simp [overlaps]

theorem overlaps_comm (a b : Address) : a.overlaps b = b.overlaps a := by
  simp only [overlaps, BEq.comm (a := a.call), BEq.comm (a := a.slot), BEq.comm (a := a.element),
    Bool.or_comm a.element.isNone]

/-- Addresses that do not overlap differ. -/
theorem ne_of_not_overlaps {a b : Address} (h : a.overlaps b = false) : a ≠ b := by
  rintro rfl; simp [overlaps_self] at h

end Address

namespace Round

/-- The elements of the list in the vararg slot of a call. -/
def varargItems? (r : Round) (call slot : Nat) : Option (List Value) := do
  let c ← r.calls[call]?
  if c.call.method.varargSlot? = some slot then
    match c.call.args[slot]? with
    | some (.list items) => some items
    | _ => none
  else none

/-- What stands at an address. -/
def valueAt? (r : Round) (a : Address) : Option Value :=
  match a.element with
  | none => r.calls[a.call]?.bind (·.call.args[a.slot]?)
  | some e => (r.varargItems? a.call a.slot).bind (·[e]?)

theorem mem_slotAddresses {call : Nat} {varargSlot : Option Nat} {arg : Value × Nat} {a : Address}
    {v : Value} : (a, v) ∈ slotAddresses call varargSlot arg ↔
      a.call = call ∧ a.slot = arg.2 ∧ (a.element = none ∧ v = arg.1 ∨ varargSlot = some arg.2 ∧
        ∃ items e, arg.1 = .list items ∧ a.element = some e ∧ items[e]? = some v) := by
  obtain ⟨c, s, e⟩ := a
  obtain ⟨w, i⟩ := arg
  cases w with
  | list items =>
      by_cases h : varargSlot = some i
      · simp only [slotAddresses, h, ↓reduceIte, List.mem_cons, Prod.mk.injEq, Address.mk.injEq, List.mem_map,
          Prod.exists, List.mk_mem_zipIdx_iff_getElem?, Value.list.injEq]
        grind
      · simp only [slotAddresses, h, ↓reduceIte, List.mem_cons, Prod.mk.injEq, Address.mk.injEq, List.not_mem_nil]
        grind
  | _ => simp [slotAddresses]; grind

/-- A round lists every address at which something stands. -/
theorem mem_addresses {r : Round} {a : Address} {v : Value} :
    (a, v) ∈ r.addresses ↔ r.valueAt? a = some v := by
  obtain ⟨c, s, e⟩ := a
  simp only [addresses, List.mem_flatMap, Prod.exists, List.mk_mem_zipIdx_iff_getElem?, mem_slotAddresses]
  cases e with
  | none =>
      simp only [valueAt?, Option.bind_eq_some_iff]
      constructor
      · rintro ⟨c', i, hc, w, j, hw, rfl, rfl, ⟨_, rfl⟩ | ⟨_, _, _, _, h, _⟩⟩
        · exact ⟨c', hc, hw⟩
        · cases h
      · rintro ⟨c', hc, hv⟩
        exact ⟨c', c, hc, v, s, hv, rfl, rfl, .inl ⟨trivial, rfl⟩⟩
  | some e =>
      simp only [valueAt?, varargItems?, Option.bind_eq_some_iff]
      grind

/-! ## Order -/

theorem pairwise_zipIdx {α : Type} (l : List α) : l.zipIdx.Pairwise fun a b => a.2 < b.2 := by
  have h : (l.zipIdx.map Prod.snd).Pairwise (· < ·) := by
    rw [List.zipIdx_map_snd]; exact List.pairwise_lt_range'
  exact List.pairwise_map.mp h

theorem slotAddresses_sorted (call : Nat) (varargSlot : Option Nat) (arg : Value × Nat) :
    ((slotAddresses call varargSlot arg).map (·.1)).Pairwise Address.Before := by
  obtain ⟨w, i⟩ := arg
  cases w with
  | list items =>
      by_cases h : varargSlot = some i
      · simp only [slotAddresses, h, ↓reduceIte, List.map_cons, List.map_map, List.pairwise_cons, List.mem_map,
          List.pairwise_map]
        refine ⟨?_, (pairwise_zipIdx items).imp fun hlt => ?_⟩
        · rintro _ ⟨item, _, rfl⟩
          simp [Address.Before, Address.offset]
        · simpa [Address.Before, Address.offset] using hlt
      · simp [slotAddresses, h]
  | _ => simp [slotAddresses]

theorem mem_slotAddresses_place {call : Nat} {varargSlot : Option Nat} {arg : Value × Nat} {a : Address}
    (h : a ∈ (slotAddresses call varargSlot arg).map (·.1)) : a.call = call ∧ a.slot = arg.2 := by
  obtain ⟨⟨b, v⟩, hb, rfl⟩ := List.mem_map.mp h
  have := mem_slotAddresses.mp hb
  exact ⟨this.1, this.2.1⟩

/-- Addresses are listed in increasing order. -/
theorem addresses_sorted (r : Round) : (r.addresses.map (·.1)).Pairwise Address.Before := by
  unfold addresses
  rw [List.map_flatMap, List.pairwise_flatMap]
  refine ⟨fun c _ => ?_, (pairwise_zipIdx _).imp fun hlt a ha b hb => ?_⟩
  · rw [List.map_flatMap, List.pairwise_flatMap]
    refine ⟨fun arg _ => slotAddresses_sorted _ _ arg, (pairwise_zipIdx _).imp fun hlt a ha b hb => ?_⟩
    obtain ⟨hac, has⟩ := mem_slotAddresses_place ha
    obtain ⟨hbc, hbs⟩ := mem_slotAddresses_place hb
    exact .inr ⟨by omega, .inl (by omega)⟩
  · rw [List.map_flatMap, List.mem_flatMap] at ha hb
    obtain ⟨_, _, ha⟩ := ha
    obtain ⟨_, _, hb⟩ := hb
    have hac := (mem_slotAddresses_place ha).1
    have hbc := (mem_slotAddresses_place hb).1
    exact .inl (by omega)

/-! ## Possible addresses -/

/-- A matcher can belong where its stand-in was passed after its registration. -/
theorem mem_possible {r : Round} {i : Nat} {a : Address} : a ∈ r.possible i ↔
    ∃ m v, r.matchers[i]? = some m ∧ m.pendingFor ≤ a.call ∧ r.valueAt? a = some v ∧ v == m.signature := by
  unfold possible
  cases hm : r.matchers[i]? with
  | none => simp
  | some m =>
      simp only [List.mem_map, List.mem_filter, Prod.exists, mem_addresses, Bool.and_eq_true, decide_eq_true_eq,
        Option.some.injEq]
      constructor
      · rintro ⟨b, v, ⟨hv, hp, hs⟩, rfl⟩
        exact ⟨m, v, rfl, hp, hv, hs⟩
      · rintro ⟨_, v, rfl, hp, hv, hs⟩
        exact ⟨a, v, ⟨hv, hp, hs⟩, rfl⟩

theorem possible_sorted (r : Round) (i : Nat) : (r.possible i).Pairwise Address.Before := by
  unfold possible
  split
  · exact .nil
  · exact r.addresses_sorted.sublist (List.filter_sublist.map _)

end Round

end TestDouble
