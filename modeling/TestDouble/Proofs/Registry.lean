import TestDouble.Store

/-!
# Stubs of the registry

Changing the stub of a mock is seen where that mock is looked up.
-/

namespace TestDouble

namespace Registry

variable {r : Registry} {id : Nat} {s : Stub} {f : Stub → Stub}

theorem get_eq_ok : r.get id = .ok s ↔ r.stub? id = some s := by
  unfold get
  cases r.stub? id <;> simp

theorem id_of_stub? (h : r.stub? id = some s) : s.id = id := by
  have := List.find?_some h
  exact beq_iff_eq.mp this

theorem contains_eq_isSome (r : Registry) (id : Nat) : r.contains id = (r.stub? id).isSome := by
  rw [contains, stub?, Bool.eq_iff_iff, List.any_eq_true, List.find?_isSome]

/-- A change that keeps the identity changes the stub that is looked up. -/
theorem stub?_modify (hf : ∀ s, (f s).id = s.id) : (r.modify id f).stub? id = (r.stub? id).map f := by
  simp only [stub?, modify]
  induction r.stubs with
  | nil => rfl
  | cons s stubs ih =>
      rw [List.map_cons]
      cases hs : s.id == id with
      | true => simp [hs, hf]
      | false => simpa [hs] using ih

/-- A change is only seen at its own mock. -/
theorem stub?_modify_of_ne {id' : Nat} (hf : ∀ s, (f s).id = s.id) (hne : id' ≠ id) :
    (r.modify id f).stub? id' = r.stub? id' := by
  simp only [stub?, modify]
  induction r.stubs with
  | nil => rfl
  | cons s stubs ih =>
      rw [List.map_cons, List.find?_cons, List.find?_cons, ih]
      by_cases hs : s.id = id
      · rw [if_pos (beq_iff_eq.mpr hs), hf]
        have hother : (s.id == id') = false := beq_false_of_ne fun h => hne (h.symm.trans hs)
        rw [hother]
      · rw [if_neg (by simpa using hs)]

/-- A mock that is looked up already hides a later one of the same identity. -/
theorem stub?_insert (r : Registry) (s : Stub) (id : Nat) :
    (r.insert s).stub? id = (r.stub? id).or (if s.id == id then some s else none) := by
  rw [stub?, insert, List.find?_append, List.find?_singleton]
  rfl

end Registry

namespace Store

variable {s : Store} {mock : Nat} {stub : Stub} {f : Stub → Stub}

theorem stub?_modify (h : s.registry.stub? mock = some stub) (hf : ∀ s, (f s).id = s.id) :
    (s.modify mock f).registry.stub? mock = some (f stub) := by
  rw [modify, Registry.stub?_modify hf, h, Option.map_some]

end Store

end TestDouble
