import Mathlib.Data.List.Forall2
import TestDouble.HostType

/-!
# Reading and writing

What a type reads from a value is written back as this value. What it writes is read back too, provided that null is
written for nothing only, and that no object stands for a result.
-/

namespace TestDouble.HostType

variable {α : Type} {read : Value → Except MockError α} {v : Value} {vs : List Value}

/-! ## Lists and options -/

/-- A list is read element by element. -/
theorem ofEach_eq_ok_iff {as : List α} :
    ofEach read vs = .ok as ↔ List.Forall₂ (fun v a => read v = .ok a) vs as := by
  induction vs generalizing as with
  | nil => simp [ofEach, eq_comm]
  | cons v vs ih =>
      rw [ofEach, List.forall₂_cons_left_iff]
      cases hv : read v with
      | error e => simp [bind, Except.bind]
      | ok a => cases hvs : ofEach read vs <;> simp [bind, Except.bind, ← ih, hvs, eq_comm]

theorem ofValue_option {content : HostType} (h : v ≠ .null) :
    (option content).ofValue v = (content.ofValue v).map some := by
  rw [ofValue]
  exact h

/-- An option reads null as nothing, and all else as its content does. -/
theorem cases_of_ofValue_option {content : HostType} {x : Option content.Carrier}
    (h : (option content).ofValue v = .ok x) : v = .null ∧ x = none ∨ ∃ y, content.ofValue v = .ok y ∧ x = some y := by
  by_cases hnull : v = .null
  · subst hnull
    cases h
    exact .inl ⟨rfl, rfl⟩
  · rw [ofValue_option hnull] at h
    cases hy : content.ofValue v with
    | error e => rw [hy] at h; cases h
    | ok y =>
        rw [hy] at h
        cases h
        exact .inr ⟨y, rfl, rfl⟩

/-! ## Writing back what was read -/

/-- No object in it stands for a result. -/
def NoPlaceholder : (t : HostType) → t.Carrier → Prop
  | .object, o => o.isPlaceholder = false
  | .list element, xs => ∀ x ∈ xs, element.NoPlaceholder x
  | .option content, x => ∀ y ∈ x, content.NoPlaceholder y
  | _, _ => True

/-- What is read is written as it was, and holds no object that stands for a result. -/
theorem written_of_ofValue (t : HostType) {x : t.Carrier} (h : t.ofValue v = .ok x) :
    t.toValue x = v ∧ t.NoPlaceholder x := by
  induction t generalizing v with
  | list element ih =>
      cases v with
      | list items =>
          have hall : x.map element.toValue = items ∧ ∀ y ∈ x, element.NoPlaceholder y := by
            have hread := ofEach_eq_ok_iff.mp h
            clear h
            induction hread with
            | nil => exact ⟨rfl, nofun⟩
            | cons hy _ ihs =>
                refine ⟨?_, List.forall_mem_cons.mpr ⟨(ih hy).2, ihs.2⟩⟩
                rw [List.map_cons, (ih hy).1, ihs.1]
          exact ⟨congrArg Value.list hall.1, hall.2⟩
      | _ => cases h
  | option content ih =>
      rcases cases_of_ofValue_option h with ⟨rfl, rfl⟩ | ⟨y, hy, rfl⟩
      · exact ⟨rfl, nofun⟩
      · refine ⟨(ih hy).1, fun z hz => ?_⟩
        cases hz
        exact (ih hy).2
  | object =>
      cases v with
      | object o =>
          rw [ofValue] at h
          cases ho : o.isPlaceholder <;> rw [ho] at h <;> cases h
          exact ⟨rfl, ho⟩
      | _ => cases h
  | value => cases h; exact ⟨rfl, trivial⟩
  | _ =>
      cases v <;> cases h
      exact ⟨rfl, trivial⟩

theorem toValue_of_ofValue (t : HostType) {x : t.Carrier} (h : t.ofValue v = .ok x) : t.toValue x = v :=
  (t.written_of_ofValue h).1

/-! ## Reading back what was written -/

/-- Null is among the values that are written for this type. -/
def mayBeNull : HostType → Bool
  | .value | .option _ => true
  | _ => false

/-- No option holds an option or any value. -/
def isFaithful : HostType → Bool
  | .list element => element.isFaithful
  | .option content => !content.mayBeNull && content.isFaithful
  | _ => true

theorem toValue_ne_null : {t : HostType} → t.mayBeNull = false → (x : t.Carrier) → t.toValue x ≠ .null
  | .unit, _, _ | .bool, _, _ | .byte, _, _ | .short, _, _ | .int, _, _ | .long, _, _ | .float, _, _ | .double, _, _
  | .char, _, _ | .str, _, _ | .duration, _, _ | .object, _, _ | .list _, _, _ => nofun

theorem exists_toValue_eq_null : {t : HostType} → t.mayBeNull = true →
    ∃ x : t.Carrier, t.toValue x = .null ∧ t.NoPlaceholder x
  | .value, _ => ⟨.null, rfl, trivial⟩
  | .option _, _ => ⟨none, rfl, nofun⟩

theorem ofValue_toValue (t : HostType) (h : t.isFaithful = true) {x : t.Carrier} (hx : t.NoPlaceholder x) :
    t.ofValue (t.toValue x) = .ok x := by
  induction t with
  | list element ih =>
      rw [toValue, ofValue, ofEach_eq_ok_iff, List.forall₂_map_left_iff, List.forall₂_same]
      exact fun a ha => ih h (hx a ha)
  | option content ih =>
      obtain ⟨hnull, hcontent⟩ := Bool.and_eq_true_iff.mp h
      cases x with
      | none => rfl
      | some y =>
          rw [toValue, ofValue_option (toValue_ne_null (by simpa using hnull) y), ih hcontent (hx y rfl)]
          rfl
  | object => rw [toValue, ofValue, if_neg (Bool.eq_false_iff.mp hx)]
  | _ => rfl

/-- Where an option holds an option or any value, something is written that is not read back. -/
theorem exists_lost (t : HostType) (h : t.isFaithful = false) :
    ∃ x, t.NoPlaceholder x ∧ t.ofValue (t.toValue x) ≠ .ok x := by
  induction t with
  | list element ih =>
      obtain ⟨x, hx, hlost⟩ := ih h
      refine ⟨[x], by simpa [NoPlaceholder] using hx, fun hread => hlost ?_⟩
      rw [toValue, ofValue, ofEach_eq_ok_iff] at hread
      exact (List.forall₂_cons.mp hread).1
  | option content ih =>
      cases hnull : content.mayBeNull with
      | true =>
          obtain ⟨y, hy, hy'⟩ := exists_toValue_eq_null hnull
          refine ⟨some y, fun z hz => by cases hz; exact hy', ?_⟩
          rw [toValue, hy]
          exact nofun
      | false =>
          rw [isFaithful, hnull] at h
          obtain ⟨y, hy, hlost⟩ := ih h
          refine ⟨some y, fun z hz => by cases hz; exact hy, fun hread => ?_⟩
          rcases cases_of_ofValue_option hread with ⟨hwritten, -⟩ | ⟨z, hz, heq⟩
          · exact toValue_ne_null hnull y hwritten
          · cases heq
            exact hlost hz
  | _ => cases h

/-- What a type reads it writes back as it was. The other way round, a type reads what it writes exactly if no object
in it stands for a result, provided that no option holds an option or any value; and only then. -/
theorem converts_faithfully (t : HostType) :
    (∀ v x, t.ofValue v = .ok x → t.toValue x = v) ∧
    (t.isFaithful = true → ∀ x, t.ofValue (t.toValue x) = .ok x ↔ t.NoPlaceholder x) ∧
    (t.isFaithful = false → ∃ x, t.NoPlaceholder x ∧ t.ofValue (t.toValue x) ≠ .ok x) :=
  ⟨fun _ _ => t.toValue_of_ofValue,
    fun h _ => ⟨fun hread => (t.written_of_ofValue hread).2, t.ofValue_toValue h⟩, t.exists_lost⟩

/-- Lists of objects that may be missing, in a list that may be missing. -/
theorem converts_faithfully_objects :
    let t : HostType := .option (.list (.option .object))
    let xs : t.Carrier := some [none, some ⟨1, "Tree"⟩]
    let stands : t.Carrier := some [some ⟨2, ObjectRef.placeholderClass⟩]
    t.isFaithful = true ∧ t.NoPlaceholder xs ∧ t.ofValue (t.toValue xs) = .ok xs ∧
      t.ofValue (t.toValue stands) ≠ .ok stands := by
  intro t xs stands
  have hfaithful : t.isFaithful = true := rfl
  have hiff := (converts_faithfully t).2.1 hfaithful
  have hxs : t.NoPlaceholder xs := by simp [t, xs, NoPlaceholder, ObjectRef.isPlaceholder, ObjectRef.placeholderClass]
  have hstands : ¬ t.NoPlaceholder stands := by simp [t, stands, NoPlaceholder, ObjectRef.isPlaceholder]
  exact ⟨hfaithful, hxs, (hiff xs).mpr hxs, fun h => hstands ((hiff stands).mp h)⟩

end TestDouble.HostType
