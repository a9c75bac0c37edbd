import TestDouble.Matcher.Text
import TestDouble.Proofs.Shape
import TestDouble.Proofs.Value.Reading

/-!
# Matchers can be read back

The text of a matcher is a name and what stands between parentheses. If it is known what the values in it are, the text
tells which arguments the matcher accepts. Capture slots are not written, and accept whatever their matcher accepts.
-/

namespace TestDouble.Matcher

open Text

/-! ## Names -/

inductive Name where
  | any
  | eq
  | same
  | compare (op : Comparison)
  | predicate
  | ofShape
  | null
  | not
  | and
  | or
  | capture
  | varargAny
  | varargAll
  | varargs
  | notCalled
  deriving DecidableEq

def Name.text : Name → String
  | .any => "any"
  | .eq => "eq"
  | .same => "refEq"
  | .compare op => op.text
  | .predicate => "match"
  | .ofShape => "ofType"
  | .null => "isNull"
  | .not => "not"
  | .and => "and"
  | .or => "or"
  | .capture => "capture"
  | .varargAny => "anyVararg"
  | .varargAll => "varargAll"
  | .varargs => "varargs"
  | .notCalled => "wasNot"

/-- The name before the parentheses. Null and its contrary share one. -/
def name : Matcher → Name
  | any => .any
  | eq _ => .eq
  | same _ => .same
  | compare op _ => .compare op
  | predicate _ _ => .predicate
  | ofShape _ => .ofShape
  | null | notNull => .null
  | not _ => .not
  | and _ _ => .and
  | or _ _ => .or
  | capture _ _ => .capture
  | varargAny => .varargAny
  | varargAll _ => .varargAll
  | varargs _ => .varargs
  | notCalled => .notCalled

/-- What stands between the parentheses. -/
def inside : Matcher → String
  | any | null | varargAny => ""
  | eq v | compare _ v => v.text
  | same o => o.text
  | predicate description _ => description
  | ofShape s => s.text
  | notNull => "inverse=true"
  | not m | varargAll m => m.text
  | and l r | or l r => l.text ++ ", " ++ r.text
  | capture _ m => if m matches any then "" else m.text
  | varargs ms => ", ".intercalate (textEach ms)
  | notCalled => "Called"

theorem text_eq (m : Matcher) : m.text = m.name.text ++ ("(" ++ (m.inside ++ ")")) := by
  cases m with
  | capture slot m => cases m <;> simp [text, name, Name.text, inside, ← String.toList_inj]
  | compare op v => cases op <;> simp [text, Comparison.text, name, Name.text, inside, ← String.toList_inj]
  | _ => simp [text, name, Name.text, inside, ← String.toList_inj]

def Name.all : List Name :=
  [.any, .eq, .same, .compare .less, .compare .lessOrEqual, .compare .greater, .compare .greaterOrEqual, .predicate,
    .ofShape, .null, .not, .and, .or, .capture, .varargAny, .varargAll, .varargs, .notCalled]

theorem Name.mem_all (n : Name) : n ∈ all := by
  cases n with
  | compare op => cases op <;> decide
  | _ => decide

/-- Names differ, and end before the parentheses. -/
theorem Name.text_inj {a b : Name} : a.text = b.text → a = b := by
  have hall : ∀ a ∈ all, ∀ b ∈ all, a.text = b.text → a = b := by decide +kernel
  exact hall a a.mem_all b b.mem_all

theorem Name.isPlain_text (n : Name) : IsPlain n.text.toList ∧ n.text.toList ≠ [] := by
  have hall : ∀ n ∈ all, IsPlain n.text.toList ∧ n.text.toList ≠ [] := by decide +kernel
  exact hall n n.mem_all

variable {m n : Matcher} {r r' : List Char}

/-- The name and what stands between the parentheses, up to the last one, are known from the text. -/
theorem text_parts (h : m.text.toList ++ r = n.text.toList ++ r') :
    m.name = n.name ∧ m.inside.toList ++ ')' :: r = n.inside.toList ++ ')' :: r' := by
  have hopen (k : Name) : '(' ∉ k.text.toList := fun hmem => absurd (k.isPlain_text.1 _ hmem) (by decide)
  have hparts (k : Matcher) (r : List Char) :
      k.text.toList ++ r = k.name.text.toList ++ '(' :: (k.inside.toList ++ ')' :: r) := by
    rw [text_eq]
    simp
  rw [hparts, hparts] at h
  obtain ⟨hname, hinside⟩ := append_cons_inj (hopen _) (hopen _) h
  exact ⟨Name.text_inj (String.toList_inj.mp hname), hinside⟩

theorem not_ends (m : Matcher) : ¬ Ends (m.text.toList ++ r) := by
  obtain ⟨hplain, hne⟩ := m.name.isPlain_text
  obtain ⟨c, cs, hname⟩ := List.exists_cons_of_ne_nil hne
  rw [text_eq, String.toList_append, hname]
  rw [hname] at hplain
  intro hends
  have hdelimiter := hplain.isWord c List.mem_cons_self
  rw [hends c rfl] at hdelimiter
  cases hdelimiter

/-! ## Legible matchers -/

mutual
/-- Nothing in it is left open by its text: there are no predicates, and all names of classes are legible. -/
def isLegible : Matcher → Bool
  | eq v | compare _ v => v.isLegible
  | same o => isLegibleName o.className
  | predicate _ _ => false
  | ofShape s => s.isLegible
  | not m | varargAll m | capture _ m => isLegible m
  | and l r | or l r => isLegible l && isLegible r
  | varargs ms => allLegible ms
  | any | null | notNull | varargAny | notCalled => true

def allLegible : List Matcher → Bool
  | [] => true
  | m :: ms => isLegible m && allLegible ms
end

mutual
/-- The numbers in it that carry no letter. -/
def numbers : Matcher → List Value
  | eq v | compare _ v => v.numbers
  | not m | varargAll m | capture _ m => numbers m
  | and l r | or l r => numbers l ++ numbers r
  | varargs ms => numbersEach ms
  | any | same _ | predicate _ _ | ofShape _ | null | notNull | varargAny | notCalled => []

def numbersEach : List Matcher → List Value
  | [] => []
  | m :: ms => numbers m ++ numbersEach ms
end

theorem allLegible_iff {ms : List Matcher} : allLegible ms = true ↔ ∀ m ∈ ms, m.isLegible = true := by
  induction ms with
  | nil => exact ⟨fun _ => nofun, fun _ => rfl⟩
  | cons m ms ih => rw [allLegible, Bool.and_eq_true, ih, List.forall_mem_cons]

theorem mem_numbersEach {ms : List Matcher} {x : Value} (h : m ∈ ms) (hx : x ∈ m.numbers) : x ∈ numbersEach ms := by
  induction ms with
  | nil => cases h
  | cons n ns ih =>
      rw [numbersEach, List.mem_append]
      rcases List.mem_cons.mp h with rfl | h
      · exact .inl hx
      · exact .inr (ih h)

/-! ## Reading -/

/-- They accept the same values. -/
def Alike (m n : Matcher) : Prop := ∀ v, m.test v = n.test v

/-- Read back from a text that begins with it. -/
def Readable (m : Matcher) : Prop :=
  ∀ {n r r'}, m.isLegible = true → n.isLegible = true → Value.SameWidths m.numbers n.numbers → Ends r → Ends r' →
    m.text.toList ++ r = n.text.toList ++ r' → Alike m n ∧ r = r'

theorem testEach_of_alike {ms ns : List Matcher} (h : List.Forall₂ Alike ms ns) (vs : List Value) :
    testEach ms vs = testEach ns vs := by
  induction h generalizing vs with
  | nil => rfl
  | cons hm _ ih =>
      cases vs with
      | nil => rfl
      | cons v vs => rw [testEach, testEach, hm v, ih vs]

theorem varargs_alike {ms ns : List Matcher} (h : List.Forall₂ Alike ms ns) : Alike (varargs ms) (varargs ns) := by
  intro v
  cases v with
  | list items => simp only [test, h.length_eq, testEach_of_alike h]
  | _ => rfl

theorem varargAll_alike (h : Alike m n) : Alike (varargAll m) (varargAll n) := by
  intro v
  cases v with
  | list items =>
      simp only [test]
      exact congrArg (Probe.all · items) (funext h)
  | _ => rfl

theorem texts_inj {ms ns : List Matcher} (hms : ∀ m ∈ ms, m.Readable) (hl : allLegible ms = true)
    (hl' : allLegible ns = true) (hwidths : Value.SameWidths (numbersEach ms) (numbersEach ns))
    (h : (", ".intercalate (textEach ms)).toList ++ ')' :: r = (", ".intercalate (textEach ns)).toList ++ ')' :: r') :
    List.Forall₂ Alike ms ns ∧ r = r' := by
  have htexts (ms : List Matcher) :
      (", ".intercalate (textEach ms)).toList = joined (ms.map fun m => m.text.toList) := by
    have hmap : textEach ms = ms.map text := by
      induction ms with
      | nil => rfl
      | cons m ms ih => rw [textEach, ih, List.map_cons]
    rw [String.toList_intercalate, hmap, List.map_map]
    rfl
  rw [htexts, htexts] at h
  rw [allLegible_iff] at hl hl'
  have hread : ∀ m ∈ ms, ∀ n ∈ ns, ∀ r r', Ends r → Ends r' → m.text.toList ++ r = n.text.toList ++ r' →
      Alike m n ∧ r = r' := fun m hm n hn _ _ =>
    hms m hm (hl m hm) (hl' n hn) (hwidths.mono (fun _ => mem_numbersEach hm) fun _ => mem_numbersEach hn)
  exact joined_inj (by decide) (by decide) hread (fun m _ _ => m.not_ends) (fun n _ _ => n.not_ends) h

/-- Once the name is read, what stands between the parentheses remains. -/
theorem readable_of_inside (hread : ∀ {n r r'}, m.isLegible = true → n.isLegible = true →
    Value.SameWidths m.numbers n.numbers → m.name = n.name →
    m.inside.toList ++ ')' :: r = n.inside.toList ++ ')' :: r' → Alike m n ∧ r = r') : m.Readable := by
  intro n r r' hl hl' hwidths _ _ h
  obtain ⟨hname, hinside⟩ := text_parts h
  exact hread hl hl' hwidths hname hinside

theorem ends_close (r : List Char) : Ends (')' :: r) := .cons (by decide) r

theorem eq_readable (v : Value) : (eq v).Readable := readable_of_inside fun {n _ _} hl hl' hwidths hname h => by
  match n, hname with
  | eq w, _ =>
      obtain ⟨halike, hr⟩ := v.readable hl hl' hwidths (ends_close _) (ends_close _) h
      exact ⟨fun x => congrArg Probe.done (halike.beq x), List.cons_injective hr⟩

theorem same_readable (o : ObjectRef) : (same o).Readable := readable_of_inside fun {n _ _} hl hl' _ hname h => by
  match n, hname with
  | same o', _ =>
      have hwidths : Value.SameWidths (Value.object o).numbers (Value.object o').numbers := nofun
      obtain ⟨halike, hr⟩ := (Value.object o).readable (w := .object o') hl hl' hwidths (ends_close _) (ends_close _) h
      refine ⟨fun x => ?_, List.cons_injective hr⟩
      cases x with
      | object p =>
          have hid : o.id = o'.id := ObjectRef.beq_iff.mp ((halike.beq (.object o')).trans (ObjectRef.beq_iff.mpr rfl))
          change Probe.done (p.id == o.id) = Probe.done (p.id == o'.id)
          rw [hid]
      | _ => rfl

theorem compare_readable (op : Comparison) (v : Value) : (compare op v).Readable :=
  readable_of_inside fun {n _ _} hl hl' hwidths hname h => by
    match n, hname with
    | compare _ w, rfl =>
        obtain ⟨halike, hr⟩ := v.readable hl hl' hwidths (ends_close _) (ends_close _) h
        exact ⟨fun x => congrArg (fun o : Option Ordering => Probe.done (o.any op.holds)) (halike.compare x),
          List.cons_injective hr⟩

theorem ofShape_readable (s : Shape) : (ofShape s).Readable := readable_of_inside fun {n _ _} hl hl' _ hname h => by
  match n, hname with
  | ofShape s', _ =>
      have h : s.text.toList ++ Shape.closing 0 _ = s'.text.toList ++ Shape.closing 0 _ := h
      obtain ⟨rfl, hr⟩ := Shape.text_inj hl hl' h
      exact ⟨fun _ => rfl, hr⟩

/-- Null and its contrary have different insides. -/
theorem null_readable : null.Readable := readable_of_inside fun {n _ _} _ _ _ hname h => by
  match n, hname with
  | null, _ => exact ⟨fun _ => rfl, List.cons_injective h⟩
  | notNull, _ => exact absurd (List.cons.inj h).1 (by decide)

theorem notNull_readable : notNull.Readable := readable_of_inside fun {n _ _} _ _ _ hname h => by
  match n, hname with
  | notNull, _ => exact ⟨fun _ => rfl, List.cons_injective (List.append_cancel_left h)⟩
  | null, _ => exact absurd (List.cons.inj h).1 (by decide)

theorem not_readable (hm : m.Readable) : (not m).Readable := readable_of_inside fun {n _ _} hl hl' hwidths hname h => by
  match n, hname with
  | not n, _ =>
      obtain ⟨halike, hr⟩ := hm (n := n) hl hl' hwidths (ends_close _) (ends_close _) h
      exact ⟨fun v => by rw [test, test, halike v], List.cons_injective hr⟩

theorem varargAll_readable (hm : m.Readable) : (varargAll m).Readable :=
  readable_of_inside fun {n _ _} hl hl' hwidths hname h => by
    match n, hname with
    | varargAll n, _ =>
        obtain ⟨halike, hr⟩ := hm (n := n) hl hl' hwidths (ends_close _) (ends_close _) h
        exact ⟨varargAll_alike halike, List.cons_injective hr⟩

theorem varargs_readable {ms : List Matcher} (hms : ∀ m ∈ ms, m.Readable) : (varargs ms).Readable :=
  readable_of_inside fun {n _ _} hl hl' hwidths hname h => by
    match n, hname with
    | varargs ns, _ =>
        obtain ⟨halike, hr⟩ := texts_inj hms hl hl' hwidths h
        exact ⟨varargs_alike halike, hr⟩

/-- The two sides of a connective. -/
theorem sides_inj {m' n' : Matcher} (hm : m.Readable) (hm' : m'.Readable) (hl : (m.isLegible && m'.isLegible) = true)
    (hl' : (n.isLegible && n'.isLegible) = true)
    (hwidths : Value.SameWidths (m.numbers ++ m'.numbers) (n.numbers ++ n'.numbers))
    (h : (m.text ++ ", " ++ m'.text).toList ++ ')' :: r = (n.text ++ ", " ++ n'.text).toList ++ ')' :: r') :
    Alike m n ∧ Alike m' n' ∧ r = r' := by
  obtain ⟨hl, hk⟩ := Bool.and_eq_true_iff.mp hl
  obtain ⟨hl', hk'⟩ := Bool.and_eq_true_iff.mp hl'
  have hwidths₁ := hwidths.mono (fun _ => List.mem_append_left m'.numbers) fun _ => List.mem_append_left n'.numbers
  have hwidths₂ := hwidths.mono (fun _ => List.mem_append_right m.numbers) fun _ => List.mem_append_right n.numbers
  have hcomma (s : List Char) : Ends (',' :: ' ' :: s) := .cons (by decide) _
  have hparts (k k' : Matcher) (r : List Char) : (k.text ++ ", " ++ k'.text).toList ++ ')' :: r =
      k.text.toList ++ ',' :: ' ' :: (k'.text.toList ++ ')' :: r) := by simp
  rw [hparts, hparts] at h
  obtain ⟨halike, hrest⟩ := hm hl hl' hwidths₁ (hcomma _) (hcomma _) h
  obtain ⟨halike', hr⟩ := hm' hk hk' hwidths₂ (ends_close _) (ends_close _)
    (List.cons_injective (List.cons_injective hrest))
  exact ⟨halike, halike', List.cons_injective hr⟩

theorem and_readable {l k : Matcher} (hl : l.Readable) (hk : k.Readable) : (and l k).Readable :=
  readable_of_inside fun {n _ _} hleg hleg' hwidths hname h => by
    match n, hname with
    | and l' k', _ =>
        obtain ⟨halike, halike', hr⟩ := sides_inj hl hk hleg hleg' hwidths h
        exact ⟨fun v => by rw [test, test, halike v, halike' v], hr⟩

theorem or_readable {l k : Matcher} (hl : l.Readable) (hk : k.Readable) : (or l k).Readable :=
  readable_of_inside fun {n _ _} hleg hleg' hwidths hname h => by
    match n, hname with
    | or l' k', _ =>
        obtain ⟨halike, halike', hr⟩ := sides_inj hl hk hleg hleg' hwidths h
        exact ⟨fun v => by rw [test, test, halike v, halike' v], hr⟩

/-- A slot that keeps any argument is written without its matcher. -/
theorem inside_capture (slot : Nat) (m : Matcher) :
    (m = any ∧ (capture slot m).inside = "") ∨ (capture slot m).inside = m.text := by
  cases m with
  | any => exact .inl ⟨rfl, rfl⟩
  | _ => exact .inr rfl

theorem capture_readable (slot : Nat) (hm : m.Readable) : (capture slot m).Readable :=
  readable_of_inside fun {n r r'} hl hl' hwidths hname h => by
    match n, hname with
    | capture slot' n, _ =>
        rcases inside_capture slot m with ⟨rfl, hinside⟩ | hinside <;>
          rcases inside_capture slot' n with ⟨rfl, hinside'⟩ | hinside' <;> rw [hinside, hinside'] at h
        · exact ⟨fun _ => rfl, List.cons_injective h⟩
        · have hends : Ends (n.text.toList ++ ')' :: r') := h.subst (ends_close r)
          exact absurd hends n.not_ends
        · have hends : Ends (m.text.toList ++ ')' :: r) := h.symm.subst (ends_close r')
          exact absurd hends m.not_ends
        · obtain ⟨halike, hr⟩ := hm (n := n) hl hl' hwidths (ends_close _) (ends_close _) h
          exact ⟨halike, List.cons_injective hr⟩

mutual
/-- Every legible matcher can be read back: what follows it is known, and which values it accepts. -/
theorem readable : (m : Matcher) → m.Readable
  | eq v => eq_readable v
  | same o => same_readable o
  | compare op v => compare_readable op v
  | ofShape s => ofShape_readable s
  | null => null_readable
  | notNull => notNull_readable
  | not m => not_readable (readable m)
  | and l r => and_readable (readable l) (readable r)
  | or l r => or_readable (readable l) (readable r)
  | capture slot m => capture_readable slot (readable m)
  | varargAll m => varargAll_readable (readable m)
  | varargs ms => varargs_readable (all_readable ms)
  | predicate _ _ => fun hl => by cases hl
  | any => readable_of_inside fun {n _ _} _ _ _ hname h => by
      match n, hname with
      | any, _ => exact ⟨fun _ => rfl, List.cons_injective h⟩
  | varargAny => readable_of_inside fun {n _ _} _ _ _ hname h => by
      match n, hname with
      | varargAny, _ => exact ⟨fun _ => rfl, List.cons_injective h⟩
  | notCalled => readable_of_inside fun {n _ _} _ _ _ hname h => by
      match n, hname with
      | notCalled, _ => exact ⟨fun _ => rfl, List.cons_injective (List.append_cancel_left h)⟩

theorem all_readable : (ms : List Matcher) → ∀ m ∈ ms, m.Readable
  | m :: _, _, .head _ => readable m
  | _ :: ms, _, .tail _ h => all_readable ms _ h
end

end TestDouble.Matcher
