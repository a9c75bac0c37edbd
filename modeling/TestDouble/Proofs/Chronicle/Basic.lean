import Mathlib.Data.List.Infix
import Mathlib.Data.List.Nodup
import TestDouble.Store

/-!
# Chronicles

A chronicle is what has happened in a run, the latest first: calls that are made and return, calls that are
verified or hidden, logs that are emptied, and looks at the store. It tells which calls are underway, and which calls
the log of a mock holds, with which flags.
-/

namespace TestDouble

/-- A call that is about to be made, and what it finds. -/
structure Made where
  session : Nat
  /-- The session exists. -/
  opened : Bool
  target : ObjectRef
  method : Method
  args : List Value
  /-- The number that the next call gets. -/
  number : Nat
  /-- The target is registered. -/
  known : Bool
  /-- A round of the session is in progress. -/
  recording : Bool
  logsSelfCalls : Bool
  /-- The frames of every session. -/
  frames : Nat → List Frame

def Made.frame (e : Made) : Frame := ⟨e.target.id, e.method.name⟩

/-- The flags of a logged call. -/
inductive Mark where
  | verified
  | excluded
  deriving DecidableEq

/-- The mocks without calls. -/
def Store.silent (s : Store) : List Nat := (s.registry.stubs.filter (·.log.isEmpty)).map (·.id)

namespace LoggedCall

def has (l : LoggedCall) : Mark → Bool
  | .verified => l.verified
  | .excluded => l.excluded

def set (l : LoggedCall) : Mark → LoggedCall
  | .verified => { l with verified := true }
  | .excluded => { l with excluded := true }

@[simp] theorem call_set (l : LoggedCall) (m : Mark) : (l.set m).call = l.call := by cases m <;> rfl

theorem has_set (l : LoggedCall) (m m' : Mark) : (l.set m).has m' = (l.has m' || m == m') := by
  cases m <;> cases m' <;> simp [set, has]

/-- The flag is set on the calls with these numbers. -/
def setAll (m : Mark) (numbers : List Nat) (log : List LoggedCall) : List LoggedCall :=
  log.map fun l => if numbers.contains l.call.sequence then l.set m else l

theorem mem_setAll {m : Mark} {numbers : List Nat} {log : List LoggedCall} {l : LoggedCall}
    (h : l ∈ setAll m numbers log) : ∃ l' ∈ log, l'.call = l.call ∧
      ∀ m', l.has m' = (l'.has m' || m == m' && numbers.contains l.call.sequence) := by
  obtain ⟨l', hl', rfl⟩ := List.mem_map.mp h
  refine ⟨l', hl', ?_⟩
  split
  · rename_i hn
    exact ⟨(call_set l' m).symm, fun m' => by rw [has_set, call_set, hn, Bool.and_true]⟩
  · rename_i hn
    exact ⟨rfl, fun m' => by rw [eq_false_of_ne_true hn, Bool.and_false, Bool.or_false]⟩

theorem map_call_setAll (m : Mark) (numbers : List Nat) (log : List LoggedCall) :
    (setAll m numbers log).map (·.call) = log.map (·.call) := by
  rw [setAll, List.map_map]
  refine List.map_congr_left fun l _ => ?_
  rw [Function.comp_apply]
  split
  · exact call_set l m
  · rfl

/-- Nothing changes where no call has one of the numbers. -/
theorem setAll_eq_self {m : Mark} {numbers : List Nat} {log : List LoggedCall}
    (h : ∀ l ∈ log, l.call.sequence ∉ numbers) : setAll m numbers log = log := by
  refine (List.map_congr_left fun l hl => ?_).trans (List.map_id log)
  exact if_neg fun hc => h l hl (List.contains_iff_mem.mp hc)

theorem setAll_append (m : Mark) (ns ns' : List Nat) (log : List LoggedCall) :
    setAll m (ns ++ ns') log = setAll m ns' (setAll m ns log) := by
  simp only [setAll, List.map_map]
  refine List.map_congr_left fun l _ => ?_
  have hset : (l.set m).set m = l.set m := by cases m <;> rfl
  by_cases hn : ns.contains l.call.sequence <;> by_cases hn' : ns'.contains l.call.sequence <;>
    simp_all [Function.comp_apply]

end LoggedCall

inductive Happening where
  | made (e : Made)
  /-- A call has returned a result or an error, to these frames. -/
  | returned (frames : Nat → List Frame)
  /-- A verification has passed and matched these calls, or these calls have been hidden. -/
  | marked (m : Mark) (numbers : List Nat)
  | emptied (mocks : List Nat)
  | seen (s : Store)

abbrev Chronicle := List Happening

namespace Chronicle

/-- The calls that have not returned, the innermost first. -/
def underway : Chronicle → List Made
  | [] => []
  | .made e :: t => e :: underway t
  | .returned _ :: t => (underway t).tail
  | _ :: t => underway t

/-- Those of one session. -/
def running (i : Nat) (es : List Made) : List Made := es.filter fun e => e.opened && e.session == i

/-- The call as it is logged: its caller is the innermost call of its session that has not returned. -/
def call (t : Chronicle) (e : Made) : Call :=
  ⟨e.target, e.method, e.args, e.number, (running e.session (underway t)).head?.map Made.frame⟩

/-- Calls on registered mocks are logged unless they are recorded, calls of a mock on itself if the settings say so. -/
def logs (t : Chronicle) (e : Made) : Bool :=
  e.known && !e.recording && (e.logsSelfCalls || !(call t e).isSelfCall)

/-- All calls that have been logged, the latest first. -/
def calls : Chronicle → List Call
  | [] => []
  | .made e :: t => if logs t e then call t e :: calls t else calls t
  | _ :: t => calls t

/-- The log of a mock. -/
def log (mock : Nat) : Chronicle → List LoggedCall
  | [] => []
  | .made e :: t => if logs t e && e.target.id == mock then log mock t ++ [{ call := call t e }] else log mock t
  | .marked m numbers :: t => LoggedCall.setAll m numbers (log mock t)
  | .emptied mocks :: t => if mocks.contains mock then [] else log mock t
  | _ :: t => log mock t

/-- The call has been marked in the log of the mock. -/
def Marks (t : Chronicle) (m : Mark) (mock : Nat) (c : Call) : Prop :=
  ∃ numbers t', (.marked m numbers :: t') <:+ t ∧ c ∈ (log mock t').map (·.call) ∧ c.sequence ∈ numbers

/-- Calls are numbered in the order in which they were made, below this number. -/
structure Ordered (t : Chronicle) (n : Nat) : Prop where
  increasing : ((calls t).map (·.sequence)).Pairwise (· > ·)
  below : ∀ c ∈ calls t, c.sequence < n

end Chronicle

/-- The flag is set on calls with this number. -/
def Happening.sets (m : Mark) (n : Nat) : Happening → Bool
  | marked m' numbers => m' == m && numbers.contains n
  | _ => false

namespace Chronicle

variable {h : Happening} {t t' : Chronicle} {mock n : Nat} {l l' : LoggedCall} {c c' : Call} {m : Mark}

/-! ## Logged calls -/

theorem calls_suffix (h : t' <:+ t) : calls t' <:+ calls t := by
  induction t with
  | nil =>
      cases List.suffix_nil.mp h
      exact List.suffix_refl _
  | cons a t ih =>
      rcases List.suffix_cons_iff.mp h with rfl | h
      · exact List.suffix_refl _
      · refine (ih h).trans ?_
        cases a with
        | made e =>
            rw [calls]
            split
            · exact List.suffix_cons _ _
            · exact List.suffix_refl _
        | _ => exact List.suffix_refl _

/-- A logged call is new, or it was logged before, and may have got a flag. -/
theorem mem_log_cons (hl : l ∈ log mock (h :: t)) :
    (∃ e, h = .made e ∧ logs t e = true ∧ e.target.id = mock ∧ l = { call := call t e }) ∨
    ∃ l' ∈ log mock t, l'.call = l.call ∧ ∀ m, l.has m = (l'.has m || h.sets m l.call.sequence) := by
  have hsame : l ∈ log mock t → ∃ l' ∈ log mock t, l'.call = l.call ∧ ∀ m, l.has m = (l'.has m || false) := fun hl =>
    ⟨l, hl, rfl, fun m => (Bool.or_false _).symm⟩
  cases h with
  | made e =>
      rw [log] at hl
      split at hl
      · rename_i hlogs
        rw [Bool.and_eq_true, beq_iff_eq] at hlogs
        rcases List.mem_append.mp hl with hl | hl
        · exact .inr (hsame hl)
        · exact .inl ⟨e, rfl, hlogs.1, hlogs.2, List.mem_singleton.mp hl⟩
      · exact .inr (hsame hl)
  | returned frames => exact .inr (hsame hl)
  | marked m' numbers => exact .inr (LoggedCall.mem_setAll hl)
  | emptied mocks =>
      rw [log] at hl
      split at hl
      · cases hl
      · exact .inr (hsame hl)
  | seen s => exact .inr (hsame hl)

theorem mem_log (hl : l ∈ log mock t) : l.call ∈ calls t ∧ l.call.target.id = mock := by
  induction t generalizing l with
  | nil => cases hl
  | cons h t ih =>
      rcases mem_log_cons hl with ⟨e, rfl, hlogs, htarget, rfl⟩ | ⟨l', hl', hcall, -⟩
      · rw [calls, if_pos hlogs]
        exact ⟨List.mem_cons_self, htarget⟩
      · obtain ⟨hmem, htarget⟩ := ih hl'
        rw [← hcall]
        exact ⟨(calls_suffix (List.suffix_cons h t)).subset hmem, htarget⟩

theorem log_sublist (t : Chronicle) (mock : Nat) : ((log mock t).map (·.call)).Sublist (calls t).reverse := by
  induction t with
  | nil => exact .refl _
  | cons h t ih =>
      cases h with
      | made e =>
          rw [log, calls]
          by_cases hlogs : logs t e = true
          · rw [if_pos hlogs, List.reverse_cons]
            split
            · rw [List.map_append]
              exact ih.append (.refl _)
            · exact ih.trans (List.sublist_append_left _ _)
          · rw [if_neg hlogs, if_neg fun h => hlogs (Bool.and_eq_true_iff.mp h).1]
            exact ih
      | returned frames => exact ih
      | marked m numbers =>
          rw [log, LoggedCall.map_call_setAll]
          exact ih
      | emptied mocks =>
          rw [log]
          split
          · exact List.nil_sublist _
          · exact ih
      | seen s => exact ih

namespace Ordered

theorem of_suffix (ho : t.Ordered n) (h : t' <:+ t) : t'.Ordered n :=
  ⟨ho.increasing.sublist ((calls_suffix h).sublist.map _), fun c hc => ho.below c ((calls_suffix h).subset hc)⟩

/-- A call is known by its number. -/
theorem eq_of_sequence (ho : t.Ordered n) (hc : c ∈ calls t) (hc' : c' ∈ calls t) (h : c.sequence = c'.sequence) :
    c = c' := List.inj_on_of_nodup_map (ho.increasing.imp Nat.ne_of_gt) hc hc' h

theorem log_increasing (ho : t.Ordered n) (mock : Nat) : ((log mock t).map (·.call.sequence)).Pairwise (· < ·) := by
  have hsublist := (log_sublist t mock).map (·.sequence)
  rw [List.map_map, List.map_reverse] at hsublist
  exact (List.pairwise_reverse.mpr ho.increasing).sublist hsublist

/-- Calls that are taken from the logs of different mocks have different numbers. -/
theorem nodup_flatMap (ho : t.Ordered n) {mocks : List Nat} (hmocks : mocks.Nodup) {f : Nat → List Call}
    (hf : ∀ mock ∈ mocks, (f mock).Sublist ((log mock t).map (·.call))) :
    ((mocks.flatMap f).map (·.sequence)).Nodup := by
  have hlogged : ∀ mock ∈ mocks, ∀ c ∈ f mock, c ∈ calls t ∧ c.target.id = mock := by
    intro mock hmock c hc
    obtain ⟨l, hl, rfl⟩ := List.mem_map.mp ((hf mock hmock).subset hc)
    exact mem_log hl
  rw [List.map_flatMap, List.nodup_flatMap]
  refine ⟨fun mock hmock => ?_, hmocks.imp_of_mem fun ha hb hne => ?_⟩
  · have hsublist := (hf mock hmock).map (·.sequence)
    rw [List.map_map] at hsublist
    exact ((ho.log_increasing mock).imp Nat.ne_of_lt).sublist hsublist
  · refine List.disjoint_left.mpr fun n hna hnb => hne ?_
    obtain ⟨c, hc, rfl⟩ := List.mem_map.mp hna
    obtain ⟨c', hc', hsequence⟩ := List.mem_map.mp hnb
    have hsame := ho.eq_of_sequence (hlogged _ ha c hc).1 (hlogged _ hb c' hc').1 hsequence.symm
    rw [← (hlogged _ ha c hc).2, hsame, (hlogged _ hb c' hc').2]

end Ordered

/-- Every call in a log was made, and its caller is the call of its session that was underway then. -/
theorem exists_made (hl : l ∈ log mock t) :
    ∃ e t', (.made e :: t') <:+ t ∧ logs t' e = true ∧ e.target.id = mock ∧ l.call = call t' e := by
  induction t generalizing l with
  | nil => cases hl
  | cons h t ih =>
      rcases mem_log_cons hl with ⟨e, rfl, hlogs, htarget, rfl⟩ | ⟨l', hl', hcall, -⟩
      · exact ⟨e, t, List.suffix_refl _, hlogs, htarget, rfl⟩
      · obtain ⟨e, t', hsuffix, hlogs, htarget, hmade⟩ := ih hl'
        exact ⟨e, t', hsuffix.trans (List.suffix_cons h t), hlogs, htarget, hcall.symm.trans hmade⟩

/-! ## Flags -/

theorem marks_cons : Marks (h :: t) m mock c ↔
    (h.sets m c.sequence = true ∧ c ∈ (log mock t).map (·.call)) ∨ Marks t m mock c := by
  constructor
  · rintro ⟨numbers, t', hsuffix, hc, hn⟩
    rcases List.suffix_cons_iff.mp hsuffix with heq | hsuffix
    · cases heq
      exact .inl ⟨by simpa [Happening.sets] using hn, hc⟩
    · exact .inr ⟨numbers, t', hsuffix, hc, hn⟩
  · rintro (⟨hsets, hc⟩ | ⟨numbers, t', hsuffix, hc, hn⟩)
    · cases h with
      | marked m' numbers =>
          simp only [Happening.sets, Bool.and_eq_true, beq_iff_eq, List.contains_iff_mem] at hsets
          obtain ⟨rfl, hn⟩ := hsets
          exact ⟨numbers, t, List.suffix_refl _, hc, hn⟩
      | _ => cases hsets
    · exact ⟨numbers, t', hsuffix.trans (List.suffix_cons h t), hc, hn⟩

theorem Marks.mono (h : t'.Marks m mock c) (hsuffix : t' <:+ t) : t.Marks m mock c := by
  obtain ⟨numbers, t'', hsuffix', hc, hn⟩ := h
  exact ⟨numbers, t'', hsuffix'.trans hsuffix, hc, hn⟩

theorem Marks.mem_calls (h : t.Marks m mock c) : c ∈ calls t := by
  obtain ⟨numbers, t', hsuffix, hc, -⟩ := h
  obtain ⟨l, hl, rfl⟩ := List.mem_map.mp hc
  exact (calls_suffix ((List.suffix_cons _ t').trans hsuffix)).subset (mem_log hl).1

/-- A flag of a logged call tells whether the call has been marked. -/
theorem has_iff_marks (ho : t.Ordered n) (hl : l ∈ log mock t) (m : Mark) : l.has m = true ↔ t.Marks m mock l.call := by
  induction t generalizing l with
  | nil => cases hl
  | cons h t ih =>
      have hot := ho.of_suffix (List.suffix_cons h t)
      rcases mem_log_cons hl with ⟨e, rfl, hlogs, -, rfl⟩ | ⟨l', hl', hcall, hhas⟩
      · -- the call is new: its number is greater than those of all calls that may have been marked
        have hincreasing := ho.increasing
        rw [calls, if_pos hlogs] at hincreasing
        have hnew : ¬Marks t m mock (call t e) := fun hmarks =>
          Nat.lt_irrefl _ (List.rel_of_pairwise_cons hincreasing (List.mem_map_of_mem hmarks.mem_calls))
        rw [marks_cons]
        cases m <;> simp [LoggedCall.has, Happening.sets, hnew]
      · rw [hhas, Bool.or_eq_true, ih hot hl', hcall, marks_cons]
        have hmem : l.call ∈ (log mock t).map (·.call) := hcall ▸ List.mem_map_of_mem hl'
        constructor
        · rintro (h | h)
          · exact .inr h
          · exact .inl ⟨h, hmem⟩
        · rintro (⟨h, -⟩ | h)
          · exact .inr h
          · exact .inl h

/-- As long as a call stays in the log, it keeps its flags. -/
theorem has_of_suffix (ho : t.Ordered n) (hsuffix : t' <:+ t) (hl : l ∈ log mock t') (hl' : l' ∈ log mock t)
    (hn : l.call.sequence = l'.call.sequence) : l.call = l'.call ∧ ∀ m, l.has m = true → l'.has m = true := by
  have hcall := ho.eq_of_sequence ((calls_suffix hsuffix).subset (mem_log hl).1) (mem_log hl').1 hn
  refine ⟨hcall, fun m hm => (has_iff_marks ho hl' m).mpr ?_⟩
  rw [← hcall]
  exact ((has_iff_marks (ho.of_suffix hsuffix) hl m).mp hm).mono hsuffix

end Chronicle

end TestDouble
