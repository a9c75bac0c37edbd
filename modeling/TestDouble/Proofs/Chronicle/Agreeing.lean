import TestDouble.Proofs.Chronicle.Basic
import TestDouble.Proofs.Chronicle.Logs
import TestDouble.Proofs.Session.Verifying

/-!
# Stores that agree with a chronicle

The log of every registered mock is the one that the chronicle tells. Each happening does to the store what the
chronicle says of it.
-/

namespace TestDouble

namespace Chronicle

/-- The logs of the store are as the chronicle tells, and what is new has no calls. -/
structure Agrees (t : Chronicle) (s : Store) : Prop where
  below : ∀ x ∈ s.registry.stubs, x.id < s.nextObject
  log : ∀ x ∈ s.registry.stubs, x.log = log x.id t
  fresh : ∀ mock, s.nextObject ≤ mock → Chronicle.log mock t = []
  ordered : t.Ordered s.nextSequence

/-- At every look the store agreed, and every call has returned to the frames it was made in. -/
def Sound : Chronicle → Prop
  | [] => True
  | .returned frames :: t => (∃ e es, underway t = e :: es ∧ frames = e.frames) ∧ Sound t
  | .seen s :: t => Agrees t s ∧ Sound t
  | _ :: t => Sound t

theorem Sound.of_suffix {t t' : Chronicle} (h : t.Sound) (hsuffix : t' <:+ t) : t'.Sound := by
  induction t with
  | nil =>
      cases List.suffix_nil.mp hsuffix
      exact h
  | cons a t ih =>
      rcases List.suffix_cons_iff.mp hsuffix with rfl | hsuffix
      · exact h
      · refine ih ?_ hsuffix
        cases a with
        | returned _ => exact h.2
        | seen _ => exact h.2
        | _ => exact h

theorem Ordered.mono {t : Chronicle} {n n' : Nat} (h : t.Ordered n) (hn : n ≤ n') : t.Ordered n' :=
  ⟨h.increasing, fun c hc => Nat.lt_of_lt_of_le (h.below c hc) hn⟩

namespace Agrees

variable {t t' : Chronicle} {s s' : Store}

theorem stub (h : t.Agrees s) {mock : Nat} {x : Stub} (hx : s.registry.stub? mock = some x) :
    x.log = Chronicle.log mock t := by
  rw [← Registry.id_of_stub? hx]
  exact h.log x (List.mem_of_find?_eq_some hx)

/-- What is examined of the logs of mocks is a part of what the chronicle tells. -/
theorem sublist_log (h : t.Agrees s) (mock : Nat) {f : Stub → List Call}
    (hf : ∀ x, (f x).Sublist (x.log.map (·.call))) :
    (((s.registry.stub? mock).map f).getD []).Sublist ((Chronicle.log mock t).map (·.call)) := by
  cases hstub : s.registry.stub? mock with
  | none => exact List.nil_sublist _
  | some x =>
      rw [← h.stub hstub]
      exact hf x

theorem mergedLog_increasing (h : t.Agrees s) (r : Request) {mocks : List Nat} (hmocks : mocks.Nodup) :
    ((Act.mergedLog s r mocks).map (·.sequence)).Pairwise (· < ·) := by
  refine Act.inOrder_increasing (h.ordered.nodup_flatMap hmocks fun mock _ => List.filter_sublist.trans ?_)
  exact h.sublist_log mock fun x => List.filter_sublist.map _

/-- A happening that is not about logs. -/
theorem of_same (h : t.Agrees s) (hlog : ∀ mock, Chronicle.log mock t' = Chronicle.log mock t)
    (hcalls : calls t' = calls t) : t'.Agrees s where
  below := h.below
  log x hx := (h.log x hx).trans (hlog x.id).symm
  fresh mock hmock := (hlog mock).trans (h.fresh mock hmock)
  ordered := ⟨hcalls ▸ h.ordered.increasing, hcalls ▸ h.ordered.below⟩

theorem keeps (h : t.Agrees s) (hs : s.KeepsLogs s') : t.Agrees s' where
  below x hx := by
    rcases hs.stubs x hx with ⟨y, hy, hid, -⟩ | ⟨-, hlt, -⟩
    · exact hid ▸ Nat.lt_of_lt_of_le (h.below y hy) hs.objects
    · exact hlt
  log x hx := by
    rcases hs.stubs x hx with ⟨y, hy, hid, hlog⟩ | ⟨hle, -, hnil⟩
    · rw [← hlog, ← hid]
      exact h.log y hy
    · rw [hnil, h.fresh x.id hle]
  fresh mock hmock := h.fresh mock (Nat.le_trans hs.objects hmock)
  ordered := h.ordered.mono hs.sequence

/-! ## Calls -/

/-- A call that is not logged only takes its number. -/
theorem unlogged (h : t.Agrees s) {e : Made} (he : logs t e = false) : Agrees (.made e :: t) s :=
  h.of_same (fun mock => by rw [Chronicle.log, he]; rfl) (by rw [calls, he]; rfl)

/-- A call that is logged gets the next number, and is appended to the log of its target. -/
theorem logged (h : t.Agrees s) {e : Made} (he : logs t e = true) (hn : e.number = s.nextSequence)
    (htarget : e.target.id < s.nextObject) : Agrees (.made e :: t)
      (Store.modify { s with nextSequence := s.nextSequence + 1 } e.target.id (·.addCall (call t e))) := by
  have hlogged : ∀ mock, Chronicle.log mock (.made e :: t) =
      if e.target.id = mock then Chronicle.log mock t ++ [{ call := call t e }] else Chronicle.log mock t := by
    intro mock
    simp [Chronicle.log, he]
  have hcalls : calls (.made e :: t) = call t e :: calls t := by rw [calls, if_pos he]
  have hsequence : (call t e).sequence = s.nextSequence := hn
  refine ⟨fun x hx => ?_, fun x hx => ?_, fun mock hmock => ?_, ?_, ?_⟩
  · obtain ⟨y, hy, rfl⟩ := List.mem_map.mp hx
    split
    · exact h.below y hy
    · exact h.below y hy
  · obtain ⟨y, hy, rfl⟩ := List.mem_map.mp hx
    by_cases hid : y.id = e.target.id
    · rw [if_pos (beq_iff_eq.mpr hid)]
      exact (congrArg (· ++ [_]) (h.log y hy)).trans ((hlogged y.id).trans (if_pos hid.symm)).symm
    · rw [if_neg (by simpa using hid), hlogged, if_neg (Ne.symm hid)]
      exact h.log y hy
  · rw [hlogged, if_neg (Nat.ne_of_lt (Nat.lt_of_lt_of_le htarget hmock))]
    exact h.fresh mock hmock
  · rw [hcalls, List.map_cons, List.pairwise_cons]
    refine ⟨fun n hn' => ?_, h.ordered.increasing⟩
    obtain ⟨c, hc, rfl⟩ := List.mem_map.mp hn'
    exact hsequence ▸ h.ordered.below c hc
  · rw [hcalls]
    refine List.forall_mem_cons.mpr ⟨?_, fun c hc => Nat.lt_succ_of_lt (h.ordered.below c hc)⟩
    exact hsequence ▸ Nat.lt_succ_self _

/-- A call is logged if the chronicle says so, and then its answer is selected. -/
theorem resolved (h : t.Agrees s) {e : Made} (hn : e.number = s.nextSequence) (htarget : e.target.id < s.nextObject)
    (hknown : e.known = true) (hrecording : e.recording = false) : Agrees (.made e :: t)
      (Store.resolve { s with nextSequence := s.nextSequence + 1 } e.target.id (call t e)
        (e.logsSelfCalls || !(call t e).isSelfCall)).2 := by
  have hlogs : logs t e = (e.logsSelfCalls || !(call t e).isSelfCall) := by
    rw [logs, hknown, hrecording, Bool.not_false, Bool.and_self, Bool.true_and]
  rw [← hlogs, Store.resolve]
  refine keeps ?_ (Store.selectAnswer_keepsLogs _ _ _ _)
  cases hlog : logs t e with
  | true => exact h.logged hlog hn htarget
  | false => exact (h.unlogged hlog).keeps (.of_subset (fun _ hx => hx) (Nat.le_refl _) (Nat.le_succ _))

/-! ## Emptied logs -/

theorem emptied (h : t.Agrees s) (mocks : List Nat) : Agrees (.emptied mocks :: t) (s.emptied mocks) where
  below x hx := by
    obtain ⟨y, hy, rfl⟩ := List.mem_map.mp hx
    split
    · exact h.below y hy
    · exact h.below y hy
  log x hx := by
    obtain ⟨y, hy, rfl⟩ := List.mem_map.mp hx
    by_cases hid : y.id ∈ mocks
    · rw [if_pos hid]
      exact (if_pos (List.contains_iff_mem.mpr hid)).symm
    · rw [if_neg hid]
      exact (h.log y hy).trans (if_neg fun hc => hid (List.contains_iff_mem.mp hc)).symm
  fresh mock hmock := by
    rw [Chronicle.log, h.fresh mock hmock, ite_self]
  ordered := ⟨h.ordered.increasing, h.ordered.below⟩

end Agrees

/-- Whichever logs have been emptied, they are those that are empty now. -/
theorem Agrees.manages {t : Chronicle} {s s' : Store} (h : t.Agrees s) (hs : s.Manages s') :
    Agrees (.emptied s'.silent :: t) s' := by
  obtain ⟨mocks, hkeeps⟩ := hs
  have hagrees := (h.emptied mocks).keeps hkeeps
  have hlog : ∀ x ∈ s'.registry.stubs, x.log = if mocks.contains x.id then [] else Chronicle.log x.id t := hagrees.log
  refine ⟨hagrees.below, fun x hx => ?_, fun mock hmock => ?_, ⟨h.ordered.increasing, ?_⟩⟩
  · rw [Chronicle.log]
    by_cases hsilent : s'.silent.contains x.id = true
    · rw [if_pos hsilent]
      obtain ⟨y, hy, hid⟩ := List.mem_map.mp (List.contains_iff_mem.mp hsilent)
      obtain ⟨hy, hempty⟩ := List.mem_filter.mp hy
      rw [hlog x hx, ← hid, ← hlog y hy, List.isEmpty_iff.mp hempty]
    · rw [if_neg hsilent, hlog x hx]
      refine if_neg fun hmocks => hsilent (List.contains_iff_mem.mpr (List.mem_map.mpr ⟨x, ?_, rfl⟩))
      rw [List.mem_filter, hlog x hx, if_pos hmocks]
      exact ⟨hx, rfl⟩
  · rw [Chronicle.log, h.fresh mock (Nat.le_trans hkeeps.objects hmock), ite_self]
  · exact fun c hc => hagrees.ordered.below c hc

end Chronicle

/-! ## Logs in order -/

namespace Store

/-- Every logged call was made on the mock whose log it is in. -/
def CallsAtHome (s : Store) : Prop := ∀ x ∈ s.registry.stubs, ∀ l ∈ x.log, l.call.target.id = x.id

/-- Every mock logs its own calls, and all logged calls have different numbers. -/
structure WellLogged (s : Store) : Prop where
  home : s.CallsAtHome
  apart : s.NumbersApart
  nodup : ∀ x ∈ s.registry.stubs, (x.log.map (·.call.sequence)).Nodup
  same : ∀ x ∈ s.registry.stubs, ∀ y ∈ s.registry.stubs, x.id = y.id → x.log = y.log

end Store

theorem Chronicle.Agrees.wellLogged {t : Chronicle} {s : Store} (h : t.Agrees s) : s.WellLogged where
  home x hx l hl := by
    rw [h.log x hx] at hl
    exact (mem_log hl).2
  apart a ha b hb x hx y hy hn := by
    rw [h.log a ha] at hx
    rw [h.log b hb] at hy
    have hcall := h.ordered.eq_of_sequence (mem_log hx).1 (mem_log hy).1 hn
    rw [← (mem_log hx).2, hcall, (mem_log hy).2]
  nodup x hx := by
    rw [h.log x hx]
    exact (h.ordered.log_increasing x.id).imp Nat.ne_of_lt
  same x hx y hy hid := by rw [h.log x hx, h.log y hy, hid]

/-! ## Marks -/

namespace Store

/-- The flag is set on the logged calls with these numbers, on these mocks. -/
def mark (s : Store) (m : Mark) (mocks numbers : List Nat) : Store :=
  { s with registry := ⟨s.registry.stubs.map fun x =>
      if x.id ∈ mocks then { x with log := LoggedCall.setAll m numbers x.log } else x⟩ }

theorem marked_eq_mark (s : Store) (mocks numbers : List Nat) :
    s.marked mocks numbers = s.mark .verified mocks numbers := rfl

theorem modify_hide (s : Store) (mock : Nat) (numbers : List Nat) :
    s.modify mock (·.hide numbers) = s.mark .excluded [mock] numbers := by
  simp only [modify, Registry.modify, mark, beq_iff_eq, List.mem_singleton]
  rfl

end Store

namespace Chronicle

/-- The numbers are those of calls on the marked mocks, so no other log has calls with them. -/
theorem Agrees.mark {t : Chronicle} {s : Store} (h : t.Agrees s) (m : Mark) {mocks numbers : List Nat}
    (hnumbers : ∀ n ∈ numbers, ∃ x ∈ s.registry.stubs, x.id ∈ mocks ∧ ∃ l ∈ x.log, l.call.sequence = n) :
    Agrees (.marked m numbers :: t) (s.mark m mocks numbers) where
  below x hx := by
    obtain ⟨y, hy, rfl⟩ := List.mem_map.mp hx
    split
    · exact h.below y hy
    · exact h.below y hy
  log x hx := by
    obtain ⟨y, hy, rfl⟩ := List.mem_map.mp hx
    by_cases hid : y.id ∈ mocks
    · rw [if_pos hid]
      exact congrArg (LoggedCall.setAll m numbers) (h.log y hy)
    · rw [if_neg hid]
      refine (h.log y hy).trans (LoggedCall.setAll_eq_self fun l hl hn => hid ?_).symm
      obtain ⟨x, hx, hmocks, l', hl', hsequence⟩ := hnumbers _ hn
      rw [h.log x hx] at hl'
      have hsame := h.ordered.eq_of_sequence (mem_log hl').1 (mem_log hl).1 hsequence
      rwa [← (mem_log hl).2, ← hsame, (mem_log hl').2]
  fresh mock hmock := by
    rw [Chronicle.log, h.fresh mock hmock]
    rfl
  ordered := ⟨h.ordered.increasing, h.ordered.below⟩

theorem Agrees.marked_nil {t : Chronicle} {s : Store} (h : t.Agrees s) (m : Mark) : Agrees (.marked m [] :: t) s :=
  h.of_same (fun _ => LoggedCall.setAll_eq_self fun _ _ => List.not_mem_nil) rfl

/-- Marks that are made one after another are made at once. -/
theorem Agrees.marked_append {t : Chronicle} {s : Store} {m : Mark} {ns ns' : List Nat}
    (h : Agrees (.marked m ns' :: .marked m ns :: t) s) : Agrees (.marked m (ns ++ ns') :: t) s :=
  h.of_same (fun _ => LoggedCall.setAll_append m ns ns' _) rfl

end Chronicle

end TestDouble
