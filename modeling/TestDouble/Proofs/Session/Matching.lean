import TestDouble.Proofs.Recording.Bands
import TestDouble.Proofs.Session.Rounds
import TestDouble.Session.Typed

/-!
# Typed matchers

A type reads the stand-in that is handed out for a matcher of this type, and writes it back as it was recorded. Only
lists of values of unknown shape have no stand-in: the object that is recorded instead is refused, as it is no list.
-/

namespace TestDouble

namespace OpenRound.Registers

variable {o : OpenRound} {g g' : Generator} {s s' : Store} {m : Matcher} {shape : Shape} {reg : RegisteredMatcher}

theorem signature_eq (h : o.Registers g s m shape reg g' s') : reg.signature = (o.register g s m shape).1 := by
  rw [h.result]

theorem accepts (h : o.Registers g s m shape reg g' s') (hknown : shape.isKnown = true) :
    shape.accepts reg.signature = true := by
  obtain ⟨v, hdraw, hv⟩ := Generator.signature?_always hknown (g, s.nextObject)
  rcases hs : Generator.signature? shape (g, s.nextObject) with ⟨drawn, st⟩
  rw [hs] at hdraw
  cases hdraw
  rw [h.signature_eq, register, drawing, hs]
  exact hv

/-- What cannot be drawn is stood for by an object. -/
theorem exists_object (h : o.Registers g s m shape reg g' s') (hunknown : shape.innermost = .generic) :
    ∃ x, reg.signature = .object x ∧ x.isPlaceholder = false := by
  rw [h.signature_eq, register, drawing, Generator.signature?_unknown hunknown]
  exact ⟨_, rfl, rfl⟩

end OpenRound.Registers

namespace HostType

/-- Stand-ins can be made for values of this type. -/
def HasStandIn (t : HostType) : Prop := t.shape = .generic ∨ t.shape.innermost ≠ .generic

/-- Where the shape is open every object is read, unless it stands for a result. -/
theorem exists_ofValue_object : (t : HostType) → t.shape = .generic → {x : ObjectRef} → x.isPlaceholder = false →
    ∃ y, t.ofValue (.object x) = .ok y
  | .option content, h, x, hx => by
      obtain ⟨y, hy⟩ := exists_ofValue_object content h hx
      exact ⟨some y, by rw [ofValue_option (v := .object x) nofun, hy]; rfl⟩
  | .value, _, x, _ => ⟨.object x, rfl⟩
  | .object, _, x, hx => ⟨x, by rw [ofValue, hx]; rfl⟩

end HostType

namespace Act

variable {σ : Type} {w : World σ} {i : Nat} {o : OpenRound}

/-- Only sessions there are have a round in progress. -/
theorem lt_of_round (hround : (w.session i).round = some o) : i < w.sessions.length := by
  by_contra hi
  rw [World.session, List.getD_eq_getElem?_getD, List.getElem?_eq_none (Nat.le_of_not_lt hi)] at hround
  cases hround

theorem runOn_matching (hround : (w.session i).round = some o) (t : HostType) {m : Matcher} {reg : RegisteredMatcher}
    {g' : Generator} {s' : Store} (h : o.Registers (w.session i).generator w.store m t.shape reg g' s') :
    (matching i t m).runOn w = (t.ofValue reg.signature, ({ w with store := s' } : World σ).modifySession i
      fun x => { x with
        round := some { o with round := { o.round with matchers := o.round.matchers ++ [reg] } }
        generator := g' }) := by
  rw [matching, runOn_bind_ok (runOn_registerMatcher_of_round hround h), runOn_ofExcept]

/-- A matcher is registered, and its stand-in is read at the type if there can be one. -/
theorem matching_reads (hround : (w.session i).round = some o) (t : HostType) (m : Matcher) : ∃ reg w',
    (w'.session i).round = some { o with round := { o.round with matchers := o.round.matchers ++ [reg] } } ∧
    reg.matcher = m ∧
    (t.HasStandIn → ∃ x, (matching i t m).runOn w = (.ok x, w') ∧ t.toValue x = reg.signature) ∧
    (¬ t.HasStandIn → (matching i t m).runOn w = (.error (.rejected t.shape reg.signature), w')) := by
  obtain ⟨reg, g', s', hreg⟩ := o.exists_registers (w.session i).generator w.store m t.shape
  have hrun := runOn_matching hround t hreg
  have hround' : (((matching i t m).runOn w).2.session i).round =
      some { o with round := { o.round with matchers := o.round.matchers ++ [reg] } } := by
    rw [hrun]
    exact congrArg Session.round (World.session_modifySession_self (w := { w with store := s' }) (lt_of_round hround))
  refine ⟨reg, ((matching i t m).runOn w).2, hround', hreg.matcher, fun hstands => ?_, fun hnone => ?_⟩
  · have hread : ∃ x, t.ofValue reg.signature = .ok x := by
      by_cases hunknown : t.shape.innermost = .generic
      · obtain ⟨x, hx, hplaceholder⟩ := hreg.exists_object hunknown
        rw [hx]
        exact t.exists_ofValue_object (hstands.resolve_right (not_not_intro hunknown)) hplaceholder
      · have hknown := Shape.isKnown_iff.mpr hunknown
        exact t.exists_ofValue hknown (hreg.accepts hknown)
    obtain ⟨x, hx⟩ := hread
    exact ⟨x, by rw [hrun, hx], t.toValue_of_ofValue hx⟩
  · obtain ⟨hopen, hunknown⟩ := not_or.mp hnone
    obtain ⟨x, hx, -⟩ := hreg.exists_object (not_not.mp hunknown)
    rw [hrun, hx, t.ofValue_object hopen x]

/-- A session that records a block, in its first round. -/
def recordingWorld : World Unit where
  sessions := [{ phase := .stubbing, round := some (.start 0 []), generator := .ofSeed none }]
  memory := ()

theorem matching_reads_options : (recordingWorld.session 0).round = some (.start 0 []) ∧
    HostType.HasStandIn (.list (.option .int)) ∧ ¬ HostType.HasStandIn (.list .value) ∧
    (∃ reg x w', (matching 0 (.list (.option .int)) .any).runOn recordingWorld = (.ok x, w') ∧
      HostType.toValue (.list (.option .int)) x = reg.signature ∧
      (w'.session 0).round = some ⟨{ matchers := [reg] }, []⟩) ∧
    ∃ reg w', (matching 0 (.list .value) .any).runOn recordingWorld =
      (.error (.rejected (.list .generic) reg.signature), w') ∧
      (w'.session 0).round = some ⟨{ matchers := [reg] }, []⟩ := by
  have hstands : HostType.HasStandIn (.list (.option .int)) := .inr nofun
  have hnone : ¬ HostType.HasStandIn (.list .value) := not_or.mpr ⟨nofun, fun h => h rfl⟩
  have hround : (recordingWorld.session 0).round = some (.start 0 []) := rfl
  obtain ⟨reg, w', hreg, -, hok, -⟩ := matching_reads hround (.list (.option .int)) .any
  obtain ⟨reg', w'', hreg', -, -, herror⟩ := matching_reads hround (.list .value) .any
  obtain ⟨x, hx, hback⟩ := hok hstands
  exact ⟨hround, hstands, hnone, ⟨reg, x, w', hx, hback, hreg⟩, reg', w'', herror hnone, hreg'⟩

/-- A list of objects is not read from the object that stands for it. -/
theorem matching_refuses_objects : ((matching 0 (.list .object) .any).runOn recordingWorld).1 =
    .error (.rejected (.list .generic) (.object ⟨1, ObjectRef.signatureClass⟩)) := rfl

end Act

end TestDouble
