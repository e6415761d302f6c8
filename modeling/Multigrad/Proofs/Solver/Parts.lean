import Multigrad.Proofs.Reading
import Multigrad.Solver.Run

/-!
# Parts of a run

How the parts of a run end, and what they do to the journal: when a part ends with a result, and
when with a failure. A failure does not take back what the journal already has.
-/

namespace Multigrad.Solver

def Journal.noted {σ R : Type} (journal : Journal σ R) (notice : Notice R) : Journal σ R :=
  { journal with notices := notice :: journal.notices }

namespace Run

variable {σ R α β : Type} {journal after : Journal σ R} {a : α} {failure : Failure R}

/-! ### Results -/

/-- What is read off the result of a part, if it has one. -/
def read? (f : α → β) (part : Run σ R α) (journal : Journal σ R) : Option β :=
  match part journal with
  | .ok a _ => some (f a)
  | .error _ _ => none

theorem exists_ok_of_read? {f : α → β} {part : Run σ R α} {b : β}
    (hread : read? f part journal = some b) : ∃ a after, part journal = .ok a after ∧ f a = b := by
  unfold read? at hread
  cases hpart : part journal with
  | ok a after =>
      rw [hpart] at hread
      exact ⟨a, after, rfl, Option.some.inj hread⟩
  | error failure after =>
      rw [hpart] at hread
      cases hread

/-! ### One part after the other -/

section Bind

variable {part : Run σ R α} {next : α → Run σ R β} {b : β}

theorem bind_eq_ok :
    (part >>= next) journal = .ok b after ↔
      ∃ a mid, part journal = .ok a mid ∧ next a mid = .ok b after := by
  change EStateM.bind part next journal = _ ↔ _
  unfold EStateM.bind
  cases part journal with
  | ok a mid =>
      constructor
      · intro h
        exact ⟨a, mid, rfl, h⟩
      · rintro ⟨_, _, h, hnext⟩
        cases h
        exact hnext
  | error e mid =>
      constructor
      · intro h
        cases h
      · rintro ⟨_, _, h, -⟩
        cases h

theorem bind_eq_error :
    (part >>= next) journal = .error failure after ↔
      part journal = .error failure after
        ∨ ∃ a mid, part journal = .ok a mid ∧ next a mid = .error failure after := by
  change EStateM.bind part next journal = _ ↔ _
  unfold EStateM.bind
  cases part journal with
  | ok a mid =>
      constructor
      · intro h
        exact .inr ⟨a, mid, rfl, h⟩
      · rintro (h | ⟨_, _, h, hnext⟩)
        · cases h
        · cases h
          exact hnext
  | error e mid =>
      constructor
      · intro h
        cases h
        exact .inl rfl
      · rintro (h | ⟨_, _, h, -⟩)
        · cases h
          rfl
        · cases h

/-- What comes after a part that ends with a result. -/
theorem bind_of_ok {a : α} {mid : Journal σ R} (hpart : part journal = .ok a mid) :
    (part >>= next) journal = next a mid := by
  change EStateM.bind part next journal = _
  rw [EStateM.bind, hpart]

end Bind

theorem pure_eq_ok {b : α} :
    (pure b : Run σ R α) journal = .ok a after ↔ b = a ∧ journal = after := by
  change EStateM.Result.ok b journal = _ ↔ _
  rw [EStateM.Result.ok.injEq]

theorem pure_ne_error {b : α} : (pure b : Run σ R α) journal ≠ .error failure after := nofun

theorem throw_eq_error {thrown : Failure R} :
    (throw thrown : Run σ R α) journal = .error failure after
      ↔ thrown = failure ∧ journal = after := by
  change EStateM.Result.error thrown journal = _ ↔ _
  rw [EStateM.Result.error.injEq]

theorem throw_ne_ok {thrown : Failure R} : (throw thrown : Run σ R α) journal ≠ .ok a after := nofun

/-! ### Readings -/

theorem lift_eq_ok {reading : Except Mishap α} :
    lift reading journal = .ok a after ↔ reading = .ok a ∧ journal = after := by
  cases reading with
  | ok b => rw [lift, pure_eq_ok, Except.ok.injEq]
  | error mishap => exact iff_of_false throw_ne_ok (by simp)

theorem lift_eq_error {reading : Except Mishap α} :
    lift reading journal = .error failure after ↔
      ∃ mishap, reading = .error mishap ∧ .mishap mishap = failure ∧ journal = after := by
  cases reading with
  | ok b => exact iff_of_false pure_ne_error (by simp)
  | error mishap =>
      rw [lift, throw_eq_error]
      constructor
      · intro h
        exact ⟨mishap, rfl, h⟩
      · rintro ⟨_, h, hrest⟩
        cases h
        exact hrest

theorem check_eq_ok {verdict : Except (Failure R) α} :
    check verdict journal = .ok a after ↔ verdict = .ok a ∧ journal = after := by
  cases verdict with
  | ok b => rw [check, pure_eq_ok, Except.ok.injEq]
  | error e => exact iff_of_false throw_ne_ok (by simp)

theorem check_eq_error {verdict : Except (Failure R) α} :
    check verdict journal = .error failure after
      ↔ verdict = .error failure ∧ journal = after := by
  cases verdict with
  | ok b => exact iff_of_false pure_ne_error (by simp)
  | error e => rw [check, throw_eq_error, Except.error.injEq]

/-! ### Evaluations and orders -/

section Evaluate

variable {evaluation : Counters → Except Model.Failure α × Counters}

theorem evaluate_eq_ok :
    evaluate evaluation journal = .ok a after ↔
      (evaluation journal.counters).1 = .ok a
        ∧ { journal with counters := (evaluation journal.counters).2 } = after := by
  unfold evaluate
  split <;> rename_i h <;> simp [h]

theorem evaluate_eq_error :
    evaluate evaluation journal = .error failure after ↔
      (∃ reason, (evaluation journal.counters).1 = .error reason ∧ .evaluation reason = failure)
        ∧ { journal with counters := (evaluation journal.counters).2 } = after := by
  unfold evaluate
  split <;> rename_i h <;> simp [h]

end Evaluate

variable {source : OrderSource σ}

theorem start_eq_ok {u : Unit} :
    start source journal = .ok u after ↔
      ∃ orders, source.start journal.orders = .ok orders ∧ { journal with orders } = after := by
  unfold start
  split <;> rename_i h <;> simp [h]

theorem start_eq_error :
    start source journal = .error failure after ↔
      ∃ mishap, source.start journal.orders = .error mishap ∧ .mishap mishap = failure
        ∧ journal = after := by
  unfold start
  split <;> rename_i h <;> simp [h]

theorem draw_eq_ok {order : List Int} :
    draw source journal = .ok order after ↔
      ∃ orders, source.next journal.orders = .ok (order, orders)
        ∧ { journal with orders } = after := by
  unfold draw
  split <;> rename_i h <;> simp [h]

theorem draw_eq_error :
    draw source journal = .error failure after ↔
      ∃ mishap, source.next journal.orders = .error mishap ∧ .mishap mishap = failure
        ∧ journal = after := by
  unfold draw
  split <;> rename_i h <;> simp [h]

/-! ### Notes -/

theorem note_eq_ok {notice : Notice R} {u : Unit} :
    note notice journal = .ok u after ↔ journal.noted notice = after := by
  change EStateM.Result.ok _ _ = _ ↔ _
  rw [EStateM.Result.ok.injEq]
  exact and_iff_right rfl

theorem note_ne_error {notice : Notice R} : note notice journal ≠ .error failure after := nofun

theorem noteVisit_eq_ok {index : Int} {point : List R} {u : Unit} :
    noteVisit index point journal = .ok u after
      ↔ { journal with visits := (index, point) :: journal.visits } = after := by
  change EStateM.Result.ok _ _ = _ ↔ _
  rw [EStateM.Result.ok.injEq]
  exact and_iff_right rfl

theorem noteVisit_ne_error {index : Int} {point : List R} :
    noteVisit index point journal ≠ .error failure after := nofun

theorem get_eq_ok {found : Journal σ R} :
    (get : Run σ R (Journal σ R)) journal = .ok found after
      ↔ journal = found ∧ journal = after := pure_eq_ok

theorem get_ne_error : (get : Run σ R (Journal σ R)) journal ≠ .error failure after := nofun

theorem evaluations_eq_ok {n : Nat} :
    evaluations journal = .ok n after ↔ journal.counters.total = n ∧ journal = after := by
  change EStateM.Result.ok _ _ = _ ↔ _
  rw [EStateM.Result.ok.injEq]

theorem evaluations_ne_error : evaluations journal ≠ .error failure after := nofun

end Run

theorem combine_of_length {R : Type} {f : R → R → R} {a b : List R}
    (hlength : a.length = b.length) : combine f a b = .ok (List.zipWith f a b) := if_pos hlength

end Multigrad.Solver
