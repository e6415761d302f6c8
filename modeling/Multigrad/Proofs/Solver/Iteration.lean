import Multigrad.Proofs.Solver.Orders
import Multigrad.Proofs.Solver.Parts

/-!
# Iterations

What one iteration of a run does, and what a run of iterations is: an iteration after another, as
long as there is no reason to stop.
-/

namespace Multigrad.Solver.Plan

variable {σ R : Type} [Scalar R] {plan : Plan R} {source : OrderSource σ}
  {journal after : Journal σ R}

/-! ### One step -/

theorem step_eq_ok {stepSize : Number R} {point next : List R} {index : Int} :
    plan.step stepSize point index journal = .ok next after ↔
      ∃ pulled gradient, pull plan.settings plan.regularizer point = .ok pulled
        ∧ (plan.model.gradI index (.ok (Grid.ofList point)) journal.counters).1 = .ok gradient
        ∧ move stepSize (direction plan.model.problem) point pulled gradient = .ok next
        ∧ after = { journal with
            counters := (plan.model.gradI index (.ok (Grid.ofList point)) journal.counters).2
            visits := (index, point) :: journal.visits } := by
  simp only [step, visit, Run.bind_eq_ok, Run.lift_eq_ok, Run.noteVisit_eq_ok, Run.evaluate_eq_ok]
  constructor
  · rintro ⟨pulled, _, ⟨hpull, rfl⟩, gradient, _, ⟨_, _, rfl, hgradient, rfl⟩, hmove, rfl⟩
    exact ⟨pulled, gradient, hpull, hgradient, hmove, rfl⟩
  · rintro ⟨pulled, gradient, hpull, hgradient, hmove, rfl⟩
    exact ⟨pulled, _, ⟨hpull, rfl⟩, gradient, _, ⟨(), _, rfl, hgradient, rfl⟩, hmove, rfl⟩

/-! ### One sweep -/

theorem sweep_nil_eq_ok {stepSize : Number R} {point sum : List R} {swept : List R × List R} :
    plan.sweep stepSize [] point sum journal = .ok swept after
      ↔ (point, sum) = swept ∧ journal = after := Run.pure_eq_ok

theorem sweep_cons_eq_ok {stepSize : Number R} {index : Int} {rest : List Int}
    {point sum : List R} {swept : List R × List R} :
    plan.sweep stepSize (index :: rest) point sum journal = .ok swept after ↔
      ∃ next total mid, plan.step stepSize point index journal = .ok next mid
        ∧ Model.addOnto sum next = .ok total
        ∧ plan.sweep stepSize rest next total mid = .ok swept after := by
  simp only [sweep, Run.bind_eq_ok, Run.lift_eq_ok]
  constructor
  · rintro ⟨next, mid, hstep, total, _, ⟨hsum, rfl⟩, hrest⟩
    exact ⟨next, total, mid, hstep, hsum, hrest⟩
  · rintro ⟨next, total, mid, hstep, hsum, hrest⟩
    exact ⟨next, mid, hstep, total, mid, ⟨hsum, rfl⟩, hrest⟩

/-- A sweep visits the objectives of its order, and draws no other one. -/
theorem sweep_visits {stepSize : Number R} {order : List Int} {point sum : List R}
    {swept : List R × List R}
    (hsweep : plan.sweep stepSize order point sum journal = .ok swept after) :
    after.visits.map Prod.fst = order.reverse ++ journal.visits.map Prod.fst
      ∧ after.orders = journal.orders := by
  induction order generalizing point sum journal with
  | nil =>
      obtain ⟨-, rfl⟩ := sweep_nil_eq_ok.mp hsweep
      exact ⟨rfl, rfl⟩
  | cons index rest ih =>
      obtain ⟨next, total, mid, hstep, -, hrest⟩ := sweep_cons_eq_ok.mp hsweep
      obtain ⟨pulled, gradient, -, -, -, rfl⟩ := step_eq_ok.mp hstep
      obtain ⟨hvisits, horders⟩ := ih hrest
      refine ⟨?_, horders⟩
      rw [hvisits, List.reverse_cons, List.append_assoc]
      rfl

variable [Completion R]

/-! ### One iteration -/

theorem advance_eq_ok {current next : Iterate R} :
    plan.advance source current journal = .ok next after ↔
      ∃ stepSize order orders point sum mid,
        plan.settings.nextStep current.iterations current.stepSize = .ok stepSize
        ∧ source.next journal.orders = .ok (order, orders)
        ∧ plan.sweep stepSize order current.point (current.average.map fun _ => (0.0 : R))
            { journal with orders } = .ok (point, sum) mid
        ∧ next = ⟨current.iterations + 1, stepSize, point,
            sum.map (· / Scalar.ofInt plan.model.problem.nobj)⟩
        ∧ after = mid.noted (.iteration (current.iterations + 1) stepSize (norm point)) := by
  simp only [advance, Run.bind_eq_ok, Run.lift_eq_ok, Run.draw_eq_ok, Run.note_eq_ok,
    Run.pure_eq_ok]
  constructor
  · rintro ⟨stepSize, _, ⟨hstep, rfl⟩, order, _, ⟨orders, hdraw, rfl⟩, ⟨point, sum⟩, mid, hsweep, _,
      _, rfl, rfl, rfl⟩
    exact ⟨stepSize, order, orders, point, sum, mid, hstep, hdraw, hsweep, rfl, rfl⟩
  · rintro ⟨stepSize, order, orders, point, sum, mid, hstep, hdraw, hsweep, rfl, rfl⟩
    exact ⟨stepSize, _, ⟨hstep, rfl⟩, order, _, ⟨orders, hdraw, rfl⟩, (point, sum), mid, hsweep, (),
      _, rfl, rfl, rfl⟩

omit [Completion R] in
theorem stop?_eq_ok {current : Iterate R} {verdict : Option Status} :
    plan.stop? current journal = .ok verdict after ↔
      plan.settings.stop? (plan.clock current.iterations) journal.counters.total
          current.iterations current.stepSize = .ok verdict
        ∧ journal = after := by
  simp only [stop?, Run.bind_eq_ok, Run.evaluations_eq_ok, Run.lift_eq_ok]
  constructor
  · rintro ⟨_, _, ⟨rfl, rfl⟩, hverdict, rfl⟩
    exact ⟨hverdict, rfl⟩
  · rintro ⟨hverdict, rfl⟩
    exact ⟨_, _, ⟨rfl, rfl⟩, hverdict, rfl⟩

/-! ### Many iterations -/

/-- What a run of iterations comes to: no test before was a reason to stop. -/
inductive Reaches (plan : Plan R) (source : OrderSource σ) (first : Iterate R)
    (start : Journal σ R) : Iterate R → Journal σ R → Prop where
  | start : Reaches plan source first start first start
  | advance {current next : Iterate R} {journal after : Journal σ R}
      (hcurrent : Reaches plan source first start current journal)
      (hgoesOn : plan.stop? current journal = .ok none journal)
      (hadvance : plan.advance source current journal = .ok next after) :
      Reaches plan source first start next after

/-- Iterations that end have come to a reason to stop. -/
theorem Reaches.iterate_ok {first current last : Iterate R} {start : Journal σ R} {limit : Nat}
    {status : Status} (hcurrent : plan.Reaches source first start current journal)
    (hrun : plan.iterate source limit current journal = .ok (last, status) after) :
    plan.Reaches source first start last after
      ∧ plan.stop? last after = .ok (some status) after := by
  induction limit generalizing current journal with
  | zero =>
      obtain ⟨verdict, mid, hverdict, hrest⟩ := Run.bind_eq_ok.mp hrun
      obtain rfl := (stop?_eq_ok.mp hverdict).2
      cases verdict with
      | some found =>
          obtain ⟨heq, rfl⟩ := Run.pure_eq_ok.mp hrest
          obtain ⟨rfl, rfl⟩ := Prod.mk.inj heq
          exact ⟨hcurrent, hverdict⟩
      | none => exact (Run.throw_ne_ok hrest).elim
  | succ limit ih =>
      obtain ⟨verdict, mid, hverdict, hrest⟩ := Run.bind_eq_ok.mp hrun
      obtain rfl := (stop?_eq_ok.mp hverdict).2
      cases verdict with
      | some found =>
          obtain ⟨heq, rfl⟩ := Run.pure_eq_ok.mp hrest
          obtain ⟨rfl, rfl⟩ := Prod.mk.inj heq
          exact ⟨hcurrent, hverdict⟩
      | none =>
          -- The rest of the run starts one iteration later, so what is reached has to vary.
          obtain ⟨next, mid, hadvance, hrest⟩ := Run.bind_eq_ok.mp hrest
          exact ih (hcurrent.advance hverdict hadvance) hrest

theorem advance_iterations {current next : Iterate R}
    (hadvance : plan.advance source current journal = .ok next after) :
    next.iterations = current.iterations + 1 := by
  obtain ⟨_, _, _, _, _, _, -, -, -, rfl, -⟩ := advance_eq_ok.mp hadvance
  rfl

theorem Reaches.iterations_le {first current : Iterate R} {start : Journal σ R}
    (hcurrent : plan.Reaches source first start current journal) :
    first.iterations ≤ current.iterations := by
  induction hcurrent with
  | start => exact Nat.le_refl _
  | advance hcurrent hgoesOn hadvance ih =>
      rw [advance_iterations hadvance]
      exact Nat.le_succ_of_le ih

/-- Iterations come by what is reached, and go on from there with what is left of their limit. -/
theorem Reaches.iterate_eq {first current : Iterate R} {start : Journal σ R}
    (hcurrent : plan.Reaches source first start current journal) (limit : Nat) :
    plan.iterate source (current.iterations - first.iterations + limit) first start
      = plan.iterate source limit current journal := by
  induction hcurrent generalizing limit with
  | start => rw [Nat.sub_self, Nat.zero_add]
  | @advance current next journal after hcurrent hgoesOn hadvance ih =>
      have hle := hcurrent.iterations_le
      have hlimit : next.iterations - first.iterations + limit
          = current.iterations - first.iterations + (limit + 1) := by
        rw [advance_iterations hadvance]
        omega
      rw [hlimit, ih, iterate, Run.bind_of_ok hgoesOn]
      exact Run.bind_of_ok hadvance

/-- Iterations end where what is reached is a reason to stop, unless their limit comes before. -/
theorem Reaches.iterate_eq_ok {first last : Iterate R} {start : Journal σ R} {limit : Nat}
    {status : Status} (hlast : plan.Reaches source first start last after)
    (hstop : plan.stop? last after = .ok (some status) after)
    (hlimit : last.iterations ≤ first.iterations + limit) :
    plan.iterate source limit first start = .ok (last, status) after := by
  obtain ⟨rest, rfl⟩ := Nat.exists_eq_add_of_le (Nat.sub_le_iff_le_add'.mpr hlimit)
  rw [hlast.iterate_eq rest]
  cases rest with
  | zero => exact Run.bind_of_ok hstop
  | succ rest => exact Run.bind_of_ok hstop

end Multigrad.Solver.Plan
