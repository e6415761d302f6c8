import Multigrad.Proofs.Solver.Loop
import Mathlib.Data.List.Induction

/-!
# The course of iterations

Where iterations lead depends on the orders that are drawn, and on nothing else in the journal. So
the course through given orders can be read off without a run: a run comes by an iterate when its
source gives orders that lead there, and no test on the way is a reason to stop.
-/

namespace Multigrad

/-! ### Given orders -/

namespace OrderSource

variable {σ : Type} {source : OrderSource σ} {state after : σ}

/-- A source gives orders, one after the other. -/
def Gives (source : OrderSource σ) : σ → List (List Int) → σ → Prop
  | state, [], after => state = after
  | state, order :: rest, after =>
    ∃ middle, source.next state = .ok (order, middle) ∧ source.Gives middle rest after

theorem gives_append {first second : List (List Int)} :
    source.Gives state (first ++ second) after
      ↔ ∃ middle, source.Gives state first middle ∧ source.Gives middle second after := by
  induction first generalizing state with
  | nil =>
      constructor
      · intro hsecond
        exact ⟨state, rfl, hsecond⟩
      · rintro ⟨_, rfl, hsecond⟩
        exact hsecond
  | cons order rest ih =>
      constructor
      · rintro ⟨mid, hnext, hrest⟩
        obtain ⟨middle, hgives, hsecond⟩ := ih.mp hrest
        exact ⟨middle, ⟨mid, hnext, hgives⟩, hsecond⟩
      · rintro ⟨middle, ⟨mid, hnext, hgives⟩, hsecond⟩
        exact ⟨mid, hnext, ih.mpr ⟨middle, hgives, hsecond⟩⟩

theorem gives_singleton {order : List Int} :
    source.Gives state [order] after ↔ source.next state = .ok (order, after) := by
  constructor
  · rintro ⟨middle, hnext, rfl⟩
    exact hnext
  · intro hnext
    exact ⟨after, hnext, rfl⟩

/-- A source leaves no choice of the orders that it gives. -/
theorem Gives.unique {first second : List (List Int)} {other : σ}
    (hfirst : source.Gives state first after) (hsecond : source.Gives state second other)
    (hlength : first.length = second.length) : first = second := by
  induction first generalizing state second with
  | nil => exact (List.length_eq_zero_iff.mp hlength.symm).symm
  | cons order rest ih =>
      cases second with
      | nil => cases hlength
      | cons order' rest' =>
          obtain ⟨mid, hnext, hrest⟩ := hfirst
          obtain ⟨mid', hnext', hrest'⟩ := hsecond
          obtain ⟨rfl, rfl⟩ := Prod.mk.inj (Except.ok.inj (hnext.symm.trans hnext'))
          rw [ih hrest hrest' (Nat.succ.inj hlength)]

/-- The first orders that a source gives do not depend on how many it gives. -/
theorem Gives.begins {first second : List (List Int)} {other : σ}
    (hfirst : source.Gives state first after) (hsecond : source.Gives state second other)
    (hle : first.length ≤ second.length) : ∃ later, second = first ++ later := by
  rw [← List.take_append_drop first.length second, gives_append] at hsecond
  obtain ⟨middle, htaken, -⟩ := hsecond
  have hsame : first = second.take first.length :=
    hfirst.unique htaken (List.length_take_of_le hle).symm
  refine ⟨second.drop first.length, ?_⟩
  conv_lhs => rw [← List.take_append_drop first.length second, ← hsame]

end OrderSource

theorem Model.gradI_eq {R : Type} [Scalar R] (model : Model R) (index : Int) (x : Model.Point R)
    (counters counters' : Counters) :
    (model.gradI index x counters).1 = (model.gradI index x counters').1 := by
  unfold Model.gradI Model.evaluateAt
  split <;> rfl

namespace Solver

variable {σ R α β : Type}

/-! ### Parts that can be foretold -/

/-- Whether a part of a run ends with a result, and with which, does not depend on the journal. -/
def Run.Foretold (part : Run σ R α) (reading : Except (Failure R) α) : Prop :=
  ∀ a journal, (∃ after, part journal = .ok a after) ↔ reading = .ok a

namespace Run

theorem foretold_pure (a : α) : (pure a : Run σ R α).Foretold (.ok a) := by
  intro b journal
  rw [Except.ok.injEq]
  constructor
  · rintro ⟨after, h⟩
    exact (pure_eq_ok.mp h).1
  · intro h
    exact ⟨journal, pure_eq_ok.mpr ⟨h, rfl⟩⟩

theorem foretold_lift (reading : Except Mishap α) :
    (lift reading : Run σ R α).Foretold (reading.mapError .mishap) := by
  intro a journal
  rw [mapError_eq_ok]
  constructor
  · rintro ⟨after, h⟩
    exact (lift_eq_ok.mp h).1
  · intro h
    exact ⟨journal, lift_eq_ok.mpr ⟨h, rfl⟩⟩

theorem foretold_evaluate {evaluation : Counters → Except Model.Failure α × Counters}
    {reading : Except Model.Failure α} (hreading : ∀ counters, (evaluation counters).1 = reading) :
    (evaluate evaluation : Run σ R α).Foretold (reading.mapError .evaluation) := by
  intro a journal
  rw [mapError_eq_ok, ← hreading journal.counters]
  constructor
  · rintro ⟨after, h⟩
    exact (evaluate_eq_ok.mp h).1
  · intro h
    exact ⟨_, evaluate_eq_ok.mpr ⟨h, rfl⟩⟩

theorem foretold_noteVisit (index : Int) (point : List R) :
    (noteVisit index point : Run σ R Unit).Foretold (.ok ()) := by
  intro u journal
  exact iff_of_true ⟨_, noteVisit_eq_ok.mpr rfl⟩ rfl

theorem Foretold.bind {part : Run σ R α} {next : α → Run σ R β} {reading : Except (Failure R) α}
    {rest : α → Except (Failure R) β} (hpart : part.Foretold reading)
    (hnext : ∀ a, (next a).Foretold (rest a)) : (part >>= next).Foretold (reading >>= rest) := by
  intro b journal
  rw [Multigrad.bind_eq_ok]
  constructor
  · rintro ⟨after, h⟩
    obtain ⟨a, mid, ha, hb⟩ := bind_eq_ok.mp h
    exact ⟨a, (hpart a journal).mp ⟨mid, ha⟩, (hnext a b mid).mp ⟨after, hb⟩⟩
  · rintro ⟨a, ha, hb⟩
    obtain ⟨mid, hmid⟩ := (hpart a journal).mpr ha
    obtain ⟨after, hafter⟩ := (hnext a b mid).mpr hb
    exact ⟨after, bind_eq_ok.mpr ⟨a, mid, hmid, hafter⟩⟩

end Run

namespace Plan

variable [Scalar R]

/-! ### Where a sweep leads -/

/-- Where a step leads. -/
def target (plan : Plan R) (stepSize : Number R) (point : List R) (index : Int) :
    Except (Failure R) (List R) := do
  let pulled ← (pull plan.settings plan.regularizer point).mapError .mishap
  let gradient ← (plan.model.gradI index (.ok (Grid.ofList point)) (.empty 0)).1.mapError
    .evaluation
  (move stepSize (direction plan.model.problem) point pulled gradient).mapError .mishap

/-- Where a sweep leads, and the sum of the points on the way. -/
def tour (plan : Plan R) (stepSize : Number R) :
    List Int → (point sum : List R) → Except (Failure R) (List R × List R)
  | [], point, sum => .ok (point, sum)
  | index :: rest, point, sum => do
    let next ← plan.target stepSize point index
    let total ← (Model.addOnto sum next).mapError .mishap
    plan.tour stepSize rest next total

variable {plan : Plan R} {stepSize : Number R}

theorem foretold_step (point : List R) (index : Int) :
    (plan.step stepSize point index : Run σ R (List R)).Foretold
      (plan.target stepSize point index) := by
  apply (Run.foretold_lift _).bind
  intro pulled
  have hvisit : (visit plan.model index point : Run σ R (List R)).Foretold
      ((plan.model.gradI index (.ok (Grid.ofList point)) (.empty 0)).1.mapError .evaluation) := by
    change Run.Foretold _ (.ok () >>= fun _ => Except.mapError .evaluation _)
    apply (Run.foretold_noteVisit index point).bind
    intro _
    exact Run.foretold_evaluate fun counters => plan.model.gradI_eq _ _ _ _
  apply hvisit.bind
  intro gradient
  exact Run.foretold_lift _

theorem foretold_sweep (order : List Int) (point sum : List R) :
    (plan.sweep stepSize order point sum : Run σ R (List R × List R)).Foretold
      (plan.tour stepSize order point sum) := by
  induction order generalizing point sum with
  | nil => exact Run.foretold_pure _
  | cons index rest ih =>
      apply (foretold_step point index).bind
      intro next
      apply (Run.foretold_lift _).bind
      intro total
      exact ih next total

theorem tour_congr {plan' : Plan R} (htarget : plan.target = plan'.target) :
    plan.tour = plan'.tour := by
  funext stepSize order
  induction order with
  | nil => rfl
  | cons index rest ih =>
      funext point sum
      rw [tour, tour, htarget, ih]

variable [Completion R]

/-! ### Where iterations lead -/

/-- Where an iteration leads that visits objectives in this order. -/
def round (plan : Plan R) (order : List Int) (current : Iterate R) :
    Except (Failure R) (Iterate R) := do
  let stepSize ← (plan.settings.nextStep current.iterations current.stepSize).mapError .mishap
  let (point, sum) ← plan.tour stepSize order current.point
    (current.average.map fun _ => (0.0 : R))
  return ⟨current.iterations + 1, stepSize, point,
    sum.map (· / Scalar.ofInt plan.model.problem.nobj)⟩

/-- Where iterations lead that visit objectives in these orders. -/
def course (plan : Plan R) : List (List Int) → Iterate R → Except (Failure R) (Iterate R)
  | [], current => .ok current
  | order :: rest, current => plan.round order current >>= plan.course rest

theorem round_eq_ok {order : List Int} {current next : Iterate R} :
    plan.round order current = .ok next ↔
      ∃ stepSize point sum,
        plan.settings.nextStep current.iterations current.stepSize = .ok stepSize
          ∧ plan.tour stepSize order current.point (current.average.map fun _ => (0.0 : R))
            = .ok (point, sum)
          ∧ next = ⟨current.iterations + 1, stepSize, point,
            sum.map (· / Scalar.ofInt plan.model.problem.nobj)⟩ := by
  simp only [round, bind_eq_ok, mapError_eq_ok, pure_eq_ok, Prod.exists]
  constructor
  · rintro ⟨stepSize, hstep, point, sum, htour, rfl⟩
    exact ⟨stepSize, point, sum, hstep, htour, rfl⟩
  · rintro ⟨stepSize, point, sum, hstep, htour, rfl⟩
    exact ⟨stepSize, hstep, point, sum, htour, rfl⟩

theorem course_append (first second : List (List Int)) (current : Iterate R) :
    plan.course (first ++ second) current
      = plan.course first current >>= plan.course second := by
  induction first generalizing current with
  | nil => rfl
  | cons order rest ih =>
      rw [List.cons_append, course, course, bind_assoc]
      congr 1
      funext next
      exact ih next

theorem course_singleton (order : List Int) (current : Iterate R) :
    plan.course [order] current = plan.round order current := bind_pure _

theorem course_iterations {orders : List (List Int)} {current last : Iterate R}
    (hcourse : plan.course orders current = .ok last) :
    last.iterations = current.iterations + orders.length := by
  induction orders generalizing current with
  | nil =>
      obtain rfl := Except.ok.inj hcourse
      rfl
  | cons order rest ih =>
      obtain ⟨next, hround, hrest⟩ := bind_eq_ok.mp hcourse
      obtain ⟨_, _, _, -, -, rfl⟩ := round_eq_ok.mp hround
      rw [ih hrest, List.length_cons]
      exact Nat.add_right_comm _ _ _

/-- Plans with the same targets, schedule and number of objectives have the same courses. -/
theorem course_congr {plan' : Plan R} (htarget : plan.target = plan'.target)
    (hnext : plan.settings.nextStep = plan'.settings.nextStep)
    (hnobj : plan.model.problem.nobj = plan'.model.problem.nobj) : plan.course = plan'.course := by
  have hround : plan.round = plan'.round := by
    funext order current
    rw [round, round, hnext, tour_congr htarget, hnobj]
  funext orders
  induction orders with
  | nil => rfl
  | cons order rest ih =>
      funext current
      rw [course, course, hround, ih]

/-! ### Runs and their course -/

variable {source : OrderSource σ} {journal middle after : Journal σ R}
  {current next : Iterate R}

/-- An iteration leads where its order does. -/
theorem advance_iff_round {orders : σ} :
    (∃ after, plan.advance source current journal = .ok next after ∧ after.orders = orders) ↔
      ∃ order, source.next journal.orders = .ok (order, orders)
        ∧ plan.round order current = .ok next := by
  constructor
  · rintro ⟨after, hadvance, rfl⟩
    obtain ⟨stepSize, order, orders, point, sum, mid, hstep, hdraw, hsweep, rfl, rfl⟩ :=
      advance_eq_ok.mp hadvance
    have htour := (foretold_sweep order current.point _ _ _).mp ⟨mid, hsweep⟩
    have horders := (sweep_visits hsweep).2
    refine ⟨order, ?_, round_eq_ok.mpr ⟨stepSize, point, sum, hstep, htour, rfl⟩⟩
    rw [hdraw]
    exact congrArg (fun orders => Except.ok (order, orders)) horders.symm
  · rintro ⟨order, hdraw, hround⟩
    obtain ⟨stepSize, point, sum, hstep, htour, rfl⟩ := round_eq_ok.mp hround
    obtain ⟨mid, hsweep⟩ := (foretold_sweep order current.point _ _ { journal with orders }).mpr
      htour
    exact ⟨_, advance_eq_ok.mpr ⟨stepSize, order, orders, point, sum, mid, hstep, hdraw, hsweep,
      rfl, rfl⟩, (sweep_visits hsweep).2⟩

/-- What a run comes by lies on the course through the orders that it has drawn. -/
theorem Passes.course (hpasses : plan.Passes source journal current middle) :
    ∃ state stepSize orders, source.start journal.orders = .ok state
      ∧ plan.settings.stepSize.number? = .ok stepSize
      ∧ source.Gives state orders middle.orders
      ∧ plan.course orders (initialIterate plan.model stepSize) = .ok current := by
  obtain ⟨state, stepSize, hstart, hstep, hreaches⟩ := hpasses
  refine ⟨state, stepSize, ?_⟩
  induction hreaches with
  | start => exact ⟨[], hstart, hstep, rfl, rfl⟩
  | @advance current next mid after _ _ hadvance ih =>
      obtain ⟨orders, -, -, hgives, hcourse⟩ := ih
      obtain ⟨order, hnext, hround⟩ := advance_iff_round.mp ⟨after, hadvance, rfl⟩
      refine ⟨orders ++ [order], hstart, hstep, ?_, ?_⟩
      · exact OrderSource.gives_append.mpr
          ⟨mid.orders, hgives, OrderSource.gives_singleton.mpr hnext⟩
      · rw [course_append]
        exact bind_eq_ok.mpr ⟨current, hcourse, (course_singleton order current).trans hround⟩

/-- A run follows the course through the orders that it draws as long as it goes on. -/
theorem passes_of_course {state orders : σ} {given : List (List Int)}
    (hstart : source.start journal.orders = .ok state)
    (hstep : plan.settings.stepSize.number? = .ok stepSize)
    (hgives : source.Gives state given orders)
    (hcourse : plan.course given (initialIterate plan.model stepSize) = .ok current)
    (hgoesOn : ∀ earlier mid, plan.Passes source journal earlier mid →
      earlier.iterations < given.length → plan.stop? earlier mid = .ok none mid) :
    ∃ middle, plan.Passes source journal current middle ∧ middle.orders = orders := by
  -- The last order is drawn by a run that has followed all others.
  induction given using List.reverseRecOn generalizing current orders with
  | nil =>
      obtain rfl := Except.ok.inj hcourse
      obtain rfl : state = orders := hgives
      exact ⟨_, ⟨state, stepSize, hstart, hstep, .start⟩, rfl⟩
  | append_singleton before order ih =>
      rw [List.length_append] at hgoesOn
      obtain ⟨mid, hbefore, hnext⟩ := OrderSource.gives_append.mp hgives
      rw [OrderSource.gives_singleton] at hnext
      rw [course_append] at hcourse
      obtain ⟨earlier, hearlier, hround⟩ := bind_eq_ok.mp hcourse
      rw [course_singleton] at hround
      obtain ⟨middle, hpasses, rfl⟩ := ih hbefore hearlier fun found journal hpasses hlt =>
        hgoesOn found journal hpasses (Nat.lt_add_right _ hlt)
      have hcount : earlier.iterations = before.length := by
        rw [course_iterations hearlier, initialIterate, Nat.zero_add]
      have hlt : earlier.iterations < before.length + [order].length :=
        hcount ▸ Nat.lt_succ_self _
      obtain ⟨after, hadvance, hafter⟩ := advance_iff_round.mpr ⟨order, hnext, hround⟩
      exact ⟨after, hpasses.advance (hgoesOn earlier middle hpasses hlt) hadvance, hafter⟩

end Plan

end Solver

end Multigrad
