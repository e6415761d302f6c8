import Multigrad.Proofs.Model.Slopes
import Multigrad.Proofs.Solver.Resumption
import Mathlib.Data.List.GetD
import Mathlib.Data.List.Zip

/-!
# The trajectory of a run

A run goes through iterations, and each iteration through an order of its own. Laid out flat it is a
single sequence of visits, each of which moves the point by one step of its iteration. The solution
is where this trajectory ends, and the averaged solution is the mean of its last points: those that
the last iteration came to, added up in their order.
-/

namespace Multigrad

theorem OrderSource.gives_perm {σ : Type} {source : OrderSource σ} {initial state after : σ}
    {n : Nat} {orders : List (List Int)} (hpermutes : source.Permutes initial n)
    (hstate : source.Reachable initial state) (hgives : source.Gives state orders after) :
    ∀ order ∈ orders, order.Perm (objectives n) := by
  induction orders generalizing state with
  | nil => exact fun _ horder => (List.not_mem_nil horder).elim
  | cons order rest ih =>
      obtain ⟨middle, hnext, hrest⟩ := hgives
      rw [List.forall_mem_cons]
      exact ⟨hpermutes state hstate order middle hnext, ih (hstate.next hnext) hrest⟩

/-- The step size of an iteration, as the scalar that a step is multiplied with. -/
def Settings.sizeIn {R : Type} [Scalar R] [Completion R] (settings : Settings R)
    (iteration : Nat) : Except Mishap R := settings.scheduledStep iteration >>= Number.toReal

theorem Settings.sizeIn_of_constant {R : Type} [Scalar R] [Completion R] {settings : Settings R}
    {g : R} (hrate : settings.learningRate = .text LearningRate.constant.name)
    (hstep : settings.stepSize.real? = .ok g) (iteration : Nat) :
    settings.sizeIn iteration = .ok g := by
  rw [sizeIn, scheduledStep, LearningRate.ofValue?_eq_some.mpr hrate]
  exact hstep

namespace Solver

variable {σ R : Type}

/-! ### Visits -/

/-- The visits of iterations over these orders, each with the iteration that it belongs to. -/
def visitsOf (orders : List (List Int)) : List (Nat × Int) :=
  orders.zipIdx.flatMap fun (order, iteration) => order.map (iteration, ·)

theorem visitsOf_concat (before : List (List Int)) (order : List Int) :
    visitsOf (before ++ [order]) = visitsOf before ++ order.map (before.length, ·) := by
  simp [visitsOf, List.zipIdx_append]

theorem length_visitsOf {n : Nat} {orders : List (List Int)}
    (horders : ∀ order ∈ orders, order.length = n) :
    (visitsOf orders).length = orders.length * n := by
  induction orders using List.reverseRecOn with
  | nil => exact (Nat.zero_mul n).symm
  | append_singleton before order ih =>
      rw [List.forall_mem_append, List.forall_mem_singleton] at horders
      rw [visitsOf_concat, List.length_append, ih horders.1, List.length_map, horders.2,
        List.length_append, List.length_singleton, Nat.succ_mul]

theorem visitsOf_append (first second : List (List Int)) :
    ∃ later, visitsOf (first ++ second) = visitsOf first ++ later := by
  induction second using List.reverseRecOn with
  | nil => exact ⟨[], by rw [List.append_nil, List.append_nil]⟩
  | append_singleton before order ih =>
      obtain ⟨later, hlater⟩ := ih
      refine ⟨later ++ order.map ((first ++ before).length, ·), ?_⟩
      rw [← List.append_assoc, visitsOf_concat, hlater, List.append_assoc]

theorem length_of_perms {n : Nat} {orders : List (List Int)}
    (hperms : ∀ order ∈ orders, order.Perm (objectives n)) :
    ∀ order ∈ orders, order.length = n := by
  intro order horder
  rw [(hperms order horder).length_eq, length_objectives]

variable [Scalar R] [Completion R]

namespace Plan

/-- A visit takes a point `b` to `b - g (alpha P(b) + direction grad(b))`: `g` is the step size of
its iteration, `P` the penalty and `grad` the gradient of the visited objective. -/
def Moves (plan : Plan R) (visit : Nat × Int) (b next : List R) : Prop :=
  ∃ g alpha gradient slope, plan.settings.sizeIn visit.1 = .ok g
    ∧ plan.settings.alpha.real? = .ok alpha ∧ visit.2 ∈ objectives plan.model.problem.nobj
    ∧ plan.model.gradient visit.2.toNat (Grid.ofList b) = .ok gradient
    ∧ combine (· + ·) ((plan.regularizer.direction b).map (alpha * ·))
        (gradient.map (direction plan.model.problem * ·)) = .ok slope
    ∧ combine (· - ·) b (slope.map (g * ·)) = .ok next

variable {plan : Plan R} {stepSize : Number R}

theorem moves_of_target {iteration : Nat} {point next : List R} {index : Int}
    (hstep : plan.settings.scheduledStep iteration = .ok stepSize)
    (htarget : plan.target stepSize point index = .ok next) :
    plan.Moves (iteration, index) point next := by
  obtain ⟨pulled, hpull, hrest⟩ := bind_eq_ok.mp htarget
  obtain ⟨alpha, halpha, hpulled⟩ := bind_eq_ok.mp (mapError_eq_ok.mp hpull)
  obtain rfl := pure_eq_ok.mp hpulled
  obtain ⟨gradient, hgradI, hmove⟩ := bind_eq_ok.mp hrest
  obtain ⟨hindex, hgradient⟩ := Model.gradI_eq_ok.mp (mapError_eq_ok.mp hgradI)
  obtain ⟨slope, hslope, hsize⟩ := bind_eq_ok.mp (mapError_eq_ok.mp hmove)
  obtain ⟨g, hg, hnext⟩ := bind_eq_ok.mp hsize
  exact ⟨g, alpha, gradient, slope, bind_eq_ok.mpr ⟨stepSize, hstep, hg⟩, halpha, hindex,
    hgradient, hslope, hnext⟩

theorem Moves.index_mem {visit : Nat × Int} {b next : List R} (hmoves : plan.Moves visit b next) :
    visit.2 ∈ objectives plan.model.problem.nobj := by
  obtain ⟨-, -, -, -, -, -, hindex, -⟩ := hmoves
  exact hindex

/-- A move, entry by entry. -/
theorem Moves.eq_zipWith {visit : Nat × Int} {b next gradient : List R}
    (hmoves : plan.Moves visit b next)
    (hgradient : plan.model.gradient visit.2.toNat (Grid.ofList b) = .ok gradient)
    (hlength : b.length = gradient.length) :
    ∃ g alpha, plan.settings.sizeIn visit.1 = .ok g ∧ plan.settings.alpha.real? = .ok alpha
      ∧ next = List.zipWith (fun x rise =>
          x - g * (alpha * plan.regularizer.pull x + direction plan.model.problem * rise))
          b gradient := by
  obtain ⟨g, alpha, taken, slope, hg, halpha, -, htaken, hslope, hnext⟩ := hmoves
  obtain rfl := Except.ok.inj (hgradient.symm.trans htaken)
  rw [combine_of_length (by simpa [Regularizer.direction] using hlength)] at hslope
  obtain rfl := Except.ok.inj hslope
  rw [combine_of_length (by simp [Regularizer.direction, hlength])] at hnext
  refine ⟨g, alpha, hg, halpha, ?_⟩
  simp only [← Except.ok.inj hnext, Regularizer.direction, List.map_map, List.map_zipWith,
    List.zipWith_map, List.zipWith_zipWith_right, List.zipWith3_same_left, Function.comp_apply]

/-- A move of a constant size, for a minimum. -/
theorem Moves.eq_of_constant {visit : Nat × Int} {b next gradient : List R} {g alpha : R}
    (hmoves : plan.Moves visit b next)
    (hrate : plan.settings.learningRate = .text LearningRate.constant.name)
    (hstep : plan.settings.stepSize.real? = .ok g)
    (halpha : plan.settings.alpha.real? = .ok alpha)
    (hminimize : plan.model.problem.minimize = true)
    (hgradient : plan.model.gradient visit.2.toNat (Grid.ofList b) = .ok gradient)
    (hlength : b.length = gradient.length) :
    next = List.zipWith (fun x rise => x - g * (alpha * plan.regularizer.pull x + 1.0 * rise)) b
      gradient := by
  obtain ⟨size, strength, hsize, hstrength, rfl⟩ := hmoves.eq_zipWith hgradient hlength
  have hconstant := Settings.sizeIn_of_constant hrate hstep visit.1
  obtain rfl := Except.ok.inj (hconstant.symm.trans hsize)
  obtain rfl := Except.ok.inj (halpha.symm.trans hstrength)
  rw [direction, if_pos hminimize]

/-- Visits lead from a point to these points, one after the other. -/
inductive Leads (plan : Plan R) : List R → List (Nat × Int) → List (List R) → Prop where
  | nil {point : List R} : Leads plan point [] []
  | cons {point next : List R} {visit : Nat × Int} {rest : List (Nat × Int)}
      {points : List (List R)} (hmoves : plan.Moves visit point next)
      (hrest : Leads plan next rest points) : Leads plan point (visit :: rest) (next :: points)

namespace Leads

variable {point : List R} {visits visits' : List (Nat × Int)} {points points' : List (List R)}

theorem append (hfirst : plan.Leads point visits points)
    (hsecond : plan.Leads (points.getLastD point) visits' points') :
    plan.Leads point (visits ++ visits') (points ++ points') := by
  induction hfirst with
  | nil => exact hsecond
  | cons hmoves _ ih =>
      rw [List.getLastD_cons] at hsecond
      exact .cons hmoves (ih hsecond)

theorem length (hleads : plan.Leads point visits points) : points.length = visits.length := by
  induction hleads with
  | nil => rfl
  | cons _ _ ih => rw [List.length_cons, List.length_cons, ih]

theorem moves (hleads : plan.Leads point visits points) {t : Nat} {visit : Nat × Int}
    (hvisit : visits[t]? = some visit) :
    plan.Moves visit ((point :: points).getD t []) (points.getD t []) := by
  induction hleads generalizing t with
  | nil => cases hvisit
  | cons hmoves _ ih =>
      cases t with
      | zero =>
          obtain rfl := Option.some.inj hvisit
          exact hmoves
      | succ t => exact ih hvisit

end Leads

/-! ### One sweep -/

/-- A sweep leads through points of one length, and adds them up. -/
theorem leads_of_tour {iteration : Nat} {order : List Int} {point sum last total : List R}
    (hstep : plan.settings.scheduledStep iteration = .ok stepSize)
    (htour : plan.tour stepSize order point sum = .ok (last, total))
    (hlength : point.length = sum.length) :
    ∃ points, plan.Leads point (order.map (iteration, ·)) points ∧ last = points.getLastD point
      ∧ total = addUp sum points ∧ ∀ b ∈ points, b.length = sum.length := by
  induction order generalizing point sum with
  | nil =>
      obtain ⟨rfl, rfl⟩ := Prod.mk.inj (Except.ok.inj htour)
      exact ⟨[], .nil, rfl, rfl, fun _ hb => (List.not_mem_nil hb).elim⟩
  | cons index rest ih =>
      obtain ⟨next, htarget, hrest⟩ := bind_eq_ok.mp htour
      obtain ⟨added, hadd, htail⟩ := bind_eq_ok.mp hrest
      rw [mapError_eq_ok] at hadd
      have hnext : next.length = sum.length := by
        have htargetLength := target_length htarget
        have haddLength := (Model.addOnto_length hadd).2
        omega
      have hsum : Model.addOnto sum next = .ok (List.zipWith (· + ·) sum next) :=
        if_pos hnext.symm
      have hadded := Except.ok.inj (hsum.symm.trans hadd)
      have haddedLength : added.length = sum.length := (Model.addOnto_length hadd).1
      obtain ⟨points, hleads, hlast, htotal, hsized⟩ := ih htail (hnext.trans haddedLength.symm)
      refine ⟨next :: points, .cons (moves_of_target hstep htarget) hleads, ?_, ?_, ?_⟩
      · rw [hlast, List.getLastD_cons]
      · rw [htotal, ← hadded]
        rfl
      · rw [List.forall_mem_cons, ← haddedLength]
        exact ⟨hnext.trans haddedLength.symm, hsized⟩

/-! ### All iterations -/

/-- The mean of `n` points with `nvar` entries, added up from zeros on. -/
def mean (nvar n : Nat) (points : List (List R)) : List R :=
  (addUp (List.replicate nvar 0.0) points).map (· / Scalar.ofInt n)

/-- A course leads through the visits of its orders, to points of one length. Its average is that of
the points of its last sweep. -/
structure LeadsTo (plan : Plan R) (orders : List (List Int)) (points : List (List R))
    (last : Iterate R) : Prop where
  leads : plan.Leads plan.model.problem.x0 (visitsOf orders) points
  sized : ∀ b ∈ points, b.length = plan.model.problem.x0.length
  stepBefore : plan.settings.stepBefore orders.length = .ok last.stepSize
  point : last.point = points.getLastD plan.model.problem.x0
  averageSized : last.average.length = plan.model.problem.x0.length
  average : last.average = if orders = [] then plan.model.problem.x0
    else mean plan.model.problem.x0.length plan.model.problem.nobj
      (points.drop (visitsOf orders.dropLast).length)

theorem LeadsTo.pointSized {orders : List (List Int)} {points : List (List R)} {last : Iterate R}
    (hleads : plan.LeadsTo orders points last) :
    last.point.length = plan.model.problem.x0.length := by
  rw [hleads.point]
  obtain hstart | hlater := List.mem_cons.mp (List.getLastD_mem_cons (l := points))
  · rw [hstart]
  · exact hleads.sized _ hlater

theorem getLastD_append {α : Type} (a : α) (first second : List α) :
    (first ++ second).getLastD a = second.getLastD (first.getLastD a) := by
  induction first generalizing a with
  | nil => rfl
  | cons b rest ih => rw [List.cons_append, List.getLastD_cons, List.getLastD_cons, ih]

theorem leadsTo_of_course {orders : List (List Int)} {last : Iterate R}
    (hstep : plan.settings.stepSize.number? = .ok stepSize)
    (hcourse : plan.course orders (initialIterate plan.model stepSize) = .ok last) :
    ∃ points, plan.LeadsTo orders points last := by
  -- The last sweep makes the average, so the induction takes the orders from their end.
  induction orders using List.reverseRecOn generalizing last with
  | nil =>
      obtain rfl := Except.ok.inj hcourse
      exact ⟨[], .nil, fun _ hb => (List.not_mem_nil hb).elim, hstep, rfl, rfl, rfl⟩
  | append_singleton before order ih =>
      rw [course_append] at hcourse
      obtain ⟨middle, hbefore, hround⟩ := bind_eq_ok.mp hcourse
      rw [course_singleton] at hround
      obtain ⟨points, hpoints⟩ := ih hbefore
      obtain ⟨size, last, sum, hnext, htour, rfl⟩ := round_eq_ok.mp hround
      have hcount : middle.iterations = before.length := by
        rw [course_iterations hbefore, initialIterate, Nat.zero_add]
      rw [hcount, Settings.nextStep_eq_scheduledStep hpoints.stepBefore] at hnext
      rw [List.map_const', hpoints.averageSized] at htour
      obtain ⟨swept, hswept, hlast, hsum, hsized⟩ := leads_of_tour hnext htour
        (hpoints.pointSized.trans List.length_replicate.symm)
      rw [List.length_replicate] at hsized
      rw [hpoints.point] at hswept hlast
      have hne : before ++ [order] ≠ [] :=
        List.append_ne_nil_of_right_ne_nil _ (List.cons_ne_nil _ _)
      refine ⟨points ++ swept, ⟨?_, ?_, ?_, ?_, ?_, ?_⟩⟩
      · rw [visitsOf_concat]
        exact hpoints.leads.append hswept
      · rw [List.forall_mem_append]
        exact ⟨hpoints.sized, hsized⟩
      · rw [List.length_append]
        exact hnext
      · rw [getLastD_append]
        exact hlast
      · rw [List.length_map, hsum]
        exact length_addUp List.length_replicate hsized
      · rw [if_neg hne, List.dropLast_concat, ← hpoints.leads.length, List.drop_left, hsum]
        rfl

/-! ### Points by their number -/

/-- The points `b 0`, `b 1`, … that a run comes to by these visits, from its initial point on. -/
structure Trajectory (plan : Plan R) (visits : List (Nat × Int)) (b : Nat → List R) : Prop where
  start : b 0 = plan.model.problem.x0
  moves : ∀ t visit, visits[t]? = some visit → plan.Moves visit (b t) (b (t + 1))
  sized : ∀ t ≤ visits.length, (b t).length = plan.model.problem.x0.length

/-- The average after so many iterations: the initial point, or the mean over the last of them. -/
def averageAfter (problem : Meta R) (b : Nat → List R) : Nat → List R
  | 0 => problem.x0
  | k + 1 => mean problem.x0.length problem.nobj
      ((List.range problem.nobj).map fun j => b (k * problem.nobj + j + 1))

theorem getLastD_eq_getD {α : Type} (a d : α) (members : List α) :
    members.getLastD a = (a :: members).getD members.length d := by
  induction members generalizing a with
  | nil => rfl
  | cons b rest ih =>
      rw [List.getLastD_cons, ih, List.length_cons, List.getD_cons_succ]

theorem drop_eq_map_getD {α : Type} (a d : α) {members : List α} {m n : Nat}
    (hlength : members.length = m + n) :
    members.drop m = (List.range n).map fun j => (a :: members).getD (m + j + 1) d := by
  apply List.ext_getElem
  · rw [List.length_drop, hlength, List.length_map, List.length_range, Nat.add_sub_cancel_left]
  · intro j hj _
    have hlt : m + j < members.length := by
      rw [List.length_drop] at hj
      omega
    rw [List.getElem_drop, List.getElem_map, List.getElem_range, List.getD_cons_succ,
      List.getD_eq_getElem _ _ hlt]

/-- The orders and the points by which a run comes to a point and an average. -/
structure Traces (plan : Plan R) (orders : List (List Int)) (b : Nat → List R)
    (k : Nat) (solution averaged : List R) : Prop where
  perms : ∀ order ∈ orders, order.Perm (objectives plan.model.problem.nobj)
  iterations : orders.length = k
  trajectory : plan.Trajectory (visitsOf orders) b
  point : solution = b (k * plan.model.problem.nobj)
  average : averaged = averageAfter plan.model.problem b k

theorem LeadsTo.traces {orders : List (List Int)} {points : List (List R)} {last : Iterate R}
    (hleads : plan.LeadsTo orders points last)
    (hperms : ∀ order ∈ orders, order.Perm (objectives plan.model.problem.nobj)) :
    ∃ b, plan.Traces orders b orders.length last.point last.average := by
  have horders := length_of_perms hperms
  have hlength := length_visitsOf horders
  refine ⟨fun t => (plan.model.problem.x0 :: points).getD t [], hperms, rfl, ⟨rfl, ?_, ?_⟩, ?_, ?_⟩
  · intro t visit hvisit
    exact hleads.leads.moves hvisit
  · intro t ht
    have hlt : t < (plan.model.problem.x0 :: points).length := by
      rw [List.length_cons, hleads.leads.length]
      omega
    rw [List.getD_eq_getElem _ _ hlt]
    obtain hstart | hlater := List.mem_cons.mp (List.getElem_mem hlt)
    · rw [hstart]
    · exact hleads.sized _ hlater
  · rw [hleads.point, getLastD_eq_getD _ [], hleads.leads.length, hlength]
  · rw [hleads.average]
    obtain rfl | ⟨before, order, rfl⟩ := orders.eq_nil_or_concat'
    · rfl
    · rw [List.forall_mem_append, List.forall_mem_singleton] at horders
      have hbefore := length_visitsOf horders.1
      have hpoints : points.length
          = before.length * plan.model.problem.nobj + plan.model.problem.nobj := by
        rw [hleads.leads.length, hlength, List.length_append, List.length_singleton, Nat.succ_mul]
      rw [if_neg (List.append_ne_nil_of_right_ne_nil _ (List.cons_ne_nil _ _)),
        List.dropLast_concat, hbefore, drop_eq_map_getD plan.model.problem.x0 [] hpoints,
        List.length_append, List.length_singleton]
      rfl

omit [Completion R] in
theorem length_averageAfter {problem : Meta R} {b : Nat → List R} {k : Nat}
    (hsized : ∀ t ≤ k * problem.nobj, (b t).length = problem.x0.length) :
    (averageAfter problem b k).length = problem.x0.length := by
  cases k with
  | zero => rfl
  | succ k =>
      rw [averageAfter, mean, List.length_map]
      apply length_addUp List.length_replicate
      intro point hpoint
      obtain ⟨j, hj, rfl⟩ := List.mem_map.mp hpoint
      rw [List.mem_range] at hj
      apply hsized
      rw [Nat.succ_mul]
      omega

namespace Traces

variable {orders : List (List Int)} {b : Nat → List R} {k : Nat} {solution averaged : List R}
  (htraces : plan.Traces orders b k solution averaged)

include htraces

theorem length_visits : (visitsOf orders).length = k * plan.model.problem.nobj := by
  rw [← htraces.iterations]
  exact length_visitsOf (length_of_perms htraces.perms)

theorem sized : ∀ t ≤ k * plan.model.problem.nobj, (b t).length = plan.model.problem.x0.length := by
  rw [← htraces.length_visits]
  exact htraces.trajectory.sized

end Traces

/-! ### Runs -/

variable {source : OrderSource σ} {journal middle after : Journal σ R} {current : Iterate R}

theorem Passes.traces (hpermutes : source.Permutes journal.orders plan.model.problem.nobj)
    (hpasses : plan.Passes source journal current middle) :
    ∃ state orders b, source.start journal.orders = .ok state
      ∧ source.Gives state orders middle.orders
      ∧ plan.Traces orders b current.iterations current.point current.average := by
  obtain ⟨state, stepSize, orders, hstart, hstep, hgives, hcourse⟩ := hpasses.course
  obtain ⟨points, hpoints⟩ := leadsTo_of_course hstep hcourse
  obtain ⟨b, htraces⟩ := hpoints.traces (OrderSource.gives_perm hpermutes (.start hstart) hgives)
  have hcount : current.iterations = orders.length := by
    rw [course_iterations hcourse, initialIterate, Nat.zero_add]
  rw [hcount]
  exact ⟨state, orders, b, hstart, hgives, htraces⟩

end Plan

variable {source : OrderSource σ} {model : Model R} {settings : Settings R} {clock : Nat → R}
  {patience : Nat} {journal after : Journal σ R} {stats : Stats R}

theorem solve_traces (hpermutes : source.Permutes journal.orders model.problem.nobj)
    (hrun : solve source model settings clock patience journal = .ok stats after) :
    ∃ regularizer state orders b, settings.regularizer = .ok regularizer
      ∧ source.start journal.orders = .ok state ∧ source.Gives state orders after.orders
      ∧ Plan.Traces ⟨model, settings, regularizer, clock⟩ orders b stats.iterations stats.solution
          stats.averagedSolution := by
  obtain ⟨regularizer, objective, gradient, last, status, ending, hopening, hloop, -, -, rfl,
    rfl⟩ := solve_eq_ok_iff_loop.mp hrun
  obtain ⟨state, orders, b, hstart, hgives, htraces⟩ := hloop.passes.traces hpermutes
  exact ⟨regularizer, state, orders, b, hopening.regularizer, hstart, hgives, htraces⟩

/-- **A run refines one flat trajectory.** Its solution is the last point of the trajectory through
the visits of all orders that it was given, and its averaged solution the mean over the visits of
the last one; both have an entry for each variable. -/
theorem solve_refines_trajectory (hx0 : model.problem.x0.length = model.problem.nvar)
    (hpermutes : source.Permutes journal.orders model.problem.nobj)
    (hrun : solve source model settings clock patience journal = .ok stats after) :
    ∃ regularizer state orders b, settings.regularizer = .ok regularizer
      ∧ source.start journal.orders = .ok state ∧ source.Gives state orders after.orders
      ∧ Plan.Traces ⟨model, settings, regularizer, clock⟩ orders b stats.iterations stats.solution
          stats.averagedSolution
      ∧ stats.solution.length = model.problem.nvar
      ∧ stats.averagedSolution.length = model.problem.nvar := by
  obtain ⟨regularizer, state, orders, b, hregularizer, hstart, hgives, htraces⟩ :=
    solve_traces hpermutes hrun
  refine ⟨regularizer, state, orders, b, hregularizer, hstart, hgives, htraces, ?_, ?_⟩
  · rw [htraces.point, htraces.sized _ (Nat.le_refl _)]
    exact hx0
  · rw [htraces.average, Plan.length_averageAfter htraces.sized]
    exact hx0

/-- Three iterations of the seesaw are six visits, of which the last two make the average. -/
theorem solve_refines_trajectory_seesaw : ∃ stats after, ∃ b : Nat → List Float,
    solve (Orders.source 2) seesaw falling (fun _ => 0.0) 0 unused = .ok stats after
      ∧ b 0 = [0.0] ∧ stats.solution = b 6 ∧ stats.averagedSolution = Plan.mean 1 2 [b 5, b 6]
      ∧ stats.solution.length = 1 := by
  have hreturns : Run.read? Stats.iterations
      (solve (Orders.source 2) seesaw falling (fun _ => 0.0) 0) unused = some 3 := by decide +kernel
  obtain ⟨stats, after, hrun, hiterations⟩ := Run.exists_ok_of_read? hreturns
  obtain ⟨regularizer, state, orders, b, -, -, -, htraces, hsolution, -⟩ :=
    solve_refines_trajectory rfl permutes_unused hrun
  have hpoint := htraces.point
  have haverage := htraces.average
  rw [hiterations] at hpoint haverage
  exact ⟨stats, after, b, hrun, htraces.trajectory.start, hpoint, haverage, hsolution⟩

end Solver

end Multigrad
