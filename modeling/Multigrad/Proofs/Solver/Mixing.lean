import Multigrad.Proofs.Solver.Descent
import Multigrad.Proofs.Solver.Parallel
import Mathlib.Data.Sign.Basic
import Mathlib.Tactic.Linarith
import Mathlib.Tactic.Positivity

/-!
# The mixed penalty

In exact arithmetic the mixed penalty pulls by a share of what the square one and the absolute one
pull by, and each of them pulls along a subgradient. So a step goes along the same share of what the
steps of the other two go along, and with all or nothing as the share a whole run is one of the
other two.
-/

namespace Multigrad

/-- The regularizer of a penalty; a mixed one has the share. -/
def Regularizer.of {R : Type} (share : R) : Penalty → Regularizer R
  | .l2 => .l2
  | .l1 => .l1
  | .elasticnet => .elasticnet share

theorem Settings.regularizer_withPenalty {R : Type} [Scalar R] [Completion R]
    {settings : Settings R} {rho : R} (hrho : scalarOrText? settings.rho = .ok rho)
    (penalty : Penalty) :
    (settings.withPenalty penalty).regularizer = .ok (.of rho penalty) := by
  have hknown : Penalty.ofValue? (settings.withPenalty penalty).penalty = some penalty :=
    Penalty.ofValue?_eq_some.mpr rfl
  rw [regularizer, hknown]
  cases penalty with
  | l2 => rfl
  | l1 => rfl
  | elasticnet =>
    change (scalarOrText? settings.rho).map _ = _
    rw [hrho]
    rfl

/-! ### Shares -/

/-- A share of one vector and the rest of another one. -/
def mix (share : Rat) (a b : List Rat) : List Rat :=
  List.zipWith (fun x y => share * x + (1 - share) * y) a b

theorem mix_map {α : Type} (share : Rat) (u v : α → Rat) (members : List α) :
    mix share (members.map u) (members.map v) =
      members.map fun member => share * u member + (1 - share) * v member := by
  rw [mix, List.zipWith_map, List.zipWith_self]

/-- What respects shares of numbers respects shares of vectors. -/
theorem map_mix {f : Rat → Rat} {share : Rat}
    (hf : ∀ x y, f (share * x + (1 - share) * y) = share * f x + (1 - share) * f y)
    (a b : List Rat) : (mix share a b).map f = mix share (a.map f) (b.map f) := by
  rw [mix, mix, List.map_zipWith, List.zipWith_map]
  simp only [hf]

namespace Regularizer

theorem pull_elasticnet (rho entry : Rat) :
    (elasticnet rho).pull entry = rho * l2.pull entry + (1 - rho) * l1.pull entry := by
  have hone : (1.0 : Rat) = 1 := by norm_num
  rw [pull, pull, pull, hone]

theorem pull_l1 (entry : Rat) : l1.pull entry = SignType.sign entry := by
  change Scalar.sign entry = _
  have hone : (1.0 : Rat) = 1 := by norm_num
  have hzero : (0.0 : Rat) = 0 := by norm_num
  have hless (a b : Rat) : Scalar.less a b = true ↔ a < b := decide_eq_true_iff
  rw [Scalar.sign, hone, hzero]
  simp only [hless]
  rcases lt_trichotomy entry 0 with hneg | rfl | hpos
  · rw [if_neg hneg.not_gt, if_pos hneg, sign_neg hneg, SignType.coe_neg_one]
  · rfl
  · rw [if_pos hpos, sign_pos hpos, SignType.coe_one]

/-- The function that a regularizer penalizes entries by. -/
def cost : Regularizer Rat → Rat → Rat
  | l2, entry => entry ^ 2 / 2
  | l1, entry => |entry|
  | elasticnet rho, entry => rho * (entry ^ 2 / 2) + (1 - rho) * |entry|

theorem cost_l2_ge (a b : Rat) : cost l2 a + l2.pull a * (b - a) ≤ cost l2 b := by
  have hgap : cost l2 b - (cost l2 a + l2.pull a * (b - a)) = (b - a) ^ 2 / 2 := by
    rw [cost, cost, pull]
    ring
  have hnonneg : 0 ≤ (b - a) ^ 2 / 2 := by positivity
  linarith

theorem cost_l1_ge (a b : Rat) : cost l1 a + l1.pull a * (b - a) ≤ cost l1 b := by
  rw [cost, cost, pull_l1, mul_sub, sign_mul_self, add_sub_cancel]
  rcases lt_trichotomy a 0 with hneg | rfl | hpos
  · rw [sign_neg hneg, SignType.coe_neg_one, neg_one_mul]
    exact neg_le_abs b
  · rw [sign_zero, SignType.coe_zero, zero_mul]
    exact abs_nonneg b
  · rw [sign_pos hpos, SignType.coe_one, one_mul]
    exact le_abs_self b

/-- A regularizer pulls along a subgradient of what it penalizes by. -/
theorem pull_subgradient {regularizer : Regularizer Rat}
    (hshare : ∀ rho, regularizer = elasticnet rho → 0 ≤ rho ∧ rho ≤ 1) (a b : Rat) :
    cost regularizer a + regularizer.pull a * (b - a) ≤ cost regularizer b := by
  cases regularizer with
  | l2 => exact cost_l2_ge a b
  | l1 => exact cost_l1_ge a b
  | elasticnet rho =>
    obtain ⟨hrho, hrest⟩ := hshare rho rfl
    calc cost (elasticnet rho) a + (elasticnet rho).pull a * (b - a)
        = rho * (cost l2 a + l2.pull a * (b - a)) +
            (1 - rho) * (cost l1 a + l1.pull a * (b - a)) := by
          rw [pull_elasticnet, cost, cost, cost]
          ring
      _ ≤ rho * cost l2 b + (1 - rho) * cost l1 b :=
          add_le_add (mul_le_mul_of_nonneg_left (cost_l2_ge a b) hrho)
            (mul_le_mul_of_nonneg_left (cost_l1_ge a b) (sub_nonneg.mpr hrest))
      _ = cost (elasticnet rho) b := rfl

theorem pull_elasticnet_one (entry : Rat) : (elasticnet 1).pull entry = l2.pull entry := by
  rw [pull_elasticnet]
  ring

theorem pull_elasticnet_zero (entry : Rat) : (elasticnet 0).pull entry = l1.pull entry := by
  rw [pull_elasticnet]
  ring

theorem direction_elasticnet (rho : Rat) (point : List Rat) :
    (elasticnet rho).direction point = mix rho (l2.direction point) (l1.direction point) := by
  simp only [direction, mix_map, ← pull_elasticnet]

end Regularizer

theorem zipWith_add_mix (share : Rat) (a b g : List Rat) :
    List.zipWith (· + ·) (mix share a b) g =
      mix share (List.zipWith (· + ·) a g) (List.zipWith (· + ·) b g) := by
  induction a generalizing b g with
  | nil => rfl
  | cons x a ih =>
    cases b with
    | nil => simp [mix]
    | cons y b =>
      cases g with
      | nil => rfl
      | cons z g =>
        have hentry : share * x + (1 - share) * y + z =
            share * (x + z) + (1 - share) * (y + z) := by ring
        exact congrArg₂ List.cons hentry (ih b g)

theorem length_mix (share : Rat) {a b : List Rat} (hlength : a.length = b.length) :
    (mix share a b).length = b.length := by
  rw [mix, List.length_zipWith, hlength, min_self]

namespace Solver

variable {σ R : Type}

/-! ### Slopes -/

section Slope

variable [Scalar R]

/-- What a point goes against in one step. -/
def Plan.slope (plan : Plan R) (point : List R) (index : Int) : Run σ R (List R) := do
  let pull ← Run.lift (pull plan.settings plan.regularizer point)
  let gradient ← visit plan.model index point
  Run.lift (combine (· + ·) pull (gradient.map (direction plan.model.problem * ·)))

/-- Goes against a slope. -/
def follow (stepSize : Number R) (point slope : List R) : Except Mishap (List R) := do
  let step ← stepSize.toReal
  combine (· - ·) point (slope.map (step * ·))

omit [Scalar R] in
theorem Run.lift_bind {α β : Type} (reading : Except Mishap α) (next : α → Except Mishap β) :
    (Run.lift (reading >>= next) : Run σ R β) =
      Run.lift reading >>= fun a => Run.lift (next a) := by
  cases reading <;> rfl

theorem Plan.step_eq_slope (plan : Plan R) (stepSize : Number R) (point : List R) (index : Int) :
    (plan.step stepSize point index : Run σ R (List R)) = (do
      let slope ← plan.slope point index
      Run.lift (follow stepSize point slope)) := by
  simp only [step, slope, bind_assoc, move, Run.lift_bind, follow]

end Slope

/-- How three parts end that start with one journal: the result of the last one has a share of that
of the first one and the rest of that of the second one, or all have one and the same failure. -/
inductive Mixes (share : Rat) (first second mixed : EStateM.Result (Failure Rat) (Journal σ Rat)
    (List Rat)) : Prop where
  | ok {a b : List Rat} {after : Journal σ Rat} (hlength : a.length = b.length)
      (hfirst : first = .ok a after) (hsecond : second = .ok b after)
      (hmixed : mixed = .ok (mix share a b) after)
  | error {failure : Failure Rat} {after : Journal σ Rat} (hfirst : first = .error failure after)
      (hsecond : second = .error failure after) (hmixed : mixed = .error failure after)

section Combine

variable {f : R → R → R} {a b : List R}

theorem combine_single_left (f : R → R → R) (entry : R) (b : List R) :
    combine f [entry] b = .ok (b.map (f entry)) := by
  match b with
  | [] => rfl
  | [other] => rfl
  | _ :: _ :: _ => rfl

theorem combine_single_right (hmany : a.length ≠ 1) (entry : R) :
    combine f a [entry] = .ok (a.map (f · entry)) := by
  rw [combine, if_neg (show a.length ≠ [entry].length from hmany)]
  rintro other rfl
  exact hmany rfl

theorem combine_malformed (hne : a.length ≠ b.length) (ha : a.length ≠ 1) (hb : b.length ≠ 1) :
    combine f a b = .error .malformed := by
  rw [combine, if_neg hne]
  · rintro entry rfl
    exact ha rfl
  · rintro entry rfl
    exact hb rfl

end Combine

/-- A single entry goes with every entry of the other vector, also when it is mixed. -/
theorem mixes_combine (share : Rat) {a b : List Rat} (hlength : a.length = b.length)
    (g : List Rat) (journal : Journal σ Rat) :
    Mixes share (Run.lift (combine (· + ·) a g) journal) (Run.lift (combine (· + ·) b g) journal)
      (Run.lift (combine (· + ·) (mix share a b) g) journal) := by
  have hmix := length_mix share hlength
  by_cases hsame : b.length = g.length
  · rw [combine_of_length (hlength.trans hsame), combine_of_length hsame,
      combine_of_length (hmix.trans hsame), zipWith_add_mix]
    refine .ok ?_ rfl rfl rfl
    rw [List.length_zipWith, List.length_zipWith, hlength]
  · by_cases hb : b.length = 1
    · obtain ⟨y, rfl⟩ := List.length_eq_one_iff.mp hb
      obtain ⟨x, rfl⟩ := List.length_eq_one_iff.mp hlength
      change Mixes share _ _ (Run.lift (combine (· + ·) [share * x + (1 - share) * y] g) journal)
      rw [combine_single_left, combine_single_left, combine_single_left]
      have hentries : mix share (g.map (x + ·)) (g.map (y + ·)) =
          g.map (share * x + (1 - share) * y + ·) := by
        rw [mix_map]
        congr 1
        funext z
        ring
      rw [← hentries]
      exact .ok (by rw [List.length_map, List.length_map]) rfl rfl rfl
    · by_cases hg : g.length = 1
      · obtain ⟨z, rfl⟩ := List.length_eq_one_iff.mp hg
        rw [combine_single_right (hlength ▸ hb), combine_single_right hb,
          combine_single_right (hmix ▸ hb), map_mix fun x y => by ring]
        exact .ok (by rw [List.length_map, List.length_map, hlength]) rfl rfl rfl
      · rw [combine_malformed (hlength ▸ hsame) (hlength ▸ hb) hg, combine_malformed hsame hb hg,
          combine_malformed (hmix ▸ hsame) (hmix ▸ hb) hg]
        exact .error rfl rfl rfl

theorem Plan.slope_mixes (plan : Plan Rat) (rho : Rat) (point : List Rat) (index : Int)
    (journal : Journal σ Rat) :
    Mixes rho (Plan.slope { plan with regularizer := .l2 } point index journal)
      (Plan.slope { plan with regularizer := .l1 } point index journal)
      (Plan.slope { plan with regularizer := .elasticnet rho } point index journal) := by
  cases halpha : plan.settings.alpha.real? with
  | error mishap =>
    -- Without a weight of the penalty a step fails before it visits anything.
    have hslope (regularizer : Regularizer Rat) :
        Plan.slope { plan with regularizer } point index journal =
          .error (.mishap mishap) journal := by
      have hpull : pull plan.settings regularizer point = .error mishap := by
        rw [pull, halpha]
        rfl
      rw [slope, hpull]
      rfl
    exact .error (hslope _) (hslope _) (hslope _)
  | ok alpha =>
    have hslope (regularizer : Regularizer Rat) :
        (Plan.slope { plan with regularizer } point index : Run σ Rat (List Rat)) =
          visit plan.model index point >>= fun gradient =>
            Run.lift (combine (· + ·) ((regularizer.direction point).map (alpha * ·))
              (gradient.map (direction plan.model.problem * ·))) := by
      have hpull : pull plan.settings regularizer point =
          .ok ((regularizer.direction point).map (alpha * ·)) := by
        rw [pull, halpha]
        rfl
      rw [slope, hpull]
      rfl
    rw [hslope, hslope, hslope, Regularizer.direction_elasticnet, map_mix fun x y => by ring]
    cases hvisit : (visit plan.model index point : Run σ Rat (List Rat)) journal with
    | error failure after =>
      have hfails (next : List Rat → Run σ Rat (List Rat)) :
          (visit plan.model index point >>= next) journal = .error failure after :=
        Run.bind_eq_error.mpr (Or.inl hvisit)
      exact .error (hfails _) (hfails _) (hfails _)
    | ok gradient after =>
      rw [Run.bind_of_ok hvisit, Run.bind_of_ok hvisit, Run.bind_of_ok hvisit]
      apply mixes_combine
      simp only [Regularizer.direction, List.length_map]

/-! ### Whole runs -/

/-- What stays the same during a run with a penalty. -/
def planOf (model : Model R) (settings : Settings R) (clock : Nat → R) (share : R)
    (penalty : Penalty) : Plan R :=
  ⟨model, settings.withPenalty penalty, .of share penalty, clock⟩

theorem solve_eq_planOf [Scalar R] [Completion R] {source : OrderSource σ} {model : Model R}
    {settings : Settings R} {clock : Nat → R} {patience : Nat} {rho : R}
    (hrho : Settings.scalarOrText? settings.rho = .ok rho) (penalty : Penalty) :
    solve source model (settings.withPenalty penalty) clock patience = (do
      let _ ← prepare source model (settings.withPenalty penalty)
      let (objective, gradient) ← evaluateStart model
      (planOf model settings clock rho penalty).run source patience objective gradient) := by
  have hlift (regularizer : Regularizer R) :
      (Run.lift (.ok regularizer) : Run σ R (Regularizer R)) = pure regularizer := rfl
  rw [solve_eq_stages]
  unfold prepare planOf
  rw [Settings.regularizer_withPenalty hrho, hlift]
  simp only [bind_assoc, pure_bind]

section Mixed

variable [Completion Rat] (source : OrderSource σ) (model : Model Rat) (settings : Settings Rat)
  (clock : Nat → Rat) (patience : Nat) {rho : Rat}

/-- **The mixed penalty contains the other two.** With all as its share, a run is parallel to one
with the square penalty, and with nothing to one with the absolute penalty. Whatever the share is,
every step from wherever goes against a slope that has the share of that of the square penalty and
the rest of that of the absolute one. -/
theorem solve_mixes (hrho : Settings.scalarOrText? settings.rho = .ok rho) :
    (rho = 1 → Run.Parallel Stats.SameButPenalty
      (solve source model (settings.withPenalty .elasticnet) clock patience)
      (solve source model (settings.withPenalty .l2) clock patience)) ∧
    (rho = 0 → Run.Parallel Stats.SameButPenalty
      (solve source model (settings.withPenalty .elasticnet) clock patience)
      (solve source model (settings.withPenalty .l1) clock patience)) ∧
    (∀ penalty, solve source model (settings.withPenalty penalty) clock patience = (do
      let _ ← prepare source model (settings.withPenalty penalty)
      let (objective, gradient) ← evaluateStart model
      (planOf model settings clock rho penalty).run source patience objective gradient)) ∧
    (∀ penalty stepSize point index,
      ((planOf model settings clock rho penalty).step stepSize point index :
        Run σ Rat (List Rat)) = (do
          let slope ← (planOf model settings clock rho penalty).slope point index
          Run.lift (follow stepSize point slope))) ∧
    ∀ point index (journal : Journal σ Rat), Mixes rho
      ((planOf model settings clock rho .l2).slope point index journal)
      ((planOf model settings clock rho .l1).slope point index journal)
      ((planOf model settings clock rho .elasticnet).slope point index journal) := by
  have hregularizer := Settings.regularizer_withPenalty hrho
  refine ⟨?_, ?_, solve_eq_planOf hrho, fun penalty => Plan.step_eq_slope _, ?_⟩
  · rintro rfl
    exact parallel_solve source model (hregularizer .elasticnet) (hregularizer .l2)
      Regularizer.pull_elasticnet_one clock patience
  · rintro rfl
    exact parallel_solve source model (hregularizer .elasticnet) (hregularizer .l1)
      Regularizer.pull_elasticnet_zero clock patience
  · intro point index journal
    exact Plan.slope_mixes ⟨model, settings, .l2, clock⟩ rho point index journal

end Mixed

section Lopsided

attribute [local instance] standIn

/-- A regularization by shares, with two iterations of steps of one half. -/
def shared (rho : Rat) : Settings Rat :=
  { halving with alpha := .real 1, rho := .real rho, maxIter := .int 1 }

/-- Two iterations from zero, where nothing pulls. -/
theorem solve_mixes_lopsided : ∃ stats after,
    solve (Orders.source 2) lopsided ((shared 0).withPenalty .elasticnet) (fun _ => 0) 0
        (unvisited [0, 1]) = .ok stats after
      ∧ stats.solution = [3 / 2] ∧ stats.iterations = 2 := by
  have hreturns : Run.read? (fun stats => (stats.solution, stats.iterations))
      (solve (Orders.source 2) lopsided ((shared 0).withPenalty .l1) (fun _ => 0) 0)
      (unvisited [0, 1]) = some ([3 / 2], 2) := by decide +kernel
  have hrho : Settings.scalarOrText? (shared 0).rho = .ok 0 := rfl
  obtain ⟨-, hmixes, -⟩ := solve_mixes (Orders.source 2) lopsided (shared 0) (fun _ => 0) 0 hrho
  obtain ⟨stats', after', hrun, hread⟩ := Run.exists_ok_of_read? hreturns
  obtain ⟨hsolution, hiterations⟩ := Prod.mk.inj hread
  obtain ⟨stats, after, hmixed, hsame, -⟩ := (hmixes rfl).exists_ok ⟨rfl, rfl, rfl⟩ hrun
  exact ⟨stats, after, hmixed, hsame.solution.trans hsolution, hsame.iterations.trans hiterations⟩

end Lopsided

end Solver

end Multigrad
