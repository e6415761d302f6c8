import Multigrad.Proofs.Bounds.Classification
import Multigrad.Proofs.Meta.Rebuilding
import Mathlib.Data.List.Perm.Subperm

/-!
# What the predicates of metadata mean

The predicates compare the size of an index set or of an index list with a dimension. That such a
comparison says "all" or "none" is a pigeonhole argument: the indices are different and below the
dimension, so there are as many of them as the dimension exactly when none is left out.
-/

namespace Multigrad

/-! ### Counting indices -/

theorem subperm_range {indices : List Nat} {n : Nat} (hrange : ∀ index ∈ indices, index < n)
    (hdistinct : indices.Nodup) : indices.Subperm (List.range n) :=
  hdistinct.subperm fun index hindex => List.mem_range.mpr (hrange index hindex)

theorem length_eq_iff_forall_mem {indices : List Nat} {n : Nat}
    (hrange : ∀ index ∈ indices, index < n) (hdistinct : indices.Nodup) :
    indices.length = n ↔ ∀ index < n, index ∈ indices := by
  have hsub := subperm_range hrange hdistinct
  constructor
  · intro hlength index hindex
    have hperm : indices.Perm (List.range n) :=
      hsub.perm_of_length_le (by rw [List.length_range, hlength])
    exact hperm.mem_iff.mpr (List.mem_range.mpr hindex)
  · intro hall
    have hsup : (List.range n).Subperm indices :=
      List.nodup_range.subperm fun index hindex => hall index (List.mem_range.mp hindex)
    have hle := hsub.length_le
    have hge := hsup.length_le
    rw [List.length_range] at hle hge
    omega

namespace Bounds

section Indices

variable {R : Type} {property : R → R → Bool} {lower upper : List R} {n : Nat}

theorem getElem?_zip_of_length (hlower : lower.length = n) (hupper : upper.length = n) {j : Nat}
    (hj : j < n) : ∃ l u, lower[j]? = some l ∧ upper[j]? = some u
      ∧ (lower.zip upper)[j]? = some (l, u) := by
  subst hlower
  refine ⟨lower[j], upper[j], by simp, by simp, ?_⟩
  exact List.getElem?_zip_eq_some.mpr ⟨by simp, by simp⟩

theorem mem_indicesWhere_zip (hlower : lower.length = n) (hupper : upper.length = n) {j : Nat}
    (hj : j < n) : j ∈ indicesWhere property (lower.zip upper)
      ↔ ∃ l u, lower[j]? = some l ∧ upper[j]? = some u ∧ property l u = true := by
  obtain ⟨l, u, hl, hu, hpair⟩ := getElem?_zip_of_length hlower hupper hj
  simp [mem_indicesWhere_of_pair hpair, hl, hu]

theorem length_indicesWhere_eq_iff (hlower : lower.length = n) (hupper : upper.length = n) :
    (indicesWhere property (lower.zip upper)).length = n
      ↔ ∀ j < n, ∃ l u, lower[j]? = some l ∧ upper[j]? = some u ∧ property l u = true := by
  have hrange : ∀ j ∈ indicesWhere property (lower.zip upper), j < n := by
    intro j hj
    obtain ⟨l, u, hpair, -⟩ := mem_indicesWhere.mp hj
    obtain ⟨hl, -⟩ := List.getElem?_zip_eq_some.mp hpair
    rw [← hlower]
    exact (List.getElem?_eq_some_iff.mp hl).1
  have hdistinct : (indicesWhere property (lower.zip upper)).Nodup :=
    (pairwise_indicesWhere property _).imp Nat.ne_of_lt
  rw [length_eq_iff_forall_mem hrange hdistinct]
  exact forall₂_congr fun j hj => mem_indicesWhere_zip hlower hupper hj

theorem length_indicesWhere_eq_zero_iff (hlower : lower.length = n) (hupper : upper.length = n) :
    (indicesWhere property (lower.zip upper)).length = 0
      ↔ ∀ j < n, ∃ l u, lower[j]? = some l ∧ upper[j]? = some u ∧ property l u = false := by
  rw [List.length_eq_zero_iff, List.eq_nil_iff_forall_not_mem]
  constructor
  · intro hnone j hj
    obtain ⟨l, u, hl, hu, hpair⟩ := getElem?_zip_of_length hlower hupper hj
    refine ⟨l, u, hl, hu, ?_⟩
    simpa [mem_indicesWhere_of_pair hpair] using hnone j
  · intro hall j hj
    obtain ⟨l, u, hpair, hproperty⟩ := mem_indicesWhere.mp hj
    obtain ⟨hl, hu⟩ := List.getElem?_zip_eq_some.mp hpair
    have hjn : j < n := hlower ▸ (List.getElem?_eq_some_iff.mp hl).1
    obtain ⟨l', u', hl', hu', hfalse⟩ := hall j hjn
    rw [hl, Option.some.injEq] at hl'
    rw [hu, Option.some.injEq] at hu'
    subst hl' hu'
    simp [hproperty] at hfalse

end Indices

end Bounds

namespace Meta

open Double

/-! ### One predicate after the other -/

theorem count_constrained (problem : Meta Float) :
    [problem.boundConstrained, problem.unconstrained, decide (0 < problem.ncon)].count true
      = 1 := by
  by_cases hncon : problem.ncon = 0
  · cases hbounds : problem.hasBounds <;> simp [boundConstrained, unconstrained, hncon, hbounds]
  · simp [boundConstrained, unconstrained, hncon, Nat.pos_of_ne_zero hncon]

section Sound

variable {problem : Meta Float} (hsound : problem.Sound)

include hsound

theorem Sound.lvar_number {j : Nat} {l : Float} (hl : problem.lvar[j]? = some l) :
    l.isNaN = false :=
  hsound.bounded problem.lvar (by simp) l (List.mem_of_getElem? hl)

theorem Sound.uvar_number {j : Nat} {u : Float} (hu : problem.uvar[j]? = some u) :
    u.isNaN = false :=
  hsound.bounded problem.uvar (by simp) u (List.mem_of_getElem? hu)

/-- There are bounds unless every variable is free. -/
theorem Sound.hasBounds_iff : problem.hasBounds = true ↔
    ∃ j < problem.nvar, ∃ l u, problem.lvar[j]? = some l ∧ problem.uvar[j]? = some u
      ∧ ¬((l == -infinity) = true ∧ (u == infinity) = true) := by
  have hle : problem.variableSets.free.length ≤ problem.nvar := by
    have hlength := hsound.variableSets.length_eq
    simp only [BoundSets.all, List.flatten_cons, List.length_append, List.length_range] at hlength
    omega
  have hall : problem.variableSets.free.length = problem.nvar ↔ ∀ j < problem.nvar, ∃ l u,
      problem.lvar[j]? = some l ∧ problem.uvar[j]? = some u ∧ Bounds.isFree l u = true :=
    Bounds.length_indicesWhere_eq_iff hsound.lvar hsound.uvar
  have hlt : problem.hasBounds = true ↔ ¬problem.variableSets.free.length = problem.nvar := by
    rw [hasBounds, decide_eq_true_iff]
    omega
  rw [hlt, hall]
  push Not
  refine exists_congr fun j => and_congr_right fun hj => ?_
  obtain ⟨l, u, hl, hu, -⟩ := Bounds.getElem?_zip_of_length hsound.lvar hsound.uvar hj
  have hfree := Bounds.isFree_iff (hsound.lvar_number hl) (hsound.uvar_number hu)
  simp [hl, hu, hfree, -Bool.not_eq_true]

/-- The stored number of linear constraints is the length of their list. -/
theorem Sound.linearlyConstrained_iff : problem.linearlyConstrained = true ↔
    0 < problem.ncon ∧ ∀ j < problem.ncon, j ∈ problem.lin := by
  rw [linearlyConstrained, Bool.and_eq_true, decide_eq_true_iff, beq_iff_eq, hsound.lin.count,
    length_eq_iff_forall_mem hsound.lin.inRange hsound.lin.distinct]

theorem Sound.equalityConstrained_iff : problem.equalityConstrained = true ↔
    0 < problem.ncon ∧ ∀ j < problem.ncon, ∃ l u, problem.lcon[j]? = some l
      ∧ problem.ucon[j]? = some u ∧ (l == u) = true := by
  rw [equalityConstrained, Bool.and_eq_true, decide_eq_true_iff, beq_iff_eq]
  exact and_congr_right fun _ => Bounds.length_indicesWhere_eq_iff hsound.lcon hsound.ucon

theorem Sound.inequalityConstrained_iff : problem.inequalityConstrained = true ↔
    0 < problem.ncon ∧ ∀ j < problem.ncon, ∃ l u, problem.lcon[j]? = some l
      ∧ problem.ucon[j]? = some u ∧ (l == u) = false := by
  rw [inequalityConstrained, Bool.and_eq_true, decide_eq_true_iff, beq_iff_eq]
  exact and_congr_right fun _ => Bounds.length_indicesWhere_eq_zero_iff hsound.lcon hsound.ucon

end Sound

/-! ### All predicates -/

/-- What the predicates say of the bounds and of the list of linear constraints. -/
structure Characterized (problem : Meta Float) : Prop where
  hasBounds : problem.hasBounds = true ↔
    ∃ j < problem.nvar, ∃ l u, problem.lvar[j]? = some l ∧ problem.uvar[j]? = some u
      ∧ ¬((l == -infinity) = true ∧ (u == infinity) = true)
  oneOfThree :
    [problem.boundConstrained, problem.unconstrained, decide (0 < problem.ncon)].count true = 1
  linear : problem.linearlyConstrained = true ↔
    0 < problem.ncon ∧ ∀ j < problem.ncon, j ∈ problem.lin
  equality : problem.equalityConstrained = true ↔
    0 < problem.ncon ∧ ∀ j < problem.ncon, ∃ l u, problem.lcon[j]? = some l
      ∧ problem.ucon[j]? = some u ∧ (l == u) = true
  inequality : problem.inequalityConstrained = true ↔
    0 < problem.ncon ∧ ∀ j < problem.ncon, ∃ l u, problem.lcon[j]? = some l
      ∧ problem.ucon[j]? = some u ∧ (l == u) = false
  notBoth : ¬(problem.equalityConstrained = true ∧ problem.inequalityConstrained = true)

/-- **The predicates mean what they say**, for all metadata that can be built. -/
theorem build_characterized {data : Fields Float} {problem : Meta Float}
    (hbuilt : build data = .ok problem) : problem.Characterized := by
  have hsound := sound_of_build hbuilt
  refine
    { hasBounds := hsound.hasBounds_iff
      oneOfThree := count_constrained problem
      linear := hsound.linearlyConstrained_iff
      equality := hsound.equalityConstrained_iff
      inequality := hsound.inequalityConstrained_iff
      notBoth := ?_ }
  rintro ⟨hequality, hinequality⟩
  obtain ⟨hncon, hequal⟩ := hsound.equalityConstrained_iff.mp hequality
  obtain ⟨-, hdifferent⟩ := hsound.inequalityConstrained_iff.mp hinequality
  -- There is a constraint, and its bounds cannot be both.
  obtain ⟨l, u, hl, hu, hsame⟩ := hequal 0 hncon
  obtain ⟨l', u', hl', hu', hother⟩ := hdifferent 0 hncon
  rw [hl, Option.some.injEq] at hl'
  rw [hu, Option.some.injEq] at hu'
  subst hl' hu'
  simp [hsame] at hother

/-- Two variables, one of them free, and two linear constraints, one of them an equation. -/
def halfBounded : Fields Float :=
  [("nvar", .int 2), ("nobj", .int 1), ("ncon", .int 2),
   ("lvar", .list [.real (-infinity), .int 0]), ("lin", .list [.int 1, .int 0]),
   ("lcon", .list [.real (-0.0), .int 1]), ("ucon", .list [.int 0, .int 2])]

theorem build_characterized_halfBounded : ∃ problem, build halfBounded = .ok problem
    ∧ problem.Characterized ∧ problem.hasBounds = true ∧ problem.linearlyConstrained = true
    ∧ problem.equalityConstrained = false ∧ problem.inequalityConstrained = false := by
  have hpredicates : (build halfBounded).toOption.map (fun problem =>
      (problem.hasBounds, problem.linearlyConstrained, problem.equalityConstrained,
        problem.inequalityConstrained)) = some (true, true, false, false) := by decide +kernel
  cases hbuilt : build halfBounded with
  | error failure => simp [hbuilt, Except.toOption] at hpredicates
  | ok problem =>
      simp only [hbuilt, Except.toOption, Option.map_some, Option.some.injEq, Prod.mk.injEq]
        at hpredicates
      exact ⟨problem, rfl, build_characterized hbuilt, hpredicates⟩

end Meta

end Multigrad
