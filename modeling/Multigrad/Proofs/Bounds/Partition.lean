import Multigrad.Bounds
import Multigrad.Proofs.Double.Order

/-!
# The patterns of bounds are a partition

The six patterns are tested independently of each other, from comparisons that overlap. Nevertheless
every pair of doubles has exactly one of them, undefined bounds included. What makes it so is that a
pair is ordered, equal, reversed or not ordered at all: a reversed pair has both bounds, and of an
unordered pair one bound is undefined and therefore absent. The six index sets of a list of pairs
then split its indices.
-/

namespace Multigrad

/-- The six sets in the order of their declaration. -/
def BoundSets.all (sets : BoundSets) : List (List Nat) :=
  [sets.fixed, sets.lower, sets.upper, sets.range, sets.free, sets.infeasible]

/-- The sets split the indices below `n`: each index is in exactly one of them, once. -/
def BoundSets.Splits (sets : BoundSets) (n : Nat) : Prop := sets.all.flatten.Perm (List.range n)

namespace Bounds

open Double

def patterns {R : Type} [Scalar R] [Completion R] : List (R → R → Bool) :=
  [isFixed, isLower, isUpper, isRange, isFree, isInfeasible]

/-! ### One pair -/

section Pair

variable (lower upper : Float)

theorem hasLower_eq_order : hasLower lower = (order (-infinity) lower == some .lt) :=
  less_eq_order _ _

theorem hasUpper_eq_order : hasUpper upper = (order upper infinity == some .lt) :=
  less_eq_order _ _

theorem isFixed_eq_order : isFixed lower upper = (order lower upper == some .eq) :=
  same_eq_order _ _

theorem isInfeasible_eq_order : isInfeasible lower upper = (order lower upper == some .gt) := by
  rw [isInfeasible, less_eq_order, order_swap]
  cases order lower upper with
  | none => rfl
  | some o => cases o <;> rfl

theorem hasLower_and_hasUpper_of_gt (hgt : order lower upper = some .gt) :
    hasLower lower = true ∧ hasUpper upper = true := by
  rw [hasLower_eq_order, hasUpper_eq_order, order_neg_infinity_of_gt hgt,
    order_infinity_of_gt hgt]
  exact ⟨rfl, rfl⟩

theorem hasLower_and_hasUpper_of_none (hnone : order lower upper = none) :
    (hasLower lower && hasUpper upper) = false := by
  rw [hasLower_eq_order, hasUpper_eq_order]
  rcases (order_eq_none_iff lower upper).mp hnone with hnan | hnan
  · rw [(order_eq_none_iff (-infinity) lower).mpr (Or.inr hnan)]
    rfl
  · rw [(order_eq_none_iff upper infinity).mpr (Or.inl hnan)]
    exact Bool.and_false _

/-- **One pattern.** Every pair of doubles has exactly one of the six patterns. -/
theorem countP_patterns : patterns.countP (fun pattern => pattern lower upper) = 1 := by
  have hreversed := hasLower_and_hasUpper_of_gt lower upper
  have hunordered := hasLower_and_hasUpper_of_none lower upper
  simp only [patterns, isLower, isUpper, isRange, isFree, less_eq_order, isFixed_eq_order,
    isInfeasible_eq_order, List.countP_cons, List.countP_nil]
  generalize hasLower lower = below at *
  generalize hasUpper upper = above at *
  cases horder : order lower upper with
  | none =>
      have habsent := hunordered horder
      cases below <;> cases above <;> simp_all
  | some o =>
      cases o with
      | lt => cases below <;> cases above <;> rfl
      | eq => cases below <;> cases above <;> rfl
      | gt =>
          obtain ⟨hbelow, habove⟩ := hreversed horder
          rw [hbelow, habove]
          rfl

end Pair

/-! ### All pairs -/

/-- Predicates of which exactly one holds of every member sort a list into parts. -/
theorem flatMap_filter_perm {α : Type} (tests : List (α → Bool)) (members : List α)
    (hone : ∀ a ∈ members, (tests.countP fun test => test a) = 1) :
    (tests.flatMap fun test => members.filter test).Perm members := by
  induction tests generalizing members with
  | nil =>
      cases members with
      | nil => exact List.Perm.nil
      | cons a rest => exact absurd (hone a List.mem_cons_self) (by simp)
  | cons test tests ih =>
      -- A member that passes the first test passes no other one, so those may skip it.
      have hrest : ∀ other ∈ tests, members.filter other
          = (members.filter fun a => !test a).filter other := by
        intro other hother
        rw [List.filter_filter]
        refine List.filter_congr fun a ha => ?_
        have hcount := hone a ha
        rw [List.countP_cons] at hcount
        by_cases htest : test a
        · have hzero : (tests.countP fun test => test a) = 0 := by simpa [htest] using hcount
          have hfalse : other a = false := by
            simpa using List.countP_eq_zero.mp hzero other hother
          simp [hfalse]
        · simp [htest]
      have hothers : ∀ a ∈ members.filter fun a => !test a,
          (tests.countP fun test => test a) = 1 := by
        intro a ha
        obtain ⟨hmem, htest⟩ := List.mem_filter.mp ha
        have hcount := hone a hmem
        rw [List.countP_cons] at hcount
        simpa [show test a = false by simpa using htest] using hcount
      calc (test :: tests).flatMap (fun test => members.filter test)
          = members.filter test ++ tests.flatMap
              (fun other => (members.filter fun a => !test a).filter other) := by
            rw [List.flatMap_cons, List.flatMap_def, List.map_congr_left hrest, ← List.flatMap_def]
        _ |>.Perm (members.filter test ++ members.filter fun a => !test a) :=
            (ih _ hothers).append_left _
        _ |>.Perm members := List.filter_append_perm _ _

theorem all_sets {R : Type} [Scalar R] [Completion R] (pairs : List (R × R)) :
    (sets pairs).all = patterns.map fun pattern => indicesWhere pattern pairs := rfl

/-- **The partition.** The six index sets of a list of pairs split the indices of its pairs. -/
theorem sets_splits (pairs : List (Float × Float)) : (sets pairs).Splits pairs.length := by
  have hone : ∀ entry ∈ pairs.zipIdx,
      ((patterns.map fun pattern (entry : (Float × Float) × Nat) =>
        pattern entry.1.1 entry.1.2).countP fun test => test entry) = 1 := by
    intro entry _
    rw [List.countP_map]
    exact countP_patterns entry.1.1 entry.1.2
  have hperm := (flatMap_filter_perm _ pairs.zipIdx hone).map (·.2)
  rw [List.zipIdx_map_snd, ← List.range_eq_range', List.flatMap_map, List.map_flatMap] at hperm
  rw [BoundSets.Splits, all_sets, ← List.flatMap_def]
  exact hperm

end Bounds

end Multigrad
