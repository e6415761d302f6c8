import Multigrad.Proofs.Bounds.Partition
import Mathlib.Data.List.Nodup

/-!
# Where an index is sorted to

Two vectors of bounds are classified when their lengths agree, or when one of them is a single bound
that stands for all. Each index set comes in increasing order, each index is in one of them, and a
pair of numbers is where its equality, its order and its infinities say. The patterns are tested by
overlapping comparisons, so this has to be derived: a bound is absent when it is the infinity on its
side, and the infinity on the other side leaves only equal and reversed pairs.
-/

namespace Multigrad

namespace Bounds

open Double

/-! ### A pair of numbers -/

section Numbers

theorem same_iff_order {a b : Float} : (a == b) = true ↔ order a b = some .eq := by
  change Scalar.same a b = true ↔ _
  rw [same_eq_order, beq_iff_eq]

theorem less_iff_order {a b : Float} : a < b ↔ order a b = some .lt := by
  rw [← beq_iff_eq (a := order a b), ← less_eq_order]
  exact decide_eq_true_iff.symm

/-- What is equal to the lowest bound is ordered as it is. -/
theorem order_of_lowest {lower : Float} (hlowest : order lower (-infinity) = some .eq)
    (upper : Float) : order lower upper = order (-infinity) upper := by
  rw [order, order_neg_infinity_eq_iff.mp hlowest, order, unpack_neg_infinity]

theorem order_of_highest {upper : Float} (hhighest : order upper infinity = some .eq)
    (lower : Float) : order lower upper = order lower infinity := by
  rw [order, order_infinity_eq_iff.mp hhighest, order, unpack_infinity]

variable {lower upper : Float}

/-- The smaller one of two bounds is not the highest, and the greater one is not the lowest. -/
theorem order_ne_of_lt (hless : order lower upper = some .lt) :
    order lower infinity ≠ some .eq ∧ order upper (-infinity) ≠ some .eq := by
  have hgreater : order upper lower = some .gt := by
    rw [order_swap, hless]
    rfl
  constructor
  · rw [order_infinity_of_gt hgreater]
    decide
  · rw [ne_eq, order_eq_comm, order_neg_infinity_of_gt hgreater]
    decide

theorem not_isFixed_iff : (!isFixed lower upper) = true ↔ order lower upper ≠ some .eq := by
  rw [isFixed_eq_order, Bool.not_eq_true', beq_eq_false_iff_ne]

theorem hasLower_iff (hlower : lower.isNaN = false) :
    hasLower lower = true ↔ order lower (-infinity) ≠ some .eq := by
  rw [hasLower_eq_order, beq_iff_eq, neg_infinity_lt_iff hlower]

theorem not_hasLower_iff (hlower : lower.isNaN = false) :
    (!hasLower lower) = true ↔ order lower (-infinity) = some .eq := by
  rw [Bool.not_eq_true', ← Bool.not_eq_true, hasLower_iff hlower, not_not]

theorem hasUpper_iff (hupper : upper.isNaN = false) :
    hasUpper upper = true ↔ order upper infinity ≠ some .eq := by
  rw [hasUpper_eq_order, beq_iff_eq, lt_infinity_iff hupper]

theorem not_hasUpper_iff (hupper : upper.isNaN = false) :
    (!hasUpper upper) = true ↔ order upper infinity = some .eq := by
  rw [Bool.not_eq_true', ← Bool.not_eq_true, hasUpper_iff hupper, not_not]

variable (hlower : lower.isNaN = false) (hupper : upper.isNaN = false)

include hlower hupper

theorem isLower_iff :
    isLower lower upper = true ↔ lower.isFinite = true ∧ (upper == infinity) = true := by
  rw [same_iff_order, isFinite_iff hlower, isLower, Bool.and_eq_true, Bool.and_eq_true,
    hasLower_iff hlower, not_hasUpper_iff hupper, not_isFixed_iff]
  constructor
  · rintro ⟨⟨hpresent, habsent⟩, hdiffers⟩
    rw [order_of_highest habsent lower] at hdiffers
    exact ⟨⟨hpresent, hdiffers⟩, habsent⟩
  · rintro ⟨⟨hpresent, hbelow⟩, habsent⟩
    rw [order_of_highest habsent lower]
    exact ⟨⟨hpresent, habsent⟩, hbelow⟩

theorem isUpper_iff :
    isUpper lower upper = true ↔ (lower == -infinity) = true ∧ upper.isFinite = true := by
  rw [same_iff_order, isFinite_iff hupper, isUpper, Bool.and_eq_true, Bool.and_eq_true,
    not_hasLower_iff hlower, hasUpper_iff hupper, not_isFixed_iff]
  constructor
  · rintro ⟨⟨habsent, hpresent⟩, hdiffers⟩
    rw [order_of_lowest habsent upper] at hdiffers
    exact ⟨habsent, mt order_eq_comm.mp hdiffers, hpresent⟩
  · rintro ⟨habsent, habove, hpresent⟩
    rw [order_of_lowest habsent upper]
    exact ⟨⟨habsent, hpresent⟩, mt order_eq_comm.mp habove⟩

theorem isRange_iff :
    isRange lower upper = true
      ↔ lower.isFinite = true ∧ upper.isFinite = true ∧ lower < upper := by
  rw [less_iff_order, isFinite_iff hlower, isFinite_iff hupper, isRange, Bool.and_eq_true,
    Bool.and_eq_true, hasLower_iff hlower, hasUpper_iff hupper, less_eq_order, beq_iff_eq]
  constructor
  · rintro ⟨⟨hlow, hupp⟩, hless⟩
    obtain ⟨hbelow, habove⟩ := order_ne_of_lt hless
    exact ⟨⟨hlow, hbelow⟩, ⟨habove, hupp⟩, hless⟩
  · rintro ⟨⟨hlow, -⟩, ⟨-, hupp⟩, hless⟩
    exact ⟨⟨hlow, hupp⟩, hless⟩

theorem isFree_iff :
    isFree lower upper = true ↔ (lower == -infinity) = true ∧ (upper == infinity) = true := by
  rw [same_iff_order, same_iff_order, isFree, Bool.and_eq_true, Bool.and_eq_true,
    not_hasLower_iff hlower, not_hasUpper_iff hupper, not_isFixed_iff]
  constructor
  · rintro ⟨habsent, -⟩
    exact habsent
  · rintro ⟨hlowest, hhighest⟩
    refine ⟨⟨hlowest, hhighest⟩, ?_⟩
    rw [order_of_lowest hlowest, order_of_highest hhighest]
    decide

end Numbers

/-! ### Two vectors -/

section Vectors

variable {R : Type}

/-- Vectors of these lengths go together, with so many pairs. -/
inductive Pairable : Nat → Nat → Nat → Prop where
  | same (m : Nat) : Pairable m m m
  | single (m : Nat) : Pairable 1 m m
  | toSingle (m : Nat) : Pairable m 1 m

/-- A vector with `m` entries; a single entry is repeated. -/
def stretch (m : Nat) : List R → List R
  | [entry] => List.replicate m entry
  | vector => vector

theorem stretch_length (vector : List R) : stretch vector.length vector = vector := by
  unfold stretch
  split <;> rfl

theorem zip_replicate_left (l : R) (us : List R) :
    (List.replicate us.length l).zip us = us.map (l, ·) := by
  induction us with
  | nil => rfl
  | cons u us ih =>
      rw [List.length_cons, List.replicate_succ, List.zip_cons_cons, ih, List.map_cons]

theorem zip_replicate_right (ls : List R) (u : R) :
    ls.zip (List.replicate ls.length u) = ls.map (·, u) := by
  induction ls with
  | nil => rfl
  | cons l ls ih =>
      rw [List.length_cons, List.replicate_succ, List.zip_cons_cons, ih, List.map_cons]

theorem pairs?_of_length {lower upper : List R} (hlength : lower.length = upper.length) :
    pairs? lower upper = .ok (lower.zip upper) := by
  unfold pairs?
  exact if_pos hlength

theorem pairs?_single (l : R) (us : List R) : pairs? [l] us = .ok (us.map (l, ·)) := by
  by_cases hlength : [l].length = us.length
  · rw [pairs?_of_length hlength, ← zip_replicate_left, ← hlength]
    rfl
  · unfold pairs?
    exact if_neg hlength

theorem pairs?_toSingle (ls : List R) (u : R) : pairs? ls [u] = .ok (ls.map (·, u)) := by
  by_cases hlength : ls.length = [u].length
  · rw [pairs?_of_length hlength, ← zip_replicate_right, hlength]
    rfl
  · unfold pairs?
    rw [if_neg hlength]
    split
    · exact absurd rfl hlength
    · rename_i heq
      obtain ⟨rfl, -⟩ := List.cons.inj heq
      rfl
    · rename_i hsingle
      exact absurd rfl (hsingle u)

theorem stretch_of_length {vector : List R} {m : Nat} (hlength : vector.length = m) :
    stretch m vector = vector := by
  rw [← hlength, stretch_length]

/-- Vectors that go together are stretched to the same length and paired up. -/
theorem pairs?_of_pairable {lower upper : List R} {m : Nat}
    (hpairable : Pairable lower.length upper.length m) :
    pairs? lower upper = .ok ((stretch m lower).zip (stretch m upper))
      ∧ ((stretch m lower).zip (stretch m upper)).length = m := by
  generalize hlower : lower.length = a, hupper : upper.length = b at hpairable
  cases hpairable with
  | same =>
      rw [pairs?_of_length (hlower.trans hupper.symm), stretch_of_length hlower,
        stretch_of_length hupper, List.length_zip, hlower, hupper, Nat.min_self]
      exact ⟨rfl, rfl⟩
  | single =>
      obtain ⟨l, rfl⟩ := List.length_eq_one_iff.mp hlower
      rw [pairs?_single, stretch_of_length hupper, stretch, ← hupper, zip_replicate_left,
        List.length_map]
      exact ⟨rfl, rfl⟩
  | toSingle =>
      obtain ⟨u, rfl⟩ := List.length_eq_one_iff.mp hupper
      rw [pairs?_toSingle, stretch_of_length hlower, stretch, ← hlower, zip_replicate_right,
        List.length_map]
      exact ⟨rfl, rfl⟩

theorem pairs?_of_not_pairable {lower upper : List R}
    (hpairable : ∀ m, ¬Pairable lower.length upper.length m) :
    pairs? lower upper = .error .malformed := by
  have hlength : lower.length ≠ upper.length := by
    intro heq
    apply hpairable upper.length
    rw [heq]
    exact .same _
  unfold pairs?
  rw [if_neg hlength]
  split
  · exact absurd (.single _) (hpairable _)
  · exact absurd (.toSingle _) (hpairable _)
  · rfl

end Vectors

/-! ### Index sets -/

section Sets

variable {R : Type}

theorem mem_indicesWhere {property : R → R → Bool} {pairs : List (R × R)} {index : Nat} :
    index ∈ indicesWhere property pairs
      ↔ ∃ l u, pairs[index]? = some (l, u) ∧ property l u = true := by
  simp only [indicesWhere, List.mem_map, List.mem_filter, List.mem_zipIdx_iff_getElem?]
  constructor
  · rintro ⟨⟨⟨l, u⟩, _⟩, ⟨hpair, hproperty⟩, rfl⟩
    exact ⟨l, u, hpair, hproperty⟩
  · rintro ⟨l, u, hpair, hproperty⟩
    exact ⟨⟨⟨l, u⟩, index⟩, ⟨hpair, hproperty⟩, rfl⟩

theorem mem_indicesWhere_of_pair {property : R → R → Bool} {pairs : List (R × R)} {index : Nat}
    {l u : R} (hpair : pairs[index]? = some (l, u)) :
    index ∈ indicesWhere property pairs ↔ property l u = true := by
  rw [mem_indicesWhere]
  constructor
  · rintro ⟨l', u', hpair', hproperty⟩
    obtain ⟨rfl, rfl⟩ := Prod.mk.inj (Option.some.inj (hpair.symm.trans hpair'))
    exact hproperty
  · intro hproperty
    exact ⟨l, u, hpair, hproperty⟩

theorem pairwise_indicesWhere (property : R → R → Bool) (pairs : List (R × R)) :
    (indicesWhere property pairs).Pairwise (· < ·) := by
  rw [indicesWhere]
  apply List.Pairwise.sublist (List.filter_sublist.map _)
  rw [List.zipIdx_map_snd]
  exact List.pairwise_lt_range' 1

end Sets

/-- Where the sets have an index whose bounds are numbers. -/
structure Sorts (sets : BoundSets) (index : Nat) (l u : Float) : Prop where
  fixed : index ∈ sets.fixed ↔ (l == u) = true
  lower : index ∈ sets.lower ↔ l.isFinite = true ∧ (u == infinity) = true
  upper : index ∈ sets.upper ↔ (l == -infinity) = true ∧ u.isFinite = true
  range : index ∈ sets.range ↔ l.isFinite = true ∧ u.isFinite = true ∧ l < u
  free : index ∈ sets.free ↔ (l == -infinity) = true ∧ (u == infinity) = true
  infeasible : index ∈ sets.infeasible ↔ u < l

theorem sorts_of_numbers {pairs : List (Float × Float)} {index : Nat} {l u : Float}
    (hpair : pairs[index]? = some (l, u)) (hl : l.isNaN = false) (hu : u.isNaN = false) :
    Sorts (sets pairs) index l u where
  fixed := mem_indicesWhere_of_pair hpair
  lower := (mem_indicesWhere_of_pair hpair).trans (isLower_iff hl hu)
  upper := (mem_indicesWhere_of_pair hpair).trans (isUpper_iff hl hu)
  range := (mem_indicesWhere_of_pair hpair).trans (isRange_iff hl hu)
  free := (mem_indicesWhere_of_pair hpair).trans (isFree_iff hl hu)
  infeasible := (mem_indicesWhere_of_pair hpair).trans decide_eq_true_iff

/-- The sets of two vectors with `m` entries each, or stretched to as many. -/
structure Classifies (sets : BoundSets) (m : Nat) (lower upper : List Float) : Prop where
  increasing : ∀ set ∈ sets.all, set.Pairwise (· < ·)
  disjoint : sets.all.Pairwise List.Disjoint
  covers : ∀ index, (∃ set ∈ sets.all, index ∈ set) ↔ index < m
  sorts : ∀ (index : Nat) (l u : Float), (stretch m lower)[index]? = some l →
    (stretch m upper)[index]? = some u → l.isNaN = false → u.isNaN = false → Sorts sets index l u

theorem classifies_sets {m : Nat} {lower upper : List Float} 
    (hlength : ((stretch m lower).zip (stretch m upper)).length = m) :
    Classifies (sets ((stretch m lower).zip (stretch m upper))) m lower upper where
  increasing := by
    rw [all_sets, List.forall_mem_map]
    intro pattern _
    exact pairwise_indicesWhere pattern _
  disjoint := by
    have hnodup := (sets_splits ((stretch m lower).zip (stretch m upper))).nodup_iff.mpr
      List.nodup_range
    exact (List.nodup_flatten.mp hnodup).2
  covers := by
    intro index
    rw [← List.mem_flatten, (sets_splits _).mem_iff, hlength, List.mem_range]
  sorts := by
    intro index l u hl hu
    exact sorts_of_numbers (List.getElem?_zip_eq_some.mpr ⟨hl, hu⟩)

/-- **Bounds are classified by their pattern.** Vectors that go together give six index sets, each
in increasing order, with every index in exactly one of them; an index whose bounds are numbers is
where these say. All other vectors are refused. -/
theorem classify_sorts (lower upper : List Float) :
    (∀ m, Pairable lower.length upper.length m →
        ∃ sets, classify lower upper = .ok sets ∧ Classifies sets m lower upper)
      ∧ ((∀ m, ¬Pairable lower.length upper.length m) →
        classify lower upper = .error .malformed) := by
  constructor
  · intro m hpairable
    obtain ⟨hpairs, hlength⟩ := pairs?_of_pairable hpairable
    refine ⟨_, ?_, classifies_sets hlength⟩
    rw [classify, hpairs]
    rfl
  · intro hpairable
    rw [classify, pairs?_of_not_pairable hpairable]
    rfl

/-- A single upper bound for an undefined lower bound, an absent one, a zero of the other sign and a
greater one. -/
theorem classify_sorts_stretched :
    (∃ sets, classify [undefined, -infinity, -0.0, 1.0] [0.0] = .ok sets
        ∧ (∃ set ∈ sets.all, 0 ∈ set) ∧ 1 ∈ sets.upper ∧ 2 ∈ sets.fixed ∧ 3 ∈ sets.infeasible)
      ∧ classify [-infinity, 0.0] [0.0, 0.0, 0.0] = .error .malformed := by
  constructor
  · obtain ⟨sets, hsets, hclassifies⟩ :=
      (classify_sorts [undefined, -infinity, -0.0, 1.0] [0.0]).1 4 (.toSingle 4)
    have hupper := hclassifies.sorts 1 (-infinity) 0.0 rfl rfl (by decide) (by decide)
    have hfixed := hclassifies.sorts 2 (-0.0) 0.0 rfl rfl (by decide) (by decide)
    have hinfeasible := hclassifies.sorts 3 1.0 0.0 rfl rfl (by decide) (by decide)
    refine ⟨sets, hsets, (hclassifies.covers 0).mpr (by decide), ?_, ?_, ?_⟩
    · exact hupper.upper.mpr (by decide)
    · exact hfixed.fixed.mpr (by decide)
    · exact hinfeasible.infeasible.mpr (by decide)
  · apply (classify_sorts [-infinity, 0.0] [0.0, 0.0, 0.0]).2
    intro m hpairable
    cases hpairable

end Bounds

end Multigrad
