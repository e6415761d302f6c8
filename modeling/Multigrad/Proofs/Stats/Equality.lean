import Multigrad.Proofs.Stats.Rebuilding
import Multigrad.Proofs.Value.Equivalence
import Multigrad.Proofs.Value.RecordEquality

/-!
# Equality of run statistics

Whether it is an equivalence depends on the numbers. Statistics in which one is undefined are not
equal to themselves, and such are all that leave a measure of the starting point to its default.
Across arrays of integers and of doubles equality is transitive only where rounding changes nothing.
-/

namespace Multigrad.Stats

open Value (plain_record undefined_record_iff inexact_record_iff)

/-- The counters and what the solver adds are nested records of scalars and arrays. -/
structure Plain (stats : Stats Float) : Prop where
  counters : (Value.record stats.counters).Plain
  solverSpecific : (Value.record stats.solverSpecific).Plain

/-- An undefined number stands in one of the fields. -/
def Undefined (stats : Stats Float) : Prop := stats.typed.value.Undefined

/-- An integer that no double is stands in the counters or in what the solver adds. -/
def Inexact (stats : Stats Float) : Prop :=
  (Value.record stats.counters).Inexact ∨ (Value.record stats.solverSpecific).Inexact

variable {stats a b c : Stats Float}

theorem Plain.nested (hplain : stats.Plain) : stats.Nested :=
  ⟨hplain.counters.nested, hplain.solverSpecific.nested⟩

theorem Plain.typed (hplain : stats.Plain) : stats.typed.value.Plain := by
  apply plain_record stats.keys_toFields
  simp only [toFields, List.forall_mem_cons, List.not_mem_nil, false_implies, implies_true]
  exact ⟨.atom rfl, .array, .array, .atom rfl, .atom rfl, .atom rfl, .atom rfl, hplain.counters,
    hplain.solverSpecific, trivial⟩

theorem undefined_iff (stats : Stats Float) :
    stats.Undefined ↔ (∃ r ∈ stats.solution, r.isNaN = true) ∨
      (∃ r ∈ stats.averagedSolution, r.isNaN = true) ∨ stats.objective.isNaN = true ∨
      stats.gradientNorm.isNaN = true ∨ stats.elapsedTime.isNaN = true ∨
      (Value.record stats.counters).Undefined ∨ (Value.record stats.solverSpecific).Undefined := by
  have htext (s : String) : ¬Value.Undefined (.text s) := nofun
  have hint (n : ℤ) : ¬Value.Undefined (.int n) := nofun
  rw [Undefined, typed, TypedRecord.value, undefined_record_iff stats.keys_toFields]
  simp [toFields, Value.undefined_ofList_iff, Value.undefined_real_iff, htext, hint]

/-- Equality goes field by field. -/
theorem same_typed_iff {shared : Bool} :
    Value.Same shared a.typed.value b.typed.value ↔
      Value.Same shared (.text a.status.name) (.text b.status.name) ∧
      Value.Same shared (.ofList a.solution) (.ofList b.solution) ∧
      Value.Same shared (.ofList a.averagedSolution) (.ofList b.averagedSolution) ∧
      Value.Same shared (.real a.objective) (.real b.objective) ∧
      Value.Same shared (.real a.gradientNorm) (.real b.gradientNorm) ∧
      Value.Same shared (.real a.elapsedTime) (.real b.elapsedTime) ∧
      Value.Same shared (.int a.iterations) (.int b.iterations) ∧
      Value.Same shared (.record a.counters) (.record b.counters) ∧
      Value.Same shared (.record a.solverSpecific) (.record b.solverSpecific) := by
  have hkeys : Fields.sameKeys a.toFields b.toFields = true :=
    Fields.sameKeys_iff.mpr fun key => Iff.rfl
  rw [typed, typed, TypedRecord.value, TypedRecord.value,
    Fields.same_record_iff a.keys_toFields, and_iff_right hkeys]
  simp [toFields, Fields.partners, Fields.get?, List.lookup]

/-! ### The laws -/

section Laws

theorem same_int_iff {shared : Bool} {m n : ℤ} :
    Value.Same shared (.int m) (.int n) ↔ m = n := by
  rw [Value.same_leaf_iff rfl, Value.sameLeaf_iff_common rfl rfl]
  simp [Common, Value.content?, Value.numeric?, Number.quantity?, eq_comm]

variable {shared shared' shared'' : Bool}

theorem equal_self_iff (ha : a.Plain) : a.equal shared a = true ↔ ¬a.Undefined := by
  rw [equal_iff_same ha.nested ha.nested fun _ => rfl]
  exact Value.same_self_iff ha.typed

theorem equal_trans (ha : a.Plain) (hb : b.Plain) (hc : c.Plain)
    (hshared : shared = true → a = b) (hshared' : shared' = true → b = c)
    (hshared'' : shared'' = true → a = c) (hexact : ¬a.Inexact) (hexact' : ¬c.Inexact)
    (hab : a.equal shared b = true) (hbc : b.equal shared' c = true) :
    a.equal shared'' c = true := by
  obtain ⟨hstatus, hsolution, haveraged, hobjective, hnorm, htime, hiter, hcounters, hspecific⟩ :=
    same_typed_iff.mp ((equal_iff_same ha.nested hb.nested hshared).mp hab)
  obtain ⟨hstatus', hsolution', haveraged', hobjective', hnorm', htime', hiter', hcounters',
    hspecific'⟩ := same_typed_iff.mp
      (((equal_iff_same hb.nested hc.nested hshared').mp hbc).of_plain hb.typed)
  obtain ⟨hcount, hadded⟩ := not_or.mp hexact
  obtain ⟨hcount', hadded'⟩ := not_or.mp hexact'
  have hac : Value.Same shared a.typed.value c.typed.value := by
    refine same_typed_iff.mpr ⟨?_, ?_, ?_, ?_, ?_, ?_, ?_, ?_, ?_⟩
    · exact hstatus.trans hstatus' (.atom rfl) (.atom rfl) nofun nofun
    · exact hsolution.trans hsolution' .array .array nofun nofun
    · exact haveraged.trans haveraged' .array .array nofun nofun
    · exact hobjective.trans hobjective' (.atom rfl) (.atom rfl) nofun nofun
    · exact hnorm.trans hnorm' (.atom rfl) (.atom rfl) nofun nofun
    · exact htime.trans htime' (.atom rfl) (.atom rfl) nofun nofun
    -- Integers on both sides are compared as they are, however large.
    · exact same_int_iff.mpr ((same_int_iff.mp hiter).trans (same_int_iff.mp hiter'))
    · exact hcounters.trans hcounters' ha.counters hc.counters hcount hcount'
    · exact hspecific.trans hspecific' ha.solverSpecific hc.solverSpecific hadded hadded'
  exact (equal_iff_same ha.nested hc.nested hshared'').mpr (hac.of_plain ha.typed)

end Laws

/-- Without a measure of the starting point among the data, the statistics are undefined. -/
theorem undefined_of_missing {data : Fields Float} (hbuilt : build data = .ok stats)
    (hmissing : given? data "objective" = none ∨ given? data "gradient_norm" = none) :
    stats.Undefined := by
  obtain ⟨⟨status, solution, averagedSolution, objective, gradientNorm, elapsedTime, iterations,
    counters, solverSpecific⟩, hread, hpure⟩ := bind_eq_ok.mp hbuilt
  simp only [Checked.and_eq_ok] at hread
  obtain ⟨-, -, -, hobjective, hnorm, -⟩ := hread
  obtain rfl := pure_eq_ok.mp hpure
  have hnan : Double.undefined.isNaN = true := by decide +kernel
  rw [undefined_iff]
  rcases hmissing with hmissing | hmissing
  · rw [optional, hmissing] at hobjective
    obtain rfl := Except.ok.inj hobjective
    exact Or.inr (Or.inr (Or.inl hnan))
  · rw [optional, hmissing] at hnorm
    obtain rfl := Except.ok.inj hnorm
    exact Or.inr (Or.inr (Or.inr (Or.inl hnan)))

/-- The least that statistics are built from. -/
def bare : Fields Float :=
  [("status", .text "unknown"), ("solution", .list []), ("averaged_solution", .list [])]

/-- Statistics of a solver that adds an array. -/
def withArray (entries : Entries Float) : Stats Float where
  status := .unknown
  solution := []
  averagedSolution := []
  objective := 0.0
  gradientNorm := 0.0
  elapsedTime := 0.0
  iterations := 0
  counters := []
  solverSpecific := [("x", .array [1] entries)]

theorem plain_withArray (entries : Entries Float) : (withArray entries).Plain := by
  refine ⟨plain_record .nil nofun, plain_record (by simp [withArray, Fields.keys]) ?_⟩
  rintro _ (_ | ⟨_, ⟨⟩⟩)
  exact .array

theorem build_withArray (entries : Entries Float) :
    ∃ data, build data = .ok (withArray entries) := by
  have htimed : (withArray entries).Timed := by
    change Scalar.atMost (0.0 : Float) 0.0 = true
    decide +kernel
  exact ⟨_, build_toRecord htimed false⟩

theorem equal_withArray (entries entries' : Entries Float) :
    (withArray entries).equal false (withArray entries') =
      Value.equalArrays (.array [1] entries) (.array [1] entries') := by
  have harray : Value.Same false (.record [("x", .array [1] entries)])
        (.record [("x", .array [1] entries')]) ↔
      Value.equalArrays (.array [1] entries) (.array [1] entries') = true := by
    rw [Fields.same_record_iff (by simp [Fields.keys]), Value.equalArrays_iff]
    simp [Fields.partners, Fields.get?, Fields.sameKeys, Fields.keys, Value.same_leaf_iff,
      Value.sameLeaf_of_isArray, Value.isArray, Value.isRecord]
  have htext : Value.Same false (.text Status.unknown.name) (.text Status.unknown.name) :=
    Value.same_self (.atom rfl) (by rintro ⟨⟩)
  have hempty : Value.Same false (.ofList []) (.ofList []) := by
    have hdefined : ¬Value.Undefined (.ofList []) := by simp [Value.undefined_ofList_iff]
    exact Value.same_self .array hdefined
  have hzero : Value.Same false (.real 0.0) (.real 0.0) := by
    apply Value.same_self (.atom rfl)
    rw [Value.undefined_real_iff]
    decide +kernel
  have hrecord : Value.Same false (.record []) (.record []) :=
    .records (fun key => Iff.rfl) (by simp [Fields.get?])
  have hapart : false = true → withArray entries = withArray entries' := by simp
  rw [Bool.eq_iff_iff, equal_iff_same (plain_withArray _).nested (plain_withArray _).nested hapart,
    same_typed_iff, ← harray]
  constructor
  · rintro ⟨-, -, -, -, -, -, -, -, hspecific⟩
    exact hspecific
  · intro hspecific
    exact ⟨htext, hempty, hempty, hzero, hzero, hzero, same_int_iff.mpr rfl, hrecord, hspecific⟩

/-- The laws of equality, for every three statistics with counters and additions of any depth.
Equality is reflexive just where every number is defined, which fails for all statistics built
without one of the measures of the starting point; it is symmetric, and it is transitive where
rounding changes no integer of the outer two. Statistics built from the same data are equal, and not
unequal, under the same condition under which they are equal to themselves. -/
theorem equality_laws (ha : a.Plain) (hb : b.Plain) (hc : c.Plain) :
    (∀ shared, a.equal shared a = true ↔ ¬a.Undefined) ∧
      (∀ shared, (shared = true → a = b) → b.equal shared a = a.equal shared b) ∧
      (¬a.Inexact → ¬c.Inexact →
        ∀ shared shared' shared'', (shared = true → a = b) → (shared' = true → b = c) →
          (shared'' = true → a = c) →
            a.equal shared b = true → b.equal shared' c = true → a.equal shared'' c = true) ∧
      (∀ data, build data = .ok a → build data = .ok b →
        (a.equal false b = true ↔ ¬a.Undefined) ∧
          (a.unequal false (.object b.typed) = true ↔ a.Undefined)) ∧
      ∀ data, build data = .ok a →
        given? data "objective" = none ∨ given? data "gradient_norm" = none → a.Undefined := by
  refine ⟨fun shared => equal_self_iff ha, fun shared => equal_symm ha.nested hb.nested, ?_, ?_, ?_⟩
  · intro hexact hexact' shared shared' shared'' hshared hshared' hshared''
    exact equal_trans ha hb hc hshared hshared' hshared'' hexact hexact'
  · intro data hbuilt hbuilt'
    obtain rfl : a = b := Except.ok.inj (hbuilt.symm.trans hbuilt')
    refine ⟨equal_self_iff ha, ?_⟩
    rw [unequal, TypedRecord.unequal_eq_not_equal, Bool.not_eq_true', ← Bool.not_eq_true]
    exact (not_congr (equal_self_iff ha)).trans not_not
  · exact fun data => undefined_of_missing

theorem equality_laws_withArray :
    (withArray (.ints [3])).equal true (withArray (.ints [3])) = true ∧
      (withArray (.reals [3.0])).equal false (withArray (.ints [3])) = true ∧
      (withArray (.ints [3])).equal false (withArray (.ints [3])) = true := by
  obtain ⟨hself, hsymm, htrans, -⟩ := equality_laws (plain_withArray (.ints [3]))
    (plain_withArray (.reals [3.0])) (plain_withArray (.ints [3]))
  have hequal : (withArray (.ints [3])).equal false (withArray (.reals [3.0])) = true := by
    rw [equal_withArray]
    decide +kernel
  have hequal' : (withArray (.reals [3.0])).equal false (withArray (.ints [3])) = true :=
    (hsymm false nofun).trans hequal
  have hdefined : ¬(withArray (.ints [3])).Undefined := by
    apply (hself false).mp
    rw [equal_withArray]
    decide +kernel
  have hexact : ¬(withArray (.ints [3])).Inexact := by
    rintro (hcounters | hspecific)
    · cases hcounters with
      | record hget _ => cases hget
    · rw [inexact_record_iff (by simp [withArray, Fields.keys])] at hspecific
      obtain ⟨_, hmem, harray⟩ := hspecific
      obtain rfl := List.mem_singleton.mp hmem
      cases harray with
      | array hmem hinexact =>
        obtain rfl := List.mem_singleton.mp hmem
        exact hinexact (Value.isDouble_of_abs_le (by norm_num))
  exact ⟨(hself true).mpr hdefined, hequal',
    htrans hexact hexact false false false nofun nofun nofun hequal hequal'⟩

/-- Built from the least data, statistics are not even equal to themselves; and a double can be
equal to two integers that differ. -/
theorem equality_no_equivalence :
    (∃ stats, build bare = .ok stats ∧ stats.Plain ∧ stats.equal true stats = false) ∧
      ∃ a b c : Stats Float, a.Plain ∧ b.Plain ∧ c.Plain ∧
      (∃ data, build data = .ok a) ∧ (∃ data, build data = .ok b) ∧ (∃ data, build data = .ok c) ∧
      a.equal false b = true ∧ b.equal false c = true ∧ a.equal false c = false := by
  refine ⟨?_, withArray (.ints [2 ^ 53 + 1]), withArray (.reals [9007199254740992.0]),
    withArray (.ints [2 ^ 53]), ?_⟩
  · have hbuilt : build bare = .ok ⟨.unknown, [], [], Double.undefined, Double.undefined, 0.0, 0,
        [], []⟩ := rfl
    have hplain : (Value.record []).Plain := plain_record .nil nofun
    refine ⟨_, hbuilt, ⟨hplain, hplain⟩, ?_⟩
    rw [← Bool.not_eq_true, equal_self_iff ⟨hplain, hplain⟩, not_not]
    exact undefined_of_missing hbuilt (Or.inl rfl)
  · refine ⟨plain_withArray _, plain_withArray _, plain_withArray _, build_withArray _,
      build_withArray _, build_withArray _, ?_⟩
    simp only [equal_withArray]
    decide +kernel

end Multigrad.Stats
