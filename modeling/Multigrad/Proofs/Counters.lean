import Multigrad.Model.Basic
import Mathlib.Data.List.Nodup

/-!
# What a run adds to the counters

A run of a solver counts gradients of single objectives, in whatever order it comes to them. What
they add up to depends only on how often each objective was visited; a whole pass over the
objectives adds one everywhere.
-/

namespace Multigrad

/-- The objectives of a problem with `n` of them, as a solver names them. -/
def objectives (n : Nat) : List Int := (List.range n).map Int.ofNat

theorem mem_objectives {n : Nat} {index : Int} : index ∈ objectives n ↔ 0 ≤ index ∧ index < n := by
  rw [objectives, List.mem_map]
  constructor
  · rintro ⟨k, hk, rfl⟩
    exact ⟨Int.natCast_nonneg k, Int.ofNat_lt.mpr (List.mem_range.mp hk)⟩
  · rintro ⟨hpos, hlt⟩
    exact ⟨index.toNat, List.mem_range.mpr (by omega), Int.toNat_of_nonneg hpos⟩

theorem length_objectives (n : Nat) : (objectives n).length = n := by
  rw [objectives, List.length_map, List.length_range]

theorem nodup_objectives (n : Nat) : (objectives n).Nodup :=
  List.Nodup.map (fun _ _ h => Int.ofNat.inj h) List.nodup_range

namespace Counters

/-- Counters of a model with `n` objectives. -/
structure Fits (counters : Counters) (n : Nat) : Prop where
  nobj : counters.nobj = n
  entries : ∀ counter, (counters.entries counter).length = n

theorem fits_empty (n : Nat) : (empty n).Fits n :=
  ⟨rfl, fun counter => by cases counter <;> exact List.length_replicate⟩

theorem Fits.bump {counters : Counters} {n : Nat} (hfits : counters.Fits n)
    (counter : ObjectiveCounter) (index : Nat) : (counters.bump counter index).Fits n := by
  refine ⟨?_, fun other => ?_⟩
  · cases counter <;> exact hfits.nobj
  · have hlength := hfits.entries other
    cases counter <;> cases other <;> simpa [Counters.bump, Counters.entries] using hlength

theorem Fits.tick {counters : Counters} {n : Nat} (hfits : counters.Fits n)
    (counter : ProblemCounter) : (counters.tick counter).Fits n := by
  refine ⟨?_, fun other => ?_⟩
  · cases counter <;> exact hfits.nobj
  · have hlength := hfits.entries other
    cases counter <;> exact hlength

theorem Fits.reset {counters : Counters} {n : Nat} (hfits : counters.Fits n) :
    counters.reset.Fits n := by
  rw [Counters.reset, hfits.nobj]
  exact fits_empty n

/-- Whatever is counted, the counters still fit. -/
theorem Fits.increment {counters after : Counters} {n : Nat} (hfits : counters.Fits n)
    {name : String} {index : Option Int} (hcounted : counters.increment name index = .ok after) :
    after.Fits n := by
  rw [Counters.increment] at hcounted
  cases hname : CounterName.ofText name with
  | objective counter =>
      rw [hname] at hcounted
      cases index with
      | none => cases hcounted
      | some index =>
          cases hposition : position? counters.nobj index with
          | none => simp only [hposition, reduceCtorEq] at hcounted
          | some position =>
              simp only [hposition, Except.ok.injEq] at hcounted
              exact hcounted ▸ hfits.bump counter position
  | problem counter =>
      rw [hname] at hcounted
      exact Except.ok.inj hcounted ▸ hfits.tick counter
  | unknown =>
      rw [hname] at hcounted
      cases hcounted

/-! ### Entries -/

/-- The entries of a counter after these indices were counted. -/
def charge (entries : List Nat) (indices : List Int) : List Nat :=
  entries.mapIdx fun i count => count + indices.count (i : Int)

theorem length_charge (entries : List Nat) (indices : List Int) :
    (charge entries indices).length = entries.length := List.length_mapIdx

theorem getElem_charge (entries : List Nat) (indices : List Int) {i : Nat}
    (hi : i < (charge entries indices).length) (hentry : i < entries.length) :
    (charge entries indices)[i] = entries[i] + indices.count (i : Int) := by
  simp [charge]

theorem charge_nil (entries : List Nat) : charge entries [] = entries := by
  apply List.ext_getElem (length_charge _ _)
  intro i hi hentry
  rw [getElem_charge _ _ hi hentry, List.count_nil, Nat.add_zero]

theorem charge_append (entries : List Nat) (first second : List Int) :
    charge entries (first ++ second) = charge (charge entries first) second := by
  apply List.ext_getElem (by simp only [length_charge])
  intro i hi hsecond
  have hfirst : i < (charge entries first).length :=
    length_charge (charge entries first) _ ▸ hsecond
  have hentry : i < entries.length := length_charge entries _ ▸ hfirst
  rw [getElem_charge _ _ hi hentry, getElem_charge _ _ hsecond hfirst,
    getElem_charge _ _ hfirst hentry, List.count_append, Nat.add_assoc]

theorem charge_perm (entries : List Nat) {first second : List Int} (hperm : first.Perm second) :
    charge entries first = charge entries second := by
  simp only [charge, hperm.count_eq]

theorem charge_singleton (entries : List Nat) {index : Int} (hpos : 0 ≤ index) :
    charge entries [index] = entries.modify index.toNat (· + 1) := by
  apply List.ext_getElem (by simp [length_charge])
  intro i hi hmodified
  have hentry : i < entries.length := length_charge entries _ ▸ hi
  rw [getElem_charge _ _ hi hentry, List.getElem_modify, List.count_singleton]
  by_cases heq : index.toNat = i
  · rw [if_pos heq, if_pos (by simp; omega)]
  · rw [if_neg heq, if_neg (by simp; omega), Nat.add_zero]

theorem charge_singleton_of_not_mem (entries : List Nat) {index : Int}
    (hindex : index ∉ objectives entries.length) : charge entries [index] = entries := by
  apply List.ext_getElem (length_charge _ _)
  intro i hi hentry
  rw [getElem_charge _ _ hi hentry, List.count_singleton, if_neg, Nat.add_zero]
  intro heq
  apply hindex
  rw [mem_objectives]
  simp only [beq_iff_eq] at heq
  omega

theorem charge_objectives (entries : List Nat) :
    charge entries (objectives entries.length) = entries.map (· + 1) := by
  apply List.ext_getElem (by simp [length_charge])
  intro i hi hmapped
  have hentry : i < entries.length := length_charge entries _ ▸ hi
  have hmem : (i : Int) ∈ objectives entries.length := by
    rw [mem_objectives]
    omega
  rw [getElem_charge _ _ hi hentry, List.getElem_map,
    List.count_eq_one_of_mem (nodup_objectives _) hmem]

theorem sum_modify {entries : List Nat} {i : Nat} (hi : i < entries.length) :
    (entries.modify i (· + 1)).foldr (· + ·) 0 = entries.foldr (· + ·) 0 + 1 := by
  induction entries generalizing i with
  | nil => cases hi
  | cons count rest ih =>
      cases i with
      | zero => simp only [List.modify_zero_cons, List.foldr_cons]; omega
      | succ i =>
          have hrest := ih (Nat.lt_of_succ_lt_succ hi)
          simp only [List.modify_succ_cons, List.foldr_cons, hrest]
          omega

theorem sum_charge {entries : List Nat} {indices : List Int}
    (hindices : ∀ index ∈ indices, index ∈ objectives entries.length) :
    (charge entries indices).foldr (· + ·) 0 = entries.foldr (· + ·) 0 + indices.length := by
  induction indices generalizing entries with
  | nil => rw [charge_nil]; rfl
  | cons index rest ih =>
      rw [List.forall_mem_cons, mem_objectives] at hindices
      obtain ⟨⟨hpos, hlt⟩, hrest⟩ := hindices
      -- The first index is counted in the entries that the others are then counted in.
      rw [← List.singleton_append, charge_append, ih (by rwa [length_charge]),
        charge_singleton entries hpos, sum_modify (by omega), List.singleton_append,
        List.length_cons]
      omega

/-! ### Visits -/

/-- The counters after the gradients of these objectives were evaluated. -/
def visited (counters : Counters) (indices : List Int) : Counters :=
  { counters with gradi := charge counters.gradi indices }

theorem visited_nil (counters : Counters) : counters.visited [] = counters := by
  rw [visited, charge_nil]

theorem visited_append (counters : Counters) (first second : List Int) :
    counters.visited (first ++ second) = (counters.visited first).visited second := by
  simp only [visited, charge_append]

theorem visited_perm (counters : Counters) {first second : List Int} (hperm : first.Perm second) :
    counters.visited first = counters.visited second := by
  rw [visited, visited, charge_perm _ hperm]

theorem Fits.visited {counters : Counters} {n : Nat} (hfits : counters.Fits n)
    (indices : List Int) : (counters.visited indices).Fits n := by
  refine ⟨hfits.nobj, fun other => ?_⟩
  have hlength := hfits.entries other
  cases other <;> simpa only [Counters.visited, Counters.entries, length_charge] using hlength

/-- Evaluating one gradient of a model is a visit, also when the model has no such objective and
counts nothing. -/
theorem gradI_counters {R : Type} [Scalar R] {model : Model R} {counters : Counters}
    (hfits : counters.Fits model.problem.nobj) (index : Int) (point : Model.Point R) :
    (model.gradI index point counters).2 = counters.visited [index] := by
  have hlength : counters.gradi.length = model.problem.nobj := hfits.entries .gradi
  rw [Model.gradI, Model.evaluateAt]
  split
  · rename_i hindex
    rw [visited, charge_singleton _ hindex.1]
    rfl
  · rename_i hindex
    rw [visited, charge_singleton_of_not_mem]
    rwa [hlength, mem_objectives]

/-- The counters after so many passes over all objectives. -/
def afterPasses (counters : Counters) (passes : Nat) : Counters :=
  { counters with gradi := counters.gradi.map (· + passes) }

theorem afterPasses_zero (counters : Counters) : counters.afterPasses 0 = counters := by
  simp [afterPasses]

theorem Fits.afterPasses {counters : Counters} {n : Nat} (hfits : counters.Fits n)
    (passes : Nat) : (counters.afterPasses passes).Fits n := by
  refine ⟨hfits.nobj, fun other => ?_⟩
  have hlength := hfits.entries other
  cases other <;> simpa only [Counters.afterPasses, Counters.entries, List.length_map] using hlength

/-- **A pass visits every objective once**, in whatever order. -/
theorem visited_afterPasses {counters : Counters} {n : Nat} (hfits : counters.Fits n)
    {order : List Int} (horder : order.Perm (objectives n)) (passes : Nat) :
    (counters.afterPasses passes).visited order = counters.afterPasses (passes + 1) := by
  have hlength : (counters.afterPasses passes).gradi.length = n :=
    (hfits.afterPasses passes).entries .gradi
  rw [visited_perm _ horder, visited, ← hlength, charge_objectives]
  simp only [afterPasses, List.map_map, Function.comp_def, Nat.add_assoc]

/-! ### Totals -/

theorem total_tick (counters : Counters) (counter : ProblemCounter) :
    (counters.tick counter).total = counters.total + 1 := by
  cases counter <;> simp [total, problemSum, objectiveSum, tick, count, ProblemCounter.all,
    entries, ObjectiveCounter.all] <;> omega

theorem total_visited {counters : Counters} {n : Nat} (hfits : counters.Fits n)
    {indices : List Int} (hindices : ∀ index ∈ indices, index ∈ objectives n) :
    (counters.visited indices).total = counters.total + indices.length := by
  have hlength : counters.gradi.length = n := hfits.entries .gradi
  rw [← hlength] at hindices
  have hsum := sum_charge hindices
  simp only [total, problemSum, objectiveSum, visited, count, ProblemCounter.all, entries,
    ObjectiveCounter.all, List.map_cons, List.map_nil, List.foldr_cons, List.foldr_nil]
  omega

theorem total_afterPasses {counters : Counters} {n : Nat} (hfits : counters.Fits n)
    (passes : Nat) : (counters.afterPasses passes).total = counters.total + passes * n := by
  induction passes with
  | zero => rw [afterPasses_zero, Nat.zero_mul, Nat.add_zero]
  | succ passes ih =>
      rw [← visited_afterPasses hfits (.refl _), total_visited (hfits.afterPasses passes)
        fun _ => id, ih, length_objectives, Nat.succ_mul]
      omega

end Counters

end Multigrad
