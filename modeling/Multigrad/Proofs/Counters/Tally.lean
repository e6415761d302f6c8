import Multigrad.Proofs.Counters
import Mathlib.Data.List.DropRight

/-!
# Counters as tallies

Whatever is counted adds one in one place: at an entry of a counter that has entries, or at another
counter. Fresh counters to which places were added hold how often each place was, and add up to the
number of places. Where some calls clear the counters, only the calls since the last such call are
left in them.
-/

namespace Multigrad.Counters

/-- Where one is added. -/
inductive Place where
  | entry (counter : ObjectiveCounter) (position : Nat)
  | whole (counter : ProblemCounter)
deriving DecidableEq

/-- A place in counters of `n` objectives. -/
def Place.Within (n : Nat) : Place → Prop
  | .entry _ position => position < n
  | .whole _ => True

def add (counters : Counters) : Place → Counters
  | .entry counter position => counters.bump counter position
  | .whole counter => counters.tick counter

def addAll (counters : Counters) (places : List Place) : Counters := places.foldl add counters

/-! ### One place -/

theorem entries_bump (counters : Counters) (counter other : ObjectiveCounter) (position : Nat) :
    (counters.bump counter position).entries other
      = if counter = other then (counters.entries other).modify position (· + 1)
        else counters.entries other := by
  cases counter <;> cases other <;> rfl

theorem count_bump (counters : Counters) (counter : ObjectiveCounter) (position : Nat)
    (other : ProblemCounter) :
    (counters.bump counter position).count other = counters.count other := by
  cases counter <;> cases other <;> rfl

theorem entries_tick (counters : Counters) (counter : ProblemCounter) (other : ObjectiveCounter) :
    (counters.tick counter).entries other = counters.entries other := by
  cases counter <;> cases other <;> rfl

theorem count_tick (counters : Counters) (counter other : ProblemCounter) :
    (counters.tick counter).count other
      = counters.count other + if counter = other then 1 else 0 := by
  cases counter <;> cases other <;> rfl

theorem total_bump {counters : Counters} {n : Nat} (hfits : counters.Fits n)
    (counter : ObjectiveCounter) {position : Nat} (hposition : position < n) :
    (counters.bump counter position).total = counters.total + 1 := by
  have hsum := sum_modify (i := position) (hfits.entries counter ▸ hposition)
  cases counter <;> simp only [total, problemSum, objectiveSum, bump, count, entries,
    ProblemCounter.all, ObjectiveCounter.all, List.map_cons, List.map_nil, List.foldr_cons,
    List.foldr_nil] at hsum ⊢ <;> omega

theorem Fits.add {counters : Counters} {n : Nat} (hfits : counters.Fits n) (place : Place) :
    (counters.add place).Fits n := by
  cases place with
  | entry counter position => exact hfits.bump counter position
  | whole counter => exact hfits.tick counter

theorem entries_add (counters : Counters) (place : Place) (counter : ObjectiveCounter) (i : Nat) :
    ((counters.add place).entries counter)[i]?
      = (counters.entries counter)[i]?.map (· + if place = .entry counter i then 1 else 0) := by
  cases place with
  | entry other position =>
      rw [add, entries_bump]
      by_cases hcounter : other = counter
      · rw [if_pos hcounter, List.getElem?_modify]
        by_cases hposition : position = i
        · simp [hcounter, hposition]
        · simp [hposition]
      · simp [hcounter]
  | whole other => simp [add, entries_tick]

theorem count_add (counters : Counters) (place : Place) (counter : ProblemCounter) :
    (counters.add place).count counter
      = counters.count counter + if place = .whole counter then 1 else 0 := by
  cases place with
  | entry other position => simp [add, count_bump]
  | whole other => simp [add, count_tick]

theorem total_add {counters : Counters} {n : Nat} (hfits : counters.Fits n) {place : Place}
    (hplace : place.Within n) : (counters.add place).total = counters.total + 1 := by
  cases place with
  | entry counter position => exact total_bump hfits counter hplace
  | whole counter => exact total_tick counters counter

/-- Counters that are the same but in one place. -/
structure SameBut (place : Place) (before after : Counters) : Prop where
  nobj : after.nobj = before.nobj
  entry : ∀ counter i, place ≠ .entry counter i →
    (after.entries counter)[i]? = (before.entries counter)[i]?
  whole : ∀ counter, place ≠ .whole counter → after.count counter = before.count counter

theorem SameBut.refl (place : Place) (counters : Counters) : SameBut place counters counters :=
  ⟨rfl, fun _ _ _ => rfl, fun _ _ => rfl⟩

theorem sameBut_add (counters : Counters) (place : Place) :
    SameBut place counters (counters.add place) where
  nobj := by
    cases place with
    | entry counter position => cases counter <;> rfl
    | whole counter => cases counter <;> rfl
  entry := by
    intro counter i hne
    simp [entries_add, hne]
  whole := by
    intro counter hne
    rw [count_add, if_neg hne, Nat.add_zero]

/-! ### Many places -/

theorem Fits.addAll {counters : Counters} {n : Nat} (hfits : counters.Fits n)
    (places : List Place) : (counters.addAll places).Fits n := by
  induction places generalizing counters with
  | nil => exact hfits
  | cons place rest ih => exact ih (hfits.add place)

theorem entries_addAll (counters : Counters) (places : List Place) (counter : ObjectiveCounter)
    (i : Nat) :
    ((counters.addAll places).entries counter)[i]?
      = (counters.entries counter)[i]?.map (· + places.count (.entry counter i)) := by
  induction places generalizing counters with
  | nil => simp [addAll]
  | cons place rest ih =>
      change (((counters.add place).addAll rest).entries counter)[i]? = _
      rw [ih, entries_add, Option.map_map, List.count_cons]
      congr 1
      funext count
      simp only [Function.comp_apply, beq_iff_eq]
      omega

theorem count_addAll (counters : Counters) (places : List Place) (counter : ProblemCounter) :
    (counters.addAll places).count counter
      = counters.count counter + places.count (.whole counter) := by
  induction places generalizing counters with
  | nil => rfl
  | cons place rest ih =>
      change ((counters.add place).addAll rest).count counter = _
      rw [ih, count_add, List.count_cons]
      simp only [beq_iff_eq]
      omega

theorem total_addAll {counters : Counters} {n : Nat} (hfits : counters.Fits n)
    {places : List Place} (hplaces : ∀ place ∈ places, place.Within n) :
    (counters.addAll places).total = counters.total + places.length := by
  induction places generalizing counters with
  | nil => rfl
  | cons place rest ih =>
      rw [List.forall_mem_cons] at hplaces
      change ((counters.add place).addAll rest).total = _
      rw [ih (hfits.add place) hplaces.2, total_add hfits hplaces.1, List.length_cons]
      omega

/-! ### Fresh counters -/

theorem count_empty (n : Nat) (counter : ProblemCounter) : (empty n).count counter = 0 := by
  cases counter <;> rfl

theorem entries_empty (n : Nat) (counter : ObjectiveCounter) :
    (empty n).entries counter = List.replicate n 0 := by
  cases counter <;> rfl

theorem total_empty (n : Nat) : (empty n).total = 0 := by
  have hsum : (List.replicate n 0).foldr (· + ·) 0 = 0 := by
    induction n with
    | zero => rfl
    | succ n ih => rw [List.replicate_succ, List.foldr_cons, ih]
  simp [total, problemSum, objectiveSum, count_empty, entries_empty, hsum, ProblemCounter.all,
    ObjectiveCounter.all]

/-- Every entry is how often its place was added. -/
theorem entries_tally (n : Nat) (places : List Place) (counter : ObjectiveCounter) :
    ((empty n).addAll places).entries counter
      = (List.range n).map fun i => places.count (.entry counter i) := by
  apply List.ext_getElem?
  intro i
  rw [entries_addAll, entries_empty, List.getElem?_replicate, List.getElem?_map]
  by_cases hi : i < n
  · rw [if_pos hi, List.getElem?_range hi, Option.map_some, Option.map_some, Nat.zero_add]
  · rw [if_neg hi, List.getElem?_eq_none (by rw [List.length_range]; omega)]
    rfl

theorem count_tally (n : Nat) (places : List Place) (counter : ProblemCounter) :
    ((empty n).addAll places).count counter = places.count (.whole counter) := by
  rw [count_addAll, count_empty, Nat.zero_add]

theorem total_tally {n : Nat} {places : List Place} (hplaces : ∀ place ∈ places, place.Within n) :
    ((empty n).addAll places).total = places.length := by
  rw [total_addAll (fits_empty n) hplaces, total_empty, Nat.zero_add]

/-! ### Calls that clear -/

/-- The calls since the last one that clears. -/
def sinceLast {κ : Type} (clears : κ → Bool) (calls : List κ) : List κ :=
  calls.rtakeWhile fun call => !clears call

theorem sinceLast_concat {κ : Type} (clears : κ → Bool) (calls : List κ) (call : κ) :
    sinceLast clears (calls ++ [call])
      = if clears call then [] else sinceLast clears calls ++ [call] := by
  rw [sinceLast, List.rtakeWhile_concat]
  cases clears call <;> rfl

/-- A place was added as often as there are calls that add to it. -/
theorem count_filterMap_place {κ : Type} {place? : κ → Option Place} {place : Place}
    {test : κ → Bool} (htest : ∀ call, place? call = some place ↔ test call = true)
    (calls : List κ) : (calls.filterMap place?).count place = calls.countP test := by
  rw [List.count_filterMap]
  apply List.countP_congr
  intro call _
  rw [beq_iff_eq, htest]

/-- Fresh counters on which calls were carried out hold the tally of the calls since the last one
that cleared them. -/
theorem foldl_eq_tally {κ : Type} {n : Nat} {perform : Counters → κ → Counters}
    {clears : κ → Bool} {place? : κ → Option Place}
    (hclears : ∀ counters call, counters.Fits n → clears call = true →
      perform counters call = empty n)
    (hadds : ∀ counters call, counters.Fits n → clears call = false →
      perform counters call = counters.addAll (place? call).toList)
    (calls : List κ) :
    calls.foldl perform (empty n)
      = (empty n).addAll ((sinceLast clears calls).filterMap place?) := by
  induction calls using List.reverseRecOn with
  | nil => rfl
  | append_singleton calls call ih =>
      have hfits := (fits_empty n).addAll ((sinceLast clears calls).filterMap place?)
      rw [List.foldl_concat, ih, sinceLast_concat]
      cases hclear : clears call with
      | true => exact hclears _ _ hfits hclear
      | false =>
          rw [hadds _ _ hfits hclear, if_neg Bool.false_ne_true, List.filterMap_append]
          simp only [addAll, List.foldl_append]
          cases hplace : place? call <;> simp [hplace]

end Multigrad.Counters
