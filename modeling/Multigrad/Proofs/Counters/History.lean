import Multigrad.Proofs.Counters.Tally

/-!
# Counters over a history of calls

Counters are incremented, read and reset in any order, by any name and with any index. An increment
that fails leaves no trace. At the end every entry is how often it was incremented since the last
reset, counted from the beginning or from the end of its counter, and the total is the number of all
increments since then that succeeded.
-/

namespace Multigrad

/-! ### Names -/

namespace CounterName

theorem ofText_objective (counter : ObjectiveCounter) :
    ofText counter.name = .objective counter := by
  cases counter <;> rfl

theorem ofText_problem (counter : ProblemCounter) : ofText counter.name = .problem counter := by
  cases counter <;> rfl

theorem ofText_unknown {text : String}
    (hobjective : ∀ counter : ObjectiveCounter, text ≠ counter.name)
    (hproblem : ∀ counter : ProblemCounter, text ≠ counter.name) : ofText text = .unknown := by
  have hnoObjective : ObjectiveCounter.all.find? (·.name == text) = none := by
    rw [List.find?_eq_none]
    intro counter _ hname
    exact hobjective counter (beq_iff_eq.mp hname).symm
  have hnoProblem : ProblemCounter.all.find? (·.name == text) = none := by
    rw [List.find?_eq_none]
    intro counter _ hname
    exact hproblem counter (beq_iff_eq.mp hname).symm
  rw [ofText, hnoObjective, hnoProblem]

end CounterName

theorem ObjectiveCounter.name_inj {counter other : ObjectiveCounter} :
    counter.name = other.name ↔ counter = other := by
  cases counter <;> cases other <;> decide

theorem ProblemCounter.name_inj {counter other : ProblemCounter} :
    counter.name = other.name ↔ counter = other := by
  cases counter <;> cases other <;> decide

theorem ObjectiveCounter.name_ne_problem (counter : ObjectiveCounter) (other : ProblemCounter) :
    counter.name ≠ other.name := by
  cases counter <;> cases other <;> decide

namespace Counters

theorem position?_eq_some {size position : Nat} {index : Int} :
    position? size index = some position
      ↔ position < size ∧ (index = position ∨ index = (position : Int) - size) := by
  unfold position?
  split
  · rw [Option.some.injEq]
    omega
  · split
    · rw [Option.some.injEq]
      omega
    · simp only [reduceCtorEq, false_iff]
      omega

theorem exists_position?_iff {size : Nat} {index : Int} :
    (∃ position, position? size index = some position) ↔ -(size : Int) ≤ index ∧ index < size := by
  constructor
  · rintro ⟨position, hposition⟩
    rw [position?_eq_some] at hposition
    omega
  · intro hindex
    by_cases hpos : 0 ≤ index
    · exact ⟨index.toNat, position?_eq_some.mpr (by omega)⟩
    · exact ⟨(index + size).toNat, position?_eq_some.mpr (by omega)⟩

/-! ### Calls -/

inductive Call where
  | increment (name : String) (index : Option Int)
  | get (name : String) (index : Option Int)
  | snapshot
  | sums
  | reset

inductive Reply where
  | done
  | reading (reading : Reading)
  | snapshot (entries : List (String × Reading))
  | sums (problem objective total : Nat)

/-- Carries out a call, and says what came of it. -/
def perform (counters : Counters) : Call → Except Failure Reply × Counters
  | .increment name index =>
    match counters.increment name index with
    | .ok after => (.ok .done, after)
    | .error failure => (.error failure, counters)
  | .get name index => ((counters.get name index).map .reading, counters)
  | .snapshot => (.ok (.snapshot counters.snapshot), counters)
  | .sums => (.ok (.sums counters.problemSum counters.objectiveSum counters.total), counters)
  | .reset => (.ok .done, counters.reset)

/-- Carries out one call after the other, also after calls that failed. -/
def performAll (counters : Counters) (calls : List Call) : Counters :=
  calls.foldl (fun counters call => (counters.perform call).2) counters

namespace Call

def isReset : Call → Bool
  | reset => true
  | _ => false

/-- An increment that succeeds on counters of `n` objectives. -/
def succeeds (n : Nat) : Call → Bool
  | increment name index =>
    ProblemCounter.all.any (·.name == name)
      || ObjectiveCounter.all.any (·.name == name)
        && index.any fun i => decide (-(n : Int) ≤ i ∧ i < n)
  | _ => false

/-- An increment of an entry, which may be counted from the end. -/
def hits (n : Nat) (counter : ObjectiveCounter) (entry : Nat) : Call → Bool
  | increment name (some i) =>
    name == counter.name && (i == (entry : Int) || i == (entry : Int) - n)
  | _ => false

/-- An increment of a counter without entries, whatever its index. -/
def names (counter : ProblemCounter) : Call → Bool
  | increment name _ => name == counter.name
  | _ => false

/-- Where an increment adds one, if it succeeds. -/
def place? (n : Nat) : Call → Option Place
  | increment name index =>
    match CounterName.ofText name with
    | .objective counter => (index.bind (position? n)).map (.entry counter)
    | .problem counter => some (.whole counter)
    | .unknown => none
  | _ => none

end Call

/-- The increments since the last reset that succeeded. -/
def succeeded (n : Nat) (calls : List Call) : List Call :=
  (sinceLast Call.isReset calls).filter (·.succeeds n)

/-! ### Places -/

/-- A name is that of a counter with entries, or of another counter, or of none. -/
theorem name_cases (name : String) :
    (∃ counter : ObjectiveCounter, name = counter.name)
      ∨ (∃ counter : ProblemCounter, name = counter.name)
      ∨ (∀ counter : ObjectiveCounter, name ≠ counter.name)
        ∧ ∀ counter : ProblemCounter, name ≠ counter.name := by
  by_cases hobjective : ∃ counter : ObjectiveCounter, name = counter.name
  · exact .inl hobjective
  · by_cases hproblem : ∃ counter : ProblemCounter, name = counter.name
    · exact .inr (.inl hproblem)
    · exact .inr (.inr ⟨not_exists.mp hobjective, not_exists.mp hproblem⟩)

namespace Call

variable {n : Nat} {name : String} {index : Option Int}

theorem place?_objective (counter : ObjectiveCounter) :
    (increment counter.name index).place? n = (index.bind (position? n)).map (.entry counter) := by
  rw [place?, CounterName.ofText_objective]

theorem place?_problem (counter : ProblemCounter) :
    (increment counter.name index).place? n = some (.whole counter) := by
  rw [place?, CounterName.ofText_problem]

theorem place?_unknown (hobjective : ∀ counter : ObjectiveCounter, name ≠ counter.name)
    (hproblem : ∀ counter : ProblemCounter, name ≠ counter.name) :
    (increment name index).place? n = none := by
  rw [place?, CounterName.ofText_unknown hobjective hproblem]

theorem place?_eq_entry_iff {counter : ObjectiveCounter} {entry : Nat} {call : Call} :
    call.place? n = some (.entry counter entry) ↔ entry < n ∧ call.hits n counter entry = true := by
  cases call with
  | increment name index =>
      obtain ⟨other, rfl⟩ | ⟨other, rfl⟩ | ⟨hobjective, hproblem⟩ := name_cases name
      · rw [place?_objective]
        cases index with
        | none => simp [hits]
        | some i =>
            simp only [hits, Bool.and_eq_true, Bool.or_eq_true, beq_iff_eq,
              ObjectiveCounter.name_inj, Option.bind_some, Option.map_eq_some_iff,
              Place.entry.injEq]
            constructor
            · rintro ⟨position, hposition, rfl, rfl⟩
              obtain ⟨hentry, hi⟩ := position?_eq_some.mp hposition
              exact ⟨hentry, rfl, hi⟩
            · rintro ⟨hentry, rfl, hi⟩
              exact ⟨entry, position?_eq_some.mpr ⟨hentry, hi⟩, rfl, rfl⟩
      · have hname : other.name ≠ counter.name := (counter.name_ne_problem other).symm
        rw [place?_problem]
        cases index with
        | none => simp [hits]
        | some i => simp [hits, hname]
      · rw [place?_unknown hobjective hproblem]
        cases index with
        | none => simp [hits]
        | some i => simp [hits, hobjective counter]
  | _ => simp [place?, hits]

theorem place?_eq_whole_iff {counter : ProblemCounter} {call : Call} :
    call.place? n = some (.whole counter) ↔ call.names counter = true := by
  cases call with
  | increment name index =>
      obtain ⟨other, rfl⟩ | ⟨other, rfl⟩ | ⟨hobjective, hproblem⟩ := name_cases name
      · have hname : other.name ≠ counter.name := other.name_ne_problem counter
        rw [place?_objective, Option.map_eq_some_iff]
        simp [names, hname]
      · rw [place?_problem]
        simp [names, ProblemCounter.name_inj]
      · rw [place?_unknown hobjective hproblem]
        simp [names, hproblem counter]
  | _ => simp [place?, names]

theorem succeeds_objective (counter : ObjectiveCounter) :
    (increment counter.name index).succeeds n
      = index.any fun i => decide (-(n : Int) ≤ i ∧ i < n) := by
  cases counter <;> rfl

theorem succeeds_problem (counter : ProblemCounter) :
    (increment counter.name index).succeeds n = true := by
  cases counter <;> rfl

theorem succeeds_unknown (hobjective : ∀ counter : ObjectiveCounter, name ≠ counter.name)
    (hproblem : ∀ counter : ProblemCounter, name ≠ counter.name) :
    (increment name index).succeeds n = false := by
  simp only [succeeds, Bool.or_eq_false_iff, Bool.and_eq_false_iff, List.any_eq_false, beq_iff_eq]
  exact ⟨fun counter _ h => hproblem counter h.symm,
    .inl fun counter _ h => hobjective counter h.symm⟩

theorem succeeds_eq_place? (call : Call) : call.succeeds n = (call.place? n).isSome := by
  cases call with
  | increment name index =>
      obtain ⟨counter, rfl⟩ | ⟨counter, rfl⟩ | ⟨hobjective, hproblem⟩ := name_cases name
      · rw [place?_objective, succeeds_objective, Option.isSome_map, Bool.eq_iff_iff]
        cases index with
        | none => simp
        | some i =>
            simp only [Option.any_some, decide_eq_true_eq, Option.bind_some,
              Option.isSome_iff_exists]
            exact exists_position?_iff.symm
      · rw [place?_problem, succeeds_problem]
        rfl
      · rw [place?_unknown hobjective hproblem, succeeds_unknown hobjective hproblem]
        rfl
  | _ => rfl

theorem within_of_place? {call : Call} {place : Place} (hplace : call.place? n = some place) :
    place.Within n := by
  cases place with
  | entry counter position => exact (place?_eq_entry_iff.mp hplace).1
  | whole counter => trivial

end Call

/-! ### One increment -/

variable {counters : Counters} {n : Nat}

theorem increment_objective (hnobj : counters.nobj = n) (counter : ObjectiveCounter) (i : Int) :
    counters.increment counter.name (some i) =
      match position? n i with
      | some position => .ok (counters.bump counter position)
      | none => .error (.mishap .badIndex) := by
  cases hposition : position? n i with
  | none => simp only [increment, CounterName.ofText_objective, hnobj, hposition]
  | some position => simp only [increment, CounterName.ofText_objective, hnobj, hposition]

theorem increment_objective_none (counters : Counters) (counter : ObjectiveCounter) :
    counters.increment counter.name none = .error (.noIndex counter.name) := by
  rw [increment, CounterName.ofText_objective]

theorem increment_problem (counters : Counters) (counter : ProblemCounter) (index : Option Int) :
    counters.increment counter.name index = .ok (counters.tick counter) := by
  rw [increment, CounterName.ofText_problem]

theorem increment_unknown {name : String} (counters : Counters) (index : Option Int)
    (hobjective : ∀ counter : ObjectiveCounter, name ≠ counter.name)
    (hproblem : ∀ counter : ProblemCounter, name ≠ counter.name) :
    counters.increment name index = .error (.unknown name) := by
  rw [increment, CounterName.ofText_unknown hobjective hproblem]

theorem increment_objective_ok_iff (hnobj : counters.nobj = n) (counter : ObjectiveCounter)
    (index : Option Int) :
    (∃ after, counters.increment counter.name index = .ok after)
      ↔ ∃ i, index = some i ∧ -(n : Int) ≤ i ∧ i < n := by
  cases index with
  | none => simp [increment_objective_none]
  | some i =>
      simp only [increment_objective hnobj, Option.some.injEq, exists_eq_left',
        ← exists_position?_iff]
      cases position? n i <;> simp

theorem perform_failed {call : Call} {failure : Failure}
    (hfailed : (counters.perform call).1 = .error failure) :
    (counters.perform call).2 = counters := by
  cases call with
  | increment name index =>
      rw [perform] at hfailed ⊢
      cases hincrement : counters.increment name index with
      | ok after => simp [hincrement] at hfailed
      | error reason => rfl
  | reset => cases hfailed
  | _ => rfl

/-- A call adds to the place that it names, if there is one, unless it clears everything. -/
theorem perform_adds (hnobj : counters.nobj = n) {call : Call} (hcall : call.isReset = false) :
    (counters.perform call).2 = counters.addAll (call.place? n).toList := by
  cases call with
  | increment name index =>
      rw [perform]
      obtain ⟨counter, rfl⟩ | ⟨counter, rfl⟩ | ⟨hobjective, hproblem⟩ := name_cases name
      · rw [Call.place?_objective]
        cases index with
        | none =>
            rw [increment_objective_none]
            rfl
        | some i =>
            rw [increment_objective hnobj, Option.bind_some]
            cases position? n i <;> rfl
      · rw [increment_problem, Call.place?_problem]
        rfl
      · rw [increment_unknown _ _ hobjective hproblem, Call.place?_unknown hobjective hproblem]
        rfl
  | reset => cases hcall
  | _ => rfl

/-! ### All calls -/

/-- The places that the calls since the last reset added to. -/
def placesAdded (n : Nat) (calls : List Call) : List Place :=
  (sinceLast Call.isReset calls).filterMap (·.place? n)

theorem performAll_eq_tally (n : Nat) (calls : List Call) :
    (empty n).performAll calls = (empty n).addAll (placesAdded n calls) := by
  apply foldl_eq_tally
  · intro counters call hfits hreset
    cases call with
    | reset => exact congrArg empty hfits.nobj
    | _ => cases hreset
  · intro counters call hfits hcall
    exact perform_adds hfits.nobj hcall

theorem count_placesAdded {place : Place} {test : Call → Bool} (n : Nat) (calls : List Call)
    (htest : ∀ call : Call, call.place? n = some place ↔ test call = true) :
    (placesAdded n calls).count place = (succeeded n calls).countP test := by
  rw [placesAdded, count_filterMap_place htest, succeeded, List.countP_filter]
  apply List.countP_congr
  intro call _
  rw [Bool.and_eq_true, ← htest, Call.succeeds_eq_place?]
  constructor
  · intro hplace
    rw [hplace]
    exact ⟨rfl, rfl⟩
  · exact And.left

theorem length_placesAdded (n : Nat) (calls : List Call) :
    (placesAdded n calls).length = (succeeded n calls).length := by
  rw [placesAdded, List.length_filterMap_eq_countP, succeeded, ← List.countP_eq_length_filter]
  apply List.countP_congr
  intro call _
  rw [Call.succeeds_eq_place?]

theorem length_succeeded_le (n : Nat) (calls : List Call) :
    (succeeded n calls).length ≤ calls.length :=
  (List.length_filter_le _ _).trans (List.rtakeWhile_suffix _ _).length_le

theorem within_of_mem_placesAdded {calls : List Call} {place : Place}
    (hplace : place ∈ placesAdded n calls) : place.Within n := by
  obtain ⟨call, -, hcall⟩ := List.mem_filterMap.mp hplace
  exact Call.within_of_place? hcall

theorem fits_performAll (n : Nat) (calls : List Call) : ((empty n).performAll calls).Fits n := by
  rw [performAll_eq_tally]
  exact (fits_empty n).addAll _

def Reading.sum : Reading → Nat
  | .single n => n
  | .each entries => entries.foldr (· + ·) 0

theorem total_eq_snapshot (counters : Counters) :
    counters.total = (counters.snapshot.map (·.2.sum)).foldr (· + ·) 0 := by
  simp only [total, problemSum, objectiveSum, snapshot, Reading.sum, ProblemCounter.all,
    ObjectiveCounter.all, List.map_cons, List.map_nil, List.map_append, List.foldr_append,
    List.foldr_cons, List.foldr_nil]
  omega

/-- What counters of `n` objectives hold after these calls: of every counter, the increments since
the last reset that succeeded. -/
structure Tallied (n : Nat) (calls : List Call) (counters : Counters) : Prop where
  objective : ∀ counter, counters.entries counter
    = (List.range n).map fun entry => (succeeded n calls).countP (·.hits n counter entry)
  problem : ∀ counter, counters.count counter = (succeeded n calls).countP (·.names counter)
  total : counters.total = (succeeded n calls).length
  sums : counters.total = counters.problemSum + counters.objectiveSum
  snapshot : counters.total = (counters.snapshot.map (·.2.sum)).foldr (· + ·) 0
  /-- With fewer calls than a machine integer can count, none overflows. -/
  machine : calls.length < 0x8000000000000000 → counters.objectiveSum < 0x8000000000000000
    ∧ ∀ counter, ∀ count ∈ counters.entries counter, count < 0x8000000000000000

theorem tallied_performAll (n : Nat) (calls : List Call) :
    Tallied n calls ((empty n).performAll calls) := by
  have hlength := length_succeeded_le n calls
  have hobjective : ∀ counter, ((empty n).performAll calls).entries counter
      = (List.range n).map fun entry => (succeeded n calls).countP (·.hits n counter entry) := by
    intro counter
    rw [performAll_eq_tally, entries_tally]
    apply List.map_congr_left
    intro entry hentry
    apply count_placesAdded
    intro call
    rw [Call.place?_eq_entry_iff, and_iff_right (List.mem_range.mp hentry)]
  have htotal : ((empty n).performAll calls).total = (succeeded n calls).length := by
    rw [performAll_eq_tally, total_tally fun _ => within_of_mem_placesAdded, length_placesAdded]
  exact {
    objective := hobjective
    problem := by
      intro counter
      rw [performAll_eq_tally, count_tally]
      exact count_placesAdded n calls fun call => Call.place?_eq_whole_iff
    total := htotal
    sums := rfl
    snapshot := total_eq_snapshot _
    machine := by
      intro hcalls
      refine ⟨?_, ?_⟩
      · rw [Counters.total] at htotal
        omega
      · intro counter count hcount
        rw [hobjective, List.mem_map] at hcount
        obtain ⟨entry, -, rfl⟩ := hcount
        exact (List.countP_le_length.trans hlength).trans_lt hcalls }

/-- How counters of `n` objectives answer calls. -/
structure Lawful (n : Nat) (counters : Counters) : Prop where
  objective : ∀ (counter : ObjectiveCounter) index,
    (∃ after, counters.increment counter.name index = .ok after)
      ↔ ∃ i, index = some i ∧ -(n : Int) ≤ i ∧ i < n
  problem : ∀ counter : ProblemCounter, ∃ after, ∀ index,
    counters.increment counter.name index = .ok after
  unknown : ∀ name, (∀ counter : ObjectiveCounter, name ≠ counter.name) →
    (∀ counter : ProblemCounter, name ≠ counter.name) → ∀ index,
      counters.increment name index = .error (.unknown name)
  succeeds : ∀ name index, (∃ after, counters.increment name index = .ok after)
    ↔ (Call.increment name index).succeeds n = true
  failed : ∀ call failure, (counters.perform call).1 = .error failure →
    (counters.perform call).2 = counters
  reads : ∀ call : Call, call.isReset = false → call.succeeds n = false →
    (counters.perform call).2 = counters
  reset : counters.perform .reset = (.ok .done, empty n)

theorem Fits.lawful (hfits : counters.Fits n) : Lawful n counters where
  objective := increment_objective_ok_iff hfits.nobj
  problem counter := ⟨counters.tick counter, increment_problem counters counter⟩
  unknown _ hobjective hproblem index := increment_unknown counters index hobjective hproblem
  succeeds := by
    intro name index
    obtain ⟨counter, rfl⟩ | ⟨counter, rfl⟩ | ⟨hobjective, hproblem⟩ := name_cases name
    · rw [increment_objective_ok_iff hfits.nobj, Call.succeeds_objective]
      cases index <;> simp
    · simp [increment_problem, Call.succeeds_problem]
    · simp [increment_unknown _ _ hobjective hproblem,
        Call.succeeds_unknown hobjective hproblem]
  failed _ _ := perform_failed
  reads := by
    intro call hcall hsucceeds
    rw [Call.succeeds_eq_place?, Option.isSome_eq_false_iff, Option.isNone_iff_eq_none] at hsucceeds
    rw [perform_adds hfits.nobj hcall, hsucceeds]
    rfl
  reset := by
    rw [perform, Counters.reset, hfits.nobj]

/-- **Counters hold what was counted**, after every history of calls. -/
theorem performAll_counts (n : Nat) (calls : List Call) :
    ofSize? n = .ok (empty n) ∧ Tallied n calls ((empty n).performAll calls)
      ∧ Lawful n ((empty n).performAll calls) := by
  refine ⟨?_, tallied_performAll n calls, (fits_performAll n calls).lawful⟩
  rw [ofSize?, if_neg (by omega), Int.toNat_natCast]

/-- The same entry named from the end and from the beginning, after a reset and between failures. -/
example : ((empty 2).performAll [.increment "neval_gradi" (some 0), .reset,
      .increment "neval_gradi" (some (-1)), .increment "neval_gradi" (some 2),
      .increment "neval_gradi" none, .increment "neval_gradi" (some 1)]).gradi = [0, 2] := by
  decide

/-! ### What is read -/

theorem get_objective (hnobj : counters.nobj = n) (counter : ObjectiveCounter) (i : Int) :
    counters.get counter.name (some i) =
      match (position? n i).bind ((counters.entries counter)[·]?) with
      | some count => .ok (.single count)
      | none => .error (.mishap .badIndex) := by
  cases hread : (position? n i).bind ((counters.entries counter)[·]?) with
  | none => simp only [get, CounterName.ofText_objective, hnobj, hread]
  | some count => simp only [get, CounterName.ofText_objective, hnobj, hread]

theorem get_objective_none (counters : Counters) (counter : ObjectiveCounter) :
    counters.get counter.name none = .ok (.each (counters.entries counter)) := by
  rw [get, CounterName.ofText_objective]

theorem get_problem (counters : Counters) (counter : ProblemCounter) (index : Option Int) :
    counters.get counter.name index = .ok (.single (counters.count counter)) := by
  rw [get, CounterName.ofText_problem]

theorem get_unknown {name : String} (counters : Counters) (index : Option Int)
    (hobjective : ∀ counter : ObjectiveCounter, name ≠ counter.name)
    (hproblem : ∀ counter : ProblemCounter, name ≠ counter.name) :
    counters.get name index = .error (.unknown name) := by
  rw [get, CounterName.ofText_unknown hobjective hproblem]

theorem get_objective_eq_ok (hfits : counters.Fits n) (counter : ObjectiveCounter) (i : Int)
    (count : Nat) :
    counters.get counter.name (some i) = .ok (.single count) ↔
      ∃ entry : Nat, (i = entry ∨ i = (entry : Int) - n) ∧
        (counters.entries counter)[entry]? = some count := by
  have hread : counters.get counter.name (some i) = .ok (.single count) ↔
      (position? n i).bind ((counters.entries counter)[·]?) = some count := by
    rw [get_objective hfits.nobj]
    cases (position? n i).bind ((counters.entries counter)[·]?) <;> simp
  rw [hread, Option.bind_eq_some_iff]
  apply exists_congr
  intro entry
  rw [position?_eq_some, and_assoc]
  constructor
  · exact And.right
  · rintro ⟨hi, hcount⟩
    obtain ⟨hentry, -⟩ := List.getElem?_eq_some_iff.mp hcount
    exact ⟨hfits.entries counter ▸ hentry, hi, hcount⟩

/-- All counters together are what each of them is read as without an index. -/
theorem mem_snapshot_iff {name : String} {reading : Reading} :
    (name, reading) ∈ counters.snapshot ↔ counters.get name none = .ok reading := by
  have hobjectives (counter : ObjectiveCounter) : counter ∈ ObjectiveCounter.all := by
    cases counter <;> decide
  have hproblems (counter : ProblemCounter) : counter ∈ ProblemCounter.all := by
    cases counter <;> decide
  simp only [snapshot, List.mem_append, List.mem_map, Prod.mk.injEq]
  constructor
  · rintro (⟨counter, -, rfl, rfl⟩ | ⟨counter, -, rfl, rfl⟩)
    · exact get_objective_none counters counter
    · exact get_problem counters counter none
  · intro hread
    obtain ⟨counter, rfl⟩ | ⟨counter, rfl⟩ | ⟨hobjective, hproblem⟩ := name_cases name
    · rw [get_objective_none] at hread
      exact .inl ⟨counter, hobjectives counter, rfl, Except.ok.inj hread⟩
    · rw [get_problem] at hread
      exact .inr ⟨counter, hproblems counter, rfl, Except.ok.inj hread⟩
    · rw [get_unknown counters none hobjective hproblem] at hread
      cases hread

/-- After every history of calls each counter is read as its increments since the last reset, entry
by entry and as a whole, and stands under its name among all counters. -/
theorem performAll_reads (n : Nat) (calls : List Call) :
    (∀ counter : ObjectiveCounter, ((empty n).performAll calls).get counter.name none =
        .ok (.each ((List.range n).map fun entry =>
          (succeeded n calls).countP (·.hits n counter entry)))) ∧
      (∀ (counter : ObjectiveCounter) (entry : Nat), entry < n →
        ∀ i : Int, i = entry ∨ i = (entry : Int) - n →
          ((empty n).performAll calls).get counter.name (some i) =
            .ok (.single ((succeeded n calls).countP (·.hits n counter entry)))) ∧
      (∀ (counter : ProblemCounter) index,
        ((empty n).performAll calls).get counter.name index =
          .ok (.single ((succeeded n calls).countP (·.names counter)))) ∧
      ∀ name reading, (name, reading) ∈ ((empty n).performAll calls).snapshot ↔
        ((empty n).performAll calls).get name none = .ok reading := by
  have htallied := tallied_performAll n calls
  refine ⟨?_, ?_, ?_, fun name reading => mem_snapshot_iff⟩
  · intro counter
    rw [get_objective_none, htallied.objective]
  · intro counter entry hentry i hi
    refine (get_objective_eq_ok (fits_performAll n calls) counter i _).mpr ⟨entry, hi, ?_⟩
    rw [htallied.objective, List.getElem?_map, List.getElem?_range hentry, Option.map_some]
  · intro counter index
    rw [get_problem, htallied.problem]

end Counters

end Multigrad
