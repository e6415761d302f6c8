import Multigrad.Model.Basic
import Multigrad.Proofs.Counters.Tally

/-!
# What the evaluations of a model count

A model is evaluated, asked about its counters and reset in any order. The whole problem counts its
evaluations at points that can be read; a single objective counts every evaluation with its index,
also at points that cannot be read and where the evaluation fails. An index that is none of an
objective counts nothing, and no evaluation counts anything else.
-/

namespace Multigrad.Model

open Counters (Place SameBut sinceLast)

/-! ### Calls -/

inductive Call (R : Type) where
  | obj (x : Value R)
  | grad (x : Value R)
  | objI (index : Int) (x : Value R)
  | gradI (index : Int) (x : Value R)
  | counter (name : String) (index : Option Int)
  | count
  | reset

inductive Reply (R : Type) where
  | value (value : R)
  | gradient (gradient : List R)
  | reading (reading : Counters.Reading)
  | count (evaluations : Nat)
  | done

inductive Refusal where
  | evaluation (failure : Failure)
  | counter (failure : Counters.Failure)

variable {R : Type}

namespace Call

def isReset : Call R → Bool
  | reset => true
  | _ => false

/-- An evaluation of the objective with this index. -/
def namesObjI (i : Nat) : Call R → Bool
  | objI index _ => index == (i : Int)
  | _ => false

/-- An evaluation of the gradient with this index. -/
def namesGradI (i : Nat) : Call R → Bool
  | gradI index _ => index == (i : Int)
  | _ => false

end Call

variable [Scalar R] [Completion R]

namespace Call

/-- An evaluation of the whole objective at a point that can be read. -/
def readsObj : Call R → Bool
  | obj x => x.grid?.isOk
  | _ => false

/-- An evaluation of the whole gradient at a point that can be read. -/
def readsGrad : Call R → Bool
  | grad x => x.grid?.isOk
  | _ => false

/-- Where a call adds one to counters of `n` objectives. -/
def place? (n : Nat) : Call R → Option Place
  | obj x => if x.grid?.isOk then some (.whole .obj) else none
  | grad x => if x.grid?.isOk then some (.whole .grad) else none
  | objI index _ => if 0 ≤ index ∧ index < n then some (.entry .obji index.toNat) else none
  | gradI index _ => if 0 ≤ index ∧ index < n then some (.entry .gradi index.toNat) else none
  | _ => none

end Call

/-- Carries out a call, and says what came of it. -/
def perform (model : Model R) (counters : Counters) :
    Call R → Except Refusal (Reply R) × Counters
  | .obj x =>
    let (result, counters) := model.obj x.grid? counters
    ((result.map .value).mapError .evaluation, counters)
  | .grad x =>
    let (result, counters) := model.grad x.grid? counters
    ((result.map .gradient).mapError .evaluation, counters)
  | .objI index x =>
    let (result, counters) := model.objI index x.grid? counters
    ((result.map .value).mapError .evaluation, counters)
  | .gradI index x =>
    let (result, counters) := model.gradI index x.grid? counters
    ((result.map .gradient).mapError .evaluation, counters)
  | .counter name index =>
    (((counters.get name index).map .reading).mapError .counter, counters)
  | .count => (.ok (.count counters.total), counters)
  | .reset => (.ok .done, counters.reset)

/-- The counters of a model after these calls, some of which may have failed. -/
def performAll (model : Model R) (calls : List (Call R)) : Counters :=
  calls.foldl (fun counters call => (model.perform counters call).2)
    (Counters.empty model.problem.nobj)

/-! ### Places -/

namespace Call

variable {n : Nat} {call : Call R}

theorem place?_eq_obj_iff : call.place? n = some (.whole .obj) ↔ call.readsObj = true := by
  cases call <;> simp [place?, readsObj]

theorem place?_eq_grad_iff : call.place? n = some (.whole .grad) ↔ call.readsGrad = true := by
  cases call <;> simp [place?, readsGrad]

theorem place?_eq_obji_iff {i : Nat} (hi : i < n) :
    call.place? n = some (.entry .obji i) ↔ call.namesObjI i = true := by
  cases call <;> (simp [place?, namesObjI]; try omega)

theorem place?_eq_gradi_iff {i : Nat} (hi : i < n) :
    call.place? n = some (.entry .gradi i) ↔ call.namesGradI i = true := by
  cases call <;> (simp [place?, namesGradI]; try omega)

theorem place?_ne_whole {counter : ProblemCounter} (hobj : counter ≠ .obj)
    (hgrad : counter ≠ .grad) : call.place? n ≠ some (.whole counter) := by
  cases call <;> simp [place?, hobj.symm, hgrad.symm]

theorem place?_ne_entry {counter : ObjectiveCounter} (hobji : counter ≠ .obji)
    (hgradi : counter ≠ .gradi) (i : Nat) : call.place? n ≠ some (.entry counter i) := by
  cases call <;> simp [place?, hobji.symm, hgradi.symm]

end Call

/-! ### One call -/

variable {α : Type} {model : Model R} {counters : Counters}

omit [Scalar R] [Completion R] in
theorem evaluateAt_adds (counter : ObjectiveCounter) (index : Int) (x : Point R)
    (evaluation : Nat → Grid R → Except Mishap α) :
    (model.evaluateAt counter index x evaluation counters).2
      = counters.addAll (if 0 ≤ index ∧ index < model.problem.nobj
          then some (Place.entry counter index.toNat) else none).toList := by
  unfold evaluateAt
  split <;> rfl

omit [Scalar R] [Completion R] in
theorem evaluate_adds (counter : ProblemCounter) (x : Point R)
    (evaluation : Grid R → Except Mishap α) :
    (evaluate counter x evaluation counters).2
      = counters.addAll (if x.isOk then some (Place.whole counter) else none).toList := by
  cases x <;> rfl

/-- A call adds to its place, if it has one, unless it resets everything. -/
theorem perform_adds {call : Call R} (hcall : call.isReset = false) :
    (model.perform counters call).2
      = counters.addAll (call.place? model.problem.nobj).toList := by
  cases call with
  | obj x => exact evaluate_adds .obj x.grid? model.total
  | grad x => exact evaluate_adds .grad x.grid? model.totalGradient
  | objI index x => exact evaluateAt_adds .obji index x.grid? model.value
  | gradI index x => exact evaluateAt_adds .gradi index x.grid? model.gradient
  | reset => cases hcall
  | _ => rfl

theorem performAll_eq_tally (model : Model R) (calls : List (Call R)) :
    model.performAll calls = (Counters.empty model.problem.nobj).addAll
      ((sinceLast Call.isReset calls).filterMap (·.place? model.problem.nobj)) := by
  apply Counters.foldl_eq_tally
  · intro counters call hfits hreset
    cases call with
    | reset => exact congrArg Counters.empty hfits.nobj
    | _ => cases hreset
  · intro counters call _ hcall
    exact perform_adds hcall

theorem entries_performAll {test : Nat → Call R → Bool} (model : Model R)
    (calls : List (Call R)) (counter : ObjectiveCounter)
    (htest : ∀ i < model.problem.nobj, ∀ call : Call R,
      call.place? model.problem.nobj = some (.entry counter i) ↔ test i call = true) :
    (model.performAll calls).entries counter = (List.range model.problem.nobj).map fun i =>
      (sinceLast Call.isReset calls).countP (test i) := by
  rw [performAll_eq_tally, Counters.entries_tally]
  apply List.map_congr_left
  intro i hi
  exact Counters.count_filterMap_place (htest i (List.mem_range.mp hi)) _

theorem count_performAll {test : Call R → Bool} (model : Model R) (calls : List (Call R))
    (counter : ProblemCounter)
    (htest : ∀ call : Call R,
      call.place? model.problem.nobj = some (.whole counter) ↔ test call = true) :
    (model.performAll calls).count counter = (sinceLast Call.isReset calls).countP test := by
  rw [performAll_eq_tally, Counters.count_tally]
  exact Counters.count_filterMap_place htest _

/-! ### All calls -/

/-- What the counters of a model hold after these calls: the evaluations since the last reset that
count. -/
structure Counted (model : Model R) (calls : List (Call R)) (counters : Counters) : Prop where
  obj : counters.obj = (sinceLast Call.isReset calls).countP Call.readsObj
  grad : counters.grad = (sinceLast Call.isReset calls).countP Call.readsGrad
  obji : counters.obji = (List.range model.problem.nobj).map fun i =>
    (sinceLast Call.isReset calls).countP (Call.namesObjI i)
  gradi : counters.gradi = (List.range model.problem.nobj).map fun i =>
    (sinceLast Call.isReset calls).countP (Call.namesGradI i)
  otherWhole : ∀ counter, counter ≠ .obj → counter ≠ .grad → counters.count counter = 0
  otherEntries : ∀ counter, counter ≠ .obji → counter ≠ .gradi →
    counters.entries counter = List.replicate model.problem.nobj 0

theorem counted_performAll (model : Model R) (calls : List (Call R)) :
    Counted model calls (model.performAll calls) where
  obj := count_performAll model calls .obj fun _ => Call.place?_eq_obj_iff
  grad := count_performAll model calls .grad fun _ => Call.place?_eq_grad_iff
  obji := entries_performAll model calls .obji fun _ hi _ => Call.place?_eq_obji_iff hi
  gradi := entries_performAll model calls .gradi fun _ hi _ => Call.place?_eq_gradi_iff hi
  otherWhole := by
    intro counter hobj hgrad
    have hnever (call : Call R) : call.place? model.problem.nobj = some (.whole counter)
        ↔ (fun _ => false) call = true :=
      iff_of_false (Call.place?_ne_whole hobj hgrad) Bool.false_ne_true
    rw [count_performAll model calls counter hnever]
    exact congrFun List.countP_false _
  otherEntries := by
    intro counter hobji hgradi
    have hnever (i : Nat) (_ : i < model.problem.nobj) (call : Call R) :
        call.place? model.problem.nobj = some (.entry counter i)
          ↔ (fun _ _ => false) i call = true :=
      iff_of_false (Call.place?_ne_entry hobji hgradi i) Bool.false_ne_true
    rw [entries_performAll model calls counter hnever]
    simp

/-- What a single evaluation of a model changes, on any counters. -/
structure Touches (model : Model R) (counters : Counters) : Prop where
  obj : ∀ x, SameBut (.whole .obj) counters (model.perform counters (.obj x)).2
  grad : ∀ x, SameBut (.whole .grad) counters (model.perform counters (.grad x)).2
  objI : ∀ index x,
    SameBut (.entry .obji index.toNat) counters (model.perform counters (.objI index x)).2
  gradI : ∀ index x,
    SameBut (.entry .gradi index.toNat) counters (model.perform counters (.gradI index x)).2
  reads : (∀ name index, (model.perform counters (.counter name index)).2 = counters)
    ∧ (model.perform counters .count).2 = counters
  /-- An index outside of the objectives is refused, and nothing is counted. -/
  outside : ∀ (index : Int) x, ¬(0 ≤ index ∧ index < model.problem.nobj) →
    model.perform counters (.objI index x)
        = (.error (.evaluation (.noObjective index model.problem.nobj)), counters)
      ∧ model.perform counters (.gradI index x)
        = (.error (.evaluation (.noObjective index model.problem.nobj)), counters)

theorem sameBut_perform {call : Call R} {place : Place} {counts : Prop} [Decidable counts]
    (hcall : call.isReset = false)
    (hplace : call.place? model.problem.nobj = if counts then some place else none) :
    SameBut place counters (model.perform counters call).2 := by
  rw [perform_adds hcall, hplace]
  split
  · exact Counters.sameBut_add counters place
  · exact .refl place counters

omit [Scalar R] [Completion R] in
theorem evaluateAt_outside {index : Int}
    (hindex : ¬(0 ≤ index ∧ index < model.problem.nobj)) (counter : ObjectiveCounter)
    (x : Point R) (evaluation : Nat → Grid R → Except Mishap α) :
    model.evaluateAt counter index x evaluation counters
      = (.error (.noObjective index model.problem.nobj), counters) := if_neg hindex

theorem touches (model : Model R) (counters : Counters) : Touches model counters where
  obj _ := sameBut_perform rfl rfl
  grad _ := sameBut_perform rfl rfl
  objI _ _ := sameBut_perform rfl rfl
  gradI _ _ := sameBut_perform rfl rfl
  reads := ⟨fun _ _ => rfl, rfl⟩
  outside := by
    intro index x hindex
    simp only [perform, Model.objI, Model.gradI, evaluateAt_outside hindex]
    exact ⟨rfl, rfl⟩

/-- **Evaluations are counted where they belong**, after every history of calls. -/
theorem performAll_evaluations (model : Model R) (calls : List (Call R)) :
    Counted model calls (model.performAll calls)
      ∧ ∀ counters, Touches model counters :=
  ⟨counted_performAll model calls, touches model⟩

end Multigrad.Model
