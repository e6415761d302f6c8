import Multigrad.Proofs.Meta.Declared
import Mathlib.Algebra.Ring.Int.Defs

/-!
# What becomes of a well-typed description

The dimensions, the room for vectors, the default for the entries of the Hessians, the lengths, the
indices, the objective types and the bounds of a description are checked in this order, and the
first check that it does not pass decides how it is refused. Nothing else refuses a well-typed
description: what it leaves out is filled up with defaults that pass every later check.
-/

namespace Multigrad.Meta

/-- How building ends: with no failure or with one of a kind. -/
def outcome {α : Type} : Except Failure α → Option FailureKind
  | .ok _ => none
  | .error failure => some failure.kind

/-- A stage that is bad in one way decides the outcome when it is, and leaves it to the rest
otherwise. -/
theorem outcome_bind {α β : Type} {kind : FailureKind} {rest : Option FailureKind}
    {first : Except Failure α} {next : α → Except Failure β} {bad : Prop} [Decidable bad]
    (hfails : FailsWith kind first) (hbad : bad ↔ ¬∃ a, first = .ok a)
    (hrest : ∀ a, first = .ok a → outcome (next a) = rest) :
    outcome (first >>= next) = if bad then some kind else rest := by
  cases hfirst : first with
  | ok a =>
      rw [if_neg (mt hbad.mp (not_not.mpr ⟨a, hfirst⟩))]
      exact hrest a hfirst
  | error failure =>
      have hnone : ¬∃ a, first = .ok a := by
        rintro ⟨a, ha⟩
        cases hfirst.symm.trans ha
      rw [if_pos (hbad.mpr hnone)]
      exact congrArg some (hfails failure hfirst)

namespace Declared

/-! ### What is refused -/

/-- The lengths of the declared vectors and lists, next to the ones they should have. -/
def lengths (declared : Declared) : List (Option Nat × Nat) :=
  let ⟨nvar, nobj, ncon⟩ := declared.dimensions
  [(declared.weights.map List.length, nobj), (declared.objtypes.map List.length, nobj),
    (declared.nnzhi.map List.length, nobj), (declared.x0.map List.length, nvar),
    (declared.lvar.map List.length, nvar), (declared.uvar.map List.length, nvar),
    (declared.y0.map List.length, ncon), (declared.lcon.map List.length, ncon),
    (declared.ucon.map List.length, ncon)]

/-- The declared counts, next to the lengths of their lists. -/
def counts (declared : Declared) : List (Option Int × Nat) :=
  [(declared.nlin, (declared.lin.map List.length).getD 0),
    (declared.nnln, (declared.nln.map List.length).getD declared.dimensions.ncon),
    (declared.nnnet, (declared.nnet.map List.length).getD 0),
    (declared.nlnet, (declared.lnet.map List.length).getD 0)]

def BadLengths (declared : Declared) : Prop :=
  (∃ entry ∈ declared.lengths, ∃ length ∈ entry.1, length ≠ entry.2)
    ∨ ∃ entry ∈ declared.counts, ∃ count ∈ entry.1, count ≠ (entry.2 : Int)

/-- A declared list has an index of no constraint or an index twice. -/
def BadIndices (declared : Declared) : Prop :=
  ∃ given ∈ [declared.lin, declared.nln, declared.nnet, declared.lnet], ∃ indices ∈ given,
    (∃ index ∈ indices, index < 0 ∨ (declared.dimensions.ncon : Int) ≤ index) ∨ ¬indices.Nodup

def acceptedNames : List String := ["linear", "lin", "quadratic", "quad", "general", "gen"]

def BadTypes (declared : Declared) : Prop :=
  ∃ names ∈ declared.objtypes, ∃ name ∈ names, name ∉ acceptedNames

def BadBounds (declared : Declared) : Prop :=
  ∃ given ∈ [declared.lvar, declared.uvar, declared.lcon, declared.ucon], ∃ bounds ∈ given,
    ∃ bound ∈ bounds, bound.isNaN = true

instance (declared : Declared) : Decidable declared.BadDimensions :=
  inferInstanceAs (Decidable (_ ∨ _))

instance (declared : Declared) : Decidable declared.BadSizes :=
  inferInstanceAs (Decidable (∃ _, _))

instance (declared : Declared) : Decidable declared.BadDefault :=
  inferInstanceAs (Decidable (_ ∧ _))

instance (declared : Declared) : Decidable declared.BadLengths :=
  inferInstanceAs (Decidable (_ ∨ _))

instance (declared : Declared) : Decidable declared.BadIndices :=
  inferInstanceAs (Decidable (∃ _, _))

instance (declared : Declared) : Decidable declared.BadTypes :=
  inferInstanceAs (Decidable (∃ _, _))

instance (declared : Declared) : Decidable declared.BadBounds :=
  inferInstanceAs (Decidable (∃ _, _))

def failure? (declared : Declared) : Option FailureKind :=
  if declared.BadDimensions then some .dimension
  else if declared.BadSizes then some (.validation [.value])
  else if declared.BadDefault then some (.unreadable .overflow)
  else if declared.BadLengths then some .length
  else if declared.BadIndices then some .range
  else if declared.BadTypes then some .objectiveType
  else if declared.BadBounds then some (.validation [.value])
  else none

/-! ### The checks of the draft -/

section Given

variable {α : Type}

theorem length_getD_eq_iff {given : Option (List α)} {default : List α} {n : Nat}
    (hdefault : default.length = n) :
    (given.getD default).length = n ↔ ∀ length ∈ given.map List.length, length = n := by
  cases given with
  | none => simp [hdefault]
  | some entries => simp

theorem length_getD (given : Option (List α)) (default : List α) :
    (given.getD default).length = (given.map List.length).getD default.length := by
  cases given <;> rfl

/-- A count that is not declared is right. -/
theorem counted_iff {key countKey : String} {given : Option (List Int)} {count : Option Int}
    {default : List Nat} {n : Nat} (hdefault : default.length = n) :
    (indexList key countKey given count default).Counted ↔
      ∀ k ∈ count, k = (((given.map List.length).getD n : Nat) : Int) := by
  have hlength := length_getD given (default.map Int.ofNat)
  rw [List.length_map, hdefault] at hlength
  rw [IndexList.Counted, indexList, Value.integer?, Except.ok.injEq, hlength]
  cases count <;> simp

theorem indexes_iff {key countKey : String} {given : Option (List Int)} {count : Option Int}
    {default : List Nat} {ncon : Nat} (hdistinct : default.Nodup)
    (hrange : ∀ index ∈ default, index < ncon) :
    (indexList key countKey given count default).Indexes ncon ↔
      ∀ indices ∈ given, (∀ index ∈ indices, 0 ≤ index ∧ index < (ncon : Int))
        ∧ indices.Nodup := by
  cases given with
  | none =>
      have hdefault : (indexList key countKey none count default).Indexes ncon :=
        IndexList.indexes_of_ofNat rfl hrange hdistinct
      simp [hdefault]
  | some indices => simp [IndexList.Indexes, indexList]

end Given

theorem badLengths_iff (declared : Declared) :
    declared.BadLengths ↔ ¬∃ u, declared.draft.checkLengths = .ok u := by
  have hreals (given : Option (List Float)) (n : Nat) (r : Float) :
      (∀ length ∈ given.map List.length, length = n)
        ↔ (given.getD (List.replicate n r)).length = n :=
    (length_getD_eq_iff List.length_replicate).symm
  have htypes : (∀ length ∈ declared.objtypes.map List.length, length = declared.dimensions.nobj)
      ↔ declared.draft.objtypes.length = declared.dimensions.nobj := by
    rw [draft, List.length_map]
    exact (length_getD_eq_iff (by simp [Dimensions.plain, ofDimensions])).symm
  have hnnzhi : (∀ length ∈ declared.nnzhi.map List.length, length = declared.dimensions.nobj)
      ↔ declared.draft.nnzhi.length = declared.dimensions.nobj :=
    (length_getD_eq_iff (by simp [Dimensions.plain, ofDimensions])).symm
  rw [← not_iff_not, not_not]
  simp only [Draft.checkLengths_eq_ok, exists_const, BadLengths, not_or, not_exists, not_and,
    not_not, lengths, counts, List.forall_mem_cons, List.not_mem_nil, false_implies, implies_true,
    and_true, Draft.measured_iff, and_assoc]
  exact and_congr (hreals _ _ _) <| and_congr htypes <| and_congr hnnzhi <|
    and_congr (hreals _ _ _) <| and_congr (hreals _ _ _) <| and_congr (hreals _ _ _) <|
    and_congr (hreals _ _ _) <| and_congr (hreals _ _ _) <| and_congr (hreals _ _ _) <|
    and_congr (counted_iff List.length_nil).symm <|
    and_congr (counted_iff List.length_range).symm <|
    and_congr (counted_iff List.length_nil).symm (counted_iff List.length_nil).symm

theorem badIndices_iff (declared : Declared) :
    declared.BadIndices ↔ ¬∃ u, declared.draft.checkRanges = .ok u := by
  have hnone {key countKey : String} {given : Option (List Int)} {count : Option Int} :
      (indexList key countKey given count []).Indexes declared.dimensions.ncon ↔ _ :=
    indexes_iff List.nodup_nil fun _ h => (List.not_mem_nil h).elim
  have hall : declared.draft.nln.Indexes declared.dimensions.ncon ↔ _ :=
    indexes_iff List.nodup_range fun _ => List.mem_range.mp
  rw [← not_iff_not, not_not]
  simp only [Draft.checkRanges_eq_ok, exists_const, BadIndices, not_or, not_exists, not_and,
    not_not, Int.not_lt, Int.not_le, List.forall_mem_cons, List.not_mem_nil, false_implies,
    implies_true, and_true, Draft.lists]
  exact and_congr hnone.symm <| and_congr hall.symm <| and_congr hnone.symm hnone.symm

theorem exists_ofName?_iff (name : String) :
    (∃ objective, ObjectiveType.ofName? name = some objective) ↔ name ∈ acceptedNames := by
  rw [← Option.isSome_iff_exists, ObjectiveType.ofName?, List.find?_isSome]
  simp [ObjectiveType.all, ObjectiveType.name, ObjectiveType.shortName, acceptedNames, or_assoc]

theorem name_mem_acceptedNames (objective : ObjectiveType) : objective.name ∈ acceptedNames := by
  cases objective <;> decide

theorem badTypes_iff (declared : Declared) :
    declared.BadTypes
      ↔ ¬∃ objtypes, declared.draft.objtypes.mapM Draft.readType = .ok objtypes := by
  rw [← not_iff_not, not_not, exists_mapM_eq_ok, draft, List.forall_mem_map]
  simp only [Draft.readType_eq_ok, ObjectiveType.ofValue?, exists_ofName?_iff, BadTypes,
    not_exists, not_and, not_not]
  cases declared.objtypes with
  | none => simp [name_mem_acceptedNames]
  | some names => simp

theorem bounded_getD_iff {given : Option (List Float)} {absent : Float} {n : Nat}
    (habsent : absent.isNaN = false) :
    (∀ bound ∈ given.getD (List.replicate n absent), bound.isNaN = false) ↔
      ∀ bounds ∈ given, ∀ bound ∈ bounds, bound.isNaN = false := by
  cases given with
  | none =>
      constructor
      · intro _ bounds hbounds
        cases hbounds
      · intro _ bound hbound
        rw [Option.getD_none] at hbound
        rw [List.eq_of_mem_replicate hbound, habsent]
  | some bounds => simp only [Option.getD_some, Option.mem_some_iff, forall_eq']

theorem badBounds_iff (declared : Declared) :
    declared.BadBounds ↔ ¬∃ u, declared.draft.checkBounds = .ok u := by
  have hlower {given : Option (List Float)} {n : Nat} :
      (∀ bound ∈ given.getD (List.replicate n (-Completion.infinity)), bound.isNaN = false) ↔ _ :=
    bounded_getD_iff rfl
  have hupper {given : Option (List Float)} {n : Nat} :
      (∀ bound ∈ given.getD (List.replicate n Completion.infinity), bound.isNaN = false) ↔ _ :=
    bounded_getD_iff rfl
  rw [← not_iff_not, not_not]
  simp only [Draft.checkBounds_eq_ok, exists_const, BadBounds, Draft.Bounded, not_exists, not_and,
    Bool.not_eq_true, List.forall_mem_cons, List.not_mem_nil, false_implies, implies_true, and_true]
  exact and_congr hlower.symm <| and_congr hupper.symm <| and_congr hlower.symm hupper.symm

theorem outcome_check (declared : Declared) :
    outcome declared.draft.check =
      if declared.BadLengths then some .length
      else if declared.BadIndices then some .range
      else if declared.BadTypes then some .objectiveType
      else if declared.BadBounds then some (.validation [.value])
      else none := by
  have hcounts : ∀ list ∈ declared.draft.lists, ∃ count, list.count.integer? = .ok count := by
    simp only [Draft.lists, List.forall_mem_cons, List.not_mem_nil, false_implies, implies_true,
      and_true]
    exact ⟨⟨_, rfl⟩, ⟨_, rfl⟩, ⟨_, rfl⟩, ⟨_, rfl⟩⟩
  apply outcome_bind (Draft.checkLengths_failsWith hcounts) declared.badLengths_iff
  intro _ _
  apply outcome_bind (Draft.checkRanges_failsWith _) declared.badIndices_iff
  intro _ _
  apply outcome_bind (Draft.mapM_readType_failsWith _) declared.badTypes_iff
  intro _ _
  apply outcome_bind (Draft.checkBounds_failsWith _) declared.badBounds_iff
  intro _ _
  rfl

end Declared

/-- **The first failing check decides.** Building metadata from a well-typed description ends as the
order of the checks says. -/
theorem build_outcome {data : Fields Float} {declared : Declared}
    (hdeclares : Declares data declared) : outcome (build data) = declared.failure? := by
  have hbad : declared.BadDimensions ↔ ¬∃ dimensions, Dimensions.read data = .ok dimensions := by
    constructor
    · exact hdeclares.not_readDimensions
    · intro hunread
      by_contra hgood
      exact hunread ⟨_, hdeclares.readDimensions hgood⟩
  apply outcome_bind hdeclares.readDimensions_failsWith hbad
  intro dimensions hread
  have hgood : ¬declared.BadDimensions := by
    intro h
    exact hdeclares.not_readDimensions h ⟨_, hread⟩
  obtain rfl := Except.ok.inj (hread.symm.trans (hdeclares.readDimensions hgood))
  have hsizes : declared.BadSizes ↔ ¬∃ u, declared.dimensions.allocate = .ok u := by
    simp only [Dimensions.allocate_eq_ok, exists_const, ← declared.not_badSizes_iff, not_not]
  apply outcome_bind (Dimensions.allocate_failsWith _) hsizes
  intro _ hallocated
  have hroom := Dimensions.allocate_eq_ok.mp hallocated
  by_cases hdefault : declared.BadDefault
  · obtain ⟨hnnzhi, hlarge⟩ := (Declared.badDefault_iff hgood).mp hdefault
    have hnobj := (Dimensions.read_eq_ok.mp hread).nobj_pos
    rw [if_pos hdefault, hdeclares.readDraft_of_default hnobj hnnzhi hlarge]
    rfl
  have hsmall (hnnzhi : declared.nnzhi = none) :
      triangle declared.dimensions.nvar < 0x10000000000000000 := by
    by_contra hlarge
    exact hdefault ((Declared.badDefault_iff hgood).mpr ⟨hnnzhi, Nat.not_lt.mp hlarge⟩)
  rw [if_neg hdefault, ← declared.outcome_check, hdeclares.readDraft hroom hsmall]
  -- Well-typed details and counts of nonzeros cannot be refused, so the checks have the last word.
  change outcome (declared.draft.check >>= _) = _
  cases hcheck : declared.draft.check with
  | error failure => rfl
  | ok objtypes =>
      have hdetails := hdeclares.readDetails
      have hnnzj := readNonzeros_of_int hdeclares.nnzj declared.dimensions.plain.nnzj
      have hnnzh := readNonzeros_of_int hdeclares.nnzh declared.dimensions.plain.nnzh
      simp only [Dimensions.plain] at hdetails hnnzj hnnzh
      simp only [hdetails, hnnzj, hnnzh, Except.mapError]
      rfl

/-- A description with an undefined bound, an unknown objective type and a repeated index. -/
def spoiltDescription : Fields Float :=
  [("nvar", .int 2), ("nobj", .int 1), ("ncon", .int 3),
   ("lvar", .list [.real (0.0 / 0.0), .int 0]), ("objtypes", .list [.text "cubic"]),
   ("lin", .list [.int 1, .int 1]), ("nlin", .int 2)]

def spoilt : Declared where
  nvar := some 2
  nobj := some 1
  ncon := some 3
  lvar := some [0.0 / 0.0, 0.0]
  objtypes := some ["cubic"]
  lin := some [1, 1]
  nlin := some 2

theorem build_outcome_spoilt : Declares spoiltDescription spoilt
    ∧ outcome (build spoiltDescription) = some .range := by
  have hdeclares : Declares spoiltDescription spoilt :=
    { nvar := rfl
      nobj := rfl
      ncon := rfl
      weights := .none
      x0 := .none
      lvar := .some (.list (.cons (.real _) (.cons (.int rfl) .nil)))
      uvar := .none
      y0 := .none
      lcon := .none
      ucon := .none
      nnzhi := .none
      lin := .some (@Value.IsIntegers.list [1, 1] (by decide))
      nln := .none
      nnet := .none
      lnet := .none
      nlin := rfl
      nnln := rfl
      nnnet := rfl
      nlnet := rfl
      objtypes := rfl
      nnzo := rfl
      nnzj := rfl
      nnzh := rfl
      minimize := rfl
      nlo := rfl
      islp := rfl
      name := rfl }
  refine ⟨hdeclares, (build_outcome hdeclares).trans ?_⟩
  decide +kernel

/-- A description of one objective in so many variables, and of nothing else. -/
def sizeDescription (nvar : Int) : Fields Float := [("nvar", .int nvar), ("nobj", .int 1)]

def declaredSize (nvar : Int) : Declared where
  nvar := some nvar
  nobj := some 1

theorem declares_sizeDescription (nvar : Int) :
    Declares (sizeDescription nvar) (declaredSize nvar) where
  nvar := rfl
  nobj := rfl
  ncon := rfl
  weights := .none
  x0 := .none
  lvar := .none
  uvar := .none
  y0 := .none
  lcon := .none
  ucon := .none
  nnzhi := .none
  lin := .none
  nln := .none
  nnet := .none
  lnet := .none
  nlin := rfl
  nnln := rfl
  nnnet := rfl
  nlnet := rfl
  objtypes := rfl
  nnzo := rfl
  nnzj := rfl
  nnzh := rfl
  minimize := rfl
  nlo := rfl
  islp := rfl
  name := rfl

/-- Nothing is wrong with what is declared, its size apart. -/
def Declared.Flawless (declared : Declared) : Prop :=
  ¬declared.BadDimensions ∧ ¬declared.BadLengths ∧ ¬declared.BadIndices ∧ ¬declared.BadTypes ∧
    ¬declared.BadBounds

instance (declared : Declared) : Decidable declared.Flawless := inferInstanceAs (Decidable (_ ∧ _))

/-- With very many variables, what nobody declared is what a description is refused for. -/
theorem build_too_large :
    (Declares (sizeDescription (2 ^ 60)) (declaredSize (2 ^ 60)) ∧
        (declaredSize (2 ^ 60)).Flawless ∧
        outcome (build (sizeDescription (2 ^ 60))) = some (.validation [.value])) ∧
      Declares (sizeDescription (7 * 10 ^ 9)) (declaredSize (7 * 10 ^ 9)) ∧
        (declaredSize (7 * 10 ^ 9)).Flawless ∧
        outcome (build (sizeDescription (7 * 10 ^ 9))) = some (.unreadable .overflow) := by
  refine ⟨⟨declares_sizeDescription _, ?_, ?_⟩, declares_sizeDescription _, ?_, ?_⟩
  all_goals decide +kernel

end Multigrad.Meta
