import Multigrad.Meta.Build
import Multigrad.Proofs.Double.Order
import Multigrad.Proofs.Reading
import Mathlib.Data.List.Nodup
import Mathlib.Tactic.MkIffOfInductiveProp

/-!
# What the checks of a draft check

The stages between a draft and metadata, one after the other: when each stage succeeds, and with
which kind of failure it ends otherwise. Nothing outside this module looks into a check again.
-/

namespace Multigrad.Meta

/-- The kinds of failures that a caller can tell apart. -/
inductive FailureKind where
  | dimension
  | length
  | range
  | objectiveType
  /-- Faults of these kinds. -/
  | validation (kinds : List FaultKind)
  | unreadable (mishap : Mishap)
  | noDescription
deriving DecidableEq, Repr

def Failure.kind : Failure → FailureKind
  | .noDimensions => .dimension
  | .nonsense _ _ _ => .dimension
  | .notVector _ _ => .length
  | .length _ _ _ => .length
  | .outside _ _ _ => .range
  | .duplicate _ _ => .range
  | .objectiveType _ => .objectiveType
  | .unreadable mishap => .unreadable mishap
  | .faults found => .validation (found.map Fault.kind)
  | .noDescription _ => .noDescription

/-- A stage that ends with one kind of failure, if it fails. -/
def FailsWith {α : Type} (kind : FailureKind) (stage : Except Failure α) : Prop :=
  ∀ failure, stage = .error failure → failure.kind = kind

section FailsWith

variable {α β : Type} {kind : FailureKind}

theorem FailsWith.ok {a : α} : FailsWith kind (.ok a) := fun _ h => by cases h

theorem FailsWith.error {failure : Failure} (hkind : failure.kind = kind) :
    FailsWith kind (.error failure : Except Failure α) := fun _ h => by
  cases h
  exact hkind

theorem FailsWith.bind {first : Except Failure α} {next : α → Except Failure β}
    (hfirst : FailsWith kind first) (hnext : ∀ a, FailsWith kind (next a)) :
    FailsWith kind (first >>= next) := by
  intro failure h
  cases first with
  | ok a => exact hnext a failure h
  | error e =>
      cases h
      exact hfirst _ rfl

end FailsWith

/-! ### Room -/

/-- There is room for vectors of all dimensions. -/
structure Dimensions.Allocated (dimensions : Dimensions) : Prop where
  nobj : dimensions.nobj < arrayBound
  nvar : dimensions.nvar < arrayBound
  ncon : dimensions.ncon < arrayBound

theorem Dimensions.allocate_eq_ok {dimensions : Dimensions} {u : Unit} :
    dimensions.allocate = .ok u ↔ dimensions.Allocated := by
  rw [allocate]
  split
  · case isTrue hroom => exact iff_of_true rfl ⟨hroom.1, hroom.2.1, hroom.2.2⟩
  · case isFalse hroom =>
    refine iff_of_false nofun ?_
    rintro ⟨hnobj, hnvar, hncon⟩
    exact hroom ⟨hnobj, hnvar, hncon⟩

theorem Dimensions.allocate_failsWith (dimensions : Dimensions) :
    FailsWith (.validation [.value]) dimensions.allocate := by
  unfold allocate
  split
  · exact .ok
  · exact .error rfl

/-! ### Machine counts -/

/-- The signed integer in the place of a count of 64 bits. -/
def wrapped (n : Nat) : Int := if n < 0x8000000000000000 then n else n - 0x10000000000000000

theorem wrapped_of_lt {n : Nat} (hn : n < 0x8000000000000000) : wrapped n = n := if_pos hn

theorem machineCount_of_lt {n : Nat} (hn : n < 0x10000000000000000) :
    machineCount n = .ok (wrapped n) := by
  rw [machineCount, wrapped, if_pos hn]
  split <;> rfl

theorem machineCount_of_le {n : Nat} (hn : 0x10000000000000000 ≤ n) :
    machineCount n = .error (.unreadable .overflow) := by
  rw [machineCount, if_neg (by omega), if_neg (by omega)]

theorem machineCount_eq_ok {n : Nat} {k : Int} :
    machineCount n = .ok k ↔ n < 0x10000000000000000 ∧ wrapped n = k := by
  rcases Nat.lt_or_ge n 0x10000000000000000 with hn | hn
  · rw [machineCount_of_lt hn, Except.ok.injEq, and_iff_right hn]
  · rw [machineCount_of_le hn]
    exact iff_of_false nofun fun h => Nat.not_lt.mpr hn h.1

theorem mapM_machineCount {counts : List Nat} (hcounts : ∀ n ∈ counts, n < 0x8000000000000000) :
    counts.mapM machineCount = .ok (counts.map Int.ofNat) := by
  rw [mapM_eq_ok, List.forall₂_map_right_iff, List.forall₂_same]
  intro n hn
  have hsmall := hcounts n hn
  exact machineCount_eq_ok.mpr ⟨by omega, wrapped_of_lt hsmall⟩

theorem mapM_machineCount_replicate (times : Nat) {n : Nat} (hn : n < 0x10000000000000000) :
    (List.replicate times n).mapM machineCount = .ok ((List.replicate times n).map wrapped) := by
  rw [mapM_eq_ok, List.forall₂_map_right_iff, List.forall₂_same]
  intro count hcount
  rw [List.eq_of_mem_replicate hcount]
  exact machineCount_of_lt hn

/-! ### Lengths -/

def IndexList.Counted (list : IndexList) : Prop :=
  list.count.integer? = .ok (list.indices.length : Int)

namespace Draft

/-- Every vector has the length of its dimension, and every list the declared one. -/
@[mk_iff]
structure Measured (draft : Draft) : Prop where
  weights : draft.weights.length = draft.dimensions.nobj
  objtypes : draft.objtypes.length = draft.dimensions.nobj
  nnzhi : draft.nnzhi.length = draft.dimensions.nobj
  x0 : draft.x0.length = draft.dimensions.nvar
  lvar : draft.lvar.length = draft.dimensions.nvar
  uvar : draft.uvar.length = draft.dimensions.nvar
  y0 : draft.y0.length = draft.dimensions.ncon
  lcon : draft.lcon.length = draft.dimensions.ncon
  ucon : draft.ucon.length = draft.dimensions.ncon
  lin : draft.lin.Counted
  nln : draft.nln.Counted
  nnet : draft.nnet.Counted
  lnet : draft.lnet.Counted

theorem checkLength_eq_ok {key : String} {actual : Nat} {expected : Int} {u : Unit} :
    checkLength key actual expected = .ok u ↔ (actual : Int) = expected := by
  unfold checkLength
  split <;> rename_i h <;> simp [h]

theorem checkLength_failsWith (key : String) (actual : Nat) (expected : Int) :
    FailsWith .length (checkLength key actual expected) := by
  unfold checkLength
  split
  · exact .ok
  · exact .error rfl

theorem readInteger_eq_ok {value : Value Float} {n : Int} :
    readInteger value = .ok n ↔ value.integer? = .ok n := mapError_eq_ok

theorem checkCount_eq_ok {list : IndexList} {u : Unit} :
    checkCount list = .ok u ↔ list.Counted := by
  rw [checkCount, bind_eq_ok]
  constructor
  · rintro ⟨count, hcount, hlength⟩
    rw [IndexList.Counted, readInteger_eq_ok.mp hcount, checkLength_eq_ok.mp hlength]
  · intro hcounted
    exact ⟨_, readInteger_eq_ok.mpr hcounted, checkLength_eq_ok.mpr rfl⟩

/-- A declared count that can be read fails only by being wrong. -/
theorem checkCount_failsWith {list : IndexList} {count : Int}
    (hcount : list.count.integer? = .ok count) : FailsWith .length (checkCount list) := by
  rw [checkCount, show readInteger list.count = .ok count from readInteger_eq_ok.mpr hcount]
  exact checkLength_failsWith _ _ _

theorem checkLengths_eq_ok {draft : Draft} {u : Unit} :
    draft.checkLengths = .ok u ↔ draft.Measured := by
  simp only [checkLengths, bind_eq_ok, checkLength_eq_ok, checkCount_eq_ok, exists_const,
    Int.natCast_inj, measured_iff]

def lists (draft : Draft) : List IndexList := [draft.lin, draft.nln, draft.nnet, draft.lnet]

theorem checkLengths_failsWith {draft : Draft}
    (hcounts : ∀ list ∈ draft.lists, ∃ count, list.count.integer? = .ok count) :
    FailsWith .length draft.checkLengths := by
  have hcount : ∀ list ∈ draft.lists, FailsWith .length (checkCount list) := by
    intro list hlist
    obtain ⟨count, hread⟩ := hcounts list hlist
    exact checkCount_failsWith hread
  simp only [lists, List.forall_mem_cons] at hcount
  obtain ⟨hlin, hnln, hnnet, hlnet, -⟩ := hcount
  have hlength := checkLength_failsWith
  exact (hlength _ _ _).bind fun _ => (hlength _ _ _).bind fun _ => (hlength _ _ _).bind fun _ =>
    (hlength _ _ _).bind fun _ => (hlength _ _ _).bind fun _ => (hlength _ _ _).bind fun _ =>
    (hlength _ _ _).bind fun _ => (hlength _ _ _).bind fun _ => (hlength _ _ _).bind fun _ =>
    hlin.bind fun _ => hnln.bind fun _ => hnnet.bind fun _ => hlnet

end Draft

/-! ### Indices -/

/-- A list of constraints without repetition. -/
def IndexList.Indexes (list : IndexList) (ncon : Nat) : Prop :=
  (∀ index ∈ list.indices, 0 ≤ index ∧ index < ncon) ∧ list.indices.Nodup

theorem IndexList.indexes_of_ofNat {list : IndexList} {ncon : Nat} {indices : List Nat}
    (hindices : list.indices = indices.map Int.ofNat) (hrange : ∀ index ∈ indices, index < ncon)
    (hdistinct : indices.Nodup) : list.Indexes ncon := by
  rw [IndexList.Indexes, hindices]
  refine ⟨?_, List.Nodup.map (fun _ _ h => Int.ofNat.inj h) hdistinct⟩
  intro index hindex
  obtain ⟨n, hn, rfl⟩ := List.mem_map.mp hindex
  exact ⟨Int.natCast_nonneg n, Int.ofNat_lt.mpr (hrange n hn)⟩

namespace Draft

theorem all_inRange_iff {ncon : Nat} {indices : List Int} :
    indices.all (inRange ncon) ↔ ∀ index ∈ indices, 0 ≤ index ∧ index < ncon := by
  simp [inRange]

theorem distinct_iff {indices : List Int} : distinct indices ↔ indices.Nodup := by
  induction indices with
  | nil => simp [distinct]
  | cons index rest ih => simp [distinct, ih]

theorem checkIndices_eq_ok {ncon : Nat} {list : IndexList} {u : Unit} :
    checkIndices ncon list = .ok u ↔ list.Indexes ncon := by
  rw [IndexList.Indexes, ← all_inRange_iff, ← distinct_iff, checkIndices]
  cases list.indices.all (inRange ncon) <;> cases distinct list.indices <;> simp

theorem checkIndices_failsWith (ncon : Nat) (list : IndexList) :
    FailsWith .range (checkIndices ncon list) := by
  unfold checkIndices
  split
  · exact .error rfl
  · split
    · exact .error rfl
    · exact .ok

theorem checkRanges_eq_ok {draft : Draft} {u : Unit} :
    draft.checkRanges = .ok u ↔ ∀ list ∈ draft.lists, list.Indexes draft.dimensions.ncon := by
  simp only [checkRanges, bind_eq_ok, checkIndices_eq_ok, exists_const, lists,
    List.forall_mem_cons, List.not_mem_nil, false_implies, implies_true, and_true]

theorem checkRanges_failsWith (draft : Draft) : FailsWith .range draft.checkRanges :=
  (checkIndices_failsWith _ _).bind fun _ => (checkIndices_failsWith _ _).bind fun _ =>
    (checkIndices_failsWith _ _).bind fun _ => checkIndices_failsWith _ _

/-! ### Objective types -/

theorem readType_eq_ok {value : Value Float} {objective : ObjectiveType} :
    readType value = .ok objective ↔ ObjectiveType.ofValue? value = some objective := by
  rw [readType]
  cases ObjectiveType.ofValue? value <;> simp

theorem readType_failsWith (value : Value Float) : FailsWith .objectiveType (readType value) := by
  unfold readType
  split
  · exact .ok
  · exact .error rfl

theorem mapM_readType_failsWith (values : List (Value Float)) :
    FailsWith .objectiveType (values.mapM readType) := by
  induction values with
  | nil => exact .ok
  | cons value rest ih =>
      rw [List.mapM_cons]
      exact (readType_failsWith value).bind fun _ => ih.bind fun _ => .ok

/-! ### Bounds -/

def Bounded (draft : Draft) : Prop :=
  ∀ bounds ∈ [draft.lvar, draft.uvar, draft.lcon, draft.ucon], ∀ bound ∈ bounds,
    bound.isNaN = false

theorem checkBound_eq_ok {key : String} {bounds : List Float} {u : Unit} :
    checkBound key bounds = .ok u ↔ ∀ bound ∈ bounds, bound.isNaN = false := by
  have hany : bounds.any Scalar.isMissing = bounds.any Float.isNaN := by
    congr 1
    funext bound
    exact Double.isMissing_eq_isNaN bound
  rw [checkBound, hany]
  cases h : bounds.any Float.isNaN with
  | true => simpa using h
  | false => simpa using h

theorem checkBound_failsWith (key : String) (bounds : List Float) :
    FailsWith (.validation [.value]) (checkBound key bounds) := by
  unfold checkBound
  split
  · exact .error rfl
  · exact .ok

theorem checkBounds_eq_ok {draft : Draft} {u : Unit} :
    draft.checkBounds = .ok u ↔ draft.Bounded := by
  simp only [checkBounds, bind_eq_ok, checkBound_eq_ok, exists_const, Bounded,
    List.forall_mem_cons, List.not_mem_nil, false_implies, implies_true, and_true]

theorem checkBounds_failsWith (draft : Draft) :
    FailsWith (.validation [.value]) draft.checkBounds :=
  (checkBound_failsWith _ _).bind fun _ => (checkBound_failsWith _ _).bind fun _ =>
    (checkBound_failsWith _ _).bind fun _ => checkBound_failsWith _ _

/-! ### All checks -/

structure Checked (draft : Draft) (objtypes : List ObjectiveType) : Prop where
  measured : draft.Measured
  indexed : ∀ list ∈ draft.lists, list.Indexes draft.dimensions.ncon
  typed : List.Forall₂ (fun value objective => ObjectiveType.ofValue? value = some objective)
    draft.objtypes objtypes
  bounded : draft.Bounded

theorem check_eq_ok {draft : Draft} {objtypes : List ObjectiveType} :
    draft.check = .ok objtypes ↔ draft.Checked objtypes := by
  simp only [check, bind_eq_ok, checkLengths_eq_ok, checkRanges_eq_ok, mapM_eq_ok, readType_eq_ok,
    checkBounds_eq_ok, exists_const, pure_eq_ok]
  constructor
  · rintro ⟨hmeasured, hindexed, types, htyped, hbounded, rfl⟩
    exact ⟨hmeasured, hindexed, htyped, hbounded⟩
  · rintro ⟨hmeasured, hindexed, htyped, hbounded⟩
    exact ⟨hmeasured, hindexed, _, htyped, hbounded, rfl⟩

end Draft

end Multigrad.Meta
