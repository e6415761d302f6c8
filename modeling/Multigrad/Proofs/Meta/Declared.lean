import Multigrad.Proofs.Meta.Stages
import Multigrad.Proofs.Value.Typed

/-!
# Well-typed descriptions

A description whose entries have their types declares typed values under the keys of the metadata,
and nothing under the keys it does not have. Such a description is always read; only the dimensions
and the checks of its draft can refuse it.
-/

namespace Multigrad.Meta

/-- What a well-typed description declares. -/
structure Declared where
  nvar : Option Int := none
  nobj : Option Int := none
  ncon : Option Int := none
  weights : Option (List Float) := none
  x0 : Option (List Float) := none
  lvar : Option (List Float) := none
  uvar : Option (List Float) := none
  y0 : Option (List Float) := none
  lcon : Option (List Float) := none
  ucon : Option (List Float) := none
  nnzhi : Option (List Int) := none
  lin : Option (List Int) := none
  nln : Option (List Int) := none
  nnet : Option (List Int) := none
  lnet : Option (List Int) := none
  nlin : Option Int := none
  nnln : Option Int := none
  nnnet : Option Int := none
  nlnet : Option Int := none
  objtypes : Option (List String) := none
  nnzo : Option Int := none
  nnzj : Option Int := none
  nnzh : Option Int := none
  minimize : Option Bool := none
  nlo : Option Int := none
  islp : Option Bool := none
  name : Option String := none

/-- Every entry of the description has its type and is the declared one. Only the numbers of
variables and of objectives may also be null, which declares nothing. -/
structure Declares (data : Fields Float) (declared : Declared) : Prop where
  nvar : given? data "nvar" = declared.nvar.map .int
  nobj : given? data "nobj" = declared.nobj.map .int
  ncon : data.get? "ncon" = declared.ncon.map .int
  weights : Option.Rel Value.IsVector (data.get? "weights") declared.weights
  x0 : Option.Rel Value.IsVector (data.get? "x0") declared.x0
  lvar : Option.Rel Value.IsVector (data.get? "lvar") declared.lvar
  uvar : Option.Rel Value.IsVector (data.get? "uvar") declared.uvar
  y0 : Option.Rel Value.IsVector (data.get? "y0") declared.y0
  lcon : Option.Rel Value.IsVector (data.get? "lcon") declared.lcon
  ucon : Option.Rel Value.IsVector (data.get? "ucon") declared.ucon
  nnzhi : Option.Rel Value.IsIntegers (data.get? "nnzhi") declared.nnzhi
  lin : Option.Rel Value.IsIntegers (data.get? "lin") declared.lin
  nln : Option.Rel Value.IsIntegers (data.get? "nln") declared.nln
  nnet : Option.Rel Value.IsIntegers (data.get? "nnet") declared.nnet
  lnet : Option.Rel Value.IsIntegers (data.get? "lnet") declared.lnet
  nlin : data.get? "nlin" = declared.nlin.map .int
  nnln : data.get? "nnln" = declared.nnln.map .int
  nnnet : data.get? "nnnet" = declared.nnnet.map .int
  nlnet : data.get? "nlnet" = declared.nlnet.map .int
  objtypes : data.get? "objtypes" = declared.objtypes.map fun names => .list (names.map .text)
  nnzo : data.get? "nnzo" = declared.nnzo.map .int
  nnzj : data.get? "nnzj" = declared.nnzj.map .int
  nnzh : data.get? "nnzh" = declared.nnzh.map .int
  minimize : data.get? "minimize" = declared.minimize.map .flag
  nlo : data.get? "nlo" = declared.nlo.map .int
  islp : data.get? "islp" = declared.islp.map .flag
  name : data.get? "name" = declared.name.map .text

/-! ### Reading one entry -/

section Entries

variable {data : Fields Float} {key : String}

theorem readVector_of_rel {given : Option (List Float)}
    (hgiven : Option.Rel Value.IsVector (data.get? key) given) (default : List Float) :
    readVector data key default = .ok (given.getD default) := by
  rw [readVector]
  generalize data.get? key = found at hgiven
  cases hgiven with
  | none => rfl
  | some hvector => simp only [hvector.grid?, Except.mapError]; rfl

theorem readIntegers_of_rel {given : Option (List Int)} {default : List Nat} {counts : List Int}
    (hgiven : Option.Rel Value.IsIntegers (data.get? key) given)
    (hdefault : given = none → default.mapM machineCount = .ok counts) :
    readIntegers data key default = .ok (given.getD counts) := by
  rw [readIntegers]
  generalize data.get? key = found at hgiven
  cases hgiven with
  | none => exact hdefault rfl
  | some hintegers => simp only [hintegers.integerGrid?, Except.mapError]; rfl

/-- A list of constraints from what is declared of it. -/
def indexList (key countKey : String) (given : Option (List Int)) (count : Option Int)
    (default : List Nat) : IndexList :=
  let indices := given.getD (default.map Int.ofNat)
  ⟨key, indices, countKey, .int (count.getD indices.length)⟩

theorem readIndexList_of_rel {countKey : String} {given : Option (List Int)} {count : Option Int}
    {default : List Nat} (hgiven : Option.Rel Value.IsIntegers (data.get? key) given)
    (hcount : data.get? countKey = count.map .int)
    (hdefault : ∀ n ∈ default, n < 0x8000000000000000) :
    readIndexList data key countKey default
      = .ok (indexList key countKey given count default) := by
  rw [readIndexList_eq_ok, hcount]
  refine ⟨rfl, readIntegers_of_rel hgiven fun _ => mapM_machineCount hdefault, rfl, ?_⟩
  cases count <;> rfl

theorem readNonzeros_of_int {given : Option Int} (hgiven : data.get? key = given.map .int)
    (default : Nat) : readNonzeros data key default = .ok (given.getD default).toNat := by
  rw [readNonzeros, hgiven]
  cases given <;> rfl

theorem optional_of_map {α : Type} {read : Value Float → Field.Result α} {write : α → Value Float}
    {given : Option α} (hgiven : data.get? key = given.map write)
    (hread : ∀ a, read (write a) = .ok a) (default : α) :
    optional data key read default = .ok (given.getD default) := by
  rw [optional, hgiven]
  cases given with
  | none => rfl
  | some a => simp only [Option.map_some, hread]; rfl

end Entries

/-! ### Reading a whole description -/

namespace Declared

def dimensions (declared : Declared) : Dimensions where
  nvar := (declared.nvar.getD 0).toNat
  nobj := (declared.nobj.getD 0).toNat
  ncon := (declared.ncon.getD 0).toNat

/-- A number of variables or objectives is not declared, or a dimension makes no sense. -/
def BadDimensions (declared : Declared) : Prop :=
  declared.nvar = none ∨ declared.nobj = none ∨ (∃ n ∈ declared.nvar, n < 1)
    ∨ (∃ n ∈ declared.nobj, n < 1) ∨ ∃ n ∈ declared.ncon, n < 0

/-- A declared dimension is so large that no array has as many entries: `2 ^ 60` or more. -/
def BadSizes (declared : Declared) : Prop :=
  ∃ n ∈ [declared.nobj, declared.nvar, declared.ncon], ∃ size ∈ n, 0x1000000000000000 ≤ size

/-- The entries of a Hessian are not declared, and so many that no machine integer counts them:
`2 ^ 64` or more. -/
def BadDefault (declared : Declared) : Prop :=
  declared.nnzhi = none ∧ ∃ n ∈ declared.nvar, 0x10000000000000000 ≤ n * (n + 1) / 2

theorem not_badSizes_iff (declared : Declared) :
    ¬declared.BadSizes ↔ declared.dimensions.Allocated := by
  have hsize (given : Option Int) :
      (∀ size ∈ given, ¬0x1000000000000000 ≤ size) ↔ (given.getD 0).toNat < arrayBound := by
    rw [arrayBound]
    cases given with
    | none => simp
    | some size =>
      simp only [Option.mem_some_iff, forall_eq', Option.getD_some]
      omega
  simp only [BadSizes, not_exists, not_and, List.forall_mem_cons, List.not_mem_nil, false_implies,
    implies_true, and_true, hsize]
  exact ⟨fun ⟨hnobj, hnvar, hncon⟩ => ⟨hnobj, hnvar, hncon⟩,
    fun hroom => ⟨hroom.nobj, hroom.nvar, hroom.ncon⟩⟩

theorem badDefault_iff {declared : Declared} (hgood : ¬declared.BadDimensions) :
    declared.BadDefault ↔
      declared.nnzhi = none ∧ 0x10000000000000000 ≤ triangle declared.dimensions.nvar := by
  rw [BadDefault, dimensions]
  refine and_congr_right fun _ => ?_
  cases hnvar : declared.nvar with
  | none => exact absurd (Or.inl hnvar) hgood
  | some n =>
    have hpos : 1 ≤ n := by
      by_contra hneg
      exact hgood (Or.inr (Or.inr (Or.inl ⟨n, hnvar, by omega⟩)))
    obtain ⟨k, rfl⟩ := Int.eq_ofNat_of_zero_le (show 0 ≤ n by omega)
    have htriangle : ((triangle k : Nat) : Int) = k * (k + 1) / 2 := rfl
    simp only [Option.mem_some_iff, exists_eq_left', Option.getD_some, Int.toNat_natCast,
      ← htriangle]
    omega

/-- The draft of the description: what it declares, and the defaults for the rest. -/
def draft (declared : Declared) : Draft :=
  let plain := declared.dimensions.plain
  { dimensions := declared.dimensions
    weights := declared.weights.getD plain.weights
    x0 := declared.x0.getD plain.x0
    lvar := declared.lvar.getD plain.lvar
    uvar := declared.uvar.getD plain.uvar
    y0 := declared.y0.getD plain.y0
    lcon := declared.lcon.getD plain.lcon
    ucon := declared.ucon.getD plain.ucon
    nnzhi := declared.nnzhi.getD (plain.nnzhi.map wrapped)
    lin := indexList "lin" "nlin" declared.lin declared.nlin plain.lin
    nln := indexList "nln" "nnln" declared.nln declared.nnln plain.nln
    nnet := indexList "nnet" "nnnet" declared.nnet declared.nnnet plain.nnet
    lnet := indexList "lnet" "nlnet" declared.lnet declared.nlnet plain.lnet
    objtypes := (declared.objtypes.getD (plain.objtypes.map ObjectiveType.name)).map .text }

def details (declared : Declared) : Details :=
  let plain := declared.dimensions.plain
  { nnzo := declared.nnzo.getD plain.nnzo
    nlin := declared.nlin.getD declared.draft.lin.indices.length
    nnln := declared.nnln.getD declared.draft.nln.indices.length
    nnnet := declared.nnnet.getD declared.draft.nnet.indices.length
    nlnet := declared.nlnet.getD declared.draft.lnet.indices.length
    minimize := declared.minimize.getD plain.minimize
    nlo := declared.nlo.getD plain.nlo
    islp := declared.islp.getD plain.islp
    name := declared.name.getD plain.name }

end Declared

section Declares

variable {data : Fields Float} {declared : Declared}

theorem Declares.readTypes (hdeclares : Declares data declared) (default : List ObjectiveType) :
    readTypes data default
      = .ok ((declared.objtypes.getD (default.map ObjectiveType.name)).map .text) := by
  rw [Meta.readTypes, hdeclares.objtypes]
  cases declared.objtypes with
  | none => simp only [Option.map_none, Option.getD_none, List.map_map]; rfl
  | some names => rfl

theorem lt_of_mem_range {ncon : Nat} (hncon : ncon < arrayBound) :
    ∀ n ∈ List.range ncon, n < 0x8000000000000000 := by
  intro n hn
  rw [List.mem_range] at hn
  rw [arrayBound] at hncon
  omega

theorem Declares.readDraft (hdeclares : Declares data declared)
    (hroom : declared.dimensions.Allocated)
    (hdefault : declared.nnzhi = none → triangle declared.dimensions.nvar < 0x10000000000000000) :
    Draft.read data declared.dimensions = .ok declared.draft :=
  have hnone : ∀ n ∈ ([] : List Nat), n < 0x8000000000000000 := List.forall_mem_nil _
  Draft.read_eq_ok.mpr ⟨rfl,
    { weights := readVector_of_rel hdeclares.weights _
      x0 := readVector_of_rel hdeclares.x0 _
      lvar := readVector_of_rel hdeclares.lvar _
      uvar := readVector_of_rel hdeclares.uvar _
      y0 := readVector_of_rel hdeclares.y0 _
      lcon := readVector_of_rel hdeclares.lcon _
      ucon := readVector_of_rel hdeclares.ucon _
      nnzhi := readIntegers_of_rel hdeclares.nnzhi fun hnnzhi =>
        mapM_machineCount_replicate _ (hdefault hnnzhi)
      lin := readIndexList_of_rel hdeclares.lin hdeclares.nlin hnone
      nln := readIndexList_of_rel hdeclares.nln hdeclares.nnln (lt_of_mem_range hroom.ncon)
      nnet := readIndexList_of_rel hdeclares.nnet hdeclares.nnnet hnone
      lnet := readIndexList_of_rel hdeclares.lnet hdeclares.nlnet hnone
      objtypes := hdeclares.readTypes _ }⟩

/-- The vectors before the entries of the Hessians are read in any case. -/
theorem Declares.readDraft_of_default (hdeclares : Declares data declared)
    (hnobj : 1 ≤ declared.dimensions.nobj) (hnnzhi : declared.nnzhi = none)
    (hlarge : 0x10000000000000000 ≤ triangle declared.dimensions.nvar) :
    Draft.read data declared.dimensions = .error (.unreadable .overflow) := by
  have hgiven : data.get? "nnzhi" = none := by
    have hrel := hdeclares.nnzhi
    rw [hnnzhi] at hrel
    generalize data.get? "nnzhi" = found at hrel
    cases hrel
    rfl
  obtain ⟨n, hn⟩ := Nat.exists_eq_add_of_le' hnobj
  have hread : readIntegers data "nnzhi" declared.dimensions.plain.nnzhi =
      .error (.unreadable .overflow) := by
    rw [readIntegers, hgiven]
    change (List.replicate declared.dimensions.nobj _).mapM machineCount = _
    rw [hn, List.replicate_succ, List.mapM_cons, machineCount_of_le hlarge]
    rfl
  have hvector {key : String} {given : Option (List Float)} (default : List Float)
      (hgiven : Option.Rel Value.IsVector (data.get? key) given) :=
    readVector_of_rel hgiven default
  rw [Draft.read]
  simp only [hvector _ hdeclares.weights, hvector _ hdeclares.x0, hvector _ hdeclares.lvar,
    hvector _ hdeclares.uvar, hvector _ hdeclares.y0, hvector _ hdeclares.lcon,
    hvector _ hdeclares.ucon]
  change (readIntegers data "nnzhi" declared.dimensions.plain.nnzhi >>= _) = _
  rw [hread]
  rfl

theorem Declares.readDetails (hdeclares : Declares data declared) :
    Details.read data declared.draft declared.dimensions.plain = .ok declared.details :=
  Details.read_eq_ok.mpr
    { nnzo := optional_of_map hdeclares.nnzo (fun _ => rfl) _
      nlin := rfl
      nnln := rfl
      nnnet := rfl
      nlnet := rfl
      minimize := optional_of_map hdeclares.minimize (fun _ => rfl) _
      nlo := optional_of_map hdeclares.nlo (fun _ => rfl) _
      islp := optional_of_map hdeclares.islp (fun _ => rfl) _
      name := optional_of_map hdeclares.name (fun _ => rfl) _ }

theorem Declares.readDimensions (hdeclares : Declares data declared)
    (hgood : ¬declared.BadDimensions) :
    Dimensions.read data = .ok declared.dimensions := by
  simp only [Declared.BadDimensions, not_or, ← ne_eq, Option.ne_none_iff_exists', not_exists,
    not_and, Option.mem_def] at hgood
  obtain ⟨⟨nvar, hnvar⟩, ⟨nobj, hnobj⟩, hnvarPos, hnobjPos, hnconPos⟩ := hgood
  have hncon : 0 ≤ declared.ncon.getD 0 := by
    cases h : declared.ncon with
    | none => exact Int.le_refl 0
    | some ncon => exact Int.not_lt.mp (hnconPos ncon h)
  have hread : ((data.get? "ncon").getD (.int 0)).integer? = .ok (declared.ncon.getD 0) := by
    rw [hdeclares.ncon]
    cases declared.ncon <;> rfl
  have hnvarPos := hnvarPos nvar hnvar
  have hnobjPos := hnobjPos nobj hnobj
  refine Dimensions.read_eq_ok.mpr ⟨⟨.int nvar, ?_, ?_⟩, ⟨.int nobj, ?_, ?_⟩, ?_, ?_, ?_⟩
  · rw [hdeclares.nvar, hnvar, Option.map_some]
  · simp only [Declared.dimensions, hnvar, Option.getD_some, Value.integer?]
    rw [Int.toNat_of_nonneg (by omega)]
  · rw [hdeclares.nobj, hnobj, Option.map_some]
  · simp only [Declared.dimensions, hnobj, Option.getD_some, Value.integer?]
    rw [Int.toNat_of_nonneg (by omega)]
  · rw [hread, Declared.dimensions, Int.toNat_of_nonneg hncon]
  · simp only [Declared.dimensions, hnvar, Option.getD_some]
    omega
  · simp only [Declared.dimensions, hnobj, Option.getD_some]
    omega

/-- Declared dimensions are refused as such, if they are refused. -/
theorem Declares.readDimensions_failsWith (hdeclares : Declares data declared) :
    FailsWith .dimension (Dimensions.read data) := by
  unfold Dimensions.read
  rw [hdeclares.nvar, hdeclares.nobj]
  cases declared.nvar with
  | none => exact .error rfl
  | some nvar =>
      cases declared.nobj with
      | none => exact .error rfl
      | some nobj =>
          have hncon : readInteger ((data.get? "ncon").getD (.int 0))
              = .ok (declared.ncon.getD 0) := by
            rw [hdeclares.ncon]
            cases declared.ncon <;> rfl
          simp only [Option.map_some, hncon]
          change FailsWith .dimension (if _ then _ else _)
          split
          · exact .error rfl
          · exact .ok

theorem Declares.not_readDimensions (hdeclares : Declares data declared)
    (hbad : declared.BadDimensions) : ¬∃ dimensions, Dimensions.read data = .ok dimensions := by
  rintro ⟨dimensions, hread⟩
  obtain ⟨⟨nvarValue, hnvarValue, hnvar⟩, ⟨nobjValue, hnobjValue, hnobj⟩, hncon, hnvarPos,
    hnobjPos⟩ := Dimensions.read_eq_ok.mp hread
  rw [hdeclares.nvar] at hnvarValue
  rw [hdeclares.nobj] at hnobjValue
  obtain ⟨nvar, hnvarEq, rfl⟩ := Option.map_eq_some_iff.mp hnvarValue
  obtain ⟨nobj, hnobjEq, rfl⟩ := Option.map_eq_some_iff.mp hnobjValue
  obtain rfl := Except.ok.inj hnvar
  obtain rfl := Except.ok.inj hnobj
  rw [Declared.BadDimensions, hnvarEq, hnobjEq] at hbad
  obtain h | h | ⟨n, hn, hlow⟩ | ⟨n, hn, hlow⟩ | ⟨n, hn, hlow⟩ := hbad
  · cases h
  · cases h
  · obtain rfl := Option.some.inj hn
    omega
  · obtain rfl := Option.some.inj hn
    omega
  · rw [hdeclares.ncon, Option.mem_def.mp hn] at hncon
    obtain rfl := Except.ok.inj hncon
    omega

end Declares

end Multigrad.Meta
