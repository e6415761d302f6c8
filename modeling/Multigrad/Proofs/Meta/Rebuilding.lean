import Multigrad.Meta.Fields
import Multigrad.Proofs.Meta.Declared
import Multigrad.Proofs.Meta.Soundness

/-!
# Metadata from its own record

Metadata that is written out is a well-typed description with nothing left out. No default is used
when it is read again, the checks pass because the metadata is sound, and there is nothing more to
cut off.
-/

namespace Multigrad.Meta

theorem sound_of_build {data : Fields Float} {problem : Meta Float}
    (hbuilt : build data = .ok problem) : problem.Sound := by
  obtain ⟨_, _, _, _, _, hdimensions, -, -, hchecked, -, -, hdetails, rfl⟩ :=
    build_eq_ok.mp hbuilt
  exact ofDraft_sound hdimensions hchecked hdetails

/-! ### Machine integers -/

/-- The dimensions of the metadata. -/
def size (problem : Meta Float) : Dimensions := ⟨problem.nvar, problem.nobj, problem.ncon⟩

/-- Every vector is as long as an array can be, and those of integers hold machine integers. -/
structure Words (problem : Meta Float) : Prop where
  room : problem.size.Allocated
  nnzhi : ∀ n ∈ problem.nnzhi, Value.IsMachine (n : Int)
  lin : ∀ n ∈ problem.lin, Value.IsMachine (n : Int)
  nln : ∀ n ∈ problem.nln, Value.IsMachine (n : Int)
  nnet : ∀ n ∈ problem.nnet, Value.IsMachine (n : Int)
  lnet : ∀ n ∈ problem.lnet, Value.IsMachine (n : Int)

theorem isMachine_natCast {n : Nat} : Value.IsMachine (n : Int) ↔ n < 0x8000000000000000 := by
  rw [Value.IsMachine]
  omega

theorem isMachine_of_machineCount {n : Nat} {k : Int} (hread : machineCount n = .ok k) :
    Value.IsMachine k := by
  obtain ⟨hn, rfl⟩ := machineCount_eq_ok.mp hread
  rw [Value.IsMachine, wrapped]
  split <;> omega

theorem isMachine_of_readIntegers {data : Fields Float} {key : String} {default : List Nat}
    {entries : List Int} (hread : readIntegers data key default = .ok entries) :
    ∀ n ∈ entries, Value.IsMachine n := by
  unfold readIntegers at hread
  split at hread
  · intro k hk
    obtain ⟨n, -, hn⟩ := exists_of_mem_mapM hread hk
    exact isMachine_of_machineCount hn
  · obtain ⟨⟨shape, found⟩, hgrid, hrest⟩ := bind_eq_ok.mp hread
    dsimp only at hrest
    split at hrest
    · obtain rfl := Except.ok.inj hrest
      exact Value.isMachine_of_integerGrid? (mapError_eq_ok.mp hgrid)
    · cases hrest

/-- Whatever cannot be kept in an array is refused. -/
theorem words_of_build {data : Fields Float} {problem : Meta Float}
    (hbuilt : build data = .ok problem) : problem.Words := by
  have hsound := sound_of_build hbuilt
  obtain ⟨draft, _, _, _, _, -, hroom, hstated, -, -, -, -, rfl⟩ := build_eq_ok.mp hbuilt
  have hncon := hroom.ncon
  rw [arrayBound] at hncon
  have hindices {indices : List Nat} {count : Nat}
      (hlist : SoundList draft.dimensions.ncon indices count) :
      ∀ n ∈ indices, Value.IsMachine (n : Int) := by
    intro n hn
    have hlt := hlist.inRange n hn
    exact isMachine_natCast.mpr (by omega)
  have hentries := isMachine_of_readIntegers hstated.nnzhi
  -- A negative entry has become zero.
  have hnnzhi : ∀ n ∈ draft.nnzhi.map Int.toNat, Value.IsMachine (n : Int) := by
    rw [List.forall_mem_map]
    intro n hn
    obtain ⟨-, hlt⟩ := hentries n hn
    rw [isMachine_natCast]
    omega
  exact ⟨hroom, hnnzhi, hindices hsound.lin, hindices hsound.nln, hindices hsound.nnet,
    hindices hsound.lnet⟩

/-! ### What is written out -/

/-- What the record of the fields declares: everything. -/
def declared (problem : Meta Float) : Declared where
  nvar := some problem.nvar
  nobj := some problem.nobj
  ncon := some problem.ncon
  weights := some problem.weights
  x0 := some problem.x0
  lvar := some problem.lvar
  uvar := some problem.uvar
  y0 := some problem.y0
  lcon := some problem.lcon
  ucon := some problem.ucon
  nnzhi := some (problem.nnzhi.map Int.ofNat)
  lin := some (problem.lin.map Int.ofNat)
  nln := some (problem.nln.map Int.ofNat)
  nnet := some (problem.nnet.map Int.ofNat)
  lnet := some (problem.lnet.map Int.ofNat)
  nlin := some problem.nlin
  nnln := some problem.nnln
  nnnet := some problem.nnnet
  nlnet := some problem.nlnet
  objtypes := some (problem.objtypes.map ObjectiveType.name)
  nnzo := some problem.nnzo
  nnzj := some problem.nnzj
  nnzh := some problem.nnzh
  minimize := some problem.minimize
  nlo := some problem.nlo
  islp := some problem.islp
  name := some problem.name

/-- No field of metadata has several words in its name. -/
theorem toRecord_eq (problem : Meta Float) (camel : Bool) :
    problem.toRecord camel = problem.toFields := by
  cases camel <;> rfl

theorem declares_toFields {problem : Meta Float} (hwords : problem.Words) :
    Declares problem.toFields problem.declared := by
  have hintegers {entries : List Nat} (hmachine : ∀ n ∈ entries, Value.IsMachine (n : Int)) :
      Value.IsIntegers (Value.ofNats entries) (entries.map Int.ofNat) :=
    .array (List.forall_mem_map.mpr hmachine)
  exact
    { nvar := rfl
      nobj := rfl
      ncon := rfl
      weights := .some (.array _)
      x0 := .some (.array _)
      lvar := .some (.array _)
      uvar := .some (.array _)
      y0 := .some (.array _)
      lcon := .some (.array _)
      ucon := .some (.array _)
      nnzhi := .some (hintegers hwords.nnzhi)
      lin := .some (hintegers hwords.lin)
      nln := .some (hintegers hwords.nln)
      nnet := .some (hintegers hwords.nnet)
      lnet := .some (hintegers hwords.lnet)
      nlin := rfl
      nnln := rfl
      nnnet := rfl
      nlnet := rfl
      objtypes := by
        rw [declared, Option.map_some, List.map_map]
        rfl
      nnzo := rfl
      nnzj := rfl
      nnzh := rfl
      minimize := rfl
      nlo := rfl
      islp := rfl
      name := rfl }

/-! ### What is read again -/

theorem ofName?_name (objective : ObjectiveType) :
    ObjectiveType.ofName? objective.name = some objective := by
  cases objective <;> rfl

section SoundList

variable {ncon count : Nat} {indices default : List Nat} {key countKey : String}

theorem SoundList.counted (hlist : SoundList ncon indices count) :
    (indexList key countKey (some (indices.map Int.ofNat)) (some (count : Int))
      default).Counted := by
  simp only [IndexList.Counted, indexList, Option.getD_some, Value.integer?, List.length_map,
    hlist.count]

theorem SoundList.indexes (hlist : SoundList ncon indices count) :
    (indexList key countKey (some (indices.map Int.ofNat)) (some (count : Int))
      default).Indexes ncon :=
  IndexList.indexes_of_ofNat rfl hlist.inRange hlist.distinct

end SoundList

theorem Sound.checked {problem : Meta Float} (hsound : problem.Sound) :
    problem.declared.draft.Checked problem.objtypes := by
  refine
    { measured :=
        { weights := hsound.weights
          objtypes := ?_
          nnzhi := (List.length_map _).trans hsound.nnzhi
          x0 := hsound.x0
          lvar := hsound.lvar
          uvar := hsound.uvar
          y0 := hsound.y0
          lcon := hsound.lcon
          ucon := hsound.ucon
          lin := hsound.lin.counted
          nln := hsound.nln.counted
          nnet := hsound.nnet.counted
          lnet := hsound.lnet.counted }
      indexed := ?_
      typed := ?_
      bounded := hsound.bounded }
  · exact (List.length_map _).trans ((List.length_map _).trans hsound.objtypes)
  · simp only [Draft.lists, List.forall_mem_cons, List.not_mem_nil, false_implies, implies_true,
      and_true]
    exact ⟨hsound.lin.indexes, hsound.nln.indexes, hsound.nnet.indexes, hsound.lnet.indexes⟩
  · change List.Forall₂ _ ((problem.objtypes.map ObjectiveType.name).map Value.text) _
    rw [List.map_map, List.forall₂_map_left_iff]
    exact List.forall₂_same.mpr fun objective _ => ofName?_name objective

theorem Sound.goodDimensions {problem : Meta Float} (hsound : problem.Sound) :
    ¬problem.declared.BadDimensions := by
  have hnvar := hsound.nvar_pos
  have hnobj := hsound.nobj_pos
  simp only [Declared.BadDimensions, declared, reduceCtorEq, Option.mem_some_iff, exists_eq_left',
    false_or]
  omega

theorem map_toNat_map_ofNat (entries : List Nat) :
    (entries.map Int.ofNat).map Int.toNat = entries := by
  rw [List.map_map]
  exact List.map_id entries

theorem ofDraft_declared (problem : Meta Float) :
    ofDraft problem.declared.draft problem.objtypes problem.nnzj problem.nnzh
      problem.declared.details = problem := by
  simp only [ofDraft, declared, Declared.draft, Declared.details, Declared.dimensions, indexList,
    Option.getD_some, Int.toNat_natCast, map_toNat_map_ofNat]

/-- Sound metadata is built from its own record, whatever it was built from. -/
theorem build_toRecord {problem : Meta Float} (hsound : problem.Sound) (hwords : problem.Words)
    (camel : Bool) : build (problem.toRecord camel) = .ok problem := by
  have hdeclares := declares_toFields hwords
  rw [toRecord_eq, build_eq_ok]
  refine ⟨problem.declared.draft, problem.objtypes, problem.nnzj, problem.nnzh,
    problem.declared.details, ?_, hwords.room, ?_, hsound.checked, ?_, ?_, ?_,
    (ofDraft_declared problem).symm⟩
  · exact Dimensions.read_eq_ok.mp (hdeclares.readDimensions hsound.goodDimensions)
  · exact (Draft.read_eq_ok.mp (hdeclares.readDraft hwords.room nofun)).2
  · exact readNonzeros_of_int hdeclares.nnzj _
  · exact readNonzeros_of_int hdeclares.nnzh _
  · exact Details.read_eq_ok.mp hdeclares.readDetails

end Multigrad.Meta
