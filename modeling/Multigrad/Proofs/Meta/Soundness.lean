import Multigrad.Meta.Description
import Multigrad.Proofs.Bounds.Partition
import Multigrad.Proofs.Meta.Stages
import Multigrad.Proofs.Value.Integer

/-!
# Built metadata is sound

Whatever a description looks like, metadata that is built from it has consistent lengths, index
lists and counts, defined bounds, and index sets that split the variables and the constraints. A
count is read twice on the way, by readings that accept different values; that it is the length of
its list in the end is where both readings meet.
-/

namespace Multigrad.Meta

/-! ### What is sound -/

/-- A stored list of constraints: the indices of different constraints, and how many they are. -/
structure SoundList (ncon : Nat) (indices : List Nat) (count : Nat) : Prop where
  inRange : ∀ index ∈ indices, index < ncon
  distinct : indices.Nodup
  count : count = indices.length

/-- The head of the description names all variables and all constraints. -/
def Totals (problem : Meta Float) : Prop :=
  ∀ table, problem.lines = .ok table → ∃ left right rest,
    Histogram.line "All variables" problem.nvar problem.nvar = .ok left
      ∧ Histogram.line "All constraints" problem.ncon problem.ncon = .ok right
      ∧ table = (left ++ "  " ++ right) :: rest

structure Sound (problem : Meta Float) : Prop where
  nvar_pos : 1 ≤ problem.nvar
  nobj_pos : 1 ≤ problem.nobj
  weights : problem.weights.length = problem.nobj
  objtypes : problem.objtypes.length = problem.nobj
  nnzhi : problem.nnzhi.length = problem.nobj
  x0 : problem.x0.length = problem.nvar
  lvar : problem.lvar.length = problem.nvar
  uvar : problem.uvar.length = problem.nvar
  y0 : problem.y0.length = problem.ncon
  lcon : problem.lcon.length = problem.ncon
  ucon : problem.ucon.length = problem.ncon
  lin : SoundList problem.ncon problem.lin problem.nlin
  nln : SoundList problem.ncon problem.nln problem.nnln
  nnet : SoundList problem.ncon problem.nnet problem.nnnet
  lnet : SoundList problem.ncon problem.lnet problem.nlnet
  known : ∀ objective ∈ problem.objtypes, objective ∈ ObjectiveType.all
  bounded : ∀ bounds ∈ [problem.lvar, problem.uvar, problem.lcon, problem.ucon],
    ∀ bound ∈ bounds, bound.isNaN = false
  variableSets : problem.variableSets.Splits problem.nvar
  constraintSets : problem.constraintSets.Splits problem.ncon
  totals : problem.Totals

/-- The natural numbers of the metadata are the integers of the description: nothing was cut off
but negative counts of nonzeros. -/
structure StatedBy (problem : Meta Float) (data : Fields Float) : Prop where
  nvar : ∃ value, given? data "nvar" = some value ∧ value.integer? = .ok (problem.nvar : Int)
  nobj : ∃ value, given? data "nobj" = some value ∧ value.integer? = .ok (problem.nobj : Int)
  ncon : ((data.get? "ncon").getD (.int 0)).integer? = .ok (problem.ncon : Int)
  lin : readIntegers data "lin" [] = .ok (problem.lin.map Int.ofNat)
  nln : readIntegers data "nln" (List.range problem.ncon) = .ok (problem.nln.map Int.ofNat)
  nnet : readIntegers data "nnet" [] = .ok (problem.nnet.map Int.ofNat)
  lnet : readIntegers data "lnet" [] = .ok (problem.lnet.map Int.ofNat)
  counts : ∀ entry ∈ [("nlin", problem.nlin), ("nnln", problem.nnln), ("nnnet", problem.nnnet),
    ("nlnet", problem.nlnet)], ∀ value, data.get? entry.1 = some value →
      value.integer? = .ok (entry.2 : Int) ∧ Field.int value = .ok (entry.2 : Int)
  nnzhi : ∃ entries,
    readIntegers data "nnzhi" (List.replicate problem.nobj (triangle problem.nvar)) = .ok entries
      ∧ problem.nnzhi.map Int.ofNat = entries.map (max 0)
  nnzj : ∃ n, ((data.get? "nnzj").getD (.int (problem.nvar * problem.ncon))).integer? = .ok n
    ∧ (problem.nnzj : Int) = max 0 n
  nnzh : ∃ n, ((data.get? "nnzh").getD (.int (triangle problem.nvar))).integer? = .ok n
    ∧ (problem.nnzh : Int) = max 0 n

/-! ### Lists of constraints -/

theorem map_ofNat_map_toNat {indices : List Int} (hpos : ∀ index ∈ indices, 0 ≤ index) :
    (indices.map Int.toNat).map Int.ofNat = indices := by
  rw [List.map_map]
  conv_rhs => rw [← List.map_id indices]
  apply List.map_congr_left
  intro index hindex
  exact Int.toNat_of_nonneg (hpos index hindex)

theorem IndexList.Indexes.sound {list : IndexList} {ncon count : Nat}
    (hindexes : list.Indexes ncon) (hcount : count = list.indices.length) :
    SoundList ncon (list.indices.map Int.toNat) count := by
  obtain ⟨hrange, hdistinct⟩ := hindexes
  refine ⟨?_, ?_, by rw [hcount, List.length_map]⟩
  · intro n hn
    obtain ⟨index, hindex, rfl⟩ := List.mem_map.mp hn
    have := hrange index hindex
    omega
  · apply List.Nodup.map_on _ hdistinct
    intro i hi j hj hij
    have hi' := (hrange i hi).1
    have hj' := (hrange j hj).1
    omega

/-- **Both readings of a count meet.** A list whose declared count passes the check and is read as a
field stores its length. -/
theorem toNat_eq_length {list : IndexList} {n : Int} (hcounted : list.Counted)
    (hfield : Field.int list.count = .ok n) : n.toNat = list.indices.length := by
  rw [Field.int_eq_integer? hfield hcounted, Int.toNat_natCast]

/-! ### The head of the description -/

theorem setCounts_of_splits {sets : BoundSets} {n : Nat} (hsplits : sets.Splits n) :
    ∃ rest, setCounts sets = (n : Int) :: rest := by
  have hlength := hsplits.length_eq
  rw [List.length_range] at hlength
  refine ⟨_, congrArg (· :: _) ?_⟩
  simp only [BoundSets.all, List.flatten_cons, List.flatten_nil, List.length_append,
    List.length_nil] at hlength
  simp only [List.foldr_cons, List.foldr_nil]
  omega

theorem setLines_of_splits {label : String} {sets : BoundSets} {n : Nat} {lines : List String}
    (hsplits : sets.Splits n) (hlines : setLines label sets = .ok lines) :
    ∃ first rest, Histogram.line label n n = .ok first ∧ lines = first :: rest := by
  obtain ⟨counts, hcounts⟩ := setCounts_of_splits hsplits
  rw [setLines, hcounts, setLabels, Histogram.lines, List.zip_cons_cons, List.mapM_cons,
    bind_eq_ok] at hlines
  obtain ⟨first, hfirst, hrest⟩ := hlines
  obtain ⟨rest, -, hpure⟩ := bind_eq_ok.mp hrest
  exact ⟨first, rest, hfirst, (pure_eq_ok.mp hpure).symm⟩

theorem sideBySide_cons (left right : String) (lefts rights : List String) :
    ∃ rest, sideBySide (left :: lefts) (right :: rights) = (left ++ "  " ++ right) :: rest :=
  ⟨_, rfl⟩

theorem totals_of_splits {problem : Meta Float}
    (hvariables : problem.variableSets.Splits problem.nvar)
    (hconstraints : problem.constraintSets.Splits problem.ncon) : problem.Totals := by
  intro table htable
  simp only [lines, variableLines, constraintLines, bind_eq_ok, pure_eq_ok] at htable
  obtain ⟨_, ⟨lefts, hlefts, _, -, rfl⟩, _, ⟨rights, hrights, _, -, _, -, _, -, rfl⟩, rfl⟩ := htable
  obtain ⟨left, lefts, hleft, rfl⟩ := setLines_of_splits hvariables hlefts
  obtain ⟨right, rights, hright, rfl⟩ := setLines_of_splits hconstraints hrights
  obtain ⟨rest, hrest⟩ := sideBySide_cons left right (lefts ++ _) (rights ++ _)
  exact ⟨left, right, rest, hleft, hright, hrest⟩

/-! ### The metadata of a checked draft -/

section ofDraft

variable {data : Fields Float} {draft : Draft} {objtypes : List ObjectiveType} {nnzj nnzh : Nat}
  {details : Details}

theorem readNonzeros_eq_ok {key : String} {default n : Nat} :
    readNonzeros data key default = .ok n ↔
      ∃ k : Int, ((data.get? key).getD (.int default)).integer? = .ok k ∧ (n : Int) = max 0 k := by
  simp only [readNonzeros, bind_eq_ok, Draft.readInteger_eq_ok, pure_eq_ok]
  apply exists_congr
  intro k
  apply and_congr_right
  intro _
  omega

theorem mem_all (objective : ObjectiveType) : objective ∈ ObjectiveType.all := by
  cases objective <;> decide

theorem sets_splits_of_length {lower upper : List Float} {n : Nat} (hlower : lower.length = n)
    (hupper : upper.length = n) : (Bounds.sets (lower.zip upper)).Splits n := by
  have hsplits := Bounds.sets_splits (lower.zip upper)
  rwa [List.length_zip, hlower, hupper, Nat.min_self] at hsplits

/-- A draft that passes the checks becomes sound metadata, whatever the details are. -/
theorem ofDraft_sound (hstated : draft.dimensions.StatedBy data)
    (hchecked : draft.Checked objtypes)
    (hdetails : details.StatedBy data draft draft.dimensions.plain) :
    (ofDraft draft objtypes nnzj nnzh details).Sound := by
  have hmeasured := hchecked.measured
  have hindexed := hchecked.indexed
  simp only [Draft.lists, List.forall_mem_cons] at hindexed
  obtain ⟨hlin, hnln, hnnet, hlnet, -⟩ := hindexed
  have hvariables : (ofDraft draft objtypes nnzj nnzh details).variableSets.Splits
      draft.dimensions.nvar := sets_splits_of_length hmeasured.lvar hmeasured.uvar
  have hconstraints : (ofDraft draft objtypes nnzj nnzh details).constraintSets.Splits
      draft.dimensions.ncon := sets_splits_of_length hmeasured.lcon hmeasured.ucon
  exact
    { nvar_pos := hstated.nvar_pos
      nobj_pos := hstated.nobj_pos
      weights := hmeasured.weights
      objtypes := hchecked.typed.length_eq.symm.trans hmeasured.objtypes
      nnzhi := (List.length_map _).trans hmeasured.nnzhi
      x0 := hmeasured.x0
      lvar := hmeasured.lvar
      uvar := hmeasured.uvar
      y0 := hmeasured.y0
      lcon := hmeasured.lcon
      ucon := hmeasured.ucon
      lin := hlin.sound (toNat_eq_length hmeasured.lin hdetails.nlin)
      nln := hnln.sound (toNat_eq_length hmeasured.nln hdetails.nnln)
      nnet := hnnet.sound (toNat_eq_length hmeasured.nnet hdetails.nnnet)
      lnet := hlnet.sound (toNat_eq_length hmeasured.lnet hdetails.nlnet)
      known := fun objective _ => mem_all objective
      bounded := hchecked.bounded
      variableSets := hvariables
      constraintSets := hconstraints
      totals := totals_of_splits hvariables hconstraints }

theorem readIntegers_of_indexes {key countKey : String} {default : List Nat} {list : IndexList}
    {ncon : Nat} (hread : readIndexList data key countKey default = .ok list)
    (hindexes : list.Indexes ncon) :
    readIntegers data key default = .ok ((list.indices.map Int.toNat).map Int.ofNat) := by
  rw [map_ofNat_map_toNat fun index hindex => (hindexes.1 index hindex).1]
  exact (readIndexList_eq_ok.mp hread).2.1

theorem count_of_given {key countKey : String} {default : List Nat} {list : IndexList} {n : Int}
    (hread : readIndexList data key countKey default = .ok list) (hcounted : list.Counted)
    (hfield : Field.int list.count = .ok n) (value : Value Float)
    (hgiven : data.get? countKey = some value) :
    value.integer? = .ok (n.toNat : Int) ∧ Field.int value = .ok (n.toNat : Int) := by
  obtain ⟨-, -, -, hcount⟩ := readIndexList_eq_ok.mp hread
  rw [hgiven, Option.getD_some] at hcount
  rw [toNat_eq_length hcounted hfield, ← hcount]
  exact ⟨hcounted, hfield.trans (congrArg _ (Field.int_eq_integer? hfield hcounted))⟩

theorem ofDraft_statedBy (hdimensions : draft.dimensions.StatedBy data)
    (hstated : draft.StatedBy data) (hchecked : draft.Checked objtypes)
    (hnnzj : readNonzeros data "nnzj" draft.dimensions.plain.nnzj = .ok nnzj)
    (hnnzh : readNonzeros data "nnzh" draft.dimensions.plain.nnzh = .ok nnzh)
    (hdetails : details.StatedBy data draft draft.dimensions.plain) :
    (ofDraft draft objtypes nnzj nnzh details).StatedBy data := by
  have hmeasured := hchecked.measured
  have hindexed := hchecked.indexed
  simp only [Draft.lists, List.forall_mem_cons] at hindexed
  obtain ⟨hlin, hnln, hnnet, hlnet, -⟩ := hindexed
  refine
    { nvar := hdimensions.nvar
      nobj := hdimensions.nobj
      ncon := hdimensions.ncon
      lin := readIntegers_of_indexes hstated.lin hlin
      nln := readIntegers_of_indexes hstated.nln hnln
      nnet := readIntegers_of_indexes hstated.nnet hnnet
      lnet := readIntegers_of_indexes hstated.lnet hlnet
      counts := ?_
      nnzhi := ⟨draft.nnzhi, hstated.nnzhi, ?_⟩
      nnzj := readNonzeros_eq_ok.mp hnnzj
      nnzh := readNonzeros_eq_ok.mp hnnzh }
  · simp only [List.forall_mem_cons, List.not_mem_nil, false_implies, implies_true, and_true]
    exact ⟨count_of_given hstated.lin hmeasured.lin hdetails.nlin,
      count_of_given hstated.nln hmeasured.nln hdetails.nnln,
      count_of_given hstated.nnet hmeasured.nnet hdetails.nnnet,
      count_of_given hstated.lnet hmeasured.lnet hdetails.nlnet⟩
  · refine (List.map_map ..).trans (List.map_congr_left fun n _ => ?_)
    simp only [Function.comp_apply, Int.ofNat_eq_natCast]
    omega

end ofDraft

/-- **Built metadata is sound**, for every description that it is built from, and says what the
description says. -/
theorem build_sound {data : Fields Float} {problem : Meta Float}
    (hbuilt : build data = .ok problem) :
    problem.Sound ∧ problem.StatedBy data := by
  obtain ⟨draft, objtypes, nnzj, nnzh, details, hdimensions, -, hstated, hchecked, hnnzj, hnnzh,
    hdetails, rfl⟩ := build_eq_ok.mp hbuilt
  exact ⟨ofDraft_sound hdimensions hchecked hdetails,
    ofDraft_statedBy hdimensions hstated hchecked hnnzj hnnzh hdetails⟩

/-- A description in which hardly a number is written as one. -/
def mixedDescription : Fields Float :=
  [("nvar", .text "2"), ("nobj", .flag true), ("ncon", .real 2.0), ("lin", .list [.text "1"]),
   ("nlin", .text " 1 "), ("nln", .array [1] (.ints [0])), ("nnzj", .int (-3)),
   ("objtypes", .list [.text "quad"]), ("lcon", .list [.int 0, .real 1.5])]

theorem build_sound_mixed : ∃ problem, build mixedDescription = .ok problem ∧ problem.Sound
    ∧ problem.StatedBy mixedDescription := by
  have hok : (build mixedDescription).isOk = true := by decide +kernel
  cases hbuilt : build mixedDescription with
  | ok problem => exact ⟨problem, rfl, build_sound hbuilt⟩
  | error failure =>
      rw [hbuilt] at hok
      cases hok

end Multigrad.Meta
