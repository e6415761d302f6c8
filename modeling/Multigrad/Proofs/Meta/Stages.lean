import Multigrad.Proofs.Meta.Checks

/-!
# The stages of building metadata

Metadata is built in stages that hand their results on. Each stage is stated here as what it takes
from the description and what it leaves, and metadata is built exactly when all stages succeed.
-/

namespace Multigrad.Meta

/-- The metadata that the dimensions alone would give. -/
def Dimensions.plain (dimensions : Dimensions) : Meta Float :=
  ofDimensions dimensions.nvar dimensions.nobj dimensions.ncon

/-! ### Dimensions -/

/-- The dimensions are those of the description and make sense. -/
structure Dimensions.StatedBy (dimensions : Dimensions) (data : Fields Float) : Prop where
  nvar : ∃ value, given? data "nvar" = some value ∧ value.integer? = .ok (dimensions.nvar : Int)
  nobj : ∃ value, given? data "nobj" = some value ∧ value.integer? = .ok (dimensions.nobj : Int)
  ncon : ((data.get? "ncon").getD (.int 0)).integer? = .ok (dimensions.ncon : Int)
  nvar_pos : 1 ≤ dimensions.nvar
  nobj_pos : 1 ≤ dimensions.nobj

theorem Dimensions.read_eq_ok {data : Fields Float} {dimensions : Dimensions} :
    Dimensions.read data = .ok dimensions ↔ dimensions.StatedBy data := by
  constructor
  · intro h
    unfold Dimensions.read at h
    split at h
    · rename_i nvarValue nobjValue hnvarValue hnobjValue
      simp only [bind_eq_ok, Draft.readInteger_eq_ok] at h
      obtain ⟨nvar, hnvar, nobj, hnobj, ncon, hncon, h⟩ := h
      split at h
      · cases h
      · rename_i hsense
        obtain rfl := Except.ok.inj h
        refine ⟨⟨nvarValue, hnvarValue, ?_⟩, ⟨nobjValue, hnobjValue, ?_⟩, ?_, ?_, ?_⟩
        · rw [hnvar, Int.toNat_of_nonneg (by omega)]
        · rw [hnobj, Int.toNat_of_nonneg (by omega)]
        · rw [hncon, Int.toNat_of_nonneg (by omega)]
        · simp only; omega
        · simp only; omega
    · cases h
  · rintro ⟨⟨nvarValue, hnvarValue, hnvar⟩, ⟨nobjValue, hnobjValue, hnobj⟩, hncon, hnvarPos,
      hnobjPos⟩
    unfold Dimensions.read
    simp only [hnvarValue, hnobjValue, bind_eq_ok, Draft.readInteger_eq_ok]
    refine ⟨_, hnvar, _, hnobj, _, hncon, ?_⟩
    rw [if_neg (by omega)]
    rfl

/-! ### Drafts -/

/-- The draft holds what the description gives, and the defaults where it gives nothing. -/
structure Draft.StatedBy (draft : Draft) (data : Fields Float) : Prop where
  weights : readVector data "weights" draft.dimensions.plain.weights = .ok draft.weights
  x0 : readVector data "x0" draft.dimensions.plain.x0 = .ok draft.x0
  lvar : readVector data "lvar" draft.dimensions.plain.lvar = .ok draft.lvar
  uvar : readVector data "uvar" draft.dimensions.plain.uvar = .ok draft.uvar
  y0 : readVector data "y0" draft.dimensions.plain.y0 = .ok draft.y0
  lcon : readVector data "lcon" draft.dimensions.plain.lcon = .ok draft.lcon
  ucon : readVector data "ucon" draft.dimensions.plain.ucon = .ok draft.ucon
  nnzhi : readIntegers data "nnzhi" draft.dimensions.plain.nnzhi = .ok draft.nnzhi
  lin : readIndexList data "lin" "nlin" draft.dimensions.plain.lin = .ok draft.lin
  nln : readIndexList data "nln" "nnln" draft.dimensions.plain.nln = .ok draft.nln
  nnet : readIndexList data "nnet" "nnnet" draft.dimensions.plain.nnet = .ok draft.nnet
  lnet : readIndexList data "lnet" "nlnet" draft.dimensions.plain.lnet = .ok draft.lnet
  objtypes : readTypes data draft.dimensions.plain.objtypes = .ok draft.objtypes

theorem Draft.read_eq_ok {data : Fields Float} {dimensions : Dimensions} {draft : Draft} :
    Draft.read data dimensions = .ok draft
      ↔ draft.dimensions = dimensions ∧ draft.StatedBy data := by
  simp only [Draft.read, bind_eq_ok, pure_eq_ok]
  constructor
  · rintro ⟨_, h₁, _, h₂, _, h₃, _, h₄, _, h₅, _, h₆, _, h₇, _, h₈, _, h₉, _, h₁₀, _, h₁₁, _, h₁₂,
      _, h₁₃, rfl⟩
    exact ⟨rfl, h₁, h₂, h₃, h₄, h₅, h₆, h₇, h₈, h₉, h₁₀, h₁₁, h₁₂, h₁₃⟩
  · rintro ⟨rfl, h₁, h₂, h₃, h₄, h₅, h₆, h₇, h₈, h₉, h₁₀, h₁₁, h₁₂, h₁₃⟩
    exact ⟨_, h₁, _, h₂, _, h₃, _, h₄, _, h₅, _, h₆, _, h₇, _, h₈, _, h₉, _, h₁₀, _, h₁₁, _, h₁₂,
      _, h₁₃, rfl⟩

theorem readIndexList_eq_ok {data : Fields Float} {key countKey : String} {default : List Nat}
    {list : IndexList} :
    readIndexList data key countKey default = .ok list ↔
      list.key = key ∧ readIntegers data key default = .ok list.indices
        ∧ list.countKey = countKey
        ∧ list.count = (data.get? countKey).getD (.int list.indices.length) := by
  simp only [readIndexList, bind_eq_ok, pure_eq_ok]
  constructor
  · rintro ⟨indices, hindices, rfl⟩
    exact ⟨rfl, hindices, rfl, rfl⟩
  · rintro ⟨rfl, hindices, rfl, hcount⟩
    exact ⟨_, hindices, by rw [← hcount]⟩

/-! ### Details -/

theorem IndexList.field_eq_ok {list : IndexList} {n : Int} :
    list.field = .ok n ↔ Field.int list.count = .ok n := mapError_eq_ok

structure Details.StatedBy (details : Details) (data : Fields Float) (draft : Draft)
    (plain : Meta Float) : Prop where
  nnzo : optional data "nnzo" Field.int plain.nnzo = .ok details.nnzo
  nlin : Field.int draft.lin.count = .ok details.nlin
  nnln : Field.int draft.nln.count = .ok details.nnln
  nnnet : Field.int draft.nnet.count = .ok details.nnnet
  nlnet : Field.int draft.lnet.count = .ok details.nlnet
  minimize : optional data "minimize" Field.flag plain.minimize = .ok details.minimize
  nlo : optional data "nlo" Field.int plain.nlo = .ok details.nlo
  islp : optional data "islp" Field.flag plain.islp = .ok details.islp
  name : optional data "name" Field.text plain.name = .ok details.name

theorem Details.read_eq_ok {data : Fields Float} {draft : Draft} {plain : Meta Float}
    {details : Details} :
    Details.read data draft plain = .ok details ↔ details.StatedBy data draft plain := by
  simp only [Details.read, bind_eq_ok]
  constructor
  · rintro ⟨⟨nnzo, nlin, nnln, nnnet, nlnet, minimize, nlo, islp, name⟩, hread, hpure⟩
    simp only [Checked.and_eq_ok, IndexList.field_eq_ok] at hread
    obtain ⟨h₁, h₂, h₃, h₄, h₅, h₆, h₇, h₈, h₉⟩ := hread
    obtain rfl := pure_eq_ok.mp hpure
    exact ⟨h₁, h₂, h₃, h₄, h₅, h₆, h₇, h₈, h₉⟩
  · rintro ⟨h₁, h₂, h₃, h₄, h₅, h₆, h₇, h₈, h₉⟩
    refine ⟨⟨_, _, _, _, _, _, _, _, _⟩, ?_, rfl⟩
    simp only [Checked.and_eq_ok, IndexList.field_eq_ok]
    exact ⟨h₁, h₂, h₃, h₄, h₅, h₆, h₇, h₈, h₉⟩

/-! ### Metadata -/

/-- Metadata is built exactly when every stage succeeds. -/
theorem build_eq_ok {data : Fields Float} {problem : Meta Float} :
    build data = .ok problem ↔ ∃ draft objtypes nnzj nnzh details,
      draft.dimensions.StatedBy data ∧ draft.dimensions.Allocated ∧ draft.StatedBy data
        ∧ draft.Checked objtypes
        ∧ readNonzeros data "nnzj" draft.dimensions.plain.nnzj = .ok nnzj
        ∧ readNonzeros data "nnzh" draft.dimensions.plain.nnzh = .ok nnzh
        ∧ details.StatedBy data draft draft.dimensions.plain
        ∧ problem = ofDraft draft objtypes nnzj nnzh details := by
  simp only [build, bind_eq_ok, pure_eq_ok, mapError_eq_ok, Dimensions.read_eq_ok,
    Dimensions.allocate_eq_ok, exists_const, Draft.read_eq_ok, Draft.check_eq_ok,
    Details.read_eq_ok]
  constructor
  · rintro ⟨_, hdimensions, hroom, draft, ⟨rfl, hdraft⟩, objtypes, hchecked, nnzj, hnnzj, nnzh,
      hnnzh, details, hdetails, rfl⟩
    exact ⟨draft, objtypes, nnzj, nnzh, details, hdimensions, hroom, hdraft, hchecked, hnnzj,
      hnnzh, hdetails, rfl⟩
  · rintro ⟨draft, objtypes, nnzj, nnzh, details, hdimensions, hroom, hdraft, hchecked, hnnzj,
      hnnzh, hdetails, rfl⟩
    exact ⟨draft.dimensions, hdimensions, hroom, draft, ⟨rfl, hdraft⟩, objtypes, hchecked, nnzj,
      hnnzj, nnzh, hnnzh, details, hdetails, rfl⟩

end Multigrad.Meta
