import Multigrad.Meta.Basic
import Multigrad.Meta.Failure

/-!
# Building metadata

From a loosely typed description to metadata, in stages: the dimensions, room for the vectors, a
draft with all its vectors and lists read, the checks of the draft, and the fields that no check
depends on.
-/

namespace Multigrad.Meta

structure Dimensions where
  nvar : Nat
  nobj : Nat
  ncon : Nat

def readInteger (value : Value Float) : Except Failure Int :=
  value.integer?.mapError Failure.ofMishap

/-- What is given under a key, if it is not null. -/
def given? (data : Fields Float) (key : String) : Option (Value Float) :=
  (data.get? key).filter fun value => !value.isNull

def Dimensions.read (data : Fields Float) : Except Failure Dimensions :=
  match given? data "nvar", given? data "nobj" with
  | some nvarValue, some nobjValue => do
    let nvar ← readInteger nvarValue
    let nobj ← readInteger nobjValue
    let ncon ← readInteger ((data.get? "ncon").getD (.int 0))
    if nvar < 1 ∨ nobj < 1 ∨ ncon < 0 then .error (.nonsense nvar nobj ncon)
    else .ok ⟨nvar.toNat, nobj.toNat, ncon.toNat⟩
  | _, _ => .error .noDimensions

/-- No array has so many entries, because they take eight bytes and there are less than `2 ^ 63`. -/
def arrayBound : Nat := 0x1000000000000000

/-- Room for the vectors of the dimensions. The defaults need it, whether they are used or not. -/
def Dimensions.allocate (dimensions : Dimensions) : Except Failure Unit :=
  if dimensions.nobj < arrayBound ∧ dimensions.nvar < arrayBound ∧ dimensions.ncon < arrayBound then
    .ok ()
  else .error .tooLong

/-- A count as a machine integer. One that only fits without a sign is taken for a signed one. -/
def machineCount (n : Nat) : Except Failure Int :=
  if n < 0x8000000000000000 then .ok n
  else if n < 0x10000000000000000 then .ok (n - 0x10000000000000000)
  else .error (.unreadable .overflow)

def readVector (data : Fields Float) (key : String) (default : List Float) :
    Except Failure (List Float) :=
  match data.get? key with
  | none => .ok default
  | some value => do
    let grid ← value.grid?.mapError Failure.ofMishap
    match grid.shape with
    | [_] => .ok grid.entries
    | shape => .error (.notVector key shape)

def readIntegers (data : Fields Float) (key : String) (default : List Nat) :
    Except Failure (List Int) :=
  match data.get? key with
  | none => default.mapM machineCount
  | some value => do
    let (shape, entries) ← value.integerGrid?.mapError Failure.ofMishap
    match shape with
    | [_] => .ok entries
    | shape => .error (.notVector key shape)

/-- The items of a list, the characters of a text or the keys of a record. -/
def items? : Value Float → Except Mishap (List (Value Float))
  | .list items => .ok items
  | .text s => .ok (s.toList.map fun c => .text (String.singleton c))
  | .record entries => .ok (entries.map fun (key, _) => .text key)
  | .array _ entries => .ok (Value.entryValues entries)
  | _ => .error .wrongType

def readTypes (data : Fields Float) (default : List ObjectiveType) :
    Except Failure (List (Value Float)) :=
  match data.get? "objtypes" with
  | none => .ok (default.map fun objective => .text objective.name)
  | some value => (items? value).mapError Failure.ofMishap

structure IndexList where
  key : String
  indices : List Int
  countKey : String
  count : Value Float

def readIndexList (data : Fields Float) (key countKey : String) (default : List Nat) :
    Except Failure IndexList := do
  let indices ← readIntegers data key default
  return ⟨key, indices, countKey, (data.get? countKey).getD (.int indices.length)⟩

/-- A description of which all vectors and lists are read and nothing is checked. -/
structure Draft where
  dimensions : Dimensions
  weights : List Float
  x0 : List Float
  lvar : List Float
  uvar : List Float
  y0 : List Float
  lcon : List Float
  ucon : List Float
  nnzhi : List Int
  lin : IndexList
  nln : IndexList
  nnet : IndexList
  lnet : IndexList
  objtypes : List (Value Float)

namespace Draft

def read (data : Fields Float) (dimensions : Dimensions) : Except Failure Draft := do
  let plain : Meta Float := ofDimensions dimensions.nvar dimensions.nobj dimensions.ncon
  let weights ← readVector data "weights" plain.weights
  let x0 ← readVector data "x0" plain.x0
  let lvar ← readVector data "lvar" plain.lvar
  let uvar ← readVector data "uvar" plain.uvar
  let y0 ← readVector data "y0" plain.y0
  let lcon ← readVector data "lcon" plain.lcon
  let ucon ← readVector data "ucon" plain.ucon
  let nnzhi ← readIntegers data "nnzhi" plain.nnzhi
  let lin ← readIndexList data "lin" "nlin" plain.lin
  let nln ← readIndexList data "nln" "nnln" plain.nln
  let nnet ← readIndexList data "nnet" "nnnet" plain.nnet
  let lnet ← readIndexList data "lnet" "nlnet" plain.lnet
  let objtypes ← readTypes data plain.objtypes
  return { dimensions, weights, x0, lvar, uvar, y0, lcon, ucon, nnzhi, lin, nln, nnet, lnet,
           objtypes }

def checkLength (key : String) (actual : Nat) (expected : Int) : Except Failure Unit :=
  if (actual : Int) = expected then .ok () else .error (.length key actual expected)

def checkCount (list : IndexList) : Except Failure Unit := do
  let count ← readInteger list.count
  checkLength list.key list.indices.length count

def checkLengths (draft : Draft) : Except Failure Unit := do
  checkLength "weights" draft.weights.length draft.dimensions.nobj
  checkLength "objtypes" draft.objtypes.length draft.dimensions.nobj
  checkLength "nnzhi" draft.nnzhi.length draft.dimensions.nobj
  checkLength "x0" draft.x0.length draft.dimensions.nvar
  checkLength "lvar" draft.lvar.length draft.dimensions.nvar
  checkLength "uvar" draft.uvar.length draft.dimensions.nvar
  checkLength "y0" draft.y0.length draft.dimensions.ncon
  checkLength "lcon" draft.lcon.length draft.dimensions.ncon
  checkLength "ucon" draft.ucon.length draft.dimensions.ncon
  checkCount draft.lin
  checkCount draft.nln
  checkCount draft.nnet
  checkCount draft.lnet

def inRange (ncon : Nat) (index : Int) : Bool := decide (0 ≤ index) && decide (index < ncon)

def distinct : List Int → Bool
  | [] => true
  | index :: rest => !rest.contains index && distinct rest

def checkIndices (ncon : Nat) (list : IndexList) : Except Failure Unit :=
  if !list.indices.all (inRange ncon) then .error (.outside list.key ncon list.indices)
  else if !distinct list.indices then .error (.duplicate list.key list.indices)
  else .ok ()

def checkRanges (draft : Draft) : Except Failure Unit := do
  checkIndices draft.dimensions.ncon draft.lin
  checkIndices draft.dimensions.ncon draft.nln
  checkIndices draft.dimensions.ncon draft.nnet
  checkIndices draft.dimensions.ncon draft.lnet

def readType (value : Value Float) : Except Failure ObjectiveType :=
  match ObjectiveType.ofValue? value with
  | some objective => .ok objective
  | none => .error (.objectiveType value)

def checkBound (key : String) (bounds : List Float) : Except Failure Unit :=
  if bounds.any Scalar.isMissing then .error (.undefinedBound key) else .ok ()

def checkBounds (draft : Draft) : Except Failure Unit := do
  checkBound "lvar" draft.lvar
  checkBound "uvar" draft.uvar
  checkBound "lcon" draft.lcon
  checkBound "ucon" draft.ucon

/-- All checks; they leave the objective types behind. -/
def check (draft : Draft) : Except Failure (List ObjectiveType) := do
  draft.checkLengths
  draft.checkRanges
  let objtypes ← draft.objtypes.mapM readType
  draft.checkBounds
  return objtypes

end Draft

/-- A count of nonzeros; a negative one is zero. -/
def readNonzeros (data : Fields Float) (key : String) (default : Nat) : Except Failure Nat := do
  let n ← readInteger ((data.get? key).getD (.int default))
  return n.toNat

/-- The fields that no check depends on. -/
structure Details where
  nnzo : Int
  nlin : Int
  nnln : Int
  nnnet : Int
  nlnet : Int
  minimize : Bool
  nlo : Int
  islp : Bool
  name : String

def optional (data : Fields Float) (key : String) (read : Value Float → Field.Result α)
    (default : α) : Checked α :=
  match data.get? key with
  | none => .ok default
  | some value => Checked.located key (read value)

def IndexList.field (list : IndexList) : Checked Int :=
  Checked.located list.countKey (Field.int list.count)

def Details.read (data : Fields Float) (draft : Draft) (plain : Meta Float) : Checked Details := do
  let (nnzo, nlin, nnln, nnnet, nlnet, minimize, nlo, islp, name) ←
    (optional data "nnzo" Field.int plain.nnzo).and <|
    draft.lin.field.and <| draft.nln.field.and <| draft.nnet.field.and <| draft.lnet.field.and <|
    (optional data "minimize" Field.flag plain.minimize).and <|
    (optional data "nlo" Field.int plain.nlo).and <|
    (optional data "islp" Field.flag plain.islp).and <|
    optional data "name" Field.text plain.name
  return { nnzo, nlin, nnln, nnnet, nlnet, minimize, nlo, islp, name }

def ofDraft (draft : Draft) (objtypes : List ObjectiveType) (nnzj nnzh : Nat) (details : Details) :
    Meta Float where
  nobj := draft.dimensions.nobj
  weights := draft.weights
  objtypes := objtypes
  nnzhi := draft.nnzhi.map Int.toNat
  nvar := draft.dimensions.nvar
  x0 := draft.x0
  lvar := draft.lvar
  uvar := draft.uvar
  ncon := draft.dimensions.ncon
  y0 := draft.y0
  lcon := draft.lcon
  ucon := draft.ucon
  nnzo := details.nnzo
  nnzj := nnzj
  nnzh := nnzh
  lin := draft.lin.indices.map Int.toNat
  nln := draft.nln.indices.map Int.toNat
  nnet := draft.nnet.indices.map Int.toNat
  lnet := draft.lnet.indices.map Int.toNat
  nlin := details.nlin.toNat
  nnln := details.nnln.toNat
  nnnet := details.nnnet.toNat
  nlnet := details.nlnet.toNat
  minimize := details.minimize
  nlo := details.nlo
  islp := details.islp
  name := details.name

/-- Builds metadata from the entries of a description; entries of other names are ignored. -/
def build (data : Fields Float) : Except Failure (Meta Float) := do
  let dimensions ← Dimensions.read data
  dimensions.allocate
  let plain : Meta Float := ofDimensions dimensions.nvar dimensions.nobj dimensions.ncon
  let draft ← Draft.read data dimensions
  let objtypes ← draft.check
  let nnzj ← readNonzeros data "nnzj" plain.nnzj
  let nnzh ← readNonzeros data "nnzh" plain.nnzh
  let details ← (Details.read data draft plain).mapError Failure.faults
  return ofDraft draft objtypes nnzj nnzh details

/-- Builds metadata from a value, which has to be a record. -/
def ofRecord : Value Float → Except Failure (Meta Float)
  | .record data => build data
  | _ => .error (.faults [⟨"", .noRecord, none⟩])

/-- Builds metadata from a description that may be left out. -/
def ofDescription : Value Float → Except Failure (Meta Float)
  | .record data => build data
  | .null => build []
  | value => .error (.noDescription value)

/-- Builds metadata from named arguments. A description among them takes the place of all others. -/
def ofArguments (arguments : Fields Float) : Except Failure (Meta Float) :=
  match given? arguments "meta" with
  | some description => ofDescription description
  | none => build arguments

end Multigrad.Meta
