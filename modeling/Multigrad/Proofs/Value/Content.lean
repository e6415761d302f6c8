import Multigrad.Proofs.Double.Exact
import Multigrad.Value.RecordEquality

/-!
# What values stand for

Each of the comparisons of values asks whether the two sides have one thing in common: scalars a
content, entries of arrays a quantity. What stands for nothing, as the undefined number does, is not
even equal to itself.
-/

namespace Multigrad

/-- Two things with one and the same image under a partial function. -/
def Common {α β : Type} (f : α → Option β) (x y : α) : Prop := ∃ z, f x = some z ∧ f y = some z

namespace Common

variable {α β : Type} {f : α → Option β} {x y z : α}

theorem symm (hxy : Common f x y) : Common f y x := by
  obtain ⟨image, hx, hy⟩ := hxy
  exact ⟨image, hy, hx⟩

theorem trans (hxy : Common f x y) (hyz : Common f y z) : Common f x z := by
  obtain ⟨image, hx, hy⟩ := hxy
  obtain ⟨other, hy', hz⟩ := hyz
  rw [hy, Option.some.injEq] at hy'
  exact ⟨image, hx, hy' ▸ hz⟩

theorem forall₂_symm {xs ys : List α} (hxys : List.Forall₂ (Common f) xs ys) :
    List.Forall₂ (Common f) ys xs :=
  hxys.flip.imp fun _ _ => symm

theorem self_iff : Common f x x ↔ (f x).isSome = true := by
  simp [Common, Option.isSome_iff_exists]

theorem iff_eq {u v : β} (hx : f x = some u) (hy : f y = some v) : Common f x y ↔ u = v := by
  simp [Common, hx, hy, eq_comm]

end Common

namespace Number

def quantity? : Number Float → Option Double.Quantity
  | .int n => some (.rational n)
  | .real r => Double.quantity? r

theorem same_iff (m n : Number Float) : m.same n = true ↔ Common quantity? m n := by
  cases m with
  | int k =>
    cases n with
    | int l => simp [same, Common, quantity?, eq_comm]
    | real r =>
      rw [same, Double.sameInt_iff]
      simp [Common, quantity?]
  | real r =>
    cases n with
    | int l =>
      rw [same, Double.sameInt_iff]
      simp [Common, quantity?]
    | real s =>
      rw [same, Double.same_iff]
      rfl

end Number

namespace Value

/-! ### Scalars -/

/-- What a scalar stands for in a comparison. -/
inductive Content where
  | nothing
  | text (s : String)
  | quantity (q : Double.Quantity)

/-- Flags stand for zero and one. -/
def content? : Value Float → Option Content
  | .null => some .nothing
  | .text s => some (.text s)
  | value => (value.numeric?.bind Number.quantity?).map .quantity

def isRecord : Value Float → Bool
  | .record _ => true
  | _ => false

theorem equal_iff_common {a b : Value Float} (hlists : (a.isList && b.isList) = false)
    (hrecords : (a.isRecord && b.isRecord) = false) :
    equal a b = true ↔ Common content? a b := by
  cases a <;> cases b <;>
    simp_all [equal, numeric?, content?, Common, isList, isRecord, Number.same_iff]
  exact eq_comm

/-- A scalar as records and lists of them may have it. -/
def isAtom (value : Value Float) : Bool := !(value.isList || value.isRecord || value.isArray)

theorem equal_atom {a b : Value Float} (ha : a.isAtom = true) :
    equal a b = true ↔ Common content? a b := by
  simp only [isAtom, Bool.not_eq_true', Bool.or_eq_false_iff] at ha
  apply equal_iff_common
  · rw [ha.1.1, Bool.false_and]
  · rw [ha.1.2, Bool.false_and]

theorem equalItems_iff {as bs : List (Value Float)} (has : ∀ a ∈ as, a.isAtom = true) :
    equalItems as bs = true ↔ List.Forall₂ (Common content?) as bs := by
  induction as generalizing bs with
  | nil => cases bs <;> simp [equalItems]
  | cons a as ih =>
    obtain ⟨ha, has⟩ := List.forall_mem_cons.mp has
    cases bs with
    | nil => simp [equalItems]
    | cons b bs => rw [equalItems, Bool.and_eq_true, equal_atom ha, ih has, List.forall₂_cons]

/-! ### Arrays -/

/-- What an entry stands for once it is in an array. -/
def entryQuantity? (storage : Storage) (entry : Value Float) : Option Double.Quantity :=
  (entry.numeric?.map storage.convert).bind Number.quantity?

theorem sameEntry_iff (storage : Storage) (a b : Value Float) :
    sameEntry storage a b = true ↔ Common (entryQuantity? storage) a b := by
  simp only [sameEntry, entryQuantity?, Common]
  cases ha : a.numeric? <;> cases hb : b.numeric? <;> simp [Number.same_iff, Common]

theorem sameEntries_iff (storage : Storage) (as bs : List (Value Float)) :
    sameEntries storage as bs = true ↔ List.Forall₂ (Common (entryQuantity? storage)) as bs := by
  induction as generalizing bs with
  | nil => cases bs <;> simp [sameEntries]
  | cons a as ih =>
    cases bs with
    | nil => simp [sameEntries]
    | cons b bs => rw [sameEntries, Bool.and_eq_true, sameEntry_iff, ih, List.forall₂_cons]

theorem join_comm (s t : Storage) : s.join t = t.join s := by
  cases s <;> cases t <;> rfl

/-- One shape, and entry by entry one quantity. -/
def SameArrays (a b : Value Float) : Prop :=
  Common shape? a b ∧
    List.Forall₂ (Common (entryQuantity? (a.storage.join b.storage))) a.leaves b.leaves

theorem equalArrays_iff (a b : Value Float) : equalArrays a b = true ↔ SameArrays a b := by
  simp only [equalArrays, SameArrays, ← sameEntries_iff]
  cases ha : a.shape? with
  | none => simp [Common, ha]
  | some shape =>
    cases hb : b.shape? with
    | none => simp [Common, hb]
    | some other => simp [Common.iff_eq ha hb]

theorem SameArrays.symm {a b : Value Float} (hab : SameArrays a b) : SameArrays b a := by
  obtain ⟨hshape, hentries⟩ := hab
  rw [join_comm] at hentries
  exact ⟨hshape.symm, Common.forall₂_symm hentries⟩

/-! ### Values that are no records -/

/-- Equality of two values that are not both records: one of them is an array, or they are lists
of scalars, or scalars. -/
inductive SameLeaf (shared : Bool) : Value Float → Value Float → Prop where
  | arrays {a b : Value Float} (harray : a.isArray = true ∨ b.isArray = true)
      (hsame : SameArrays a b) : SameLeaf shared a b
  | lists {as bs : List (Value Float)} (hitems : List.Forall₂ (Common content?) as bs) :
      SameLeaf shared (.list as) (.list bs)
  /-- A list is equal to itself without a look at its items. -/
  | itself {items : List (Value Float)} (hshared : shared = true) :
      SameLeaf shared (.list items) (.list items)
  | scalars {a b : Value Float} (hcontent : Common content? a b) : SameLeaf shared a b

theorem SameLeaf.symm {shared : Bool} {a b : Value Float} (hab : SameLeaf shared a b) :
    SameLeaf shared b a := by
  cases hab with
  | arrays harray hsame => exact .arrays harray.symm hsame.symm
  | lists hitems => exact .lists (Common.forall₂_symm hitems)
  | itself hshared => exact .itself hshared
  | scalars hcontent => exact .scalars hcontent.symm

theorem content?_of_not_isAtom {a : Value Float} (ha : a.isAtom = false) : content? a = none := by
  cases a <;> simp_all [isAtom, isList, isRecord, isArray, content?, numeric?]

theorem not_isAtom_of_isArray {a : Value Float} (ha : a.isArray = true) : a.isAtom = false := by
  simp [isAtom, ha]

theorem exists_of_isList {a : Value Float} (ha : a.isList = true) :
    ∃ items, a = .list items := by
  cases a <;> simp_all [isList]

theorem not_common_of_not_isAtom {a b : Value Float} (ha : a.isAtom = false ∨ b.isAtom = false) :
    ¬Common content? a b := by
  rintro ⟨content, hca, hcb⟩
  rcases ha with ha | hb
  · simp [content?_of_not_isAtom ha] at hca
  · simp [content?_of_not_isAtom hb] at hcb

/-- What records have under their keys beside records: scalars, lists of scalars and arrays. -/
inductive IsLeaf : Value Float → Prop where
  | atom {value : Value Float} (hatom : value.isAtom = true) : IsLeaf value
  | list {items : List (Value Float)} (hatoms : ∀ item ∈ items, item.isAtom = true) :
      IsLeaf (.list items)
  | array {shape : List Nat} {entries : Entries Float} : IsLeaf (.array shape entries)

section Leaves

variable {shared : Bool} {a b : Value Float}

theorem sameLeaf_of_isArray (harray : a.isArray = true ∨ b.isArray = true) :
    SameLeaf shared a b ↔ SameArrays a b := by
  constructor
  · intro hsame
    cases hsame with
    | arrays _ hsame => exact hsame
    | lists _ => simp [isArray] at harray
    | itself _ => simp [isArray] at harray
    | scalars hcontent =>
      apply absurd hcontent
      exact not_common_of_not_isAtom (harray.imp not_isAtom_of_isArray not_isAtom_of_isArray)
  · exact SameLeaf.arrays harray

theorem sameLeaf_list {as bs : List (Value Float)} :
    SameLeaf shared (.list as) (.list bs) ↔
      List.Forall₂ (Common content?) as bs ∨ shared = true ∧ as = bs := by
  constructor
  · intro hsame
    cases hsame with
    | arrays harray _ => simp [isArray] at harray
    | lists hitems => exact Or.inl hitems
    | itself hshared => exact Or.inr ⟨hshared, rfl⟩
    | scalars hcontent => exact absurd hcontent (not_common_of_not_isAtom (Or.inl rfl))
  · rintro (hitems | ⟨hshared, rfl⟩)
    · exact .lists hitems
    · exact .itself hshared

theorem sameLeaf_iff_common (harray : (a.isArray || b.isArray) = false)
    (hlists : (a.isList && b.isList) = false) :
    SameLeaf shared a b ↔ Common content? a b := by
  constructor
  · intro hsame
    cases hsame with
    | arrays hone _ => simp_all
    | lists _ => simp [isList] at hlists
    | itself _ => simp [isList] at hlists
    | scalars hcontent => exact hcontent
  · exact SameLeaf.scalars

/-- What is answered about two values that are not both records; one and the same object has one
and the same value. -/
theorem equalLeaves_iff (ha : ∀ items, a = .list items → ∀ item ∈ items, item.isAtom = true)
    (hrecords : (a.isRecord && b.isRecord) = false) (hshared : shared = true → a = b) :
    equalLeaves shared a b = true ↔ SameLeaf shared a b := by
  unfold equalLeaves
  cases harray : a.isArray || b.isArray with
  | true =>
    rw [if_pos rfl, equalArrays_iff, sameLeaf_of_isArray (Bool.or_eq_true _ _ ▸ harray)]
  | false =>
    rw [if_neg Bool.false_ne_true]
    cases hlists : a.isList && b.isList with
    | true =>
      obtain ⟨⟨as, rfl⟩, ⟨bs, rfl⟩⟩ := (Bool.and_eq_true _ _ ▸ hlists).imp
        (exists_of_isList ·) (exists_of_isList ·)
      have hequal : equal (.list as) (.list bs) = equalItems as bs := by simp [equal]
      rw [sameLeaf_list, hequal, Bool.or_eq_true, equalItems_iff (ha as rfl)]
      simp only [isList, Bool.and_true]
      constructor
      · rintro (htrue | hitems)
        · exact Or.inr ⟨htrue, Value.list.inj (hshared htrue)⟩
        · exact Or.inl hitems
      · rintro (hitems | ⟨htrue, -⟩)
        · exact Or.inr hitems
        · exact Or.inl htrue
    | false =>
      have hself : (shared && a.isList) = false := by
        cases shared with
        | false => rfl
        | true => simpa [← hshared rfl] using hlists
      rw [hself, Bool.false_or, equal_iff_common hlists hrecords,
        sameLeaf_iff_common harray hlists]

end Leaves

end Value

end Multigrad
