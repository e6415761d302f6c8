import Multigrad.Proofs.Value.Content

/-!
# Nested values

Records in records, and when two of them are equal: the same keys in any order, and under each key
equal values. Nothing here knows in which order a comparison goes about it.
-/

namespace Multigrad

namespace Fields

variable {fields : Fields Float} {key : String} {value : Value Float}

theorem mem_of_get? (hget : fields.get? key = some value) : (key, value) ∈ fields := by
  obtain ⟨before, after, rfl, -⟩ := List.lookup_eq_some_iff.mp hget
  simp

theorem get?_of_mem (hkeys : fields.keys.Nodup) (hmem : (key, value) ∈ fields) :
    fields.get? key = some value := by
  obtain ⟨before, after, rfl⟩ := List.append_of_mem hmem
  refine List.lookup_eq_some_iff.mpr ⟨before, after, rfl, ?_⟩
  intro entry hentry
  simp only [keys, List.map_append, List.map_cons, List.nodup_append, List.mem_map,
    List.mem_cons] at hkeys
  have hne : entry.1 ≠ key := hkeys.2.2 entry.1 ⟨entry, hentry, rfl⟩ key (Or.inl rfl)
  simpa using hne.symm

theorem exists_get?_iff : (∃ value, fields.get? key = some value) ↔ key ∈ fields.keys := by
  rw [← Option.isSome_iff_exists, get?, List.lookup_isSome_iff]
  simp only [beq_iff_eq, keys, List.mem_map]
  constructor
  · rintro ⟨entry, hentry, rfl⟩
    exact ⟨entry, hentry, rfl⟩
  · rintro ⟨entry, hentry, rfl⟩
    exact ⟨entry, hentry, rfl⟩

end Fields

namespace Value

theorem exists_of_isRecord {a : Value Float} (ha : a.isRecord = true) :
    ∃ entries, a = .record entries := by
  cases a <;> simp_all [isRecord]

/-- Records in records, of any depth, with other values at the end. A key stands in a record at most
once. -/
inductive Nested : Value Float → Prop where
  | leaf {value : Value Float} (hleaf : IsLeaf value) : Nested value
  | record {entries : Fields Float} (hkeys : entries.keys.Nodup)
      (hvalues : ∀ key value, entries.get? key = some value → Nested value) :
      Nested (.record entries)

/-- Equality of nested values: records have the same keys and equal values under each of them. -/
inductive Same (shared : Bool) : Value Float → Value Float → Prop where
  | leaves {a b : Value Float} (hleaf : SameLeaf shared a b) : Same shared a b
  | records {as bs : Fields Float} (hkeys : ∀ key, key ∈ as.keys ↔ key ∈ bs.keys)
      (hvalues : ∀ key a b, as.get? key = some a → bs.get? key = some b → Same shared a b) :
      Same shared (.record as) (.record bs)

theorem Same.symm {shared : Bool} {a b : Value Float} (hab : Same shared a b) :
    Same shared b a := by
  induction hab with
  | leaves hleaf => exact .leaves hleaf.symm
  | records hkeys _ ih =>
    apply Same.records
    · exact fun key => (hkeys key).symm
    · exact fun key b a hb ha => ih key a b ha hb

variable {shared : Bool} {as bs : Fields Float}

theorem nested_record {entries : Fields Float} (hkeys : entries.keys.Nodup)
    (hvalues : ∀ entry ∈ entries, Nested entry.2) : Nested (.record entries) :=
  .record hkeys fun key value hget => hvalues (key, value) (Fields.mem_of_get? hget)

theorem nested_ofList (entries : List Float) : Nested (ofList entries) := .leaf .array

theorem nested_ofInts (entries : List Int) : Nested (ofInts entries) := .leaf .array

theorem nested_ofNats (entries : List Nat) : Nested (ofNats entries) := .leaf .array

theorem nested_texts {α : Type} (entries : List α) (name : α → String) :
    Nested (.list (entries.map fun entry => .text (name entry))) := by
  refine .leaf (.list ?_)
  simp [isAtom, isList, isRecord, isArray]

theorem nested_atom {value : Value Float} (hatom : value.isAtom = true) : Nested value :=
  .leaf (.atom hatom)

theorem Nested.keys (hnested : Nested (.record as)) : as.keys.Nodup := by
  cases hnested with
  | leaf hleaf =>
    cases hleaf with
    | atom hatom => cases hatom
  | record hkeys _ => exact hkeys

theorem Nested.get? (hnested : Nested (.record as)) {key : String} {value : Value Float}
    (hget : as.get? key = some value) : Nested value := by
  cases hnested with
  | leaf hleaf =>
    cases hleaf with
    | atom hatom => cases hatom
  | record _ hvalues => exact hvalues key value hget

theorem Nested.atoms {items : List (Value Float)} (hnested : Nested (.list items)) :
    ∀ item ∈ items, item.isAtom = true := by
  cases hnested with
  | leaf hleaf =>
    cases hleaf with
    | atom hatom => cases hatom
    | list hatoms => exact hatoms

theorem same_leaf_iff {a b : Value Float} (hrecords : (a.isRecord && b.isRecord) = false) :
    Same shared a b ↔ SameLeaf shared a b := by
  constructor
  · intro hsame
    cases hsame with
    | leaves hleaf => exact hleaf
    | records _ _ => cases hrecords
  · exact Same.leaves

theorem SameLeaf.not_isRecord {a b : Value Float} (hleaf : SameLeaf shared a b) :
    a.isRecord = false := by
  cases a with
  | record entries =>
    cases hleaf with
    | arrays _ hsame =>
      -- As an entry of an array a record is no number.
      obtain ⟨-, hentries⟩ := hsame
      simp only [leaves, List.forall₂_cons_left_iff] at hentries
      obtain ⟨_, _, ⟨quantity, hquantity, -⟩, -⟩ := hentries
      simp [entryQuantity?, numeric?] at hquantity
    | scalars hcontent => exact absurd hcontent (not_common_of_not_isAtom (Or.inl rfl))
  | _ => rfl

/-! ### Order of keys -/

/-- A value with the entries of its records in another order, and so on inside. -/
inductive Reordered : Value Float → Value Float → Prop where
  | unchanged (value : Value Float) : Reordered value value
  | record {as bs : Fields Float} (hkeys : as.keys.Perm bs.keys)
      (hvalues : ∀ key a b, as.get? key = some a → bs.get? key = some b → Reordered a b) :
      Reordered (.record as) (.record bs)

theorem Reordered.nested {a a' : Value Float} (ha : Reordered a a') (hnested : a.Nested) :
    a'.Nested := by
  induction ha with
  | unchanged value => exact hnested
  | @record as bs hkeys hvalues ih =>
    apply Nested.record
    · exact hkeys.nodup_iff.mp hnested.keys
    · intro key b hb
      obtain ⟨a, ha⟩ := Fields.exists_get?_iff.mpr
        (hkeys.mem_iff.mpr (Fields.exists_get?_iff.mp ⟨b, hb⟩))
      exact ih key a b ha hb (hnested.get? ha)

theorem Reordered.symm {a b : Value Float} (hab : Reordered a b) : Reordered b a := by
  induction hab with
  | unchanged value => exact .unchanged value
  | record hkeys _ ih => exact .record hkeys.symm fun key b a hb ha => ih key a b ha hb

theorem reordered_of_perm {as bs : Fields Float} (hkeys : as.keys.Nodup) (hperm : as.Perm bs) :
    Reordered (.record as) (.record bs) := by
  apply Reordered.record (hperm.map _)
  intro key a b ha hb
  have hmem : (key, b) ∈ as := hperm.mem_iff.mpr (Fields.mem_of_get? hb)
  rw [Fields.get?_of_mem hkeys hmem, Option.some.injEq] at ha
  exact ha ▸ .unchanged b

theorem Reordered.exists_record {as : Fields Float} {value : Value Float}
    (has : Reordered (.record as) value) :
    ∃ bs : Fields Float, value = .record bs ∧ (∀ key, key ∈ as.keys ↔ key ∈ bs.keys) ∧
      ∀ key a b, as.get? key = some a → bs.get? key = some b → Reordered a b := by
  cases has with
  | unchanged =>
    refine ⟨as, rfl, fun key => Iff.rfl, ?_⟩
    intro key a b ha hb
    rw [ha, Option.some.injEq] at hb
    exact hb ▸ .unchanged a
  | record hkeys hvalues => exact ⟨_, rfl, fun key => hkeys.mem_iff, hvalues⟩

theorem Reordered.eq_of_not_isRecord {a b : Value Float} (hab : Reordered a b)
    (hrecord : a.isRecord = false) : b = a := by
  cases hab with
  | unchanged => rfl
  | record _ _ => cases hrecord

/-- Equality does not see the order. -/
theorem Same.reordered {shared : Bool} {a b a' b' : Value Float} (hab : Same shared a b)
    (ha : Reordered a a') (hb : Reordered b b') : Same shared a' b' := by
  induction hab generalizing a' b' with
  | leaves hleaf =>
    obtain rfl := ha.eq_of_not_isRecord hleaf.not_isRecord
    obtain rfl := hb.eq_of_not_isRecord hleaf.symm.not_isRecord
    exact .leaves hleaf
  | records hkeys _ ih =>
    obtain ⟨as', rfl, hakeys, havalues⟩ := ha.exists_record
    obtain ⟨bs', rfl, hbkeys, hbvalues⟩ := hb.exists_record
    apply Same.records
    · exact fun key => (hakeys key).symm.trans ((hkeys key).trans (hbkeys key))
    · intro key a' b' ha' hb'
      obtain ⟨a, hget⟩ := Fields.exists_get?_iff.mpr
        ((hakeys key).mpr (Fields.exists_get?_iff.mp ⟨a', ha'⟩))
      obtain ⟨b, hget'⟩ := Fields.exists_get?_iff.mpr
        ((hbkeys key).mpr (Fields.exists_get?_iff.mp ⟨b', hb'⟩))
      exact ih key a b hget hget' (havalues key a a' hget ha') (hbvalues key b b' hget' hb')

theorem same_reordered_iff {shared : Bool} {a b a' b' : Value Float} (ha : Reordered a a')
    (hb : Reordered b b') : Same shared a' b' ↔ Same shared a b :=
  ⟨fun hsame => hsame.reordered ha.symm hb.symm, fun hsame => hsame.reordered ha hb⟩

end Value

end Multigrad
