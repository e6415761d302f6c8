import Multigrad.Proofs.Double.Nearest
import Multigrad.Proofs.Value.Nested

/-!
# The laws of equality

For nested records of scalars and arrays. Equality is symmetric without any condition; a value that
an undefined number stands in is not equal to itself; and where integers are compared with doubles,
two of them that are rounded to one double come apart.
-/

namespace Multigrad.Value

/-- Nested records with scalars and arrays at the end. -/
inductive Plain : Value Float → Prop where
  | atom {value : Value Float} (hatom : value.isAtom = true) : Plain value
  | array {shape : List Nat} {entries : Entries Float} : Plain (.array shape entries)
  | record {entries : Fields Float} (hkeys : entries.keys.Nodup)
      (hvalues : ∀ key value, entries.get? key = some value → Plain value) :
      Plain (.record entries)

theorem plain_record {entries : Fields Float} (hkeys : entries.keys.Nodup)
    (hvalues : ∀ entry ∈ entries, Plain entry.2) : Plain (.record entries) :=
  .record hkeys fun key value hget => hvalues (key, value) (Fields.mem_of_get? hget)

theorem Plain.nested {value : Value Float} (hplain : Plain value) : value.Nested := by
  induction hplain with
  | atom hatom => exact .leaf (.atom hatom)
  | array => exact .leaf .array
  | record hkeys _ ih => exact .record hkeys ih

theorem Plain.not_isList {value : Value Float} (hplain : Plain value) : value.isList = false := by
  cases hplain with
  | atom hatom =>
    simp only [isAtom, Bool.not_eq_true', Bool.or_eq_false_iff] at hatom
    exact hatom.1.1
  | array => rfl
  | record _ _ => rfl

theorem Plain.get? {entries : Fields Float} (hplain : Plain (.record entries)) {key : String}
    {value : Value Float} (hget : entries.get? key = some value) : Plain value := by
  cases hplain with
  | atom hatom => cases hatom
  | record _ hvalues => exact hvalues key value hget

/-! ### Reflexivity -/

/-- An undefined number stands in a value. -/
inductive Undefined : Value Float → Prop where
  | real {r : Float} (hnan : r.isNaN = true) : Undefined (.real r)
  | array {shape : List Nat} {entries : List Float} {r : Float} (hmem : r ∈ entries)
      (hnan : r.isNaN = true) : Undefined (.array shape (.reals entries))
  | record {entries : Fields Float} {key : String} {value : Value Float}
      (hget : entries.get? key = some value) (hundefined : Undefined value) :
      Undefined (.record entries)

theorem undefined_real_iff {r : Float} : Undefined (.real r) ↔ r.isNaN = true := by
  constructor
  · rintro ⟨hnan⟩
    exact hnan
  · exact .real

theorem undefined_ofList_iff {entries : List Float} :
    Undefined (ofList entries) ↔ ∃ r ∈ entries, r.isNaN = true := by
  constructor
  · rintro (_ | ⟨hmem, hnan⟩)
    exact ⟨_, hmem, hnan⟩
  · rintro ⟨r, hmem, hnan⟩
    exact .array hmem hnan

theorem undefined_record_iff {entries : Fields Float} (hkeys : entries.keys.Nodup) :
    Undefined (.record entries) ↔ ∃ entry ∈ entries, Undefined entry.2 := by
  constructor
  · rintro (_ | _ | ⟨hget, hundefined⟩)
    exact ⟨_, Fields.mem_of_get? hget, hundefined⟩
  · rintro ⟨⟨key, value⟩, hmem, hundefined⟩
    exact .record (Fields.get?_of_mem hkeys hmem) hundefined

theorem content?_isSome {value : Value Float} (hatom : value.isAtom = true)
    (hdefined : ¬Undefined value) : (content? value).isSome = true := by
  cases value with
  | null => rfl
  | flag b => rfl
  | int n => rfl
  | text s => rfl
  | real r =>
    have hnumber : Double.quantity? r ≠ none := by
      rw [ne_eq, Double.quantity?_eq_none_iff]
      exact fun hnan => hdefined (.real hnan)
    simpa [content?, numeric?, Number.quantity?, Option.isSome_iff_ne_none] using hnumber
  | list items => cases hatom
  | record entries => cases hatom
  | array shape entries => cases hatom

theorem entryQuantity?_real (storage : Storage) (r : Float) :
    entryQuantity? storage (.real r) = Double.quantity? r := by
  cases storage <;> rfl

variable {shared : Bool}

theorem not_same_self {value : Value Float} (hundefined : Undefined value) :
    ¬Same shared value value := by
  induction hundefined with
  | @real r hnan =>
    rw [same_leaf_iff rfl, sameLeaf_iff_common rfl rfl, Common.self_iff]
    simp [content?, numeric?, Number.quantity?, (Double.quantity?_eq_none_iff r).mpr hnan]
  | @array shape entries r hmem hnan =>
    rw [same_leaf_iff rfl, sameLeaf_of_isArray (Or.inl rfl)]
    rintro ⟨-, hentries⟩
    rw [List.forall₂_same] at hentries
    have hself := hentries (.real r) (List.mem_map_of_mem hmem)
    rw [Common.self_iff, entryQuantity?_real, (Double.quantity?_eq_none_iff r).mpr hnan] at hself
    cases hself
  | record hget _ ih =>
    intro hsame
    cases hsame with
    | leaves hleaf => cases hleaf.not_isRecord
    | records _ hvalues => exact ih (hvalues _ _ _ hget hget)

theorem same_self {value : Value Float} (hplain : Plain value) (hdefined : ¬Undefined value) :
    Same shared value value := by
  induction hplain with
  | atom hatom => exact .leaves (.scalars (Common.self_iff.mpr (content?_isSome hatom hdefined)))
  | @array shape entries =>
    refine .leaves (.arrays (Or.inl rfl) ⟨⟨shape, rfl, rfl⟩, List.forall₂_same.mpr ?_⟩)
    intro entry hentry
    rw [Common.self_iff]
    cases entries with
    | reals entries =>
      obtain ⟨r, hr, rfl⟩ := List.mem_map.mp hentry
      rw [entryQuantity?_real, Option.isSome_iff_ne_none, ne_eq, Double.quantity?_eq_none_iff]
      exact fun hnan => hdefined (.array hr hnan)
    | ints entries =>
      obtain ⟨n, -, rfl⟩ := List.mem_map.mp hentry
      rfl
  | record _ _ ih =>
    refine .records (fun key => Iff.rfl) fun key a b ha hb => ?_
    rw [ha, Option.some.injEq] at hb
    subst hb
    exact ih key a ha fun hundefined => hdefined (.record ha hundefined)

/-- A value is equal to itself when all numbers in it are defined. -/
theorem same_self_iff {value : Value Float} (hplain : Plain value) :
    Same shared value value ↔ ¬Undefined value :=
  ⟨fun hsame hundefined => not_same_self hundefined hsame, same_self hplain⟩

/-! ### Transitivity -/

/-- An integer that is a double. -/
def IsDouble (n : ℤ) : Prop := ∃ y : Float, Scalar.sameInt y n = true

theorem isDouble_of_abs_le {n : ℤ} (hn : |n| ≤ 2 ^ 53) : IsDouble n :=
  ⟨Double.ofInt n, (Double.sameInt_iff _ n).mpr (Double.quantity?_ofInt_of_abs_le hn)⟩

/-- An integer that no double is stands in a value. -/
inductive Inexact : Value Float → Prop where
  | int {n : ℤ} (hinexact : ¬IsDouble n) : Inexact (.int n)
  | array {shape : List Nat} {entries : List ℤ} {n : ℤ} (hmem : n ∈ entries)
      (hinexact : ¬IsDouble n) : Inexact (.array shape (.ints entries))
  | record {entries : Fields Float} {key : String} {value : Value Float}
      (hget : entries.get? key = some value) (hinexact : Inexact value) :
      Inexact (.record entries)

theorem inexact_record_iff {entries : Fields Float} (hkeys : entries.keys.Nodup) :
    Inexact (.record entries) ↔ ∃ entry ∈ entries, Inexact entry.2 := by
  constructor
  · rintro (_ | _ | ⟨hget, hinexact⟩)
    exact ⟨_, Fields.mem_of_get? hget, hinexact⟩
  · rintro ⟨⟨key, value⟩, hmem, hinexact⟩
    exact .record (Fields.get?_of_mem hkeys hmem) hinexact

/-- What a scalar stands for as a number, when it is not rounded. -/
def quantity? (value : Value Float) : Option Double.Quantity :=
  value.numeric?.bind Number.quantity?

/-- An entry that stands for the same in every array, which is the quantity of a double. -/
def Settled (entry : Value Float) : Prop :=
  ∀ n, entry.numeric? = some (.int n) → IsDouble n

theorem entryQuantity?_of_settled {entry : Value Float} (hsettled : Settled entry)
    (storage : Storage) : entryQuantity? storage entry = quantity? entry := by
  unfold entryQuantity? quantity?
  cases hnumeric : entry.numeric? with
  | none => rfl
  | some number =>
    cases number with
    | real r => cases storage <;> rfl
    | int n =>
      cases storage with
      | doubles =>
        obtain ⟨y, hy⟩ := hsettled n hnumeric
        exact Double.quantity?_ofInt ((Double.sameInt_iff y n).mp hy)
      | _ => rfl

theorem exists_double_of_settled {entry : Value Float} (hsettled : Settled entry)
    {q : Double.Quantity} (hq : quantity? entry = some q) :
    ∃ y : Float, Double.quantity? y = some q := by
  unfold quantity? at hq
  cases hnumeric : entry.numeric? with
  | none => simp [hnumeric] at hq
  | some number =>
    rw [hnumeric, Option.bind_some] at hq
    cases number with
    | real r => exact ⟨r, hq⟩
    | int n =>
      obtain ⟨y, hy⟩ := hsettled n hnumeric
      exact ⟨y, ((Double.sameInt_iff y n).mp hy).trans hq⟩

theorem entryQuantity?_of_numeric {entry : Value Float} {number : Number Float}
    (hnumeric : entry.numeric? = some number) (storage : Storage) :
    entryQuantity? storage entry = (storage.convert number).quantity? := by
  rw [entryQuantity?, hnumeric, Option.map_some, Option.bind_some]

/-- Next to a double an integer stands for its rounding, whether it is rounded or not. -/
theorem quantity?_ofInt_of_entry {entry : Value Float} {n : ℤ} {storage : Storage}
    {q : Double.Quantity} {x : Float} (hnumeric : entry.numeric? = some (.int n))
    (hq : entryQuantity? storage entry = some q) (hx : Double.quantity? x = some q) :
    Double.quantity? (Double.ofInt n) = some q := by
  rw [entryQuantity?_of_numeric hnumeric] at hq
  cases storage with
  | doubles => exact hq
  | _ =>
    obtain rfl : Double.Quantity.rational n = q := Option.some.inj hq
    exact Double.quantity?_ofInt hx

theorem entryQuantity?_unique {entry : Value Float} {s t : Storage} {p q : Double.Quantity}
    {x y : Float} (hp : entryQuantity? s entry = some p) (hq : entryQuantity? t entry = some q)
    (hx : Double.quantity? x = some p) (hy : Double.quantity? y = some q) : p = q := by
  cases hnumeric : entry.numeric? with
  | none => simp [entryQuantity?, hnumeric] at hp
  | some number =>
    cases number with
    | real r =>
      rw [entryQuantity?_of_numeric hnumeric] at hp hq
      have hp' : Double.quantity? r = some p := by cases s <;> exact hp
      have hq' : Double.quantity? r = some q := by cases t <;> exact hq
      exact Option.some.inj (hp'.symm.trans hq')
    | int n =>
      exact Option.some.inj ((quantity?_ofInt_of_entry hnumeric hp hx).symm.trans
        (quantity?_ofInt_of_entry hnumeric hq hy))

theorem common_entry_trans {a b c : Value Float} {s t : Storage} (ha : Settled a) (hc : Settled c)
    (hab : Common (entryQuantity? s) a b) (hbc : Common (entryQuantity? t) b c) :
    Common quantity? a c := by
  obtain ⟨p, hap, hbp⟩ := hab
  obtain ⟨q, hbq, hcq⟩ := hbc
  rw [entryQuantity?_of_settled ha] at hap
  rw [entryQuantity?_of_settled hc] at hcq
  obtain ⟨x, hx⟩ := exists_double_of_settled ha hap
  obtain ⟨y, hy⟩ := exists_double_of_settled hc hcq
  obtain rfl := entryQuantity?_unique hbp hbq hx hy
  exact ⟨p, hap, hcq⟩

theorem entries_trans {as bs cs : List (Value Float)} {s t u : Storage}
    (hab : List.Forall₂ (Common (entryQuantity? s)) as bs)
    (hbc : List.Forall₂ (Common (entryQuantity? t)) bs cs)
    (ha : ∀ entry ∈ as, Settled entry) (hc : ∀ entry ∈ cs, Settled entry) :
    List.Forall₂ (Common (entryQuantity? u)) as cs := by
  induction hab generalizing cs with
  | nil =>
    cases hbc
    exact .nil
  | cons hab _ ih =>
    cases hbc with
    | cons hbc hrest =>
      obtain ⟨ha, has⟩ := List.forall_mem_cons.mp ha
      obtain ⟨hc, hcs⟩ := List.forall_mem_cons.mp hc
      refine .cons ?_ (ih hrest has hcs)
      obtain ⟨q, haq, hcq⟩ := common_entry_trans ha hc hab hbc
      exact ⟨q, (entryQuantity?_of_settled ha u).trans haq,
        (entryQuantity?_of_settled hc u).trans hcq⟩

/-- One shape, and entry by entry one quantity, in a given storage. -/
def Alike (storage : Storage) (a b : Value Float) : Prop :=
  Common shape? a b ∧ List.Forall₂ (Common (entryQuantity? storage)) a.leaves b.leaves

theorem shape?_leaves_of_isAtom {a : Value Float} (ha : a.isAtom = true) :
    a.shape? = some [] ∧ a.leaves = [a] := by
  cases a with
  | list items => cases ha
  | record entries => cases ha
  | array shape entries => cases ha
  | _ => exact ⟨rfl, rfl⟩

theorem isAtom_of_content? {a : Value Float} {content : Content}
    (ha : content? a = some content) : a.isAtom = true := by
  by_contra hatom
  rw [content?_of_not_isAtom (Bool.eq_false_iff.mpr hatom)] at ha
  cases ha

theorem entryQuantity?_loose (a : Value Float) : entryQuantity? .loose a = quantity? a := by
  unfold entryQuantity? quantity?
  cases a.numeric? <;> rfl

theorem content?_eq_nothing {a : Value Float} (ha : content? a = some .nothing) : a = .null := by
  cases a <;> simp_all [content?, numeric?]

theorem content?_eq_text {a : Value Float} {text : String} (ha : content? a = some (.text text)) :
    a = .text text := by
  cases a <;> simp_all [content?, numeric?]

theorem content?_eq_quantity_iff {a : Value Float} {q : Double.Quantity} :
    content? a = some (.quantity q) ↔ quantity? a = some q := by
  cases a <;> simp [content?, quantity?, numeric?]

/-- Two values without lists and records that are equal: alike as arrays, or one and the same value
that is no number. -/
theorem SameLeaf.alike_or_eq {a b : Value Float} (hab : SameLeaf shared a b)
    (ha : a.isList = false) : (∃ storage, Alike storage a b) ∨ a = b := by
  cases hab with
  | arrays _ hsame => exact Or.inl ⟨_, hsame⟩
  | lists _ => cases ha
  | itself _ => cases ha
  | scalars hcontent =>
    obtain ⟨content, hca, hcb⟩ := hcontent
    cases content with
    | nothing => exact Or.inr ((content?_eq_nothing hca).trans (content?_eq_nothing hcb).symm)
    | text s => exact Or.inr ((content?_eq_text hca).trans (content?_eq_text hcb).symm)
    | quantity q =>
      obtain ⟨hshape, hleaves⟩ := shape?_leaves_of_isAtom (isAtom_of_content? hca)
      obtain ⟨hshape', hleaves'⟩ := shape?_leaves_of_isAtom (isAtom_of_content? hcb)
      refine Or.inl ⟨.loose, ⟨[], hshape, hshape'⟩, ?_⟩
      rw [hleaves, hleaves']
      refine .cons ⟨q, ?_, ?_⟩ .nil
      · rw [entryQuantity?_loose, content?_eq_quantity_iff.mp hca]
      · rw [entryQuantity?_loose, content?_eq_quantity_iff.mp hcb]

theorem sameLeaf_of_alike {a b : Value Float} (ha : a.Plain) (hb : b.Plain)
    (hrecords : a.isRecord = false) (hrecords' : b.isRecord = false)
    (hab : ∀ storage, Alike storage a b) : SameLeaf shared a b := by
  by_cases harray : a.isArray = true ∨ b.isArray = true
  · exact .arrays harray (hab _)
  · have hatoms : a.isAtom = true ∧ b.isAtom = true := by
      rw [not_or, Bool.not_eq_true, Bool.not_eq_true] at harray
      simp [isAtom, ha.not_isList, hb.not_isList, hrecords, hrecords', harray]
    obtain ⟨-, hentries⟩ := hab .loose
    rw [(shape?_leaves_of_isAtom hatoms.1).2, (shape?_leaves_of_isAtom hatoms.2).2] at hentries
    cases hentries with
    | cons hentry _ =>
      obtain ⟨q, hqa, hqb⟩ := hentry
      rw [entryQuantity?_loose] at hqa hqb
      exact .scalars ⟨.quantity q, content?_eq_quantity_iff.mpr hqa,
        content?_eq_quantity_iff.mpr hqb⟩

/-- Without lists it does not matter whether two values are one and the same object. -/
theorem Same.of_plain {shared' : Bool} {a b : Value Float} (hab : Same shared a b)
    (ha : a.Plain) : Same shared' a b := by
  induction hab with
  | leaves hleaf =>
    refine .leaves ?_
    cases hleaf with
    | arrays harray hsame => exact .arrays harray hsame
    | lists hitems => exact .lists hitems
    | itself _ => cases ha.not_isList
    | scalars hcontent => exact .scalars hcontent
  | records hkeys _ ih =>
    exact .records hkeys fun key a b hget hget' => ih key a b hget hget' (ha.get? hget)

theorem settled_of_not_inexact {a entry : Value Float} (ha : a.Plain) (hrecord : a.isRecord = false)
    (hexact : ¬Inexact a) (hentry : entry ∈ a.leaves) : Settled entry := by
  intro n hnumeric
  cases ha with
  | atom hatom =>
    rw [(shape?_leaves_of_isAtom hatom).2, List.mem_singleton] at hentry
    subst hentry
    cases entry with
    | flag b =>
      obtain rfl : (if b then 1 else 0) = n := by simpa [numeric?] using hnumeric
      apply isDouble_of_abs_le
      cases b <;> norm_num
    | int m =>
      obtain rfl : m = n := by simpa [numeric?] using hnumeric
      exact not_not.mp fun hdouble => hexact (.int hdouble)
    | _ => simp [numeric?] at hnumeric
  | @array shape entries =>
    cases entries with
    | reals entries =>
      obtain ⟨r, -, rfl⟩ := List.mem_map.mp hentry
      simp [numeric?] at hnumeric
    | ints entries =>
      obtain ⟨m, hm, rfl⟩ := List.mem_map.mp hentry
      obtain rfl : m = n := by simpa [numeric?] using hnumeric
      exact not_not.mp fun hdouble => hexact (.array hm hdouble)
  | record _ _ => cases hrecord

/-- Equality carries over when the integers of the outer values are doubles. -/
theorem Same.trans {a b c : Value Float} (hab : Same shared a b) (hbc : Same shared b c)
    (ha : a.Plain) (hc : c.Plain) (hexact : ¬Inexact a) (hexact' : ¬Inexact c) :
    Same shared a c := by
  induction hab generalizing c with
  | leaves hleaf =>
    have hrecord := hleaf.not_isRecord
    cases hbc with
    | records _ _ => cases hleaf.symm.not_isRecord
    | leaves hleaf' =>
      have hrecord' := hleaf'.symm.not_isRecord
      -- Which of the three is an array may differ from pair to pair, and so may the storage; what
      -- is alike in any storage is equal whatever kinds of value the two are.
      rcases hleaf.alike_or_eq ha.not_isList with ⟨s, hshape, hentries⟩ | rfl
      · rcases hleaf'.symm.alike_or_eq hc.not_isList with ⟨t, hshape', hentries'⟩ | rfl
        · refine .leaves (sameLeaf_of_alike ha hc hrecord hrecord' fun u => ⟨?_, ?_⟩)
          · exact hshape.trans hshape'.symm
          · refine entries_trans hentries (Common.forall₂_symm hentries') ?_ ?_
            · exact fun entry => settled_of_not_inexact ha hrecord hexact
            · exact fun entry => settled_of_not_inexact hc hrecord' hexact'
        · exact .leaves hleaf
      · exact .leaves hleaf'
  | records hkeys hvalues ih =>
    cases hbc with
    | leaves hleaf => cases hleaf.not_isRecord
    | records hkeys' hvalues' =>
      refine .records (fun key => (hkeys key).trans (hkeys' key)) fun key a c hget hget' => ?_
      obtain ⟨b, hb⟩ := Fields.exists_get?_iff.mpr
        ((hkeys key).mp (Fields.exists_get?_iff.mp ⟨a, hget⟩))
      exact ih key a b hget hb (hvalues' key b c hb hget') (ha.get? hget) (hc.get? hget')
        (fun hinexact => hexact (.record hget hinexact))
        (fun hinexact => hexact' (.record hget' hinexact))

end Multigrad.Value
