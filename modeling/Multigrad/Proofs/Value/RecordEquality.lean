import Multigrad.Proofs.Value.Nested
import Multigrad.Meta.Fields
import Multigrad.Stats.Fields

/-!
# Equality of records

A round compares the values of two records that are no records themselves and puts the others on a
list. As long as no difference shows, what is left of the question is on the list; so the answer of
the whole loop is the one that a comparison level by level gives.
-/

namespace Multigrad

namespace Fields

variable {a b other : Fields Float} {shared : Bool}

theorem sameKeys_iff : sameKeys a b = true ↔ ∀ key, key ∈ a.keys ↔ key ∈ b.keys := by
  simp only [sameKeys, Bool.and_eq_true, List.all_eq_true, List.contains_iff_mem]
  constructor
  · intro ⟨hab, hba⟩ key
    exact ⟨hab key, hba key⟩
  · intro hsame
    exact ⟨fun key => (hsame key).mp, fun key => (hsame key).mpr⟩

/-! ### One round -/

/-- The values of a record, each with what the other record has under its key. -/
def partners (other fields : Fields Float) : List (Value Float × Value Float) :=
  fields.map fun entry => (entry.2, (other.get? entry.1).getD .null)

/-- The records among the partners that are compared in a later round. -/
def deferred : List (Value Float × Value Float) → Worklist
  | [] => []
  | (.record as, .record bs) :: rest => (as, bs) :: deferred rest
  | _ :: rest => deferred rest

theorem deferred_cons_of_not {x y : Value Float} {rest : List (Value Float × Value Float)}
    (hrecords : (x.isRecord && y.isRecord) = false) :
    deferred ((x, y) :: rest) = deferred rest := by
  cases x <;> cases y <;> simp_all [deferred, Value.isRecord]

theorem mem_deferred_iff {pairs : List (Value Float × Value Float)} :
    (a, b) ∈ deferred pairs ↔ (.record a, .record b) ∈ pairs := by
  fun_induction deferred with
  | case1 => simp
  | case2 as bs rest ih => simp [ih]
  | case3 pair rest hpair ih =>
    rw [ih, List.mem_cons, or_iff_right]
    rintro rfl
    exact hpair a b rfl

/-- Whether the partners that are not compared later are equal. -/
def LeavesEqual (shared : Bool) (pairs : List (Value Float × Value Float)) : Prop :=
  ∀ pair ∈ pairs, (pair.1.isRecord && pair.2.isRecord) = false →
    Value.equalLeaves shared pair.1 pair.2 = true

theorem compareEntries_record {key : String} {as bs rest : Fields Float} {pending : Worklist}
    (hpartner : (other.get? key).getD .null = .record bs) :
    compareEntries shared other ((key, .record as) :: rest) pending =
      compareEntries shared other rest ((as, bs) :: pending) := by
  simp [compareEntries, hpartner]

theorem compareEntries_leaf {key : String} {a : Value Float} {rest : Fields Float}
    {pending : Worklist}
    (hrecords : (a.isRecord && ((other.get? key).getD .null).isRecord) = false) :
    compareEntries shared other ((key, a) :: rest) pending =
      if Value.equalLeaves shared a ((other.get? key).getD .null) then
        compareEntries shared other rest pending
      else none := by
  rw [compareEntries]
  intro as bs has hbs
  simp [has, hbs, Value.isRecord] at hrecords

theorem partners_cons {key : String} {a : Value Float} {rest : Fields Float} :
    partners other ((key, a) :: rest) = (a, (other.get? key).getD .null) :: partners other rest :=
  rfl

theorem leavesEqual_cons {x y : Value Float} {rest : List (Value Float × Value Float)} :
    LeavesEqual shared ((x, y) :: rest) ↔
      ((x.isRecord && y.isRecord) = false → Value.equalLeaves shared x y = true) ∧
        LeavesEqual shared rest :=
  List.forall_mem_cons

/-- A round goes on when all leaves are equal, with the records inside put on the list. -/
theorem compareEntries_eq_some_iff {entries : Fields Float} {pending next : Worklist} :
    compareEntries shared other entries pending = some next ↔
      LeavesEqual shared (partners other entries) ∧
        next = (deferred (partners other entries)).reverse ++ pending := by
  induction entries generalizing pending with
  | nil =>
    simp only [compareEntries, partners, LeavesEqual, deferred, List.map_nil, List.not_mem_nil,
      List.reverse_nil, List.nil_append, Option.some.injEq]
    simp [eq_comm (a := next)]
  | cons entry rest ih =>
    obtain ⟨key, a⟩ := entry
    rw [partners_cons, leavesEqual_cons]
    cases hrecords : a.isRecord && ((other.get? key).getD .null).isRecord with
    | true =>
      obtain ⟨ha, hb⟩ := Bool.and_eq_true _ _ ▸ hrecords
      obtain ⟨as, rfl⟩ := Value.exists_of_isRecord ha
      obtain ⟨bs, hbs⟩ := Value.exists_of_isRecord hb
      rw [compareEntries_record hbs, ih, hbs, deferred]
      simp
    | false =>
      rw [compareEntries_leaf hrecords, deferred_cons_of_not hrecords]
      by_cases hequal : Value.equalLeaves shared a ((other.get? key).getD .null) = true
      · simp [hequal, ih]
      · simp [hequal]

/-! ### The whole loop -/

/-- The rounds that are gone through until a list has its answer. -/
inductive Rounds (shared : Bool) : Worklist → Nat → Bool → Prop where
  | finished : Rounds shared [] 0 true
  | otherKeys {a b : Fields Float} {pending : Worklist} (hkeys : sameKeys a b = false) :
      Rounds shared ((a, b) :: pending) 1 false
  | otherValue {a b : Fields Float} {pending : Worklist} (hkeys : sameKeys a b = true)
      (hnone : compareEntries shared b a pending = none) :
      Rounds shared ((a, b) :: pending) 1 false
  | onward {a b : Fields Float} {pending next : Worklist} {rounds : Nat} {answer : Bool}
      (hkeys : sameKeys a b = true) (hnext : compareEntries shared b a pending = some next)
      (hrest : Rounds shared next rounds answer) :
      Rounds shared ((a, b) :: pending) (rounds + 1) answer

/-- No record is compared in two rounds. -/
theorem rounds_allEqual (shared : Bool) (pending : Worklist) :
    ∃ rounds ≤ Worklist.size pending, Rounds shared pending rounds (allEqual shared pending) := by
  fun_induction allEqual shared pending with
  | case1 => exact ⟨0, Nat.zero_le _, .finished⟩
  | case2 a b pending hkeys next hnext ih =>
    obtain ⟨rounds, hrounds, hrest⟩ := ih
    refine ⟨rounds + 1, ?_, .onward hkeys hnext hrest⟩
    have hsize := size_compareEntries hnext
    simp only [Worklist.size]
    omega
  | case3 a b pending hkeys hnone =>
    refine ⟨1, ?_, .otherValue hkeys hnone⟩
    simp only [Worklist.size]
    omega
  | case4 a b pending hkeys =>
    refine ⟨1, ?_, .otherKeys (Bool.eq_false_iff.mpr hkeys)⟩
    simp only [Worklist.size]
    omega

/-! ### What a comparison finds -/

/-- Entry by entry, the values are looked up in the other record. -/
theorem same_record_iff (ha : a.keys.Nodup) :
    Value.Same shared (.record a) (.record b) ↔
      sameKeys a b = true ∧ ∀ pair ∈ partners b a, Value.Same shared pair.1 pair.2 := by
  rw [sameKeys_iff]
  constructor
  · intro hsame
    cases hsame with
    | leaves hleaf => cases hleaf.not_isRecord
    | records hkeys hvalues =>
      refine ⟨hkeys, ?_⟩
      simp only [partners, List.forall_mem_map]
      intro entry hentry
      have hget : a.get? entry.1 = some entry.2 := get?_of_mem ha hentry
      obtain ⟨value, hvalue⟩ := exists_get?_iff.mpr
        ((hkeys entry.1).mp (exists_get?_iff.mp ⟨_, hget⟩))
      rw [hvalue]
      exact hvalues entry.1 entry.2 value hget hvalue
  · rintro ⟨hkeys, hvalues⟩
    refine .records hkeys ?_
    intro key value value' hget hget'
    simp only [partners, List.forall_mem_map] at hvalues
    have hentry := hvalues (key, value) (mem_of_get? hget)
    rwa [hget'] at hentry

/-- Two nested records; one and the same object on both sides has one and the same value. -/
structure Comparable (shared : Bool) (a b : Value Float) : Prop where
  left : a.Nested
  right : b.Nested
  shared_eq : shared = true → a = b

theorem Comparable.partners (hab : Comparable shared (.record a) (.record b))
    (hkeys : sameKeys a b = true) {pair : Value Float × Value Float}
    (hpair : pair ∈ partners b a) : Comparable shared pair.1 pair.2 := by
  obtain ⟨entry, hentry, rfl⟩ := List.mem_map.mp hpair
  have ha : a.get? entry.1 = some entry.2 := get?_of_mem hab.left.keys hentry
  obtain ⟨value, hb⟩ := exists_get?_iff.mpr
    ((sameKeys_iff.mp hkeys entry.1).mp (exists_get?_iff.mp ⟨_, ha⟩))
  dsimp only
  rw [hb, Option.getD_some]
  refine ⟨hab.left.get? ha, hab.right.get? hb, ?_⟩
  intro hshared
  have hfields : a = b := Value.record.inj (hab.shared_eq hshared)
  rw [hfields, hb] at ha
  exact (Option.some.inj ha).symm

theorem leavesEqual_iff {pairs : List (Value Float × Value Float)}
    (hpairs : ∀ pair ∈ pairs, Comparable shared pair.1 pair.2) :
    (∀ pair ∈ pairs, Value.Same shared pair.1 pair.2) ↔
      LeavesEqual shared pairs ∧
        ∀ pair ∈ deferred pairs, Value.Same shared (.record pair.1) (.record pair.2) := by
  have hleaf {pair : Value Float × Value Float} (hpair : pair ∈ pairs)
      (hrecords : (pair.1.isRecord && pair.2.isRecord) = false) :
      Value.equalLeaves shared pair.1 pair.2 = true ↔ Value.Same shared pair.1 pair.2 := by
    have hcomparable := hpairs pair hpair
    rw [Value.same_leaf_iff hrecords]
    refine Value.equalLeaves_iff ?_ hrecords hcomparable.shared_eq
    exact fun items hitems => (hitems ▸ hcomparable.left).atoms
  constructor
  · intro hsame
    refine ⟨fun pair hpair hrecords => (hleaf hpair hrecords).mpr (hsame pair hpair), ?_⟩
    exact fun pair hpair => hsame _ (mem_deferred_iff.mp hpair)
  · intro ⟨hleaves, hdeferred⟩ pair hpair
    cases hrecords : pair.1.isRecord && pair.2.isRecord with
    | false => exact (hleaf hpair hrecords).mp (hleaves pair hpair hrecords)
    | true =>
      obtain ⟨⟨as, has⟩, ⟨bs, hbs⟩⟩ := (Bool.and_eq_true _ _ ▸ hrecords).imp
        Value.exists_of_isRecord Value.exists_of_isRecord
      rw [has, hbs]
      apply hdeferred (as, bs)
      rw [mem_deferred_iff, ← has, ← hbs]
      exact hpair

/-- The answer about a list is the answer about all of its pairs. -/
theorem allEqual_iff {pending : Worklist}
    (hpending : ∀ pair ∈ pending, Comparable shared (.record pair.1) (.record pair.2)) :
    allEqual shared pending = true ↔
      ∀ pair ∈ pending, Value.Same shared (.record pair.1) (.record pair.2) := by
  fun_induction allEqual shared pending with
  | case1 => simp
  | case2 a b pending hkeys next hnext ih =>
    obtain ⟨hab, hrest⟩ := List.forall_mem_cons.mp hpending
    have hpartners : ∀ pair ∈ partners b a, Comparable shared pair.1 pair.2 :=
      fun pair => hab.partners hkeys
    obtain ⟨hleaves, rfl⟩ := compareEntries_eq_some_iff.mp hnext
    have hsplit : ∀ {p : Fields Float × Fields Float → Prop},
        (∀ pair ∈ (deferred (partners b a)).reverse ++ pending, p pair) ↔
          (∀ pair ∈ deferred (partners b a), p pair) ∧ ∀ pair ∈ pending, p pair := by
      simp [or_imp, forall_and]
    rw [ih, hsplit, List.forall_mem_cons, same_record_iff hab.left.keys,
      leavesEqual_iff hpartners]
    · simp [hkeys, hleaves]
    · rw [hsplit]
      exact ⟨fun pair hpair => hpartners _ (mem_deferred_iff.mp hpair), hrest⟩
  | case3 a b pending hkeys hnone =>
    obtain ⟨hab, -⟩ := List.forall_mem_cons.mp hpending
    apply iff_of_false Bool.false_ne_true
    intro hsame
    have hrecord := (same_record_iff hab.left.keys).mp (List.forall_mem_cons.mp hsame).1
    have hleaves := ((leavesEqual_iff fun pair => hab.partners hkeys).mp hrecord.2).1
    have hsome : compareEntries shared b a pending = some _ :=
      compareEntries_eq_some_iff.mpr ⟨hleaves, rfl⟩
    simp [hnone] at hsome
  | case4 a b pending hkeys =>
    obtain ⟨hab, -⟩ := List.forall_mem_cons.mp hpending
    apply iff_of_false Bool.false_ne_true
    intro hsame
    exact hkeys ((same_record_iff hab.left.keys).mp (List.forall_mem_cons.mp hsame).1).1

theorem equal_iff (hab : Comparable shared (.record a) (.record b)) :
    equal shared a b = true ↔ Value.Same shared (.record a) (.record b) := by
  rw [equal, allEqual_iff (by simpa using hab)]
  simp

end Fields

/-! ### Records of a class -/

theorem RecordClass.isA_self (recordClass : RecordClass) :
    recordClass.isA recordClass = true := by
  cases recordClass <;> simp [RecordClass.isA]

namespace TypedRecord

/-- The fields as one value. -/
def value (record : TypedRecord) : Value Float := .record record.fields

theorem equal_iff {shared : Bool} {a b : TypedRecord} (ha : a.value.Nested) (hb : b.value.Nested)
    (hshared : shared = true → a = b) :
    a.equal shared (.object b) = true ↔
      a.recordClass = b.recordClass ∧ Value.Same shared a.value b.value := by
  have hab : Fields.Comparable shared a.value b.value :=
    ⟨ha, hb, fun htrue => congrArg value (hshared htrue)⟩
  simp only [equal, Bool.and_eq_true, decide_eq_true_eq]
  exact and_congr_right fun _ => Fields.equal_iff hab

theorem equal_comm {shared : Bool} {a b : TypedRecord} (ha : a.value.Nested) (hb : b.value.Nested)
    (hshared : shared = true → a = b) :
    b.equal shared (.object a) = a.equal shared (.object b) := by
  rw [Bool.eq_iff_iff, equal_iff ha hb hshared, equal_iff hb ha fun htrue => (hshared htrue).symm]
  exact and_congr eq_comm ⟨Value.Same.symm, Value.Same.symm⟩

theorem equal_reordered {shared : Bool} {a b a' b' : TypedRecord} (ha : a.value.Nested)
    (hb : b.value.Nested) (hshared : shared = true → a = b)
    (hclass : a'.recordClass = a.recordClass) (hclass' : b'.recordClass = b.recordClass)
    (haa' : a.value.Reordered a'.value) (hbb' : b.value.Reordered b'.value)
    (hshared' : shared = true → a' = b') :
    a'.equal shared (.object b') = a.equal shared (.object b) := by
  rw [Bool.eq_iff_iff, equal_iff ha hb hshared,
    equal_iff (haa'.nested ha) (hbb'.nested hb) hshared', hclass, hclass',
    Value.same_reordered_iff haa' hbb']

/-- The two tests of the class agree on what they are asked about. -/
theorem unequal_eq_not_equal (shared : Bool) (a : TypedRecord) (operand : Operand) :
    a.unequal shared operand = !a.equal shared operand := by
  cases operand with
  | foreign => simp [unequal, equal]
  | object b =>
    simp only [unequal]
    split
    · rfl
    · case isFalse hother =>
      have hclass : a.recordClass ≠ b.recordClass := by
        intro heq
        rw [← heq] at hother
        exact hother a.recordClass.isA_self
      simp [equal, hclass]

/-- For every two records of any classes, whose fields hold records in records of any depth, the
loop comes to an end after at most as many rounds as there are records on the left side, and with it
equality is what it should be; it does not depend on the sides or on the order of keys, and
inequality is its negation for every other object. -/
theorem equality_structural (shared : Bool) (a b : TypedRecord) (ha : a.value.Nested)
    (hb : b.value.Nested) (hshared : shared = true → a = b) :
    (∃ rounds ≤ a.value.recordCount,
        Fields.Rounds shared [(a.fields, b.fields)] rounds
          (Fields.equal shared a.fields b.fields)) ∧
      (a.equal shared (.object b) = true ↔
        a.recordClass = b.recordClass ∧ Value.Same shared a.value b.value) ∧
      b.equal shared (.object a) = a.equal shared (.object b) ∧
      (∀ a' b' : TypedRecord, a'.recordClass = a.recordClass → b'.recordClass = b.recordClass →
        a.value.Reordered a'.value → b.value.Reordered b'.value → (shared = true → a' = b') →
          a'.equal shared (.object b') = a.equal shared (.object b)) ∧
      ∀ operand, a.unequal shared operand = !a.equal shared operand := by
  refine ⟨?_, equal_iff ha hb hshared, equal_comm ha hb hshared, ?_,
    a.unequal_eq_not_equal shared⟩
  · exact Fields.rounds_allEqual shared [(a.fields, b.fields)]
  · intro a' b' hclass hclass' haa' hbb' hshared'
    exact equal_reordered ha hb hshared hclass hclass' haa' hbb' hshared'

/-- Statistics with a record of limits among their counters. -/
def limited : TypedRecord :=
  ⟨.statistics, [("iter", .int 3), ("counters", .record
    [("calls", Value.ofInts [1, 2]), ("limits", .record [("time", .null)])])]⟩

/-- The same with the keys in another order, at the outside and inside. -/
def shuffled : TypedRecord :=
  ⟨.statistics, [("counters", .record
    [("limits", .record [("time", .null)]), ("calls", Value.ofInts [1, 2])]), ("iter", .int 3)]⟩

theorem nested_limited : limited.value.Nested := by
  have hlimits : (Value.record [("time", .null)]).Nested := by
    apply Value.nested_record (by decide)
    rintro _ (_ | ⟨_, ⟨⟩⟩)
    exact Value.nested_atom rfl
  have hcounters : (Value.record
      [("calls", Value.ofInts [1, 2]), ("limits", .record [("time", .null)])]).Nested := by
    apply Value.nested_record (by decide)
    rintro _ (_ | ⟨_, _ | ⟨_, ⟨⟩⟩⟩)
    · exact Value.nested_ofInts _
    · exact hlimits
  apply Value.nested_record (by decide)
  rintro _ (_ | ⟨_, _ | ⟨_, ⟨⟩⟩⟩)
  · exact Value.nested_atom rfl
  · exact hcounters

theorem reordered_shuffled : limited.value.Reordered shuffled.value := by
  apply Value.Reordered.record (by decide)
  intro key a b ha hb
  rcases Fields.mem_of_get? ha with _ | ⟨_, _ | ⟨_, ⟨⟩⟩⟩
  · obtain rfl : Value.int 3 = b := Option.some.inj hb
    exact .unchanged _
  · cases hb
    exact Value.reordered_of_perm (by decide) (List.Perm.swap _ _ _)

theorem same_limited : Value.Same false limited.value limited.value := by
  have hcalls : Value.Same false (Value.ofInts [1, 2]) (Value.ofInts [1, 2]) := by
    refine .leaves (.arrays (Or.inl rfl) ⟨⟨[2], rfl, rfl⟩, ?_⟩)
    exact .cons ⟨_, rfl, rfl⟩ (.cons ⟨_, rfl, rfl⟩ .nil)
  have hlimits : Value.Same false (.record [("time", .null)]) (.record [("time", .null)]) := by
    apply Value.Same.records (fun key => Iff.rfl)
    intro key a b ha hb
    rcases Fields.mem_of_get? ha with _ | ⟨_, ⟨⟩⟩
    cases hb
    exact .leaves (.scalars ⟨_, rfl, rfl⟩)
  apply Value.Same.records (fun key => Iff.rfl)
  intro key a b ha hb
  rcases Fields.mem_of_get? ha with _ | ⟨_, _ | ⟨_, ⟨⟩⟩⟩
  · cases hb
    exact .leaves (.scalars ⟨_, rfl, rfl⟩)
  · cases hb
    apply Value.Same.records (fun key => Iff.rfl)
    intro key a b ha hb
    rcases Fields.mem_of_get? ha with _ | ⟨_, _ | ⟨_, ⟨⟩⟩⟩
    · cases hb
      exact hcalls
    · cases hb
      exact hlimits

theorem equality_structural_shuffled :
    (∃ rounds ≤ 3, Fields.Rounds false [(limited.fields, shuffled.fields)] rounds true) ∧
      limited.equal false (.object shuffled) = true ∧
      limited.unequal false (.object shuffled) = false := by
  obtain ⟨hrounds, hequal, -, -, hunequal⟩ := equality_structural false limited shuffled
    nested_limited (reordered_shuffled.nested nested_limited) nofun
  have htrue : limited.equal false (.object shuffled) = true :=
    hequal.mpr ⟨rfl, same_limited.reordered (.unchanged _) reordered_shuffled⟩
  have hfields : Fields.equal false limited.fields shuffled.fields = true := by
    simp only [equal, Bool.and_eq_true] at htrue
    exact htrue.2
  rw [hfields] at hrounds
  rw [hunequal, htrue]
  exact ⟨hrounds, rfl, rfl⟩

end TypedRecord

/-! ### Metadata -/

namespace Meta

theorem nested_typed (problem : Meta Float) : problem.typed.value.Nested := by
  apply Value.nested_record
  · change List.Nodup ["nobj", "weights", "objtypes", "nnzhi", "nvar", "x0", "lvar", "uvar", "ncon",
      "y0", "lcon", "ucon", "nnzo", "nnzj", "nnzh", "lin", "nln", "nnet", "lnet", "nlin", "nnln",
      "nnnet", "nlnet", "minimize", "nlo", "islp", "name"]
    decide
  · simp [typed, toFields, Value.nested_ofList, Value.nested_ofNats, Value.nested_texts,
      Value.nested_atom, Value.isAtom, Value.isList, Value.isRecord, Value.isArray]

variable (a b : Meta Float)

/-- Metadata is compared field by field, whatever it was made from. -/
theorem equal_iff_same : a.equal b = true ↔ Value.Same false a.typed.value b.typed.value := by
  have hapart : false = true → a.typed = b.typed := nofun
  rw [equal, TypedRecord.equal_iff a.nested_typed b.nested_typed hapart]
  exact and_iff_right rfl

theorem equal_symm : b.equal a = a.equal b :=
  TypedRecord.equal_comm a.nested_typed b.nested_typed nofun

end Meta

/-! ### Statistics -/

namespace Stats

variable {stats a b : Stats Float} {shared : Bool}

theorem keys_toFields (stats : Stats Float) : stats.toFields.keys.Nodup := by
  change List.Nodup ["status", "solution", "averaged_solution", "objective", "gradient_norm",
    "elapsed_time", "iter", "counters", "solver_specific"]
  decide

/-- The counters and what the solver adds are nested records. -/
structure Nested (stats : Stats Float) : Prop where
  counters : (Value.record stats.counters).Nested
  solverSpecific : (Value.record stats.solverSpecific).Nested

theorem nested_typed (hnested : stats.Nested) : stats.typed.value.Nested := by
  apply Value.nested_record stats.keys_toFields
  simp [toFields, Value.nested_ofList, Value.nested_atom, Value.isAtom, Value.isList,
    Value.isRecord, Value.isArray, hnested.counters, hnested.solverSpecific]

theorem equal_iff_same (ha : a.Nested) (hb : b.Nested) (hshared : shared = true → a = b) :
    a.equal shared b = true ↔ Value.Same shared a.typed.value b.typed.value := by
  have htyped : shared = true → a.typed = b.typed := fun htrue => congrArg typed (hshared htrue)
  rw [equal, TypedRecord.equal_iff (nested_typed ha) (nested_typed hb) htyped]
  exact and_iff_right rfl

theorem equal_symm (ha : a.Nested) (hb : b.Nested) (hshared : shared = true → a = b) :
    b.equal shared a = a.equal shared b :=
  TypedRecord.equal_comm (nested_typed ha) (nested_typed hb) fun htrue =>
    congrArg typed (hshared htrue)

end Stats

end Multigrad
