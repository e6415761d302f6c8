import Mathlib
import Multigrad.Proofs.Double.Order
import Multigrad.Proofs.Scalar.Floor

/-!
# The exact values of doubles

The fields of the bits and the unpacked double say the same, and what they say is written in one way
only. So two doubles are equal exactly when they stand for one quantity, a rational or an infinity,
and a double equals an integer exactly when it stands for it.
-/

namespace Multigrad.Double

open Float.Model (UnpackedFloat Format)
open Float.Model.UnpackedFloat (Sign)

/-- The exact form of an unpacked double. -/
def decoded? : UnpackedFloat → Option Parts
  | .finite s m e _ => some ⟨s == .negative, m, e⟩
  | .zero s => some ⟨s == .negative, 0, -1074⟩
  | _ => none

/-! ### The fields of the bits -/

theorem toNat_unpackMantissa (b : BitVec Format.binary64.numBits) :
    (UnpackedFloat.unpackMantissa b).toNat = b.toNat % 2 ^ 52 := by
  simp [UnpackedFloat.unpackMantissa_def]

theorem toNat_unpackExponent (b : BitVec Format.binary64.numBits) :
    (UnpackedFloat.unpackExponent b).toNat = b.toNat / 2 ^ 52 % 2 ^ 11 := by
  simp [UnpackedFloat.unpackExponent_def, Nat.shiftRight_eq_div_pow]

theorem toNat_unpackSign (b : BitVec Format.binary64.numBits) :
    (UnpackedFloat.unpackSign b).toNat = b.toNat / 2 ^ 63 := by
  have hbits : b.toNat < 2 ^ 64 := b.isLt
  simp [UnpackedFloat.unpackSign_def, Nat.shiftRight_eq_div_pow]
  omega

theorem isNegative_ofBitVec (b : BitVec 1) :
    (Sign.ofBitVec b == .negative) = decide (b.toNat = 1) := by
  decide +revert

theorem isNegative_unpackSign (b : BitVec Format.binary64.numBits) :
    (Sign.ofBitVec (UnpackedFloat.unpackSign b) == .negative) = decide (2 ^ 63 ≤ b.toNat) := by
  have hbits : b.toNat < 2 ^ 64 := b.isLt
  rw [isNegative_ofBitVec, toNat_unpackSign]
  congr 1
  apply propext
  omega

theorem eq_neg_one_iff (e : BitVec 11) : e = -1#11 ↔ e.toNat = 2047 := by
  rw [← BitVec.toNat_inj]
  rfl

theorem toNat_implicit (v : BitVec 52) : (1#1 ++ v).toNat = v.toNat + 2 ^ 52 := by
  rw [BitVec.toNat_append, ← Nat.shiftLeft_add_eq_or_of_lt v.isLt]
  simp [Nat.shiftLeft_eq, Nat.add_comm]

/-- The fields of the bits and the unpacked double say the same. -/
theorem parts?_eq_decoded? (x : Float) : parts? x = decoded? x.toModel.unpack := by
  set b : BitVec Format.binary64.numBits := x.toModel.toBits.toBitVec with hb
  have hbits : x.toBits.toNat = b.toNat := rfl
  have hsign := isNegative_unpackSign b
  have hexponent := toNat_unpackExponent b
  have hmantissa := toNat_unpackMantissa b
  simp only [parts?, hbits, Nat.pow_eq, ← hsign, ← hexponent, ← hmantissa]
  rw [Float.Model.unpack, ← hb]
  unfold UnpackedFloat.unpack
  extract_lets mantissa exponent unbiased signBit sign
  by_cases htop : exponent = -1#11
  · have hfield : exponent.toNat = 2047 := (eq_neg_one_iff exponent).mp htop
    rw [if_pos hfield, if_pos htop]
    split <;> rfl
  · have hfield : exponent.toNat ≠ 2047 := mt (eq_neg_one_iff exponent).mpr htop
    rw [if_neg hfield, if_neg htop]
    by_cases hlow : exponent = 0#11
    · have hzero : exponent.toNat = 0 := by simp [hlow]
      rw [if_pos hzero, if_pos hlow]
      split
      · case isTrue hnone =>
        have hnothing : mantissa.toNat = 0 := by simp [hnone]
        rw [hnothing]
        rfl
      · simp [decoded?, unbiased, hzero, Format.exponentBias, sign, signBit, mantissa]
    · have hzero : exponent.toNat ≠ 0 := fun h => hlow (BitVec.eq_of_toNat_eq h)
      rw [if_neg hzero, if_neg hlow]
      simp only [decoded?, toNat_implicit mantissa]
      rfl

/-! ### Exact values -/

namespace Parts

/-- What holds of the exact form of every finite double. -/
structure Canonical (parts : Parts) : Prop where
  mantissa_lt : parts.mantissa < 2 ^ 53
  le_exponent : -1074 ≤ parts.exponent
  exponent_le : parts.exponent ≤ 971
  normal : 2 ^ 52 ≤ parts.mantissa ∨ parts.exponent = -1074

def magnitude (parts : Parts) : ℚ := parts.mantissa * 2 ^ parts.exponent

def value (parts : Parts) : ℚ := if parts.negative then -parts.magnitude else parts.magnitude

end Parts

theorem canonical_of_parts? {x : Float} {parts : Parts} (hparts : parts? x = some parts) :
    parts.Canonical := by
  unfold parts? at hparts
  simp only [Nat.pow_eq] at hparts
  split at hparts
  · cases hparts
  · split at hparts
    · cases hparts
      constructor <;> dsimp only <;> omega
    · cases hparts
      constructor <;> dsimp only <;> omega

namespace Parts

theorem magnitude_nonneg (parts : Parts) : 0 ≤ parts.magnitude := by
  unfold magnitude
  positivity

theorem magnitude_eq_ratio (parts : Parts) :
    parts.magnitude = parts.ratio.1 / parts.ratio.2 := by
  unfold ratio magnitude
  split
  · case isTrue hexponent =>
    obtain ⟨n, hn⟩ := Int.eq_ofNat_of_zero_le hexponent
    simp [hn]
  · case isFalse hexponent =>
    obtain ⟨n, hn⟩ : ∃ n : Nat, parts.exponent = -n := ⟨(-parts.exponent).toNat, by omega⟩
    simp [hn, div_eq_mul_inv]

theorem abs_value (parts : Parts) : |parts.value| = parts.magnitude := by
  unfold value
  split
  · rw [abs_neg, abs_of_nonneg parts.magnitude_nonneg]
  · rw [abs_of_nonneg parts.magnitude_nonneg]

theorem signed_eq (parts : Parts) (n : Nat) :
    (parts.signed n : ℚ) = if parts.negative then -(n : ℚ) else n := by
  unfold signed
  split <;> simp

theorem value_eq (parts : Parts) :
    parts.value = parts.signed parts.ratio.1 / parts.ratio.2 := by
  rw [value, signed_eq, parts.magnitude_eq_ratio]
  split
  · rw [neg_div]
  · rfl

theorem compareInt_eq_iff (parts : Parts) (k : Int) :
    parts.compareInt k = .eq ↔ parts.value = k := by
  have hpos : (0 : ℚ) < parts.ratio.2 := by exact_mod_cast parts.ratio_pos
  rw [value_eq, div_eq_iff hpos.ne']
  simp only [compareInt, compare_eq_iff_eq]
  norm_cast

variable {a b : Parts}

/-- With a smaller exponent the mantissa cannot make up for it. -/
theorem Canonical.exponent_le_of_magnitude_le (ha : a.Canonical) (hb : b.Canonical)
    (hle : b.magnitude ≤ a.magnitude) : b.exponent ≤ a.exponent := by
  by_contra hlt
  have hnormal : 2 ^ 52 ≤ b.mantissa := by
    refine hb.normal.resolve_right ?_
    have := ha.le_exponent
    omega
  obtain ⟨n, hn⟩ : ∃ n : Nat, b.exponent = a.exponent + (n + 1 : Nat) :=
    ⟨(b.exponent - a.exponent - 1).toNat, by omega⟩
  have hscale : (0 : ℚ) < 2 ^ a.exponent := by positivity
  have hmantissa : b.mantissa * 2 ^ (n + 1) ≤ a.mantissa := by
    have : (b.mantissa : ℚ) * 2 ^ (n + 1) * 2 ^ a.exponent ≤ a.mantissa * 2 ^ a.exponent := by
      calc (b.mantissa : ℚ) * 2 ^ (n + 1) * 2 ^ a.exponent = b.magnitude := by
            rw [magnitude, hn, zpow_add₀ two_ne_zero, zpow_natCast]
            ring
        _ ≤ a.mantissa * 2 ^ a.exponent := hle
    exact_mod_cast le_of_mul_le_mul_right this hscale
  have hshift : b.mantissa * 2 ≤ b.mantissa * 2 ^ (n + 1) :=
    Nat.mul_le_mul_left _ (by rw [pow_succ]; have := Nat.one_le_two_pow (n := n); omega)
  have := ha.mantissa_lt
  omega

theorem Canonical.eq_of_magnitude_eq (ha : a.Canonical) (hb : b.Canonical)
    (heq : a.magnitude = b.magnitude) :
    a.mantissa = b.mantissa ∧ a.exponent = b.exponent := by
  have hexponent : a.exponent = b.exponent :=
    le_antisymm (hb.exponent_le_of_magnitude_le ha heq.le)
      (ha.exponent_le_of_magnitude_le hb heq.ge)
  refine ⟨?_, hexponent⟩
  have hscale : (2 : ℚ) ^ b.exponent ≠ 0 := by positivity
  rw [magnitude, magnitude, hexponent, mul_left_inj' hscale] at heq
  exact_mod_cast heq

theorem value_neg_iff (hne : a.value ≠ 0) : a.value < 0 ↔ a.negative = true := by
  have hnonneg := a.magnitude_nonneg
  unfold value at hne ⊢
  split
  · case isTrue hsign =>
    rw [if_pos hsign] at hne
    have hne' : a.magnitude ≠ 0 := neg_ne_zero.mp hne
    exact iff_of_true (by simpa using hnonneg.lt_of_ne' hne') hsign
  · case isFalse hsign => exact iff_of_false hnonneg.not_gt hsign

/-- A value other than zero is written in one way only. -/
theorem Canonical.eq_of_value_eq (ha : a.Canonical) (hb : b.Canonical) (heq : a.value = b.value)
    (hne : a.value ≠ 0) : a = b := by
  have hsign : a.negative = b.negative := by
    rw [Bool.eq_iff_iff, ← value_neg_iff hne, ← value_neg_iff (heq ▸ hne), heq]
  have hmagnitude : a.magnitude = b.magnitude := by
    unfold value at heq
    rw [hsign] at heq
    split at heq
    · exact neg_inj.mp heq
    · exact heq
  obtain ⟨hmantissa, hexponent⟩ := ha.eq_of_magnitude_eq hb hmagnitude
  cases a
  cases b
  simp_all

end Parts

/-! ### Equality -/

/-- What a double that is a number stands for. -/
inductive Quantity where
  | rational (q : ℚ)
  | infinite (negative : Bool)
deriving DecidableEq

/-- The quantity of an unpacked double. -/
def quantityOf? (x : UnpackedFloat) : Option Quantity :=
  match x with
  | .notANumber => none
  | .infinity s => some (.infinite (s == .negative))
  | _ => (decoded? x).map fun parts => .rational parts.value

def quantity? (x : Float) : Option Quantity := quantityOf? x.toModel.unpack

theorem quantity?_eq_none_iff (x : Float) : quantity? x = none ↔ x.isNaN = true := by
  change quantityOf? x.toModel.unpack = none ↔ x.toModel.unpack.isNaN = true
  cases x.toModel.unpack <;> simp [quantityOf?, decoded?, UnpackedFloat.isNaN]

theorem quantityOf?_finite {s : Sign} {m : Nat} {e : Int} (hm : 0 < m) :
    quantityOf? (.finite s m e hm) = some (.rational (Parts.value ⟨s == .negative, m, e⟩)) := rfl

theorem quantityOf?_zero (s : Sign) : quantityOf? (.zero s) = some (.rational 0) := by
  simp [quantityOf?, decoded?, Parts.value, Parts.magnitude]

theorem value_finite_ne_zero (s : Sign) {m : Nat} (e : Int) (hm : 0 < m) :
    Parts.value ⟨s == .negative, m, e⟩ ≠ 0 := by
  have hmagnitude : (m : ℚ) * 2 ^ e ≠ 0 := by positivity
  unfold Parts.value Parts.magnitude
  split
  · exact neg_ne_zero.mpr hmagnitude
  · exact hmagnitude

/-- Unpacked doubles that stand for one quantity are the same or both zero. -/
theorem eq_or_zero_of_quantity {x y : UnpackedFloat}
    (hx : ∀ parts, decoded? x = some parts → parts.Canonical)
    (hy : ∀ parts, decoded? y = some parts → parts.Canonical) {q : Quantity}
    (hxq : quantityOf? x = some q) (hyq : quantityOf? y = some q) :
    x = y ∨ ∃ s t, x = .zero s ∧ y = .zero t := by
  cases x with
  | notANumber => cases hxq
  | infinity s =>
    cases hxq
    cases y with
    | infinity t =>
      left
      cases s <;> cases t <;> simp_all [quantityOf?]
    | zero t => cases (quantityOf?_zero t).symm.trans hyq
    | _ => cases hyq
  | zero s =>
    rw [quantityOf?_zero] at hxq
    cases hxq
    cases y with
    | zero t => exact Or.inr ⟨s, t, rfl, rfl⟩
    | finite t n f hn =>
      rw [quantityOf?_finite, Option.some.injEq, Quantity.rational.injEq] at hyq
      exact absurd hyq (value_finite_ne_zero t f hn)
    | _ => cases hyq
  | finite s m e hm =>
    cases hxq
    cases y with
    | zero t =>
      rw [quantityOf?_zero, Option.some.injEq, Quantity.rational.injEq] at hyq
      exact absurd hyq.symm (value_finite_ne_zero s e hm)
    | finite t n f hn =>
      rw [quantityOf?_finite, Option.some.injEq, Quantity.rational.injEq] at hyq
      have hparts := (hx _ rfl).eq_of_value_eq (hy _ rfl) hyq.symm (value_finite_ne_zero s e hm)
      left
      cases s <;> cases t <;> simp_all
    | _ => cases hyq

theorem canonical_of_decoded? (x : Float) {parts : Parts}
    (hparts : decoded? x.toModel.unpack = some parts) : parts.Canonical :=
  canonical_of_parts? ((parts?_eq_decoded? x).trans hparts)

/-- Two doubles are equal when they stand for one quantity; the undefined one stands for none. -/
theorem same_iff (x y : Float) :
    Scalar.same x y = true ↔ ∃ q, quantity? x = some q ∧ quantity? y = some q := by
  change UnpackedFloat.beq x.toModel.unpack y.toModel.unpack = true ↔ _
  rw [UnpackedFloat.beq_iff_ne_notANumber_and_eq]
  constructor
  · rintro ⟨hx, hy, hsame | hzero | hzero⟩
    · obtain ⟨q, hq⟩ : ∃ q, quantity? x = some q := by
        rw [← Option.ne_none_iff_exists', ne_eq, quantity?_eq_none_iff]
        exact mt UnpackedFloat.isNaN_iff.mp hx
      exact ⟨q, hq, by rw [quantity?, ← hsame]; exact hq⟩
    · exact ⟨.rational 0, by rw [quantity?, hzero.1, quantityOf?_zero],
        by rw [quantity?, hzero.2, quantityOf?_zero]⟩
    · exact ⟨.rational 0, by rw [quantity?, hzero.1, quantityOf?_zero],
        by rw [quantity?, hzero.2, quantityOf?_zero]⟩
  · rintro ⟨q, hx, hy⟩
    refine ⟨?_, ?_, ?_⟩
    · intro hnan
      rw [quantity?, hnan] at hx
      cases hx
    · intro hnan
      rw [quantity?, hnan] at hy
      cases hy
    · rcases eq_or_zero_of_quantity (fun _ => canonical_of_decoded? x)
        (fun _ => canonical_of_decoded? y) hx hy with hsame | ⟨s, t, hs, ht⟩
      · exact Or.inl hsame
      · rw [hs, ht]
        cases s <;> cases t <;> simp

theorem quantity?_of_parts? {x : Float} {parts : Parts} (hparts : parts? x = some parts) :
    quantity? x = some (.rational parts.value) := by
  rw [parts?_eq_decoded?] at hparts
  rw [quantity?]
  cases hunpack : x.toModel.unpack <;> simp_all [quantityOf?, decoded?]

theorem exists_parts_of_quantity {x : Float} {q : ℚ} (hq : quantity? x = some (.rational q)) :
    ∃ parts, parts? x = some parts ∧ parts.value = q := by
  rw [parts?_eq_decoded?]
  rw [quantity?] at hq
  cases hunpack : x.toModel.unpack <;> simp_all [quantityOf?, decoded?]

/-- An integer is compared with the exact value of a double. -/
theorem sameInt_iff (x : Float) (k : Int) :
    Scalar.sameInt x k = true ↔ quantity? x = some (.rational k) := by
  change sameInt x k = true ↔ quantityOf? x.toModel.unpack = _
  rw [sameInt, parts?_eq_decoded?]
  cases x.toModel.unpack with
  | notANumber => simp [decoded?, quantityOf?]
  | infinity s => simp [decoded?, quantityOf?]
  | zero s =>
    simp only [decoded?, quantityOf?, beq_iff_eq, Parts.compareInt_eq_iff, Option.map_some,
      Option.some.injEq, Quantity.rational.injEq]
  | finite s m e hm =>
    simp only [decoded?, quantityOf?, beq_iff_eq, Parts.compareInt_eq_iff, Option.map_some,
      Option.some.injEq, Quantity.rational.injEq]

end Multigrad.Double
