import Multigrad.Proofs.Double.Arithmetic
import Multigrad.Proofs.Reading
import Multigrad.Proofs.Width

/-!
# The widths of histogram lines

A bar has its width whatever it stands for, and a count is the only other part of its line that can
be too long. In a line about zeros the percentage can be too long as well: it is right as long as it
has at most four digits before the point, behind a sign.
-/

namespace Multigrad.Histogram

/-- How much room a count takes. -/
def countWidth (n : Nat) : Nat := max 6 (Decimal.length n)

theorem six_le_countWidth (n : Nat) : 6 ≤ countWidth n := Nat.le_max_left _ _

theorem countWidth_eq_six_iff {n : Nat} : countWidth n = 6 ↔ n < 10 ^ 6 := by
  rw [countWidth, max_eq_left_iff]
  exact Decimal.length_le_iff (by decide)

variable {label text : String} {value : Nat}

theorem filledCells_le {value total : ℤ} {filled : Nat}
    (hfilled : filledCells value total = .ok filled) : filled ≤ barWidth := by
  unfold filledCells at hfilled
  dsimp only at hfilled
  split at hfilled
  · cases hfilled
    exact Nat.zero_le _
  · split at hfilled
    · cases hfilled
    · split at hfilled
      · cases hfilled
        exact Nat.zero_le _
      · cases hfilled
        exact Nat.min_le_left _ _

theorem length_bar {filled : Nat} (hfilled : filled ≤ barWidth) :
    (bar filled).length = barWidth := by
  simp only [bar, String.length_ofList, List.length_append, List.length_replicate]
  omega

/-- What stands around a text and a count in a line. -/
theorem length_around (hlabel : label.length ≤ 16) (middle : String) (value : Nat) :
    (Text.padLeft 16 label ++ ": " ++ middle ++ " " ++
        Text.padRight 6 (toString (value : ℤ))).length =
      19 + middle.length + countWidth value := by
  have hcolon : ": ".length = 2 := rfl
  have hblank : " ".length = 1 := rfl
  simp only [String.length_append, Text.length_padLeft, Text.length_padRight,
    Decimal.length_toString, hcolon, hblank, countWidth]
  omega

theorem length_line {total : ℤ} (hlabel : label.length ≤ 16)
    (hline : line label value total = .ok text) : text.length = 39 + countWidth value := by
  obtain ⟨filled, hfilled, hpure⟩ := bind_eq_ok.mp hline
  obtain rfl := pure_eq_ok.mp hpure
  rw [length_around hlabel, length_bar (filledCells_le hfilled), barWidth]

theorem lengths_of_forall₂ {total : ℤ} {labels : List String} {counts : List Nat}
    {texts : List String} (hlabels : ∀ label ∈ labels, label.length ≤ 16)
    (hlength : labels.length = counts.length)
    (htexts : List.Forall₂ (fun pair text => line pair.1 pair.2 total = .ok text)
      (labels.zip (counts.map Int.ofNat)) texts) :
    texts.map String.length = counts.map fun count => 39 + countWidth count := by
  induction labels generalizing counts texts with
  | nil =>
    obtain rfl := List.length_eq_zero_iff.mp hlength.symm
    cases htexts
    rfl
  | cons label labels ih =>
    obtain ⟨count, counts, rfl⟩ := List.exists_cons_of_length_eq_add_one hlength.symm
    rw [List.map_cons, List.zip_cons_cons] at htexts
    obtain ⟨hlabel, hlabels⟩ := List.forall_mem_cons.mp hlabels
    cases htexts with
    | cons hline htexts =>
      rw [List.map_cons, List.map_cons, length_line hlabel hline,
        ih hlabels (Nat.succ.inj hlength) htexts]

theorem lengths_lines {labels : List String} {counts : List Nat} {texts : List String}
    (hlabels : ∀ label ∈ labels, label.length ≤ 16) (hlength : labels.length = counts.length)
    (htexts : lines labels (counts.map Int.ofNat) = .ok texts) :
    texts.map String.length = counts.map fun count => 39 + countWidth count := by
  cases counts with
  | nil =>
    obtain rfl : [] = texts := Except.ok.inj htexts
    rfl
  | cons total counts => exact lengths_of_forall₂ hlabels hlength (mapM_eq_ok.mp htexts)

theorem length_sparsityLine {total : Number Float} (hlabel : label.length ≤ 16)
    (hline : sparsityLine label (.int value) total = .ok text) :
    ∃ share, sparsityText (.int value) total = .ok share ∧
      text.length = 19 + max 20 share.length + countWidth value := by
  obtain ⟨share, hshare, hrest⟩ := bind_eq_ok.mp hline
  obtain ⟨count, hcount, hpure⟩ := bind_eq_ok.mp hrest
  obtain rfl := pure_eq_ok.mp hpure
  obtain rfl : (value : ℤ) = count := Except.ok.inj hcount
  refine ⟨share, hshare, ?_⟩
  rw [length_around hlabel, Text.length_padRight, barWidth]

/-! ### Percentages -/

open Double (Faithful Parts parts? Representable)

theorem parts?_one : parts? (1.0 : Float) = some ⟨false, 2 ^ 52, -52⟩ := by decide +kernel

theorem parts?_hundred : parts? (100.0 : Float) = some ⟨false, 100 * 2 ^ 46, -46⟩ := by
  decide +kernel

theorem value_one : Parts.value ⟨false, 2 ^ 52, -52⟩ = 1 := by
  norm_num [Parts.value, Parts.magnitude]

theorem value_hundred : Parts.value ⟨false, 100 * 2 ^ 46, -46⟩ = 100 := by
  norm_num [Parts.value, Parts.magnitude]

/-- Both operations turn the order around, so a bound on the ratio becomes one on the percentage as
long as no rounding comes in between. -/
theorem exists_percentage {q : ℚ} {ratio : Float} (hratio : Faithful q ratio) (hnonneg : 0 ≤ q)
    (htop : q ≤ 10 ^ 6) :
    ∃ parts, parts? (100.0 * (1.0 - ratio)) = some parts ∧
      ∀ bound, Representable bound → Representable (1 - bound) →
        Representable (100 * (1 - bound)) →
          (bound ≤ q → parts.value ≤ 100 * (1 - bound)) ∧
            (q ≤ bound → 100 * (1 - bound) ≤ parts.value) := by
  have hzero : Representable 0 := ⟨0, 0, by norm_num, by norm_num, by norm_num⟩
  have hone : Representable 1 := ⟨1, 0, by norm_num, by norm_num, by norm_num⟩
  have hmillion : Representable (10 ^ 6) := ⟨10 ^ 6, 0, by norm_num, by norm_num, by norm_num⟩
  have hrange := Double.two_pow_le_largest
  obtain ⟨r, hr, hrounded⟩ := hratio
  have hr0 : 0 ≤ r.value := (hrounded 0 hzero).2 hnonneg
  have hr1 : r.value ≤ 10 ^ 6 := (hrounded _ hmillion).1 htop
  have hdifference : |Parts.value ⟨false, 2 ^ 52, -52⟩ - r.value| ≤ Double.largest := by
    rw [value_one, abs_le]
    constructor <;> linarith
  obtain ⟨d, hd, hdrounded⟩ := Double.faithful_sub parts?_one hr hdifference
  rw [value_one] at hdrounded
  have hd1 : d.value ≤ 1 := (hdrounded 1 hone).1 (by linarith)
  have hd0 : -10 ^ 6 ≤ d.value := (hdrounded _ hmillion.neg).2 (by linarith)
  have hproduct : |Parts.value ⟨false, 100 * 2 ^ 46, -46⟩ * d.value| ≤ Double.largest := by
    rw [value_hundred, abs_le]
    constructor <;> linarith
  obtain ⟨p, hp, hprounded⟩ := Double.faithful_mul parts?_hundred hd hproduct
  rw [value_hundred] at hprounded
  refine ⟨p, hp, fun bound hbound hbound' hbound'' => ⟨fun hq => ?_, fun hq => ?_⟩⟩
  · have hratio := (hrounded _ hbound).2 hq
    have hdifference := (hdrounded _ hbound').1 (by linarith)
    exact (hprounded _ hbound'').1 (by linarith)
  · have hratio := (hrounded _ hbound).1 hq
    have hdifference := (hdrounded _ hbound').2 (by linarith)
    exact (hprounded _ hbound'').2 (by linarith)

/-- Two places behind the point leave four digits before it when the magnitude is not rounded up to
ten thousand. -/
theorem length_fixed_le {x : Float} {parts : Parts} (hparts : parts? x = some parts)
    (hlow : -10000 + 25 / 4096 ≤ parts.value) (htop : parts.value ≤ 100) :
    (Double.fixed 2 x).length ≤ 8 := by
  have hmagnitude : (parts.ratio.1 : ℚ) / parts.ratio.2 ≤ 10000 - 25 / 4096 := by
    rw [← parts.magnitude_eq_ratio, ← parts.abs_value, abs_le]
    constructor <;> linarith
  have hpos : (0 : ℚ) < parts.ratio.2 := by exact_mod_cast parts.ratio_pos
  rw [div_le_iff₀ hpos] at hmagnitude
  have hunits : Decimal.roundDiv (parts.ratio.1 * 10 ^ 2) parts.ratio.2 ≤ 999999 := by
    apply Decimal.roundDiv_le
    have : (2 : ℚ) * (parts.ratio.1 * 10 ^ 2) < (2 * 999999 + 1) * parts.ratio.2 := by linarith
    exact_mod_cast this
  have hdigits : Decimal.length
      (Decimal.roundDiv (parts.ratio.1 * 10 ^ 2) parts.ratio.2 / 10 ^ 2) ≤ 4 := by
    rw [Decimal.length_le_iff (by decide)]
    omega
  rw [Double.length_fixed (by decide) hparts]
  split <;> omega

theorem lt_length_fixed {x : Float} {parts : Parts} (hparts : parts? x = some parts)
    (hlow : parts.value ≤ -10000) : 8 < (Double.fixed 2 x).length := by
  have hnonneg := parts.magnitude_nonneg
  have hsign : parts.negative = true := (parts.value_neg_iff (by linarith)).mp (by linarith)
  have hmagnitude : 10000 ≤ (parts.ratio.1 : ℚ) / parts.ratio.2 := by
    rw [← parts.magnitude_eq_ratio, ← parts.abs_value]
    exact (by linarith : (10000 : ℚ) ≤ -parts.value).trans (neg_le_abs _)
  have hpos : (0 : ℚ) < parts.ratio.2 := by exact_mod_cast parts.ratio_pos
  rw [le_div_iff₀ hpos] at hmagnitude
  have hunits : 10 ^ 6 ≤ Decimal.roundDiv (parts.ratio.1 * 10 ^ 2) parts.ratio.2 := by
    apply Decimal.le_roundDiv (by exact_mod_cast parts.ratio_pos)
    have : (10 ^ 6 : ℚ) * parts.ratio.2 ≤ parts.ratio.1 * 10 ^ 2 := by linarith
    exact_mod_cast this
  have hdigits : ¬Decimal.length
      (Decimal.roundDiv (parts.ratio.1 * 10 ^ 2) parts.ratio.2 / 10 ^ 2) ≤ 4 := by
    rw [Decimal.length_le_iff (by decide)]
    omega
  rw [Double.length_fixed (by decide) hparts, hsign, if_pos rfl]
  omega

/-- What a ratio below 101 is at most when its numerator has at most six digits; the percentage then
keeps clear of five digits. -/
def clearRatio : ℚ := 101 - 1 / 2 ^ 14

theorem representable_clearRatio : Representable clearRatio ∧ Representable (1 - clearRatio) ∧
    Representable (100 * (1 - clearRatio)) :=
  ⟨⟨101 * 2 ^ 14 - 1, -14, by norm_num [clearRatio], by norm_num, by norm_num⟩,
    ⟨-100 * 2 ^ 14 + 1, -14, by norm_num [clearRatio], by norm_num, by norm_num⟩,
    ⟨-10000 * 2 ^ 12 + 25, -12, by norm_num [clearRatio], by norm_num, by norm_num⟩⟩

theorem ratio_le_clearRatio {n m : Nat} (hn : n < 10 ^ 6) (hfew : n < 101 * m) :
    (n : ℚ) / m ≤ clearRatio := by
  have hm : (0 : ℚ) < m := by exact_mod_cast (by omega : 0 < m)
  have hn6 : (n : ℚ) < 10 ^ 6 := by exact_mod_cast hn
  have hlt : (n : ℚ) + 1 ≤ 101 * m := by exact_mod_cast hfew
  rw [div_le_iff₀ hm, clearRatio]
  -- With many entries the ratio is below 100 anyway, with few of them it has a large denominator.
  rcases le_or_gt (10 ^ 4) m with hlarge | hsmall
  · have : (10 ^ 4 : ℚ) ≤ m := by exact_mod_cast hlarge
    linarith
  · have : (m : ℚ) < 10 ^ 4 := by exact_mod_cast hsmall
    linarith

/-- A percentage has room in its line just when the entries are not too few by a factor of 101. -/
theorem length_percentage_le_iff {n m : Nat} {ratio : Float} (hm : 0 < m) (hn : n < 10 ^ 6)
    (hratio : Faithful (n / m) ratio) :
    (Double.fixed 2 (100.0 * (1.0 - ratio))).length ≤ 8 ↔ n < 101 * m := by
  have hm1 : (1 : ℚ) ≤ m := by exact_mod_cast hm
  have hn6 : (n : ℚ) < 10 ^ 6 := by exact_mod_cast hn
  have htop : (n : ℚ) / m ≤ 10 ^ 6 := (div_le_self (Nat.cast_nonneg n) hm1).trans hn6.le
  have hnonneg : (0 : ℚ) ≤ n / m := by positivity
  obtain ⟨parts, hparts, hbounds⟩ := exists_percentage hratio hnonneg htop
  constructor
  · intro hshort
    by_contra hmany
    have hle : (101 : ℚ) ≤ n / m := by
      rw [le_div_iff₀ (by linarith)]
      exact_mod_cast not_lt.mp hmany
    have hlow := (hbounds 101 ⟨101, 0, by norm_num, by norm_num, by norm_num⟩
      ⟨-100, 0, by norm_num, by norm_num, by norm_num⟩
      ⟨-10000, 0, by norm_num, by norm_num, by norm_num⟩).1 hle
    exact (lt_length_fixed hparts (by linarith)).not_ge hshort
  · intro hfew
    obtain ⟨hclear, hclear', hclear''⟩ := representable_clearRatio
    have hlow := (hbounds _ hclear hclear' hclear'').2 (ratio_le_clearRatio hn hfew)
    have hhigh := (hbounds 0 ⟨0, 0, by norm_num, by norm_num, by norm_num⟩
      ⟨1, 0, by norm_num, by norm_num, by norm_num⟩
      ⟨100, 0, by norm_num, by norm_num, by norm_num⟩).1 hnonneg
    rw [clearRatio] at hlow
    exact length_fixed_le hparts (by linarith) (by linarith)

/-! ### Lines about zeros -/

theorem sparsityText_cases {value total : Number Float}
    (htext : sparsityText value total = .ok text) :
    (total.atMostZero = true ∧ text.length ≤ 20) ∨
      total.atMostZero = false ∧ ∃ ratio, share value total = .ok ratio ∧
        (text.length ≤ 20 ↔ (Double.fixed 2 (100.0 * (1.0 - ratio))).length ≤ 8) := by
  unfold sparsityText at htext
  split at htext
  · case isTrue hzero =>
    obtain rfl := Except.ok.inj htext
    exact Or.inl ⟨hzero, by decide⟩
  · case isFalse hzero =>
    obtain ⟨ratio, hratio, hpure⟩ := bind_eq_ok.mp htext
    obtain rfl := pure_eq_ok.mp hpure
    refine Or.inr ⟨Bool.eq_false_iff.mpr hzero, ratio, hratio, ?_⟩
    have hopen : "(".length = 1 := rfl
    have hclose : "% sparsity)".length = 11 := rfl
    rw [String.length_append, String.length_append, Text.length_padLeft, hopen, hclose]
    omega

theorem eq_of_ofInt? {k : ℤ} {x : Float} (hx : Scalar.ofInt? k = .ok x) : Double.ofInt k = x := by
  unfold Scalar.ofInt? at hx
  dsimp only at hx
  split at hx
  · exact Except.ok.inj hx
  · cases hx

theorem eq_of_divide? {x y z : Float} (hz : Scalar.divide? x y = .ok z) : x / y = z := by
  unfold Scalar.divide? at hz
  split at hz
  · cases hz
  · exact Except.ok.inj hz

variable {n m : Nat}

theorem length_sparsityText_int_le_iff (hn : n < 10 ^ 6)
    (htext : sparsityText (.int n) (.int m) = .ok text) :
    text.length ≤ 20 ↔ m = 0 ∨ n < 101 * m := by
  rcases sparsityText_cases htext with ⟨hzero, hlength⟩ | ⟨hzero, ratio, hratio, hlength⟩
  · have hm : (m : ℤ) ≤ 0 := of_decide_eq_true hzero
    exact iff_of_true hlength (Or.inl (by omega))
  · have hm : ¬(m : ℤ) ≤ 0 := of_decide_eq_false hzero
    have hpos : 0 < m := by omega
    obtain ⟨-, hfaithful⟩ := Double.faithful_of_quotient? hratio
    rw [Int.cast_natCast, Int.cast_natCast] at hfaithful
    rw [hlength, length_percentage_le_iff hpos hn hfaithful]
    omega

theorem length_sparsityText_real_le_iff {total : Float} {parts : Parts}
    (hparts : parts? total = some parts) (hm : 0 < m) (htotal : parts.value = m) (hn : n < 10 ^ 6)
    (htext : sparsityText (.int n) (.real total) = .ok text) :
    text.length ≤ 20 ↔ n < 101 * m := by
  have hm0 : (0 : ℚ) < m := by exact_mod_cast hm
  have hm1 : (1 : ℚ) ≤ m := by exact_mod_cast hm
  have hn6 : (n : ℚ) < 10 ^ 6 := by exact_mod_cast hn
  have hrange := Double.two_pow_le_largest
  have hpositive := Double.not_atMost_zero hparts (htotal ▸ hm0)
  rcases sparsityText_cases htext with ⟨hzero, -⟩ | ⟨-, ratio, hratio, hlength⟩
  · cases hpositive.symm.trans hzero
  · obtain ⟨value, hvalue, hrest⟩ := bind_eq_ok.mp hratio
    obtain ⟨total', htotal', hdivide⟩ := bind_eq_ok.mp hrest
    obtain rfl : total = total' := Except.ok.inj htotal'
    obtain rfl : Double.ofInt n = value := eq_of_ofInt? hvalue
    obtain rfl : Double.ofInt n / total = ratio := eq_of_divide? hdivide
    have hsmall : |(n : ℤ)| ≤ 2 ^ 53 := by
      rw [abs_of_nonneg (Int.natCast_nonneg n)]
      omega
    obtain ⟨count, hcount, hvalue⟩ :=
      Double.exists_parts_of_quantity (Double.quantity?_ofInt_of_abs_le hsmall)
    rw [Int.cast_natCast] at hvalue
    have hratio1 : (n : ℚ) / m ≤ n := div_le_self (Nat.cast_nonneg n) hm1
    have hquotient : |count.value / parts.value| ≤ Double.largest := by
      rw [hvalue, htotal, abs_of_nonneg (by positivity)]
      linarith
    have hfaithful := Double.faithful_div hcount hparts (htotal ▸ hm0.ne') hquotient
    rw [hvalue, htotal] at hfaithful
    rw [hlength, length_percentage_le_iff hm hn hfaithful]

end Multigrad.Histogram
