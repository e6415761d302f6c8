import Multigrad.Value.Field
import Mathlib.Data.List.TakeWhile

/-!
# Two readings of an integer

A count is read twice: once as a plain integer, and once as the field of a record. The two accept
different values, but a value that both accept is the same integer to both. The only numerals that a
field reads and a plain integer does not have a point, and a plain integer never has one.
-/

namespace Multigrad

namespace Decimal

theorem digit?_point : digit? '.' = none := by decide

theorem point_not_mem_of_digitsOnto {value n : Nat} {chars : List Char}
    (hread : digitsOnto value chars = some n) : '.' ∉ chars := by
  fun_induction digitsOnto value chars with
  | case1 value => exact List.not_mem_nil
  | case2 value c rest ih =>
      obtain ⟨d, hd, hrest⟩ := Option.bind_eq_some_iff.mp hread
      have hpoint : '.' ≠ c := fun h => by rw [← h, digit?_point] at hd; cases hd
      simpa [hpoint] using ih d hrest
  | case3 value c rest _ ih =>
      obtain ⟨d, hd, hrest⟩ := Option.bind_eq_some_iff.mp hread
      have hpoint : '.' ≠ c := fun h => by rw [← h, digit?_point] at hd; cases hd
      simpa [hpoint] using ih d hrest

theorem point_not_mem_of_natural? {n : Nat} {chars : List Char}
    (hread : natural? chars = some n) : '.' ∉ chars := by
  cases chars with
  | nil => exact List.not_mem_nil
  | cons c rest =>
      obtain ⟨d, hd, hrest⟩ := Option.bind_eq_some_iff.mp hread
      have hpoint : '.' ≠ c := fun h => by rw [← h, digit?_point] at hd; cases hd
      simpa [hpoint] using point_not_mem_of_digitsOnto hrest

theorem point_not_mem_of_signed {chars : List Char} (hsigned : '.' ∉ (signed chars).2) :
    '.' ∉ chars := by
  unfold signed at hsigned
  split at hsigned
  · simpa using hsigned
  · simpa using hsigned
  · exact hsigned

theorem integer?_eq_some_iff {text : String} {n : Int} :
    integer? text = some n ↔ ∃ digits, natural? (signed (Text.trim text.toList)).2 = some digits
      ∧ (if (signed (Text.trim text.toList)).1 then -(digits : Int) else digits) = n := by
  unfold integer?
  generalize signed (Text.trim text.toList) = parts
  obtain ⟨negative, digits⟩ := parts
  cases hdigits : natural? digits <;> simp [hdigits]

/-- A numeral that is an integer and a whole number is the same number as both. -/
theorem wholeNumber?_eq_integer? {text : String} {m n : Int}
    (hwhole : wholeNumber? text = some m) (hinteger : integer? text = some n) : m = n := by
  obtain ⟨digits, hdigits, hn⟩ := integer?_eq_some_iff.mp hinteger
  have hpoint : '.' ∉ Text.trim text.toList :=
    point_not_mem_of_signed (point_not_mem_of_natural? hdigits)
  have hall : (Text.trim text.toList).takeWhile (· != '.') = Text.trim text.toList :=
    List.takeWhile_eq_self_iff.mpr fun c hc => by
      simpa using fun h : c = '.' => hpoint (h ▸ hc)
  unfold wholeNumber? at hwhole
  simp only [hall] at hwhole
  split at hwhole
  · exact Option.some.inj (hwhole.symm.trans (integer?_eq_some_iff.mpr ⟨digits, hdigits, hn⟩))
  · cases hwhole

end Decimal

/-- An integer field reads the integer that the value is read as. -/
theorem Field.int_eq_integer? {value : Value Float} {m n : Int}
    (hfield : Field.int value = .ok m) (hinteger : value.integer? = .ok n) : m = n := by
  cases value with
  | flag b => exact (Except.ok.inj hfield).symm.trans (Except.ok.inj hinteger)
  | int k => exact (Except.ok.inj hfield).symm.trans (Except.ok.inj hinteger)
  | real r =>
      simp only [Field.int] at hfield
      simp only [Value.integer?, Value.truncated?] at hinteger
      cases hparts : Double.parts? r with
      | none => simp [hparts] at hfield
      | some parts =>
          simp only [hparts] at hfield hinteger
          split at hfield
          · exact (Except.ok.inj hfield).symm.trans (Except.ok.inj hinteger)
          · cases hfield
  | text s =>
      simp only [Field.int] at hfield
      simp only [Value.integer?] at hinteger
      cases hwhole : Decimal.wholeNumber? s with
      | none => simp [hwhole] at hfield
      | some k =>
          cases hplain : Decimal.integer? s with
          | none => simp [hplain] at hinteger
          | some l =>
              simp only [hwhole, Except.ok.injEq] at hfield
              simp only [hplain, Except.ok.injEq] at hinteger
              rw [← hfield, ← hinteger]
              exact Decimal.wholeNumber?_eq_integer? hwhole hplain
  | null => cases hfield
  | list items => cases hfield
  | record entries => cases hfield
  | array shape entries => cases hfield

end Multigrad
