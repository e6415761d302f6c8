import Multigrad.Proofs.Meta.Table

/-!
# Which metadata can be described

A bar can be drawn for every part of a total. Percentages are guarded against a total of zero, but
not against a quotient that is out of the range of doubles: a description fails there, and nowhere
else.
-/

namespace Multigrad.Histogram

open Double (Parts overflowBound parts?)

variable {value total : ℤ}

theorem exists_line (label : String) (hvalue : 0 ≤ value) (hle : value ≤ total) :
    ∃ text, line label value total = .ok text := by
  obtain ⟨filled, hfilled⟩ : ∃ filled, filledCells value total = .ok filled := by
    rcases le_or_gt total 0 with hnone | hpos
    · exact ⟨0, if_pos hnone⟩
    · obtain ⟨_, _, -, hfilled⟩ := filledCells_eq hvalue hle hpos
      exact ⟨_, hfilled⟩
  exact ⟨_, bind_eq_ok.mpr ⟨filled, hfilled, rfl⟩⟩

theorem exists_lines (labels : List String) {total : Nat} {counts : List Nat}
    (hcounts : ∀ count ∈ counts, count ≤ total) :
    ∃ texts, lines labels ((total :: counts).map Int.ofNat) = .ok texts := by
  refine exists_mapM_eq_ok.mpr fun (label, value) hpair => ?_
  obtain ⟨count, hcount, rfl⟩ := List.mem_map.mp (List.of_mem_zip hpair).2
  have hle : count ≤ total := by
    rcases List.mem_cons.mp hcount with rfl | hcount
    · exact le_rfl
    · exact hcounts count hcount
  exact exists_line label (Int.natCast_nonneg count) (Int.ofNat_le.mpr hle)

/-! ### Percentages in and out of range -/

theorem exists_sparsityLine {total : Number Float} (label : String)
    (hshare : total.atMostZero = true ∨ ∃ ratio, share (.int value) total = .ok ratio) :
    ∃ text, sparsityLine label (.int value) total = .ok text := by
  obtain ⟨text, htext⟩ : ∃ text, sparsityText (.int value) total = .ok text := by
    unfold sparsityText
    split
    · exact ⟨_, rfl⟩
    · case isFalse hpos =>
      obtain ⟨ratio, hratio⟩ := hshare.resolve_left hpos
      exact ⟨_, bind_eq_ok.mpr ⟨ratio, hratio, rfl⟩⟩
  exact ⟨_, bind_eq_ok.mpr ⟨text, htext, rfl⟩⟩

theorem sparsityLine_of_error {value total : Number Float} {mishap : Mishap} (label : String)
    (hpos : total.atMostZero = false) (hshare : share value total = .error mishap) :
    sparsityLine label value total = .error mishap := by
  rw [sparsityLine, sparsityText, hpos, hshare]
  rfl

/-- The conversion of a count to a double can fail, its quotient by a double of at least one
cannot. -/
theorem share_real (value : ℤ) {total : Float} {parts : Parts} (hparts : parts? total = some parts)
    (hpos : 0 < parts.value) :
    (|(value : ℚ)| < overflowBound → ∃ ratio, share (.int value) (.real total) = .ok ratio) ∧
      (overflowBound ≤ |(value : ℚ)| → share (.int value) (.real total) = .error .overflow) := by
  have hzero : Scalar.same total 0.0 = false := by
    rw [← Bool.not_eq_true, Double.same_iff]
    rintro ⟨q, hq, hq0⟩
    have hparts0 : parts? (0.0 : Float) = some ⟨false, 0, -1074⟩ := by decide +kernel
    rw [Double.quantity?_of_parts? hparts] at hq
    rw [Double.quantity?_of_parts? hparts0, ← hq] at hq0
    injection hq0 with hq0
    injection hq0 with hq0
    rw [← hq0, Parts.value, Parts.magnitude] at hpos
    norm_num at hpos
  constructor
  · intro hin
    have hdivide : Scalar.divide? (Double.ofInt value) total = .ok (Double.ofInt value / total) :=
      if_neg (Bool.eq_false_iff.mp hzero)
    exact ⟨_, bind_eq_ok.mpr ⟨_, Double.ofInt?_of_lt hin, bind_eq_ok.mpr ⟨total, rfl, hdivide⟩⟩⟩
  · intro hout
    have hvalue : (Number.int value : Number Float).toReal = .error .overflow :=
      Double.ofInt?_of_le hout
    rw [share, hvalue]
    · rfl
    · rintro _ _ - ⟨⟩

end Multigrad.Histogram

namespace Multigrad.Meta

open Double (overflowBound)

/-- The quotients behind the two percentages are in the range of doubles. -/
structure InRange (problem : Meta Float) : Prop where
  entries : (triangle problem.nvar : ℚ) < overflowBound
  nnzh : (problem.nnzh : ℚ) < overflowBound
  nnzj : problem.ncon = 0 ∨
    (problem.nnzj : ℚ) / (problem.nvar * problem.ncon : Nat) < overflowBound

theorem exists_setLines {sets : BoundSets} {n : Nat} (label : String) (hsplits : sets.Splits n) :
    ∃ texts, setLines label sets = .ok texts := by
  rw [setLines, setCounts_eq hsplits]
  exact Histogram.exists_lines _ fun _ hsize => size_le hsplits hsize

section Columns

variable {problem : Meta Float}

/-- The bars of the variables can be drawn. -/
theorem exists_variableLines (hsound : problem.Sound) :
    ∃ bars, problem.variableLines = problem.hessianLine.map fun line => bars ++ [line] := by
  obtain ⟨bars, hbars⟩ := exists_setLines "All variables" hsound.variableSets
  refine ⟨bars, ?_⟩
  rw [variableLines, hbars]
  cases problem.hessianLine <;> rfl

theorem exists_constraintLines (hsound : problem.Sound) :
    ∃ bars, problem.constraintLines = problem.jacobianLine.map fun line => bars ++ [line] := by
  obtain ⟨bars, hbars⟩ := exists_setLines "All constraints" hsound.constraintSets
  obtain ⟨linear, hlinear⟩ := Histogram.exists_line "linear" (Int.natCast_nonneg problem.nlin)
    (Int.ofNat_le.mpr hsound.lin.count_le)
  obtain ⟨nonlinear, hnonlinear⟩ := Histogram.exists_line "nonlinear"
    (Int.natCast_nonneg problem.nnln) (Int.ofNat_le.mpr hsound.nln.count_le)
  refine ⟨bars ++ [linear, nonlinear], ?_⟩
  rw [constraintLines, hbars, hlinear, hnonlinear]
  cases problem.jacobianLine with
  | error => rfl
  | ok jacobian => exact congrArg Except.ok (List.append_assoc bars [linear, nonlinear] _).symm

theorem abs_ratio (n m : Nat) : |((n : ℤ) : ℚ) / (m : ℤ)| = n / m := by
  rw [Int.cast_natCast, Int.cast_natCast, abs_of_nonneg (by positivity)]

/-- The number of entries of a triangle is halved as a double. -/
theorem entries_quotient (n : Nat) :
    |(((n * (n + 1) : ℤ) : ℚ) / (2 : ℤ))| = triangle n := by
  rw [triangle_cast, abs_of_nonneg (by positivity)]
  push_cast
  rfl

theorem hessianLine_outcome (hnvar : 1 ≤ problem.nvar) :
    ((triangle problem.nvar : ℚ) < overflowBound ∧ (problem.nnzh : ℚ) < overflowBound →
        ∃ text, problem.hessianLine = .ok text) ∧
      (overflowBound ≤ (triangle problem.nvar : ℚ) ∨ overflowBound ≤ (problem.nnzh : ℚ) →
        problem.hessianLine = .error .overflow) := by
  have hratio := entries_quotient problem.nvar
  rcases lt_or_ge (triangle problem.nvar : ℚ) overflowBound with hin | hout
  · obtain ⟨entries, hentries⟩ := Double.quotient?_of_lt two_ne_zero (hratio ▸ hin)
    have hline : problem.hessianLine =
        Histogram.sparsityLine "nnzh" (.int problem.nnzh) (.real entries) := by
      rw [hessianLine, hentries]
      rfl
    obtain ⟨-, parts, hparts, hfaithful⟩ := Double.faithful_of_quotient? hentries
    have hpos : 0 < parts.value := by
      have hone : (1 : ℚ) ≤ triangle problem.nvar := by exact_mod_cast triangle_pos hnvar
      rw [← hratio, abs_of_nonneg (by positivity)] at hone
      exact one_pos.trans_le ((hfaithful 1 (Double.representable_int (by decide))).2 hone)
    obtain ⟨hshare, hshare'⟩ := Histogram.share_real problem.nnzh hparts hpos
    rw [Int.cast_natCast, abs_of_nonneg (Nat.cast_nonneg _)] at hshare hshare'
    rw [hline]
    refine ⟨fun h => Histogram.exists_sparsityLine _ (Or.inr (hshare h.2)), fun h => ?_⟩
    have hnnzh := h.resolve_left hin.not_ge
    exact Histogram.sparsityLine_of_error _ (Double.not_atMost_zero hparts hpos) (hshare' hnnzh)
  · refine ⟨fun h => absurd h.1 hout.not_gt, fun _ => ?_⟩
    rw [hessianLine, Double.quotient?_of_le two_ne_zero (hratio ▸ hout)]
    rfl

theorem jacobianLine_outcome (hnvar : 1 ≤ problem.nvar) :
    (problem.ncon = 0 ∨
        (problem.nnzj : ℚ) / (problem.nvar * problem.ncon : Nat) < overflowBound →
        ∃ text, problem.jacobianLine = .ok text) ∧
      (problem.ncon ≠ 0 ∧
        overflowBound ≤ (problem.nnzj : ℚ) / (problem.nvar * problem.ncon : Nat) →
        problem.jacobianLine = .error .overflow) := by
  have hline : problem.jacobianLine = Histogram.sparsityLine "nnzj" (.int problem.nnzj)
      (.int (problem.nvar * problem.ncon : Nat)) := by
    rw [jacobianLine, Nat.cast_mul]
  have hratio := abs_ratio problem.nnzj (problem.nvar * problem.ncon)
  rw [hline]
  rcases Nat.eq_zero_or_pos problem.ncon with hnone | hncon
  · refine ⟨fun _ => Histogram.exists_sparsityLine _ (Or.inl ?_), fun h => absurd hnone h.1⟩
    rw [hnone, Nat.mul_zero]
    rfl
  · have hentries : ((problem.nvar * problem.ncon : Nat) : ℤ) ≠ 0 := by
      exact_mod_cast (Nat.mul_pos hnvar hncon).ne'
    constructor
    · intro h
      have hin := h.resolve_left hncon.ne'
      exact Histogram.exists_sparsityLine _
        (Or.inr (Double.quotient?_of_lt hentries (by rwa [hratio])))
    · rintro ⟨-, hout⟩
      refine Histogram.sparsityLine_of_error _ ?_
        (Double.quotient?_of_le hentries (by rwa [hratio]))
      exact decide_eq_false (by omega)

theorem lines_of_inRange (hsound : problem.Sound) (hrange : problem.InRange) :
    ∃ table, problem.lines = .ok table := by
  obtain ⟨bars, hleft⟩ := exists_variableLines hsound
  obtain ⟨bars', hright⟩ := exists_constraintLines hsound
  obtain ⟨hessian, hhessian⟩ := (hessianLine_outcome hsound.nvar_pos).1
    ⟨hrange.entries, hrange.nnzh⟩
  obtain ⟨jacobian, hjacobian⟩ := (jacobianLine_outcome hsound.nvar_pos).1 hrange.nnzj
  rw [hhessian] at hleft
  rw [hjacobian] at hright
  exact ⟨_, bind_eq_ok.mpr ⟨_, hleft, bind_eq_ok.mpr ⟨_, hright, rfl⟩⟩⟩

theorem lines_of_not_inRange (hsound : problem.Sound) (hrange : ¬problem.InRange) :
    problem.lines = .error .overflow := by
  obtain ⟨bars, hleft⟩ := exists_variableLines hsound
  obtain ⟨bars', hright⟩ := exists_constraintLines hsound
  obtain ⟨hhessian, hhessian'⟩ := hessianLine_outcome hsound.nvar_pos
  obtain ⟨-, hjacobian⟩ := jacobianLine_outcome hsound.nvar_pos
  rw [lines, hleft, hright]
  by_cases hin : (triangle problem.nvar : ℚ) < overflowBound ∧ (problem.nnzh : ℚ) < overflowBound
  · have hout : problem.ncon ≠ 0 ∧
        overflowBound ≤ (problem.nnzj : ℚ) / (problem.nvar * problem.ncon : Nat) := by
      by_contra hnnzj
      refine hrange ⟨hin.1, hin.2, ?_⟩
      rwa [not_and_or, not_not, not_le] at hnnzj
    obtain ⟨text, htext⟩ := hhessian hin
    rw [htext, hjacobian hout]
    rfl
  · rw [hhessian' (by rwa [not_and_or, not_lt, not_lt] at hin)]
    rfl

theorem lt_overflowBound {n : Nat} (hn : n ≤ 2 ^ 53) : (n : ℚ) < overflowBound :=
  calc (n : ℚ) ≤ 2 ^ 53 := by exact_mod_cast hn
    _ ≤ Double.largest := Double.two_pow_le_largest
    _ < overflowBound := Double.largest_lt_overflowBound

theorem inRange_of_le (hsound : problem.Sound) (hentries : triangle problem.nvar ≤ 2 ^ 53)
    (hnnzh : problem.nnzh ≤ 2 ^ 53) (hnnzj : problem.nnzj ≤ 2 ^ 53) : problem.InRange where
  entries := lt_overflowBound hentries
  nnzh := lt_overflowBound hnnzh
  nnzj := by
    refine or_iff_not_imp_left.mpr fun hncon => ?_
    have hpos : 1 ≤ problem.nvar * problem.ncon :=
      Nat.mul_pos hsound.nvar_pos (Nat.pos_of_ne_zero hncon)
    calc (problem.nnzj : ℚ) / (problem.nvar * problem.ncon : Nat)
        ≤ problem.nnzj := div_le_self (Nat.cast_nonneg _) (by exact_mod_cast hpos)
      _ < overflowBound := lt_overflowBound hnnzj

end Columns

/-- Metadata can be described just when the quotients behind its two percentages are in the range of
doubles; all else that construction accepts has a description. -/
theorem build_describable {data : Fields Float} {problem : Meta Float}
    (hbuilt : build data = .ok problem) :
    (problem.InRange → ∃ table, problem.lines = .ok table ∧
        problem.text = .ok ("\n".intercalate (["  Problem name: " ++ problem.name,
          "  Number of objectives: " ++ toString problem.nobj] ++ table) ++ "\n")) ∧
      (¬problem.InRange → problem.lines = .error .overflow ∧ problem.text = .error .overflow) := by
  have hsound := sound_of_build hbuilt
  constructor
  · intro hrange
    obtain ⟨table, htable⟩ := lines_of_inRange hsound hrange
    exact ⟨table, htable, bind_eq_ok.mpr ⟨table, htable, rfl⟩⟩
  · intro hrange
    have hlines := lines_of_not_inRange hsound hrange
    refine ⟨hlines, ?_⟩
    rw [text, hlines]
    rfl

theorem build_describable_plain : ∃ problem table,
    build (plainDescription 3) = .ok problem ∧ problem.lines = .ok table ∧
      (problem.text.toOption).isSome = true := by
  obtain ⟨problem, _, hbuilt, -, hnvar, -, hnnzh, hnnzj⟩ := exists_plain 3 6 (by decide +kernel)
  obtain ⟨hdescribed, -⟩ := build_describable hbuilt
  obtain ⟨table, htable, htext⟩ := hdescribed (inRange_of_le (sound_of_build hbuilt)
    (by rw [hnvar]; decide) (by omega) (by omega))
  exact ⟨problem, table, hbuilt, htable, by rw [htext]; rfl⟩

/-- One variable, and more nonzeros in the Hessian than a double can count. -/
def crowdedDescription : Fields Float :=
  [("nvar", .int 1), ("nobj", .int 1), ("nnzh", .int (10 ^ 309))]

theorem lines_overflow : ∃ problem, build crowdedDescription = .ok problem ∧
    problem.lines = .error .overflow ∧ problem.text = .error .overflow := by
  have hfailed : (build crowdedDescription).toOption.map (fun problem =>
      (problem.lines, problem.text)) = some (.error .overflow, .error .overflow) := by
    decide +kernel
  cases hbuilt : build crowdedDescription with
  | error failure =>
    rw [hbuilt] at hfailed
    cases hfailed
  | ok problem =>
    rw [hbuilt] at hfailed
    obtain ⟨hlines, htext⟩ := Prod.mk.inj (Option.some.inj hfailed)
    exact ⟨problem, rfl, hlines, htext⟩

end Multigrad.Meta
