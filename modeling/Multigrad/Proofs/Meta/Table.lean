import Multigrad.Proofs.Histogram.Bars
import Multigrad.Proofs.Meta.Predicates

/-!
# The description is a table

The lines of a description are joined from two columns. It is a table when either column has one
width; blank lines never stand in the way of that, bars only when counts have more than six digits,
and percentages when there are far more nonzeros than entries.
-/

namespace Multigrad.Meta

open Histogram (countWidth countWidth_eq_six_iff six_le_countWidth)

/-! ### Columns -/

def OneWidth (column : List String) : Prop := ∃ width, ∀ cell ∈ column, cell.length = width

/-- All lines have one width, and the cells of the right column start at one place. -/
def Aligned (table right : List String) : Prop :=
  ∃ width start, List.Forall₂ (fun line cell =>
    line.length = width ∧ ∃ before, before.length = start ∧ line = before ++ cell) table right

theorem oneWidth_iff_of_lengths {column : List String} {first : Nat} {rest : List Nat}
    (hlengths : column.map String.length = first :: rest) :
    OneWidth column ↔ ∀ width ∈ rest, width = first := by
  have hcells (width : Nat) : (∀ cell ∈ column, cell.length = width) ↔
      first = width ∧ ∀ other ∈ rest, other = width := by
    rw [← List.forall_mem_cons (p := (· = width)), ← hlengths, List.forall_mem_map]
  simp only [OneWidth, hcells, exists_eq_left']

/-- Where a joined line starts its second cell, and how wide it is. -/
theorem joined_iff {left right : String} {width start : Nat} :
    ((left ++ "  " ++ right).length = width ∧
        ∃ before, before.length = start ∧ left ++ "  " ++ right = before ++ right) ↔
      left.length + 2 = start ∧ start + right.length = width := by
  have hgap : "  ".length = 2 := rfl
  constructor
  · rintro ⟨hwidth, before, hbefore, hline⟩
    have hlength := congrArg String.length hline
    simp only [String.length_append, hgap] at hwidth hlength
    omega
  · rintro ⟨hstart, hwidth⟩
    refine ⟨?_, left ++ "  ", ?_, rfl⟩
    · simp only [String.length_append, hgap]
      omega
    · rw [String.length_append, hgap, hstart]

theorem aligned_pairs_iff (pairs : List (String × String)) :
    Aligned (pairs.map fun (l, r) => l ++ "  " ++ r) (pairs.map Prod.snd) ↔
      OneWidth (pairs.map Prod.fst) ∧ OneWidth (pairs.map Prod.snd) := by
  simp only [Aligned, OneWidth, List.forall₂_map_left_iff, List.forall₂_map_right_iff,
    List.forall₂_same, List.forall_mem_map, joined_iff]
  constructor
  · rintro ⟨width, start, hpairs⟩
    refine ⟨⟨start - 2, fun pair hpair => ?_⟩, width - start, fun pair hpair => ?_⟩
    · have := hpairs pair hpair
      omega
    · have := hpairs pair hpair
      omega
  · rintro ⟨⟨left, hleft⟩, right, hright⟩
    refine ⟨left + 2 + right, left + 2, fun pair hpair => ?_⟩
    rw [hleft pair hpair, hright pair hpair]
    exact ⟨rfl, rfl⟩

theorem length_sideBySide {left right : List String} (hlength : left.length ≤ right.length) :
    (sideBySide left right).length = right.length := by
  simp only [sideBySide, List.length_map, List.length_zip, List.length_append,
    List.length_replicate]
  omega

/-- Blank lines are as wide as the first one. -/
theorem aligned_sideBySide_iff {first : String} {rest right : List String}
    (hlength : (first :: rest).length ≤ right.length) :
    Aligned (sideBySide (first :: rest) right) right ↔
      OneWidth (first :: rest) ∧ OneWidth right := by
  obtain ⟨blanks, hblanks⟩ : ∃ blanks, blanks = List.replicate
    (right.length - (first :: rest).length) (Text.blanks first.length) := ⟨_, rfl⟩
  have hfilled : (first :: rest ++ blanks).length = right.length := by
    rw [hblanks, List.length_append, List.length_replicate]
    omega
  have hwidths : OneWidth (first :: rest ++ blanks) ↔ OneWidth (first :: rest) := by
    have hblank (width : Nat) (hfirst : first.length = width) :
        ∀ cell ∈ blanks, cell.length = width := by
      rw [hblanks]
      intro cell hcell
      rw [List.eq_of_mem_replicate hcell, Text.length_blanks, hfirst]
    simp only [OneWidth, List.forall_mem_append]
    refine exists_congr fun width => and_iff_left_of_imp fun hcells => ?_
    exact hblank width (hcells first List.mem_cons_self)
  have hpairs := aligned_pairs_iff ((first :: rest ++ blanks).zip right)
  rw [List.map_snd_zip hfilled.ge, List.map_fst_zip hfilled.le, hwidths] at hpairs
  rw [← hpairs, hblanks]
  rfl

/-! ### The columns of a description -/

/-- The sizes of the sets in the order of their labels. -/
def sizes (sets : BoundSets) : List Nat :=
  [sets.free.length, sets.lower.length, sets.upper.length, sets.range.length, sets.fixed.length,
    sets.infeasible.length]

theorem setCounts_eq {sets : BoundSets} {n : Nat} (hsplits : sets.Splits n) :
    setCounts sets = (n :: sizes sets).map Int.ofNat := by
  obtain ⟨rest, hrest⟩ := setCounts_of_splits hsplits
  rw [setCounts, List.cons.injEq] at hrest
  rw [setCounts, List.map_cons, List.cons.injEq]
  exact ⟨hrest.1, rfl⟩

theorem mem_sizes_iff {sets : BoundSets} {size : Nat} :
    size ∈ sizes sets ↔ ∃ set ∈ sets.all, set.length = size := by
  simp only [sizes, BoundSets.all, List.mem_cons, List.not_mem_nil, or_false, exists_eq_or_imp,
    exists_eq_left]
  grind

theorem lengths_setLines {label : String} {sets : BoundSets} {n : Nat} {texts : List String}
    (hsplits : sets.Splits n) (hlabel : label.length ≤ 16)
    (htexts : setLines label sets = .ok texts) :
    texts.map String.length = (n :: sizes sets).map fun count => 39 + countWidth count := by
  rw [setLines, setCounts_eq hsplits] at htexts
  refine Histogram.lengths_lines ?_ rfl htexts
  simp only [setLabels, List.forall_mem_cons, List.not_mem_nil, false_implies, implies_true]
  exact ⟨hlabel, by decide, by decide, by decide, by decide, by decide, by decide, trivial⟩

section Lines

variable {problem : Meta Float} {left right table : List String}

theorem lengths_variableLines (hsplits : problem.variableSets.Splits problem.nvar)
    (hleft : problem.variableLines = .ok left) :
    ∃ entries share, Double.quotient? (problem.nvar * (problem.nvar + 1)) 2 = .ok entries ∧
      Histogram.sparsityText (.int problem.nnzh) (.real entries) = .ok share ∧
      left.map String.length = (39 + countWidth problem.nvar) ::
        ((sizes problem.variableSets).map (fun count => 39 + countWidth count) ++
          [19 + max 20 share.length + countWidth problem.nnzh]) := by
  obtain ⟨bars, hbars, hrest⟩ := bind_eq_ok.mp hleft
  obtain ⟨hessian, hhessian, hpure⟩ := bind_eq_ok.mp hrest
  obtain rfl := pure_eq_ok.mp hpure
  obtain ⟨entries, hentries, hline⟩ := bind_eq_ok.mp hhessian
  obtain ⟨share, hshare, hlength⟩ := Histogram.length_sparsityLine (by decide) hline
  refine ⟨entries, share, hentries, hshare, ?_⟩
  rw [List.map_append, lengths_setLines hsplits (by decide) hbars]
  simp only [List.map_cons, List.map_nil, List.cons_append, hlength]

theorem lengths_constraintLines (hsplits : problem.constraintSets.Splits problem.ncon)
    (hright : problem.constraintLines = .ok right) :
    ∃ share, Histogram.sparsityText (.int problem.nnzj)
        (.int (problem.nvar * problem.ncon : Nat)) = .ok share ∧
      right.map String.length = (39 + countWidth problem.ncon) ::
        ((sizes problem.constraintSets).map (fun count => 39 + countWidth count) ++
          [39 + countWidth problem.nlin, 39 + countWidth problem.nnln,
            19 + max 20 share.length + countWidth problem.nnzj]) := by
  obtain ⟨bars, hbars, hrest⟩ := bind_eq_ok.mp hright
  obtain ⟨linear, hlinear, hrest⟩ := bind_eq_ok.mp hrest
  obtain ⟨nonlinear, hnonlinear, hrest⟩ := bind_eq_ok.mp hrest
  obtain ⟨jacobian, hjacobian, hpure⟩ := bind_eq_ok.mp hrest
  obtain rfl := pure_eq_ok.mp hpure
  obtain ⟨share, hshare, hlength⟩ := Histogram.length_sparsityLine (by decide) hjacobian
  refine ⟨share, by rw [Nat.cast_mul]; exact hshare, ?_⟩
  have hlinear' := Histogram.length_line (by decide) hlinear
  have hnonlinear' := Histogram.length_line (by decide) hnonlinear
  rw [List.map_append, lengths_setLines hsplits (by decide) hbars]
  simp only [List.map_cons, List.map_nil, List.cons_append, hlinear', hnonlinear', hlength]

/-- The two columns are what the table is made of, and they decide about it. -/
theorem aligned_iff_oneWidth (hvariables : problem.variableSets.Splits problem.nvar)
    (hconstraints : problem.constraintSets.Splits problem.ncon)
    (htable : problem.lines = .ok table) :
    ∃ left right, problem.variableLines = .ok left ∧ problem.constraintLines = .ok right ∧
      table.length = 10 ∧ (Aligned table right ↔ OneWidth left ∧ OneWidth right) := by
  obtain ⟨left, hleft, hrest⟩ := bind_eq_ok.mp htable
  obtain ⟨right, hright, hpure⟩ := bind_eq_ok.mp hrest
  obtain rfl := pure_eq_ok.mp hpure
  obtain ⟨_, _, -, -, hlengths⟩ := lengths_variableLines hvariables hleft
  obtain ⟨_, -, hlengths'⟩ := lengths_constraintLines hconstraints hright
  have hcount : left.length = 8 := by simpa [sizes] using congrArg List.length hlengths
  have hcount' : right.length = 10 := by simpa [sizes] using congrArg List.length hlengths'
  obtain ⟨first, rest, rfl⟩ := List.exists_cons_of_length_eq_add_one hcount
  have hle : (first :: rest).length ≤ right.length := by omega
  exact ⟨_, right, hleft, hright, (length_sideBySide hle).trans hcount',
    aligned_sideBySide_iff hle⟩

/-- The first line of every description shows how many variables and constraints there are. -/
theorem build_lines_head {data : Fields Float} (hbuilt : build data = .ok problem)
    (htable : problem.lines = .ok table) :
    table.head? = some (Histogram.totalText "All variables" problem.nvar ++ "  " ++
      Histogram.totalText "All constraints" problem.ncon) := by
  obtain ⟨left, right, rest, hleft, hright, rfl⟩ := (sound_of_build hbuilt).totals table htable
  rw [Histogram.line_total] at hleft hright
  rw [← Except.ok.inj hleft, ← Except.ok.inj hright, List.head?_cons]

/-! ### Fewer than a million -/

theorem size_le {sets : BoundSets} {n size : Nat} (hsplits : sets.Splits n)
    (hsize : size ∈ sizes sets) : size ≤ n := by
  obtain ⟨set, hset, rfl⟩ := mem_sizes_iff.mp hsize
  have hlength := hsplits.length_eq
  rw [List.length_range] at hlength
  rw [← hlength]
  exact (List.sublist_flatten_of_mem hset).length_le

theorem SoundList.count_le {ncon count : Nat} {indices : List Nat}
    (hlist : SoundList ncon indices count) : count ≤ ncon := by
  have hle := (subperm_range hlist.inRange hlist.distinct).length_le
  rw [List.length_range] at hle
  rwa [hlist.count]

theorem countWidth_of_le {count n : Nat} (hle : count ≤ n) (hn : n < 10 ^ 6) :
    countWidth count = 6 :=
  countWidth_eq_six_iff.mpr (by omega)

theorem forall_sizes_of_lt {sets : BoundSets} {n : Nat} (hsplits : sets.Splits n)
    (hn : n < 10 ^ 6) :
    ∀ width ∈ (sizes sets).map fun count => 39 + countWidth count, width = 45 := by
  rw [List.forall_mem_map]
  intro size hsize
  rw [countWidth_of_le (size_le hsplits hsize) hn]

theorem share_fits_iff {share : String} {count : Nat} :
    19 + max 20 share.length + countWidth count = 39 + 6 ↔ count < 10 ^ 6 ∧ share.length ≤ 20 := by
  have hle := six_le_countWidth count
  rw [← countWidth_eq_six_iff]
  omega

theorem triangle_cast (n : Nat) : ((triangle n : Nat) : ℚ) = n * (n + 1) / 2 := by
  rw [triangle, Nat.cast_div (Nat.even_mul_succ_self n).two_dvd two_ne_zero]
  push_cast
  rfl

theorem triangle_pos {n : Nat} (hn : 1 ≤ n) : 0 < triangle n := by
  have hle : 1 * (1 + 1) ≤ n * (n + 1) := Nat.mul_le_mul hn (by omega)
  rw [triangle]
  omega

theorem exists_triangle {n : Nat} {entries : Float} (hn : n < 10 ^ 6)
    (hentries : Double.quotient? (n * (n + 1)) 2 = .ok entries) :
    ∃ parts, Double.parts? entries = some parts ∧ parts.value = (triangle n : Nat) := by
  obtain ⟨-, hfaithful⟩ := Double.faithful_of_quotient? hentries
  have hvalue : ((((n : ℤ) * (n + 1) : ℤ) : ℚ) / (2 : ℤ)) = ((triangle n : ℤ) : ℚ) := by
    rw [Int.cast_natCast, triangle_cast]
    push_cast
    rfl
  rw [hvalue] at hfaithful
  have hsmall : |(triangle n : ℤ)| ≤ 2 ^ 53 := by
    have hle : triangle n ≤ 10 ^ 6 * 10 ^ 6 / 2 := Nat.div_le_div_right (Nat.mul_le_mul hn.le hn)
    rw [abs_of_nonneg (Int.natCast_nonneg _)]
    omega
  exact Double.exists_parts_of_quantity (hfaithful.quantity? (Double.representable_int hsmall))

theorem oneWidth_variableLines_iff (hsound : problem.Sound) (hn : problem.nvar < 10 ^ 6)
    (hleft : problem.variableLines = .ok left) :
    OneWidth left ↔
      problem.nnzh < 10 ^ 6 ∧ problem.nnzh < 101 * triangle problem.nvar := by
  obtain ⟨entries, share, hentries, hshare, hlengths⟩ :=
    lengths_variableLines hsound.variableSets hleft
  rw [oneWidth_iff_of_lengths hlengths, List.forall_mem_append, List.forall_mem_singleton,
    countWidth_eq_six_iff.mpr hn, and_iff_right (forall_sizes_of_lt hsound.variableSets hn)]
  have hpos := triangle_pos hsound.nvar_pos
  obtain ⟨parts, hparts, hvalue⟩ := exists_triangle hn hentries
  rw [share_fits_iff]
  exact and_congr_right fun hcount =>
    Histogram.length_sparsityText_real_le_iff hparts hpos (by exact_mod_cast hvalue) hcount hshare

theorem oneWidth_constraintLines_iff (hsound : problem.Sound) (hn : problem.ncon < 10 ^ 6)
    (hright : problem.constraintLines = .ok right) :
    OneWidth right ↔ problem.nnzj < 10 ^ 6 ∧
      (problem.ncon = 0 ∨ problem.nnzj < 101 * (problem.nvar * problem.ncon)) := by
  obtain ⟨share, hshare, hlengths⟩ := lengths_constraintLines hsound.constraintSets hright
  have hlinear := countWidth_of_le hsound.lin.count_le hn
  have hnonlinear := countWidth_of_le hsound.nln.count_le hn
  rw [oneWidth_iff_of_lengths hlengths, List.forall_mem_append, countWidth_eq_six_iff.mpr hn,
    and_iff_right (forall_sizes_of_lt hsound.constraintSets hn), List.forall_mem_cons,
    List.forall_mem_cons, List.forall_mem_singleton, hlinear, hnonlinear, and_iff_right rfl,
    and_iff_right rfl, share_fits_iff]
  refine and_congr_right fun hcount => ?_
  rw [Histogram.length_sparsityText_int_le_iff hcount hshare, Nat.mul_eq_zero,
    or_iff_right (Nat.pos_iff_ne_zero.mp hsound.nvar_pos)]

/-! ### A million and more -/

theorem le_of_countWidth_eq {count n : Nat} (hwidth : countWidth count = countWidth n)
    (hn : 10 ^ 6 ≤ n) : 10 ^ 6 ≤ count := by
  by_contra hlt
  rw [countWidth_eq_six_iff.mpr (not_le.mp hlt), eq_comm, countWidth_eq_six_iff] at hwidth
  omega

/-- With the total every set has to be large, because a count of few digits takes less room. -/
theorem le_length_of_oneWidth {column : List String} {sets : BoundSets} {n : Nat}
    {rest : List Nat} (hlengths : column.map String.length = (39 + countWidth n) ::
      ((sizes sets).map (fun count => 39 + countWidth count) ++ rest))
    (hcolumn : OneWidth column) (hn : 10 ^ 6 ≤ n) : ∀ set ∈ sets.all, 10 ^ 6 ≤ set.length := by
  intro set hset
  rw [oneWidth_iff_of_lengths hlengths, List.forall_mem_append, List.forall_mem_map] at hcolumn
  have hwidth := hcolumn.1 set.length (mem_sizes_iff.mpr ⟨set, hset, rfl⟩)
  exact le_of_countWidth_eq (Nat.add_left_cancel hwidth) hn

/-- The description of all metadata has ten lines, and it is a table just when both of its columns
have one width. With fewer than a million variables the left one has, just when the number of
nonzeros has at most six digits and is less than 101 times the number of entries; with more of them
all sets of variables have to be that large. The right one is alike. -/
theorem build_lines_layout {data : Fields Float} (hbuilt : build data = .ok problem)
    (htable : problem.lines = .ok table) :
    table.length = 10 ∧ ∃ left right, problem.variableLines = .ok left ∧
      problem.constraintLines = .ok right ∧
      (Aligned table right ↔ OneWidth left ∧ OneWidth right) ∧
      (problem.nvar < 10 ^ 6 → (OneWidth left ↔
        problem.nnzh < 10 ^ 6 ∧ problem.nnzh < 101 * triangle problem.nvar)) ∧
      (problem.ncon < 10 ^ 6 → (OneWidth right ↔
        problem.nnzj < 10 ^ 6 ∧
          (problem.ncon = 0 ∨ problem.nnzj < 101 * (problem.nvar * problem.ncon)))) ∧
      (10 ^ 6 ≤ problem.nvar → OneWidth left →
        ∀ set ∈ problem.variableSets.all, 10 ^ 6 ≤ set.length) ∧
      (10 ^ 6 ≤ problem.ncon → OneWidth right →
        ∀ set ∈ problem.constraintSets.all, 10 ^ 6 ≤ set.length) := by
  have hsound := sound_of_build hbuilt
  obtain ⟨left, right, hleft, hright, hcount, haligned⟩ :=
    aligned_iff_oneWidth hsound.variableSets hsound.constraintSets htable
  refine ⟨hcount, left, right, hleft, hright, haligned, ?_, ?_, ?_, ?_⟩
  · exact fun hvariables => oneWidth_variableLines_iff hsound hvariables hleft
  · exact fun hconstraints => oneWidth_constraintLines_iff hsound hconstraints hright
  · intro hvariables hwidth
    obtain ⟨_, _, -, -, hlengths⟩ := lengths_variableLines hsound.variableSets hleft
    exact le_length_of_oneWidth hlengths hwidth hvariables
  · intro hconstraints hwidth
    obtain ⟨_, -, hlengths⟩ := lengths_constraintLines hsound.constraintSets hright
    exact le_length_of_oneWidth hlengths hwidth hconstraints

end Lines

/-- Dimensions without bounds and constraints, and all else left to its default. -/
def plainDescription (nvar : Nat) : Fields Float := [("nvar", .int nvar), ("nobj", .int 1)]

theorem exists_plain (nvar nnzh : Nat)
    (hfields : (build (plainDescription nvar)).toOption.map (fun problem => (problem.nvar,
      problem.ncon, problem.nnzh, problem.nnzj, problem.lines.toOption.isSome)) =
        some (nvar, 0, nnzh, 0, true)) :
    ∃ problem table, build (plainDescription nvar) = .ok problem ∧ problem.lines = .ok table ∧
      problem.nvar = nvar ∧ problem.ncon = 0 ∧ problem.nnzh = nnzh ∧ problem.nnzj = 0 := by
  cases hbuilt : build (plainDescription nvar) with
  | error failure => simp [hbuilt, Except.toOption] at hfields
  | ok problem =>
    cases hlines : problem.lines with
    | error mishap => simp [hbuilt, hlines, Except.toOption] at hfields
    | ok table =>
      simp only [hbuilt, hlines, Except.toOption, Option.map_some, Option.some.injEq,
        Prod.mk.injEq] at hfields
      obtain ⟨hnvar, hncon, hnnzh, hnnzj, -⟩ := hfields
      exact ⟨problem, table, rfl, hlines, hnvar, hncon, hnnzh, hnnzj⟩

theorem build_lines_layout_plain : ∃ problem table right,
    build (plainDescription 3) = .ok problem ∧ problem.lines = .ok table ∧
      problem.constraintLines = .ok right ∧ table.length = 10 ∧ Aligned table right := by
  obtain ⟨problem, table, hbuilt, hlines, hnvar, hncon, hnnzh, hnnzj⟩ :=
    exists_plain 3 6 (by decide +kernel)
  obtain ⟨hcount, left, right, -, hright, haligned, hleft, hconstraints, -⟩ :=
    build_lines_layout hbuilt hlines
  refine ⟨problem, table, right, hbuilt, hlines, hright, hcount, ?_⟩
  rw [haligned, hleft (by omega), hconstraints (by omega), hnvar, hncon, hnnzh, hnnzj]
  decide

/-- From 1414 variables on, the default for the nonzeros of the Hessian has seven digits. -/
theorem lines_misaligned : ∃ problem table right,
    build (plainDescription 1414) = .ok problem ∧ problem.lines = .ok table ∧
      problem.constraintLines = .ok right ∧ ¬Aligned table right := by
  obtain ⟨problem, table, hbuilt, hlines, hnvar, -, hnnzh, -⟩ :=
    exists_plain 1414 1000405 (by decide +kernel)
  have hsound := sound_of_build hbuilt
  obtain ⟨left, right, hleft, hright, -, haligned⟩ :=
    aligned_iff_oneWidth hsound.variableSets hsound.constraintSets hlines
  refine ⟨problem, table, right, hbuilt, hlines, hright, ?_⟩
  rw [haligned, oneWidth_variableLines_iff hsound (by omega) hleft, hnnzh]
  exact fun hwidths => absurd hwidths.1.1 (by decide)

end Multigrad.Meta
