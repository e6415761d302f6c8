import Multigrad.Stats.Build
import Multigrad.Stats.Fields
import Multigrad.Proofs.Meta.Rebuilding
import Multigrad.Proofs.Solver.Loop

/-!
# Statistics from their own record

Run statistics come from a record or from a run, and then change field by field or entry by entry.
The only thing that a record of them could be refused for is a negative time, and none of these lets
one in.
-/

namespace Multigrad

namespace Stats

variable {data : Fields Float} {stats changed : Stats Float}

/-! ### Times -/

/-- The time is a number and not negative. -/
def Timed (stats : Stats Float) : Prop := Scalar.atMost 0.0 stats.elapsedTime = true

theorem timed_of_build (hbuilt : build data = .ok stats) : stats.Timed := by
  obtain ⟨⟨status, solution, averagedSolution, objective, gradientNorm, elapsedTime, iterations,
    counters, solverSpecific⟩, hread, hpure⟩ := bind_eq_ok.mp hbuilt
  simp only [Checked.and_eq_ok] at hread
  obtain ⟨-, -, -, -, -, helapsed, -⟩ := hread
  obtain rfl := pure_eq_ok.mp hpure
  unfold optional at helapsed
  split at helapsed
  · exact (Field.atLeastZero_eq_ok.mp (mapError_eq_ok.mp helapsed)).2
  · obtain rfl := Except.ok.inj helapsed
    change Scalar.atMost (0.0 : Float) 0.0 = true
    decide +kernel

theorem timed_of_change {name : String} {value : Value Float} (htimed : stats.Timed)
    (hchange : stats.change name value = .ok changed) : changed.Timed := by
  unfold change at hchange
  split at hchange
  -- Only a new time has to be looked at; the last case is no field at all.
  case h_6 =>
    obtain ⟨elapsedTime, hread, rfl⟩ := map_eq_ok.mp hchange
    exact (Field.atLeastZero_eq_ok.mp hread).2
  case h_10 => cases hchange
  all_goals
    obtain ⟨_, -, rfl⟩ := map_eq_ok.mp hchange
    exact htimed

theorem timed_of_assign {name : String} {value : Value Float} (htimed : stats.Timed)
    (hassign : stats.assign name value = .ok changed) : changed.Timed := by
  unfold assign at hassign
  split at hassign
  · cases hassign
  · exact timed_of_change htimed (mapError_eq_ok.mp (mapError_eq_ok.mp hassign))

theorem timed_of_write {name : String} {index : Int} {value : Value Float} (htimed : stats.Timed)
    (hwrite : stats.write name index value = .ok changed) : changed.Timed := by
  unfold write at hwrite
  split at hwrite
  case h_3 => cases hwrite
  all_goals
    obtain ⟨_, -, rfl⟩ := map_eq_ok.mp hwrite
    exact htimed

/-- Statistics that there can be: built from a record or reported by a run, and then changed. -/
inductive Accepted : Stats Float → Prop where
  | built {data : Fields Float} {stats : Stats Float} (hbuilt : build data = .ok stats) :
      Accepted stats
  | reported {σ : Type} {source : OrderSource σ} {model : Model Float}
      {settings : Settings Float} {clock : Nat → Float} {patience : Nat}
      {journal after : Solver.Journal σ Float} {stats : Stats Float}
      (hrun : Solver.solve source model settings clock patience journal = .ok stats after) :
      Accepted stats
  | assigned {stats changed : Stats Float} {name : String} {value : Value Float}
      (haccepted : Accepted stats) (hassign : stats.assign name value = .ok changed) :
      Accepted changed
  | written {stats changed : Stats Float} {name : String} {index : Int} {value : Value Float}
      (haccepted : Accepted stats) (hwrite : stats.write name index value = .ok changed) :
      Accepted changed

theorem Accepted.timed (haccepted : Accepted stats) : stats.Timed := by
  induction haccepted with
  | built hbuilt => exact timed_of_build hbuilt
  | reported hrun =>
      obtain ⟨_, _, _, _, _, _, -, -, -, htime, rfl, -⟩ := Solver.solve_eq_ok_iff_loop.mp hrun
      exact htime
  | assigned _ hassign htimed => exact timed_of_assign htimed hassign
  | written _ hwrite htimed => exact timed_of_write htimed hwrite

/-! ### Reading the record -/

/-- Each field is found in the record, whichever of its names the record uses. -/
theorem given?_toRecord (stats : Stats Float) (camel : Bool) :
    ∀ field ∈ stats.toFields, ∃ key,
      given? (stats.toRecord camel) field.1 = some (key, field.2) := by
  simp only [toFields, List.forall_mem_cons, List.not_mem_nil, false_implies, implies_true,
    and_true]
  cases camel
  · exact ⟨⟨_, rfl⟩, ⟨_, rfl⟩, ⟨_, rfl⟩, ⟨_, rfl⟩, ⟨_, rfl⟩, ⟨_, rfl⟩, ⟨_, rfl⟩, ⟨_, rfl⟩, ⟨_, rfl⟩⟩
  · exact ⟨⟨_, rfl⟩, ⟨_, rfl⟩, ⟨_, rfl⟩, ⟨_, rfl⟩, ⟨_, rfl⟩, ⟨_, rfl⟩, ⟨_, rfl⟩, ⟨_, rfl⟩, ⟨_, rfl⟩⟩

section Given

variable {α : Type} {name : String} {value : Value Float} {read : Value Float → Field.Result α}
  {a : α}

theorem required_of_given (hgiven : ∃ key, given? data name = some (key, value))
    (hread : read value = .ok a) : required data name read = .ok a := by
  obtain ⟨key, hkey⟩ := hgiven
  rw [required, hkey]
  exact mapError_eq_ok.mpr hread

theorem optional_of_given (hgiven : ∃ key, given? data name = some (key, value))
    (hread : read value = .ok a) (default : α) : optional data name read default = .ok a := by
  obtain ⟨key, hkey⟩ := hgiven
  rw [optional, hkey]
  exact mapError_eq_ok.mpr hread

end Given

theorem readStatus_name (status : Status) : readStatus (.text status.name) = .ok status := by
  cases status <;> rfl

theorem build_toRecord (htimed : stats.Timed) (camel : Bool) :
    build (stats.toRecord camel) = .ok stats := by
  have hgiven := stats.given?_toRecord camel
  simp only [toFields, List.forall_mem_cons, List.not_mem_nil, false_implies, implies_true,
    and_true] at hgiven
  obtain ⟨hstatus, hsolution, haveraged, hobjective, hnorm, helapsed, hiter, hcounters,
    hspecific⟩ := hgiven
  have hreal (r : Float) : Field.real (.real r) = .ok r := rfl
  have hrecord (entries : Fields Float) : Field.record (.record entries) = .ok entries := rfl
  have htime : Field.duration (.real stats.elapsedTime) = .ok stats.elapsedTime :=
    Field.atLeastZero_eq_ok.mpr ⟨rfl, htimed⟩
  have hnatural : Field.natural (.int stats.iterations) = .ok stats.iterations :=
    map_eq_ok.mpr ⟨stats.iterations, Field.atLeastZero_eq_ok.mpr ⟨rfl, by simp⟩, rfl⟩
  refine bind_eq_ok.mpr ⟨(stats.status, stats.solution, stats.averagedSolution, stats.objective,
    stats.gradientNorm, stats.elapsedTime, stats.iterations, stats.counters,
    stats.solverSpecific), ?_, rfl⟩
  simp only [Checked.and_eq_ok]
  exact ⟨required_of_given hstatus (readStatus_name _), required_of_given hsolution rfl,
    required_of_given haveraged rfl, optional_of_given hobjective (hreal _) _,
    optional_of_given hnorm (hreal _) _, optional_of_given helapsed htime _,
    optional_of_given hiter hnatural _, optional_of_given hcounters (hrecord _) _,
    optional_of_given hspecific (hrecord _) _⟩

end Stats

/-- **Written out and built again, nothing changes.** Built metadata and accepted statistics are
built from their own record, whichever names of the fields it uses, and are the same in every field;
so are the index sets, which follow from the fields. -/
theorem records_rebuild :
    (∀ (data : Fields Float) (problem : Meta Float), Meta.build data = .ok problem →
        ∀ camel, Meta.build (problem.toRecord camel) = .ok problem)
      ∧ ∀ stats : Stats Float, stats.Accepted → ∀ camel,
        Stats.build (stats.toRecord camel) = .ok stats := by
  refine ⟨?_, fun _ haccepted => Stats.build_toRecord haccepted.timed⟩
  intro _ _ hbuilt
  exact Meta.build_toRecord (Meta.sound_of_build hbuilt) (Meta.words_of_build hbuilt)

/-- A record of which hardly a field has its own type, with one field under its second name. -/
def looseRecord : Fields Float :=
  [("status", .text "max_iter"), ("solution", .list [.flag true, .real 0.5]),
   ("averagedSolution", .list []), ("objective", .text "nan"), ("iter", .real 3.0)]

/-- Nothing that was read loosely comes out otherwise when it is read once more. -/
theorem records_rebuild_loose : ∃ problem stats, Meta.build Meta.mixedDescription = .ok problem
    ∧ Stats.build looseRecord = .ok stats ∧ ∀ camel,
      Meta.build (problem.toRecord camel) = .ok problem
        ∧ Stats.build (stats.toRecord camel) = .ok stats := by
  have hmixed : (Meta.build Meta.mixedDescription).isOk = true := by decide +kernel
  have hloose : (Stats.build looseRecord).isOk = true := by decide +kernel
  cases hbuilt : Meta.build Meta.mixedDescription with
  | error failure => rw [hbuilt] at hmixed; cases hmixed
  | ok problem =>
      cases hstats : Stats.build looseRecord with
      | error faults => rw [hstats] at hloose; cases hloose
      | ok stats =>
          refine ⟨problem, stats, rfl, rfl, fun camel => ?_⟩
          exact ⟨records_rebuild.1 _ problem hbuilt camel,
            records_rebuild.2 stats (.built hstats) camel⟩

end Multigrad
