import Multigrad.Proofs.Solver.Solve

/-!
# The journal accounts for the counters

Whatever becomes of a part of a run, the visits that it adds to the journal are visits of objectives
of the model, and the counters have grown by exactly these visits. The parts are taken one after the
other; a failure keeps the account of what came before it, and includes the visit that failed.
-/

namespace Multigrad.Solver

variable {σ R : Type}

/-- The journal has more visits than before, and the counters have counted them. -/
def Journal.Continues (n : Nat) (before after : Journal σ R) : Prop :=
  ∃ added, after.visits = added ++ before.visits
    ∧ (∀ visit ∈ added, visit.1 ∈ objectives n)
    ∧ after.counters = before.counters.visited (added.map Prod.fst)

namespace Journal.Continues

variable {n : Nat} {before middle after : Journal σ R}

theorem of_eq (hvisits : after.visits = before.visits)
    (hcounters : after.counters = before.counters) : Continues n before after :=
  ⟨[], hvisits, fun _ h => (List.not_mem_nil h).elim, by
    rw [hcounters, List.map_nil, Counters.visited_nil]⟩

theorem refl (journal : Journal σ R) : Continues n journal journal := of_eq rfl rfl

theorem trans (hfirst : Continues n before middle) (hsecond : Continues n middle after) :
    Continues n before after := by
  obtain ⟨first, hvisits₁, hmem₁, hcounters₁⟩ := hfirst
  obtain ⟨second, hvisits₂, hmem₂, hcounters₂⟩ := hsecond
  refine ⟨second ++ first, ?_, ?_, ?_⟩
  · rw [hvisits₂, hvisits₁, List.append_assoc]
  · intro visit hvisit
    obtain h | h := List.mem_append.mp hvisit
    · exact hmem₂ visit h
    · exact hmem₁ visit h
  · rw [hcounters₂, hcounters₁, ← Counters.visited_append, List.map_append]
    exact Counters.visited_perm _ List.perm_append_comm

theorem fits (hcontinues : Continues n before after) (hfits : before.counters.Fits n) :
    after.counters.Fits n := by
  obtain ⟨added, -, -, hcounters⟩ := hcontinues
  rw [hcounters]
  exact hfits.visited _

end Journal.Continues

/-- Counters of `n` objectives, and orders that a run has brought the source to. -/
structure Journal.Ready (source : OrderSource σ) (initial : σ) (n : Nat) (journal : Journal σ R) :
    Prop where
  orders : source.Reachable initial journal.orders
  counters : journal.counters.Fits n

/-- A part that continues the journal, also when it fails, and refuses nothing. -/
structure Run.Accounted {α : Type} (source : OrderSource σ) (initial : σ) (n : Nat)
    (part : Run σ R α) : Prop where
  ok : ∀ {journal after a}, journal.Ready source initial n → part journal = .ok a after →
    after.Ready source initial n ∧ journal.Continues n after
  error : ∀ {journal after failure}, journal.Ready source initial n →
    part journal = .error failure after → journal.Continues n after ∧ ¬failure.IsRefusal

namespace Run

variable {α β : Type} {source : OrderSource σ} {initial : σ} {n : Nat}

/-- One accounted part after the other, where the second may depend on what the first gives. -/
theorem Accounted.bind {part : Run σ R α} {next : α → Run σ R β}
    (hpart : Accounted source initial n part)
    (hnext : ∀ {journal after a}, journal.Ready source initial n → part journal = .ok a after →
      Accounted source initial n (next a)) :
    Accounted source initial n (part >>= next) where
  ok hready h := by
    obtain ⟨a, mid, hfirst, hsecond⟩ := bind_eq_ok.mp h
    obtain ⟨hmid, hcontinues⟩ := hpart.ok hready hfirst
    obtain ⟨hafter, hrest⟩ := (hnext hready hfirst).ok hmid hsecond
    exact ⟨hafter, hcontinues.trans hrest⟩
  error hready h := by
    obtain hfirst | ⟨a, mid, hfirst, hsecond⟩ := bind_eq_error.mp h
    · exact hpart.error hready hfirst
    · obtain ⟨hmid, hcontinues⟩ := hpart.ok hready hfirst
      obtain ⟨hrest, hfailure⟩ := (hnext hready hfirst).error hmid hsecond
      exact ⟨hcontinues.trans hrest, hfailure⟩

theorem accounted_pure (a : α) : Accounted source initial n (pure a : Run σ R α) where
  ok hready h := by
    obtain ⟨-, rfl⟩ := pure_eq_ok.mp h
    exact ⟨hready, .refl _⟩
  error _ h := (pure_ne_error h).elim

theorem accounted_throw {thrown : Failure R} (hthrown : ¬thrown.IsRefusal) :
    Accounted source initial n (throw thrown : Run σ R α) where
  ok _ h := (throw_ne_ok h).elim
  error _ h := by
    obtain ⟨rfl, rfl⟩ := throw_eq_error.mp h
    exact ⟨.refl _, hthrown⟩

theorem accounted_lift (reading : Except Mishap α) :
    Accounted source initial n (lift reading : Run σ R α) := by
  cases reading with
  | ok a => exact accounted_pure a
  | error mishap => exact accounted_throw id

theorem accounted_note (notice : Notice R) :
    Accounted source initial n (note notice : Run σ R Unit) where
  ok hready h := by
    obtain rfl := note_eq_ok.mp h
    exact ⟨⟨hready.orders, hready.counters⟩, .of_eq rfl rfl⟩
  error _ h := (note_ne_error h).elim

theorem accounted_draw : Accounted source initial n (draw source : Run σ R (List Int)) where
  ok hready h := by
    obtain ⟨orders, hnext, rfl⟩ := draw_eq_ok.mp h
    exact ⟨⟨hready.orders.next hnext, hready.counters⟩, .of_eq rfl rfl⟩
  error _ h := by
    obtain ⟨mishap, -, rfl, rfl⟩ := draw_eq_error.mp h
    exact ⟨.refl _, id⟩

theorem accounted_get :
    Accounted source initial n (get : Run σ R (Journal σ R)) where
  ok hready h := by
    obtain ⟨-, rfl⟩ := get_eq_ok.mp h
    exact ⟨hready, .refl _⟩
  error _ h := (get_ne_error h).elim

theorem accounted_evaluations :
    Accounted source initial n (evaluations : Run σ R Nat) where
  ok hready h := by
    obtain ⟨-, rfl⟩ := evaluations_eq_ok.mp h
    exact ⟨hready, .refl _⟩
  error _ h := (evaluations_ne_error h).elim

end Run

namespace Plan

variable [Scalar R] {plan : Plan R} {source : OrderSource σ} {initial : σ} {n : Nat}

/-! ### Iterations -/

/-- A visit counts, also when it fails. -/
theorem accounted_visit {index : Int} (hindex : index ∈ objectives plan.model.problem.nobj)
    (point : List R) :
    Run.Accounted source initial plan.model.problem.nobj
      (visit plan.model index point : Run σ R (List R)) := by
  have hvisited : ∀ {journal : Journal σ R}, journal.Ready source initial plan.model.problem.nobj →
      journal.Continues plan.model.problem.nobj { journal with
        counters := (plan.model.gradI index (.ok (Grid.ofList point)) journal.counters).2
        visits := (index, point) :: journal.visits } := by
    intro journal hready
    refine ⟨[(index, point)], rfl, ?_, Counters.gradI_counters hready.counters index _⟩
    intro visit hvisit
    rwa [List.mem_singleton.mp hvisit]
  constructor
  · intro _ _ _ hready h
    obtain ⟨_, _, hnote, hevaluate⟩ := Run.bind_eq_ok.mp h
    obtain rfl := Run.noteVisit_eq_ok.mp hnote
    obtain ⟨-, rfl⟩ := Run.evaluate_eq_ok.mp hevaluate
    exact ⟨⟨hready.orders, (hvisited hready).fits hready.counters⟩, hvisited hready⟩
  · intro _ _ _ hready h
    obtain hnote | ⟨_, _, hnote, hevaluate⟩ := Run.bind_eq_error.mp h
    · exact (Run.noteVisit_ne_error hnote).elim
    · obtain rfl := Run.noteVisit_eq_ok.mp hnote
      obtain ⟨⟨reason, -, rfl⟩, rfl⟩ := Run.evaluate_eq_error.mp hevaluate
      exact ⟨hvisited hready, id⟩

theorem accounted_step {index : Int} (hindex : index ∈ objectives plan.model.problem.nobj)
    (stepSize : Number R) (point : List R) :
    Run.Accounted source initial plan.model.problem.nobj
      (plan.step stepSize point index : Run σ R (List R)) :=
  (Run.accounted_lift _).bind fun _ _ => (accounted_visit hindex point).bind fun _ _ =>
    Run.accounted_lift _

theorem accounted_sweep {order : List Int}
    (horder : ∀ index ∈ order, index ∈ objectives plan.model.problem.nobj) (stepSize : Number R)
    (point sum : List R) :
    Run.Accounted source initial plan.model.problem.nobj
      (plan.sweep stepSize order point sum : Run σ R (List R × List R)) := by
  induction order generalizing point sum with
  | nil => exact Run.accounted_pure _
  | cons index rest ih =>
      rw [List.forall_mem_cons] at horder
      apply (accounted_step horder.1 stepSize point).bind
      intro _ _ next _ _
      apply (Run.accounted_lift _).bind
      intro _ _ added _ _
      exact ih horder.2 next added

theorem counters_of_sweep {stepSize : Number R} {order : List Int} {point sum : List R}
    {swept : List R × List R} {journal after : Journal σ R}
    (horder : ∀ index ∈ order, index ∈ objectives plan.model.problem.nobj)
    (hready : journal.Ready source initial plan.model.problem.nobj)
    (hsweep : plan.sweep stepSize order point sum journal = .ok swept after) :
    after.counters = journal.counters.visited order := by
  obtain ⟨-, added, hvisits, -, hcounters⟩ := (accounted_sweep horder _ _ _).ok hready hsweep
  -- The journal lists the last visit first.
  have hadded : added.map Prod.fst = order.reverse := by
    have hall := (sweep_visits hsweep).1
    rw [hvisits, List.map_append] at hall
    exact List.append_cancel_right hall
  rw [hcounters, hadded]
  exact Counters.visited_perm _ (List.reverse_perm _)

variable [Completion R]

theorem accounted_advance (hpermutes : source.Permutes initial plan.model.problem.nobj)
    (current : Iterate R) :
    Run.Accounted source initial plan.model.problem.nobj
      (plan.advance source current : Run σ R (Iterate R)) := by
  apply (Run.accounted_lift _).bind
  intro _ _ _ _ _
  apply Run.accounted_draw.bind
  intro _ _ _ hready hdraw
  obtain ⟨orders, hnext, rfl⟩ := Run.draw_eq_ok.mp hdraw
  have hperm := hpermutes _ hready.orders _ _ hnext
  apply (accounted_sweep (fun _ => hperm.mem_iff.mp) _ _ _).bind
  intro _ _ _ _ _
  apply (Run.accounted_note _).bind
  intro _ _ _ _ _
  exact Run.accounted_pure _

omit [Completion R] in
theorem accounted_stop? (current : Iterate R) :
    Run.Accounted source initial n (plan.stop? current : Run σ R (Option Status)) :=
  Run.accounted_evaluations.bind fun _ _ => Run.accounted_lift _

theorem accounted_iterate (hpermutes : source.Permutes initial plan.model.problem.nobj)
    (limit : Nat) (current : Iterate R) :
    Run.Accounted source initial plan.model.problem.nobj
      (plan.iterate source limit current : Run σ R (Iterate R × Status)) := by
  induction limit generalizing current with
  | zero =>
      apply (accounted_stop? current).bind
      intro _ _ verdict _ _
      cases verdict with
      | some status => exact Run.accounted_pure _
      | none => exact Run.accounted_throw id
  | succ limit ih =>
      apply (accounted_stop? current).bind
      intro _ _ verdict _ _
      cases verdict with
      | some status => exact Run.accounted_pure _
      | none =>
          apply (accounted_advance hpermutes current).bind
          intro _ _ next _ _
          exact ih next

/-- **Every iteration is a pass.** What a run of iterations has counted is as many passes over all
objectives. -/
theorem Reaches.counters {first current : Iterate R} {start journal : Journal σ R}
    (hpermutes : source.Permutes initial plan.model.problem.nobj)
    (hready : start.Ready source initial plan.model.problem.nobj) (hfirst : first.iterations = 0)
    (hreaches : plan.Reaches source first start current journal) :
    journal.Ready source initial plan.model.problem.nobj
      ∧ journal.counters = start.counters.afterPasses current.iterations := by
  induction hreaches with
  | start => exact ⟨hready, by rw [hfirst, Counters.afterPasses_zero]⟩
  | @advance current next journal after _ _ hadvance ih =>
      obtain ⟨hjournal, hcounters⟩ := ih
      refine ⟨((accounted_advance hpermutes _).ok hjournal hadvance).1, ?_⟩
      obtain ⟨stepSize, order, orders, point, sum, mid, -, hnext, hsweep, rfl, rfl⟩ :=
        advance_eq_ok.mp hadvance
      have hperm := hpermutes _ hjournal.orders _ _ hnext
      have hdrawn : Journal.Ready source initial plan.model.problem.nobj
          { journal with orders } := ⟨hjournal.orders.next hnext, hjournal.counters⟩
      have hswept := counters_of_sweep (fun _ => hperm.mem_iff.mp) hdrawn hsweep
      calc
        mid.counters = journal.counters.visited order := hswept
        _ = (start.counters.afterPasses current.iterations).visited order := by rw [hcounters]
        _ = start.counters.afterPasses (current.iterations + 1) :=
          Counters.visited_afterPasses hready.counters hperm _

end Plan

end Multigrad.Solver
