import Multigrad.Proofs.Counters
import Multigrad.Proofs.Reading
import Multigrad.Solver.Orders

/-!
# Sources that visit every objective once

A run relies on one thing about its source of orders: whenever it draws, every objective comes
exactly once. Random orders are always like that, and orders from a list are when the listed ones
are.
-/

namespace Multigrad

namespace OrderSource

variable {σ : Type}

/-- The states that a run can bring a source to. -/
inductive Reachable (source : OrderSource σ) (initial : σ) : σ → Prop where
  | start {state : σ} (hstart : source.start initial = .ok state) : Reachable source initial state
  | next {state after : σ} {order : List Int} (hstate : Reachable source initial state)
      (hnext : source.next state = .ok (order, after)) : Reachable source initial after

/-- Every order that a run draws is one of `n` objectives. -/
def Permutes (source : OrderSource σ) (initial : σ) (n : Nat) : Prop :=
  ∀ state, source.Reachable initial state → ∀ order after, source.next state = .ok (order, after) →
    order.Perm (objectives n)

theorem permutes_of_invariant {source : OrderSource σ} {initial : σ} {n : Nat}
    (invariant : σ → Prop) (hstart : ∀ state, source.start initial = .ok state → invariant state)
    (hnext : ∀ state order after, invariant state → source.next state = .ok (order, after) →
      invariant after ∧ order.Perm (objectives n)) : source.Permutes initial n := by
  have hinvariant : ∀ state, source.Reachable initial state → invariant state := by
    intro state hstate
    induction hstate with
    | start h => exact hstart _ h
    | next _ h ih => exact (hnext _ _ _ ih h).1
  intro state hstate order after h
  exact (hnext state order after (hinvariant state hstate) h).2

end OrderSource

namespace Orders

variable {R : Type}

theorem permutes_listed {n used : Nat} {orders : List (List Int)}
    (horders : ∀ order ∈ orders, order.Perm (objectives n)) :
    (source n : OrderSource (Orders R)).Permutes (.listed orders used) n := by
  refine OrderSource.permutes_of_invariant (fun state => ∃ used, state = .listed orders used) ?_ ?_
  · rintro state h
    exact ⟨used, (Except.ok.inj h).symm⟩
  · rintro state order after ⟨used, rfl⟩ h
    simp only [source, next] at h
    split at h
    · rename_i drawn hdrawn
      obtain ⟨rfl, rfl⟩ := Prod.mk.inj (Except.ok.inj h)
      exact ⟨⟨used + 1, rfl⟩, horders _ (List.mem_of_getElem? hdrawn)⟩
    · cases h

end Orders

namespace Random.Generator

theorem swapIfInBounds_perm (entries : Array Int) (i j : Nat) :
    (entries.swapIfInBounds i j).Perm entries := by
  rw [Array.swapIfInBounds_def]
  split
  · split
    · exact Array.swap_perm _ _
    · exact .rfl
  · exact .rfl

theorem shuffle_perm (index : Nat) (entries : Array Int) (generator : Generator) :
    (shuffle index entries generator).1.Perm entries := by
  fun_induction shuffle index entries generator with
  | case1 entries generator => exact .rfl
  | case2 index entries generator other after hupTo ih =>
      exact ih.trans (swapIfInBounds_perm entries _ _)

theorem permutation_perm (generator : Generator) (n : Nat) :
    (generator.permutation n).1.Perm (objectives n) :=
  Array.perm_iff_toList_perm.mp (shuffle_perm _ _ generator)

end Random.Generator

namespace Orders

variable {R : Type}

/-- **Random orders visit every objective once**, from every seed. -/
theorem permutes_seeded (n : Nat) (seed : Value R) (generator : Option Random.Generator) :
    (source n).Permutes (.seeded seed generator) n := by
  refine OrderSource.permutes_of_invariant
    (fun state => ∃ generator, state = .seeded seed (some generator)) ?_ ?_
  · rintro state h
    obtain ⟨started, -, rfl⟩ := map_eq_ok.mp h
    exact ⟨started, rfl⟩
  · rintro state order after ⟨current, rfl⟩ h
    obtain ⟨rfl, rfl⟩ := Prod.mk.inj (Except.ok.inj h)
    exact ⟨⟨_, rfl⟩, current.permutation_perm n⟩

end Orders

end Multigrad
