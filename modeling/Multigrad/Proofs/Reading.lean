import Multigrad.Value.Field
import Mathlib.Data.List.Forall2

/-!
# Readings that may fail

When a reading made of several succeeds: all its parts did, one after the other.
-/

namespace Multigrad

variable {ε δ α β : Type}

theorem bind_eq_ok {first : Except ε α} {next : α → Except ε β} {b : β} :
    first >>= next = .ok b ↔ ∃ a, first = .ok a ∧ next a = .ok b := by
  constructor
  · intro h
    cases first with
    | ok a => exact ⟨a, rfl, h⟩
    | error e => cases h
  · rintro ⟨a, rfl, h⟩
    exact h

theorem pure_eq_ok {a b : α} : (pure a : Except ε α) = .ok b ↔ a = b :=
  ⟨fun h => Except.ok.inj h, fun h => congrArg Except.ok h⟩

theorem map_eq_ok {f : α → β} {reading : Except ε α} {b : β} :
    reading.map f = .ok b ↔ ∃ a, reading = .ok a ∧ f a = b := by
  cases reading <;> simp [Except.map]

theorem mapError_eq_ok {rename : ε → δ} {reading : Except ε α} {a : α} :
    reading.mapError rename = .ok a ↔ reading = .ok a := by
  cases reading <;> simp [Except.mapError]

theorem mapError_eq_error {rename : ε → δ} {reading : Except ε α} {d : δ} :
    reading.mapError rename = .error d ↔ ∃ e, reading = .error e ∧ rename e = d := by
  cases reading <;> simp [Except.mapError]

theorem mapM_eq_ok {read : α → Except ε β} {members : List α} {results : List β} :
    members.mapM read = .ok results
      ↔ List.Forall₂ (fun a b => read a = .ok b) members results := by
  induction members generalizing results with
  | nil =>
      rw [List.mapM_nil, pure_eq_ok, List.forall₂_nil_left_iff]
      exact eq_comm
  | cons a rest ih =>
      rw [List.mapM_cons, bind_eq_ok, List.forall₂_cons_left_iff]
      constructor
      · rintro ⟨b, hb, hrest⟩
        obtain ⟨bs, hbs, hpure⟩ := bind_eq_ok.mp hrest
        exact ⟨b, bs, hb, ih.mp hbs, (pure_eq_ok.mp hpure).symm⟩
      · rintro ⟨b, bs, hb, hbs, rfl⟩
        exact ⟨b, hb, bind_eq_ok.mpr ⟨bs, ih.mpr hbs, rfl⟩⟩

/-- Every result comes from a member. -/
theorem exists_of_mem_mapM {read : α → Except ε β} {members : List α} {results : List β}
    (hread : members.mapM read = .ok results) {b : β} (hb : b ∈ results) :
    ∃ a ∈ members, read a = .ok b := by
  rw [mapM_eq_ok] at hread
  induction hread with
  | nil => cases hb
  | @cons a b' rest results hfirst _ ih =>
      rcases List.mem_cons.mp hb with rfl | hb
      · exact ⟨a, List.mem_cons_self, hfirst⟩
      · obtain ⟨a', ha', hread⟩ := ih hb
        exact ⟨a', List.mem_cons_of_mem _ ha', hread⟩

theorem exists_mapM_eq_ok {read : α → Except ε β} {members : List α} :
    (∃ results, members.mapM read = .ok results) ↔ ∀ a ∈ members, ∃ b, read a = .ok b := by
  induction members with
  | nil => exact ⟨fun _ _ ha => (List.not_mem_nil ha).elim, fun _ => ⟨[], rfl⟩⟩
  | cons a rest ih =>
      rw [List.forall_mem_cons, ← ih]
      constructor
      · rintro ⟨results, hresults⟩
        obtain ⟨b, bs, hb, hbs, -⟩ := List.forall₂_cons_left_iff.mp (mapM_eq_ok.mp hresults)
        exact ⟨⟨b, hb⟩, ⟨bs, mapM_eq_ok.mpr hbs⟩⟩
      · rintro ⟨⟨b, hb⟩, ⟨bs, hbs⟩⟩
        exact ⟨b :: bs, mapM_eq_ok.mpr (.cons hb (mapM_eq_ok.mp hbs))⟩

/-- Two readings that report their faults together succeed when both do. -/
theorem Checked.and_eq_ok {first : Checked α} {second : Checked β} {a : α} {b : β} :
    first.and second = .ok (a, b) ↔ first = .ok a ∧ second = .ok b := by
  cases first <;> cases second <;> simp [Checked.and]

theorem Field.atLeastZero_eq_ok {less : α → Bool} {result : Field.Result α} {a : α} :
    Field.atLeastZero less result = .ok a ↔ result = .ok a ∧ less a = true := by
  rw [Field.atLeastZero, bind_eq_ok]
  constructor
  · rintro ⟨b, hb, hif⟩
    split at hif
    · rename_i hless
      obtain rfl := Except.ok.inj hif
      exact ⟨hb, hless⟩
    · cases hif
  · rintro ⟨ha, hless⟩
    exact ⟨a, ha, if_pos hless⟩

end Multigrad
