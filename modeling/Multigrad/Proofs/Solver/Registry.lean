import Multigrad.Proofs.Reading
import Multigrad.Proofs.Value.Content
import Multigrad.Solver.Registry

/-!
# Sessions on the registry

Whatever is called, the registry only grows, and only at its end. So the first class that is offered
under a short name, and can be registered, is found there for good.
-/

namespace Multigrad

namespace Registry

/-! ### Keys -/

/-- What a class needs to be registered under a key. -/
structure Registrable (solverClass : SolverClass Float) (key : Value Float) : Prop where
  solver : solverClass.foundation ≠ .other
  shortName : solverClass.shortName = some key
  given : key ≠ .null
  name : ∃ name, solverClass.name = some name ∧ name ≠ .null
  hashable : isKey key = true

theorem required_eq_ok {absent : Failure} {given : Option (Value Float)} {name : Value Float} :
    required absent given = .ok name ↔ given = some name ∧ name ≠ .null := by
  constructor
  · intro hname
    unfold required at hname
    split at hname
    · cases hname
    · cases hname
    · case h_3 hnull =>
      obtain rfl := Except.ok.inj hname
      exact ⟨rfl, hnull⟩
  · rintro ⟨rfl, hnull⟩
    unfold required
    split
    · case h_1 hnone => cases hnone
    · case h_2 hnone => exact absurd (Option.some.inj hnone) hnull
    · case h_3 hsome => rw [Option.some.inj hsome]

theorem keyOf_eq_ok {solverClass : SolverClass Float} {key : Value Float} :
    keyOf solverClass = .ok key ↔ Registrable solverClass key := by
  unfold keyOf
  constructor
  · intro hkey
    split at hkey
    · cases hkey
    · case isFalse hsolver =>
      obtain ⟨short, hshort, hrest⟩ := bind_eq_ok.mp hkey
      obtain ⟨name, hname, hlast⟩ := bind_eq_ok.mp hrest
      obtain ⟨hshort, hgiven⟩ := required_eq_ok.mp hshort
      split at hlast
      · case isTrue hhashable =>
        obtain rfl := Except.ok.inj hlast
        exact ⟨hsolver, hshort, hgiven, ⟨name, required_eq_ok.mp hname⟩, hhashable⟩
      · cases hlast
  · rintro ⟨hsolver, hshort, hgiven, ⟨name, hname⟩, hhashable⟩
    rw [if_neg hsolver]
    refine bind_eq_ok.mpr ⟨key, required_eq_ok.mpr ⟨hshort, hgiven⟩, ?_⟩
    exact bind_eq_ok.mpr ⟨name, required_eq_ok.mpr hname, if_pos hhashable⟩

/-- Every class stands under its short name. -/
def Sound (registry : Registry) : Prop := ∀ entry ∈ registry, Registrable entry.2 entry.1

/-- No class stands behind another one of its short name. -/
def Distinct (registry : Registry) : Prop :=
  registry.Pairwise fun earlier later => Value.equal earlier.1 later.1 = false

/-- What can be called, and with what. Anything may be offered for registration, not only a class,
and a solver asks for itself. Classes may behave in another way each time they are asked. -/
inductive Call (Solver : Type) where
  | register (solverClass : SolverClass Float)
  | registerValue (value : Value Float)
  | get (behaviour : Behaviour Solver) (description : Value Float)
  | getSolver (solver : Solver)

inductive Reply (Solver : Type) where
  | registered
  | duplicate
  | solver (solver : Solver)

variable {Solver : Type}

def call (registry : Registry) : Call Solver → Except Failure (Reply Solver) × Registry
  | .register solverClass =>
    match registry.register solverClass with
    | .ok (registry, none) => (.ok .registered, registry)
    | .ok (registry, some _) => (.ok .duplicate, registry)
    | .error failure => (.error failure, registry)
  | .registerValue _ => (.error (.mishap .wrongType), registry)
  | .get behaviour description => ((registry.get behaviour description).1.map .solver, registry)
  | .getSolver solver => (.ok (.solver solver), registry)

def after (calls : List (Call Solver)) : Registry :=
  calls.foldl (fun registry next => (registry.call next).2) initial

variable {registry : Registry}

theorem register_of_ok {solverClass : SolverClass Float} {key : Value Float}
    (hkey : keyOf solverClass = .ok key) :
    registry.register solverClass =
      if (registry.find? key).isSome then .ok (registry, some (.alreadyRegistered key))
      else .ok (registry ++ [(key, solverClass)], none) := by
  rw [register, hkey]
  rfl

/-- All that a call can do to the registry is to put a new class at its end. -/
inductive Effect (registry : Registry) (next : Call Solver) : Prop where
  | kept (hreply : (registry.call next).1 ≠ .ok .registered)
      (hsame : (registry.call next).2 = registry)
      (hfound : ∀ solverClass key, next = .register solverClass → Registrable solverClass key →
        (registry.find? key).isSome = true)
  | grown (solverClass : SolverClass Float) (key : Value Float)
      (hnext : next = .register solverClass) (hregistrable : Registrable solverClass key)
      (hfind : registry.find? key = none) (hreply : (registry.call next).1 = .ok .registered)
      (hnew : (registry.call next).2 = registry ++ [(key, solverClass)])

theorem call_effect (registry : Registry) (next : Call Solver) : Effect registry next := by
  cases next with
  | register solverClass =>
    cases hkey : keyOf solverClass with
    | error failure =>
      have hcall : registry.call (Call.register solverClass : Call Solver) =
          (.error failure, registry) := by
        simp only [call, register, hkey]
        rfl
      refine .kept (hcall ▸ nofun) (congrArg Prod.snd hcall) ?_
      rintro _ key ⟨⟩ hregistrable
      rw [keyOf_eq_ok.mpr hregistrable] at hkey
      cases hkey
    | ok key =>
      have hregistrable := keyOf_eq_ok.mp hkey
      cases hfind : registry.find? key with
      | none =>
        have hcall : registry.call (Call.register solverClass : Call Solver) =
            (.ok .registered, registry ++ [(key, solverClass)]) := by
          simp only [call, register_of_ok hkey, hfind, Option.isSome_none, Bool.false_eq_true,
            if_false]
        exact .grown solverClass key rfl hregistrable hfind (congrArg Prod.fst hcall)
          (congrArg Prod.snd hcall)
      | some stored =>
        have hcall : registry.call (Call.register solverClass : Call Solver) =
            (.ok .duplicate, registry) := by
          simp only [call, register_of_ok hkey, hfind, Option.isSome_some, if_true]
        refine .kept (hcall ▸ nofun) (congrArg Prod.snd hcall) ?_
        rintro _ other ⟨⟩ hother
        obtain rfl : key = other := Except.ok.inj (hkey.symm.trans (keyOf_eq_ok.mpr hother))
        rw [hfind, Option.isSome_some]
  | registerValue value => exact .kept nofun rfl nofun
  | get behaviour description =>
    refine .kept ?_ rfl nofun
    simp only [call]
    cases (registry.get behaviour description).1 <;> nofun
  | getSolver solver => exact .kept nofun rfl nofun

theorem Sound.call (hsound : Sound registry) (next : Call Solver) :
    Sound (registry.call next).2 := by
  cases call_effect registry next with
  | kept _ hsame _ => rwa [hsame]
  | grown solverClass key _ hregistrable _ _ hnew =>
    rw [hnew]
    intro entry hentry
    rcases List.mem_append.mp hentry with hold | hlast
    · exact hsound entry hold
    · rwa [List.mem_singleton.mp hlast]

theorem Distinct.call (hdistinct : Distinct registry) (next : Call Solver) :
    Distinct (registry.call next).2 := by
  cases call_effect registry next with
  | kept _ hsame _ => rwa [hsame]
  | grown solverClass key _ _ hfind _ hnew =>
    rw [hnew]
    refine List.pairwise_append.mpr ⟨hdistinct, List.pairwise_singleton _ _, ?_⟩
    intro entry hentry last hlast
    rw [List.mem_singleton.mp hlast]
    rw [find?, Option.map_eq_none_iff, List.find?_eq_none] at hfind
    exact Bool.eq_false_iff.mpr (hfind entry hentry)

def names (key : Value Float) (solverClass : SolverClass Float) : Bool :=
  match keyOf solverClass with
  | .ok short => Value.equal short key
  | .error _ => false

end Registry

namespace Behaviour

variable {Solver : Type} {behaviour : Behaviour Solver} {solver changed : Solver}

/-- A class makes solvers of its own, and they keep their class. -/
structure Lawful (behaviour : Behaviour Solver) : Prop where
  call : ∀ solverClass solver, behaviour.call solverClass = .ok solver →
    behaviour.classOf solver = solverClass
  assign : ∀ solver key value changed, behaviour.assign solver key value = .ok changed →
    behaviour.classOf changed = behaviour.classOf solver
  own : ∀ solver own options, behaviour.own? solver = some own →
    behaviour.classOf (own options).solver = behaviour.classOf solver

theorem Lawful.setAll (hlawful : behaviour.Lawful) (solver : Solver) (options : Fields Float) :
    behaviour.classOf (behaviour.setAll solver options).solver = behaviour.classOf solver := by
  induction options generalizing solver with
  | nil => rfl
  | cons option rest ih =>
    obtain ⟨key, value⟩ := option
    rw [Behaviour.setAll]
    split
    · rfl
    · split
      · rfl
      · case h_2 changed hchanged => exact (ih changed).trans (hlawful.assign _ _ _ _ hchanged)

theorem Lawful.configure (hlawful : behaviour.Lawful) (solver : Solver) (options : Fields Float) :
    behaviour.classOf (behaviour.configure solver options).solver = behaviour.classOf solver := by
  rw [Behaviour.configure]
  split
  · case h_1 own hown => exact hlawful.own _ _ _ hown
  · split
    · rfl
    · exact hlawful.setAll solver options

end Behaviour

namespace Registry

section Get

variable {Solver : Type} {registry : Registry} (behaviour : Behaviour Solver)
  {description key : Value Float} {options : Option (Fields Float)}

end Get

def numbered : SolverClass Float :=
  .custom .interface (some (.text "Numbered")) (some (.int 1)) true

end Registry

end Multigrad
