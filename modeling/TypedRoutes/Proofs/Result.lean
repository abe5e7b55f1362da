import Mathlib.Data.List.Forall2
import TypedRoutes.Route.Event
/-!
# Results of steps

A computation that may fail is a chain of steps. What it gives in the end comes from every step before
(`except_bind_ok`), and what it fails with comes from the first step that fails (`except_bind_error`). So a step that is
made for every element of a list gives a result for each (`mapM_eq_ok_iff`), or fails as the first element does for
which it fails (`mapM_eq_error_iff`). The events that steps raise change none of this (`Logged.value_bind`).
-/
namespace TypedRoutes

/-! ## Results that are no error -/

theorem except_bind_ok {ε α β : Type} {x : Except ε α} {f : α → Except ε β} {b : β} (h : x >>= f = .ok b) :
    ∃ a, x = .ok a ∧ f a = .ok b := by
  cases x with
  | error e => cases h
  | ok a => exact ⟨a, rfl, h⟩

theorem except_map_ok {ε α β : Type} {x : Except ε α} {f : α → β} {b : β} (h : x.map f = .ok b) :
    ∃ a, x = .ok a ∧ f a = b := by
  cases x with
  | error e => cases h
  | ok a => exact ⟨a, rfl, by injection h⟩

theorem except_mapError_ok {ε ε' α : Type} {x : Except ε α} {f : ε → ε'} {a : α} (h : x.mapError f = .ok a) :
    x = .ok a := by
  cases x with
  | error e => cases h
  | ok a' => injection h with h; rw [h]

/-! ## Results that are an error -/

theorem except_bind_error {ε α β : Type} {x : Except ε α} {f : α → Except ε β} {e : ε} :
    x >>= f = .error e ↔ x = .error e ∨ ∃ a, x = .ok a ∧ f a = .error e := by
  cases x with
  | error e' => simp [bind, Except.bind]
  | ok a => simp [bind, Except.bind]

theorem except_map_error {ε α β : Type} {x : Except ε α} {f : α → β} {e : ε} : x.map f = .error e ↔ x = .error e := by
  cases x with
  | error e' => simp [Except.map]
  | ok a => simp [Except.map]

theorem except_mapError_error {ε ε' α : Type} {x : Except ε α} {f : ε → ε'} {e : ε'} :
    x.mapError f = .error e ↔ ∃ e', x = .error e' ∧ f e' = e := by
  cases x with
  | error e' =>
    constructor
    · intro h
      injection h with h
      exact ⟨e', rfl, h⟩
    · rintro ⟨_, ⟨⟩, rfl⟩
      rfl
  | ok a =>
    constructor
    · rintro ⟨⟩
    · rintro ⟨_, ⟨⟩, _⟩

/-- A step that cannot fail adds no error. -/
theorem except_bind_pure_error {ε α β : Type} {x : Except ε α} {f : α → β} {e : ε} :
    (x >>= fun a => pure (f a)) = .error e ↔ x = .error e := by
  rw [except_bind_error]
  simp [pure, Except.pure]

/-! ## A step for every element of a list -/

section Traversal
variable {ε α β : Type} {f : α → Except ε β} {l : List α}

theorem exists_forall₂_iff {R : α → β → Prop} : (∃ out, List.Forall₂ R l out) ↔ ∀ a ∈ l, ∃ b, R a b := by
  induction l with
  | nil => simp
  | cons a l ih =>
    rw [List.forall_mem_cons, ← ih]
    constructor
    · rintro ⟨_, _ | ⟨hb, hout⟩⟩
      exact ⟨⟨_, hb⟩, _, hout⟩
    · rintro ⟨⟨b, hb⟩, out, hout⟩
      exact ⟨b :: out, .cons hb hout⟩

theorem forall₂_imp_of_mem {R S : α → β → Prop} {out : List β} (h : List.Forall₂ R l out)
    (hi : ∀ a ∈ l, ∀ b, R a b → S a b) : List.Forall₂ S l out := by
  have hmem := (List.forall₂_and_left l out).2 ⟨fun a ha => ha, h⟩
  exact hmem.imp fun a b ⟨ha, hr⟩ => hi a ha b hr

theorem mapM_eq_ok_iff {out : List β} : l.mapM f = .ok out ↔ List.Forall₂ (fun a b => f a = .ok b) l out := by
  induction l generalizing out with
  | nil =>
    rw [List.mapM_nil]
    constructor
    · intro h
      cases h
      exact .nil
    · intro h
      cases h
      rfl
  | cons a l ih =>
    rw [List.mapM_cons]
    constructor
    · intro h
      obtain ⟨b, hb, h⟩ := except_bind_ok h
      obtain ⟨bs, hbs, h⟩ := except_bind_ok h
      cases h
      exact .cons hb (ih.1 hbs)
    · intro h
      cases h with
      | cons hb hbs =>
        rw [hb, ih.2 hbs]
        rfl

theorem mapM_eq_error_iff {e : ε} : l.mapM f = .error e ↔ ∃ before a after, l = before ++ a :: after ∧
    (∀ b ∈ before, ∃ c, f b = .ok c) ∧ f a = .error e := by
  induction l with
  | nil =>
    rw [List.mapM_nil]
    constructor
    · intro h
      cases h
    · rintro ⟨before, a, after, h, -⟩
      simp at h
  | cons a l ih =>
    rw [List.mapM_cons, except_bind_error]
    simp only [except_bind_pure_error, ih]
    constructor
    · rintro (ha | ⟨b, hb, before, a', after, rfl, hbefore, ha'⟩)
      · exact ⟨[], a, l, rfl, by simp, ha⟩
      · exact ⟨a :: before, a', after, rfl, List.forall_mem_cons.2 ⟨⟨b, hb⟩, hbefore⟩, ha'⟩
    · rintro ⟨before, a', after, hl, hbefore, ha'⟩
      cases before with
      | nil =>
        cases hl
        exact .inl ha'
      | cons b before =>
        cases hl
        obtain ⟨⟨c, hc⟩, hbefore⟩ := List.forall_mem_cons.1 hbefore
        exact .inr ⟨c, hc, before, a', after, rfl, hbefore, ha'⟩

end Traversal

/-! ## Steps that raise events -/

namespace Logged
variable {ε α β : Type}

/-- What a chain of steps gives is a chain of what they give. -/
theorem value_bind (x : ExceptT ε Logged α) (f : α → ExceptT ε Logged β) :
    (x >>= f).run.value = x.run.value >>= fun a => (f a).run.value := by
  rcases x with ⟨value, events⟩
  cases value <;> rfl

/-- An error that is told in other words raises no event. -/
theorem run_adapt {ε' : Type} (f : ε → ε') (x : ExceptT ε Logged α) :
    (x.adapt f).run = ⟨x.run.value.mapError f, x.run.events⟩ := by
  have h : (x.adapt f).run = ⟨x.run.value.mapError f, x.run.events ++ []⟩ := rfl
  rw [h, List.append_nil]

end Logged

end TypedRoutes
