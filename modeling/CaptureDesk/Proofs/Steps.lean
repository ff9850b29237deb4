import Mathlib.Data.List.Forall2

/-!
# Steps that can fail

What it takes for steps that are done one after another to succeed, and which of them is at fault
when they do not.
-/

namespace CaptureDesk

section Steps

variable {ε α β : Type} {x : Except ε α} {f : α → Except ε β}

theorem bind_eq_ok_iff {b : β} : (x >>= f) = .ok b ↔ ∃ a, x = .ok a ∧ f a = .ok b := by
  cases x <;> simp [bind, Except.bind]

theorem bind_eq_error_iff {e : ε} :
    (x >>= f) = .error e ↔ x = .error e ∨ ∃ a, x = .ok a ∧ f a = .error e := by
  cases x <;> simp [bind, Except.bind]

theorem map_eq_ok_iff {g : α → β} {b : β} : (g <$> x) = .ok b ↔ ∃ a, x = .ok a ∧ g a = b := by
  cases x <;> simp [Functor.map, Except.map]

/-- A step for each item ends in the fault of the first item that has one. -/
theorem mapM_eq_error_iff {items : List α} {e : ε} :
    items.mapM f = .error e ↔
      ∃ before a after, items = before ++ a :: after ∧ (∀ c ∈ before, ∃ b, f c = .ok b) ∧
        f a = .error e := by
  induction items with
  | nil => simp [pure, Except.pure]
  | cons a items ih =>
      rw [List.mapM_cons, bind_eq_error_iff]
      constructor
      · rintro (first | ⟨b, first, rest⟩)
        · exact ⟨[], a, items, rfl, nofun, first⟩
        · obtain rest | ⟨_, _, none⟩ := bind_eq_error_iff.1 rest
          · obtain ⟨before, c, after, rfl, sound, fault⟩ := ih.1 rest
            exact ⟨a :: before, c, after, rfl, by simpa using ⟨⟨b, first⟩, sound⟩, fault⟩
          · cases none
      · rintro ⟨before, c, after, split, sound, fault⟩
        cases before with
        | nil =>
            obtain ⟨rfl, rfl⟩ := List.cons.inj split
            exact .inl fault
        | cons d before =>
            obtain ⟨rfl, rfl⟩ := List.cons.inj split
            obtain ⟨⟨b, first⟩, sound⟩ := List.forall_mem_cons.1 sound
            exact .inr ⟨b, first, bind_eq_error_iff.2
              (.inl (ih.2 ⟨before, c, after, rfl, sound, fault⟩))⟩

end Steps

/-- Either all items are in order, or there is a first one that is not. -/
theorem forall_or_first {α : Type} (p : α → Prop) (items : List α) :
    (∀ a ∈ items, p a) ∨
      ∃ before a after, items = before ++ a :: after ∧ (∀ b ∈ before, p b) ∧ ¬ p a := by
  induction items with
  | nil => exact Or.inl nofun
  | cons a items ih =>
      by_cases holds : p a
      · rcases ih with all | ⟨before, b, after, rfl, sound, fails⟩
        · exact Or.inl (List.forall_mem_cons.mpr ⟨holds, all⟩)
        · exact Or.inr ⟨a :: before, b, after, rfl, List.forall_mem_cons.mpr ⟨holds, sound⟩, fails⟩
      · exact Or.inr ⟨[], a, items, rfl, nofun, holds⟩

end CaptureDesk
