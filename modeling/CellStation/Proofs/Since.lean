import Mathlib.Data.List.Induction

/-!
# What has held since

A run is read backwards from its end : at some step something began, and every step after it
has kept it (`Since`). What begins it and what keeps it may depend on the steps before. With
one more step, either this step begins it, or it has held already and the step keeps it
(`since_concat`), so that a property of this form follows a run step by step.
-/

namespace CellStation

variable {α : Type}

/-- At one step it began, and every step since has kept it. -/
def Since (begins keeps : List α → α → Prop) (steps : List α) : Prop :=
  ∃ before first later, steps = before ++ first :: later ∧ begins before first ∧
    ∀ seen next rest, later = seen ++ next :: rest → keeps (before ++ first :: seen) next

/-- A place in a run with one more step is that step or a place before it. -/
theorem split_concat {steps before later : List α} {step first : α}
    (h : steps ++ [step] = before ++ first :: later) :
    (before = steps ∧ first = step ∧ later = []) ∨
      ∃ rest, later = rest ++ [step] ∧ steps = before ++ first :: rest := by
  rcases List.eq_nil_or_concat later with rfl | ⟨rest, last, rfl⟩
  · obtain ⟨rfl, hlast⟩ := List.append_inj' h rfl
    exact .inl ⟨rfl, (List.cons.inj hlast).1.symm, rfl⟩
  · rw [List.concat_eq_append, ← List.cons_append, ← List.append_assoc] at h
    obtain ⟨rfl, hlast⟩ := List.append_inj' h rfl
    obtain rfl := (List.cons.inj hlast).1
    exact .inr ⟨rest, List.concat_eq_append, rfl⟩

/-- What holds of every step of a run with one more step. -/
theorem forall_split_concat {P : List α → α → Prop} {steps : List α} {step : α} :
    (∀ seen next rest, steps ++ [step] = seen ++ next :: rest → P seen next) ↔
      (∀ seen next rest, steps = seen ++ next :: rest → P seen next) ∧ P steps step := by
  constructor
  · intro h
    refine ⟨fun seen next rest hsplit => ?_, h steps step [] rfl⟩
    exact h seen next (rest ++ [step]) (by simp [hsplit])
  · rintro ⟨h, hstep⟩ seen next rest hsplit
    rcases split_concat hsplit with ⟨rfl, rfl, -⟩ | ⟨more, -, hmore⟩
    · exact hstep
    · exact h seen next more hmore

variable {begins keeps : List α → α → Prop} {steps : List α} {step : α}

theorem not_since_nil : ¬ Since begins keeps [] := by
  rintro ⟨before, first, later, h, -⟩
  simp at h

theorem since_concat :
    Since begins keeps (steps ++ [step]) ↔
      begins steps step ∨ (Since begins keeps steps ∧ keeps steps step) := by
  constructor
  · rintro ⟨before, first, later, hsplit, hbegins, hkeeps⟩
    rcases split_concat hsplit with ⟨rfl, rfl, -⟩ | ⟨rest, rfl, rfl⟩
    · exact .inl hbegins
    · obtain ⟨hrest, hstep⟩ := forall_split_concat.mp hkeeps
      exact .inr ⟨⟨before, first, rest, rfl, hbegins, hrest⟩, hstep⟩
  · rintro (hbegins | ⟨⟨before, first, later, rfl, hbegins, hkeeps⟩, hstep⟩)
    · exact ⟨steps, step, [], rfl, hbegins, fun seen next rest h => by simp at h⟩
    · exact ⟨before, first, later ++ [step], by simp, hbegins,
        forall_split_concat.mpr ⟨hkeeps, hstep⟩⟩

/-- What has held since a step that did not keep it began at this step, or after it. -/
theorem begins_of_since {later : List α} (h : Since begins keeps (steps ++ step :: later))
    (hkeeps : ¬ keeps steps step) :
    begins steps step ∨
      ∃ seen next rest, later = seen ++ next :: rest ∧ begins (steps ++ step :: seen) next := by
  induction later using List.reverseRecOn with
  | nil => exact (since_concat.mp h).imp_right fun hkept => absurd hkept.2 hkeeps
  | append_singleton later last ih =>
    rw [← List.cons_append, ← List.append_assoc, since_concat] at h
    rcases h with hlast | ⟨hsince, -⟩
    · exact .inr ⟨later, last, [], rfl, hlast⟩
    · refine (ih hsince).imp_right ?_
      rintro ⟨seen, next, rest, rfl, hnext⟩
      exact ⟨seen, next, rest ++ [last], by simp, hnext⟩

end CellStation
