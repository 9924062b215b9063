/-!
# Steps that can fail

A computation whose steps can fail gives a result iff each of its steps does, on what the steps
before it gave.
-/

namespace StorageSurvey

variable {α β ε : Type}

theorem pure_eq_ok_iff {found result : α} :
    (pure found : Except ε α) = .ok result ↔ found = result :=
  Iff.of_eq (Except.ok.injEq _ _)

theorem error_ne_ok (fault : ε) (result : α) : (.error fault : Except ε α) ≠ .ok result := by
  intro h
  cases h

theorem bind_eq_ok_iff {x : Except ε α} {f : α → Except ε β} {result : β} :
    (x >>= f) = .ok result ↔ ∃ found, x = .ok found ∧ f found = .ok result := by
  cases x with
  | error fault =>
      refine iff_of_false (error_ne_ok fault result) ?_
      rintro ⟨_, hfound, -⟩
      exact error_ne_ok _ _ hfound
  | ok found =>
      refine ⟨fun h => ⟨found, rfl, h⟩, ?_⟩
      rintro ⟨_, ⟨⟩, h⟩
      exact h

end StorageSurvey
