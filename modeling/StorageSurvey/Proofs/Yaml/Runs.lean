import StorageSurvey.Yaml.Layout

/-!
# Runs of the layout

A run takes one token after the other until the text has ended.  What a step does depends on a
layout only by way of what is left once the gap before the next token is skipped and the blocks
that end there are closed, so layouts that agree in that have the same runs.

`Reaches` says that a run leads from one layout to another.  It also keeps account of the text: a
run needs at most one step for every character, which is why the steps that `tokens` allows are
enough.
-/

namespace StorageSurvey.Yaml.Layout

/-- The tokens of what is left if it ends without a fault in at most `steps` steps. -/
def run? : Nat → Layout → Option (List Token)
  | 0, _ => none
  | steps + 1, layout => match layout.next? with
      | none => none
      | some next =>
          if next.tokens.head? = some .streamEnd then some next.tokens.reverse
          else run? steps next

theorem tokensFrom_of_run? {steps : Nat} {layout : Layout} {tokens : List Token}
    (h : run? steps layout = some tokens) : layout.tokensFrom steps = tokens := by
  induction steps generalizing layout with
  | zero => cases h
  | succ steps ih =>
      rw [run?] at h
      rw [tokensFrom]
      cases hnext : layout.next? with
      | none =>
          rw [hnext] at h
          cases h
      | some next =>
          rw [hnext] at h
          dsimp only at h ⊢
          split at h
          · rename_i hend
            rw [if_pos hend]
            exact Option.some.inj h
          · rename_i hend
            rw [if_neg hend]
            exact ih h

/-- More steps than a run needs change nothing. -/
theorem run?_of_le {steps more : Nat} {layout : Layout} {tokens : List Token}
    (h : run? steps layout = some tokens) (hle : steps ≤ more) :
    run? more layout = some tokens := by
  induction steps generalizing layout more with
  | zero => cases h
  | succ steps ih =>
      -- each step is allowed one step more
      obtain ⟨more, rfl⟩ : ∃ fewer, more = fewer + 1 := ⟨more - 1, by omega⟩
      rw [run?] at h ⊢
      cases hnext : layout.next? with
      | none =>
          rw [hnext] at h
          cases h
      | some next =>
          rw [hnext] at h
          dsimp only at h ⊢
          split at h
          · rename_i hend
            rw [if_pos hend]
            exact h
          · rename_i hend
            rw [if_neg hend]
            exact ih h (by omega)

/-! ## Layouts that agree -/

/-- The layout before the next token: the gap is skipped, and the blocks that end are closed. -/
def beforeToken? (layout : Layout) : Option Layout :=
  layout.skipGap.dropStale?.map fun layout => layout.closeBlocks layout.cursor.column

/-- Whether two layouts differ only in the gap before the next token and in blocks that end
there. -/
def Agrees (layout other : Layout) : Prop :=
  layout.beforeToken? = other.beforeToken?

/-- Takes the token at the cursor, or the end of the text. -/
def takeToken? (layout : Layout) : Option Layout :=
  (match layout.cursor.text with
    | [] => layout.atEnd?
    | c :: rest => layout.token? c rest).bind dropStale?

theorem next?_eq (layout : Layout) : layout.next? = layout.beforeToken?.bind takeToken? := by
  rw [next?, beforeToken?]
  cases layout.skipGap.dropStale? with
  | none => rfl
  | some layout =>
      simp only [Option.bind_eq_bind, Option.bind_some, Option.map_some, takeToken?]
      cases (layout.closeBlocks layout.cursor.column).cursor.text with
      | nil => rfl
      | cons c rest => rfl

theorem Agrees.next?_eq {layout other : Layout} (h : layout.Agrees other) :
    layout.next? = other.next? := by
  rw [Layout.next?_eq, Layout.next?_eq other, h]

theorem Agrees.run?_eq {layout other : Layout} (h : layout.Agrees other) (steps : Nat) :
    run? (steps + 1) layout = run? (steps + 1) other := by
  rw [run?, run?, h.next?_eq]

/-! ## Reaching -/

/-- Whether the runs of one layout lead through another, with no more steps than characters. -/
def Reaches (layout target : Layout) : Prop :=
  ∃ passed, (∀ steps, run? (steps + 1 + passed) layout = run? (steps + 1) target) ∧
    target.cursor.text.length + passed ≤ layout.cursor.text.length

namespace Reaches

theorem refl (layout : Layout) : layout.Reaches layout :=
  ⟨0, fun _ => rfl, Nat.le_refl _⟩

theorem trans {first second third : Layout} (h : first.Reaches second)
    (h' : second.Reaches third) : first.Reaches third := by
  obtain ⟨passed, hrun, hlength⟩ := h
  obtain ⟨passed', hrun', hlength'⟩ := h'
  refine ⟨passed' + passed, fun steps => ?_, by omega⟩
  have hsteps : steps + 1 + passed' = steps + passed' + 1 := by omega
  rw [← hrun', hsteps, ← hrun]
  congr 1
  omega

/-- A gap may be skipped ahead of time. -/
theorem of_agrees {layout other : Layout} (h : layout.Agrees other)
    (hlength : other.cursor.text.length ≤ layout.cursor.text.length) : layout.Reaches other :=
  ⟨0, fun steps => h.run?_eq steps, hlength⟩

/-- A token that is not the last. -/
theorem of_next? {layout next target : Layout} (hnext : layout.next? = some next)
    (hend : next.tokens.head? ≠ some .streamEnd) (hagrees : next.Agrees target)
    (hlength : target.cursor.text.length < layout.cursor.text.length) :
    layout.Reaches target := by
  refine ⟨1, fun steps => ?_, hlength⟩
  rw [run?, hnext]
  dsimp only
  rw [if_neg hend, hagrees.run?_eq]

/-- The tokens of a text that leads to its end. -/
theorem tokensFrom_eq {layout target last : Layout} (h : layout.Reaches target)
    (hlast : target.next? = some last) (hend : last.tokens.head? = some .streamEnd) :
    layout.tokensFrom (layout.cursor.text.length + 1) = last.tokens.reverse := by
  obtain ⟨passed, hrun, hlength⟩ := h
  have htarget : run? 1 target = some last.tokens.reverse := by
    rw [run?, hlast]
    dsimp only
    rw [if_pos hend]
  have hlayout : run? (0 + 1 + passed) layout = some last.tokens.reverse := by
    rw [hrun 0, htarget]
  exact tokensFrom_of_run? (run?_of_le hlayout (by omega))

end Reaches

end StorageSurvey.Yaml.Layout
