/-!
# What a run yields

A run folds a step over a list of acts. What the acts yield on the way, each in the state that it
meets, is gathered into one list.
-/

namespace PadRelay

/-- What the acts of a run yield, each in the state in which it is performed. -/
def gather {σ α β : Type} (step : σ → α → σ) (yields : σ → α → List β) (start : σ) :
    List α → List β
  | [] => []
  | act :: acts => yields start act ++ gather step yields (step start act) acts

section Gather

variable {σ α β : Type} (step : σ → α → σ) (yields : σ → α → List β)

theorem gather_append (start : σ) (acts : List α) (last : α) :
    gather step yields start (acts ++ [last]) =
      gather step yields start acts ++ yields (acts.foldl step start) last := by
  induction acts generalizing start with
  | nil => simp [gather]
  | cons act acts induction =>
      rw [List.cons_append, gather, gather, induction, List.append_assoc, List.foldl_cons]

theorem mem_gather {start : σ} {acts : List α} {entry : β} :
    entry ∈ gather step yields start acts ↔
      ∃ earlier act later, acts = earlier ++ act :: later ∧
        entry ∈ yields (earlier.foldl step start) act := by
  induction acts generalizing start with
  | nil => simp [gather]
  | cons first acts induction =>
      rw [gather, List.mem_append, induction]
      constructor
      · rintro (now | ⟨earlier, act, later, rfl, found⟩)
        · exact ⟨[], first, acts, rfl, now⟩
        · exact ⟨first :: earlier, act, later, rfl, found⟩
      · rintro ⟨earlier, act, later, equal, found⟩
        cases earlier with
        | nil =>
            cases equal
            exact .inl found
        | cons head earlier =>
            cases equal
            exact .inr ⟨earlier, act, later, rfl, found⟩

end Gather

end PadRelay
