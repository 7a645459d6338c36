import Mathlib.Logic.Basic

/-!
# Steps until one fails

Steps are taken over the items of a list, in order. They succeed together, or stop at the first
one that fails.
-/

namespace Toolbench

variable {α β ε : Type}

/-- An item that is picked out of a list is the first one or one of the rest. -/
theorem exists_split_cons_iff (first : α) (rest : List α) (p : List α → α → Prop) :
    (∃ earlier item later, first :: rest = earlier ++ item :: later ∧ p earlier item) ↔
      p [] first ∨
        ∃ earlier item later, rest = earlier ++ item :: later ∧ p (first :: earlier) item := by
  constructor
  · rintro ⟨earlier, item, later, hlist, hp⟩
    rcases List.cons_eq_append_iff.mp hlist with ⟨rfl, hhead⟩ | ⟨others, rfl, hrest⟩
    · obtain ⟨rfl, -⟩ := List.cons.inj hhead
      exact .inl hp
    · exact .inr ⟨others, item, later, hrest, hp⟩
  · rintro (hp | ⟨earlier, item, later, rfl, hp⟩)
    · exact ⟨[], first, rest, rfl, hp⟩
    · exact ⟨first :: earlier, item, later, rfl, hp⟩

/-- Whether steps that are taken in order come to one that fails. -/
def StopsAt (step : α → Except ε β) (list : List α) (fault : ε) : Prop :=
  ∃ earlier a later, list = earlier ++ a :: later ∧
    (∀ other ∈ earlier, ∃ result, step other = .ok result) ∧ step a = .error fault

theorem stopsAt_cons_iff (step : α → Except ε β) (first : α) (rest : List α) (fault : ε) :
    StopsAt step (first :: rest) fault ↔
      step first = .error fault ∨
        (∃ result, step first = .ok result) ∧ StopsAt step rest fault := by
  unfold StopsAt
  rw [exists_split_cons_iff]
  simp only [List.not_mem_nil, false_implies, implies_true, true_and, List.forall_mem_cons]
  cases step first with
  | error other => simp
  | ok result => simp

/-- Steps come to one that fails if any of them does. -/
theorem exists_stopsAt_iff (step : α → Except ε β) (list : List α) :
    (∃ fault, StopsAt step list fault) ↔ ∃ a ∈ list, ∃ fault, step a = .error fault := by
  induction list with
  | nil =>
      simp [StopsAt]
  | cons first rest ih =>
      simp only [stopsAt_cons_iff, List.mem_cons, exists_eq_or_imp, ← ih]
      cases step first with
      | error other => simp
      | ok result => simp

theorem mapM_eq_error_iff (step : α → Except ε β) (list : List α) (fault : ε) :
    list.mapM step = .error fault ↔ StopsAt step list fault := by
  induction list with
  | nil =>
      simp [StopsAt, pure, Except.pure]
  | cons first rest ih =>
      rw [List.mapM_cons, stopsAt_cons_iff, ← ih]
      cases step first with
      | error other => simp [bind, Except.bind]
      | ok result => cases rest.mapM step <;> simp [bind, Except.bind, pure, Except.pure]

/-- Steps none of which fails give all of their results. -/
theorem mapM_eq_pure {m : Type → Type} [Monad m] [LawfulMonad m] {step : α → m β} {result : α → β}
    {list : List α} (hstep : ∀ a ∈ list, step a = pure (result a)) :
    list.mapM step = pure (list.map result) := by
  induction list with
  | nil => rfl
  | cons first rest ih =>
      obtain ⟨hfirst, hrest⟩ := List.forall_mem_cons.mp hstep
      rw [List.mapM_cons, hfirst, pure_bind, ih hrest, pure_bind, List.map_cons]

end Toolbench
