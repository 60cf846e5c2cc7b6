import Parsing.Proofs.Returns

namespace Parsing

namespace Fallible

@[simp] theorem bind_eq_error_iff {x : Fallible α} {f : α → Fallible β} {fault : Fault} :
    (x >>= f) = .error fault ↔ x = .error fault ∨ ∃ a, x = .ok a ∧ f a = .error fault := by
  cases x with
  | ok a => simp [bind, Except.bind]
  | error fault => simp [bind, Except.bind]

end Fallible

namespace Eval

def Faults (x : Eval α) (ctx : Context) (fault : Fault) : Prop := (x.run ctx).result = .error fault

-- A loop from `a` on takes its step `n` times and ends in this.
inductive Passes (step : σ → Eval (σ ⊕ β)) (ctx : Context) : σ → Nat → Fallible β → Prop
  | done : (step a).Returns ctx (.inr b) → Passes step ctx a 1 (.ok b)
  | fault : (step a).Faults ctx fault → Passes step ctx a 1 (.error fault)
  | more : (step a).Returns ctx (.inl next) → Passes step ctx next n result →
      Passes step ctx a (n + 1) result

variable {ctx : Context} {fault : Fault}

theorem returns_or_faults (x : Eval α) (ctx : Context) :
    (∃ a, x.Returns ctx a) ∨ ∃ fault, x.Faults ctx fault := by
  cases h : (x.run ctx).result with
  | ok a => exact .inl ⟨a, h⟩
  | error fault => exact .inr ⟨fault, h⟩

theorem Returns.unique {x : Eval α} {a b : α} (ha : x.Returns ctx a) (hb : x.Returns ctx b) :
    a = b :=
  Except.ok.inj (ha.symm.trans hb)

theorem Faults.unique {x : Eval α} {fault' : Fault} (h : x.Faults ctx fault)
    (h' : x.Faults ctx fault') : fault = fault' :=
  Except.error.inj (h.symm.trans h')

theorem Faults.not_returns {x : Eval α} {a : α} (h : x.Faults ctx fault) : ¬ x.Returns ctx a :=
  fun ha => nomatch h.symm.trans ha

@[simp] theorem faults_pure_iff {a : α} : (pure a : Eval α).Faults ctx fault ↔ False := by
  change (Except.ok a : Fallible α) = .error fault ↔ False
  simp

@[simp] theorem faults_throw_iff {fault' : Fault} :
    (throw fault : Eval α).Faults ctx fault' ↔ fault' = fault := by
  change (Except.error fault : Fallible α) = .error fault' ↔ fault' = fault
  simp [eq_comm]

@[simp] theorem faults_bind_iff {x : Eval α} {f : α → Eval β} :
    (x >>= f).Faults ctx fault ↔
      x.Faults ctx fault ∨ ∃ a, x.Returns ctx a ∧ (f a).Faults ctx fault := by
  rw [Faults, bind_result]
  exact Fallible.bind_eq_error_iff

@[simp] theorem faults_map_iff {x : Eval α} {f : α → β} :
    (f <$> x).Faults ctx fault ↔ x.Faults ctx fault := by
  refine faults_bind_iff.trans (or_iff_left ?_)
  rintro ⟨_, _, h⟩
  exact faults_pure_iff.mp h

@[simp] theorem faults_ite_iff {c : Prop} [Decidable c] {x y : Eval α} :
    (if c then x else y).Faults ctx fault ↔
      if c then x.Faults ctx fault else y.Faults ctx fault := by
  split <;> rfl

section Loop

variable {step : σ → Eval (σ ⊕ β)} {a : σ}

theorem iterate_faults_of_step (hstep : (step a).Faults ctx fault) :
    (iterate step a : Eval β).Faults ctx fault := by
  have heq : step a ctx = ⟨(step a ctx).log, .error fault⟩ := by
    rw [← show (step a ctx).result = .error fault from hstep]
  change (((step a ctx).resume? step ctx).getD ⟨[], .error .endless⟩).result = .error fault
  rw [heq, Outcome.resume?]
  rfl

theorem Passes.result_eq {n : Nat} {result : Fallible β} (h : Passes step ctx a n result) :
    ((iterate step a).run ctx).result = result := by
  induction h with
  | done hstep => exact iterate_returns_of_inr hstep
  | fault hstep => exact iterate_faults_of_step hstep
  | more hstep _ ih => exact (iterate_result_of_inl hstep).trans ih

-- A loop that does not end after some passes does not end at all, and leaves no records.
theorem exists_passes_or_never (step : σ → Eval (σ ⊕ β)) (ctx : Context) (a : σ) :
    (∃ n result, Passes step ctx a n result) ∨ iterate step a ctx = ⟨[], .error .endless⟩ := by
  have hall : ∀ outcome ctx' o, outcome.resume? step ctx' = some o → ctx' = ctx →
      ∀ a, step a ctx = outcome → ∃ n result, Passes step ctx a n result := by
    refine Outcome.resume?.partial_correctness step _ ?_
    intro resume? ih outcome ctx' o ho hctx a heq
    subst hctx
    split at ho
    · rename_i log next
      obtain ⟨rest, hrest, _⟩ := Option.bind_eq_some_iff.mp ho
      obtain ⟨n, result, hpasses⟩ := ih _ _ rest hrest rfl next rfl
      exact ⟨n + 1, result, .more (returns_iff_exists_log.mpr ⟨log, heq⟩) hpasses⟩
    · exact ⟨1, _, .done (returns_iff_exists_log.mpr ⟨_, heq⟩)⟩
    · rename_i fault
      have hfault : (step a).Faults ctx' fault := congrArg Outcome.result heq
      exact ⟨1, _, .fault hfault⟩
  cases ho : (step a ctx).resume? step ctx with
  | none =>
    refine .inr ?_
    rw [iterate, ho]
    rfl
  | some o => exact .inl (hall (step a ctx) ctx o ho rfl a rfl)

theorem exists_passes_or_endless (step : σ → Eval (σ ⊕ β)) (ctx : Context) (a : σ) :
    (∃ n result, Passes step ctx a n result) ∨ (iterate step a).Faults ctx .endless :=
  (exists_passes_or_never step ctx a).imp_right (congrArg Outcome.result)

-- What holds of a last step, and of any other step if it holds of what comes after, holds of every
-- loop that returns.
theorem Returns.iterate_induction {motive : σ → β → Prop} {b : β}
    (last : ∀ a b, (step a).Returns ctx (.inr b) → motive a b)
    (more : ∀ a next b, (step a).Returns ctx (.inl next) → motive next b → motive a b)
    (h : (iterate step a).Returns ctx b) : motive a b := by
  obtain ⟨n, result, hpasses⟩ | hendless := exists_passes_or_endless step ctx a
  · have hresult : result = .ok b := hpasses.result_eq.symm.trans h
    clear h
    induction hpasses with
    | done hdone =>
      cases hresult
      exact last _ _ hdone
    | fault _ => cases hresult
    | more hmore _ ih => exact more _ _ _ hmore (ih hresult)
  · exact (hendless.not_returns h).elim

end Loop

end Eval

end Parsing
