import Parsing.Proofs.Faults

namespace Parsing

-- The same fault, or values that `R` holds of.
inductive Fallible.Agree (R : α → β → Prop) : Fallible α → Fallible β → Prop
  | ok : R a b → Agree R (.ok a) (.ok b)
  | error : Agree R (.error fault) (.error fault)

namespace Fallible.Agree

variable {R : α → β → Prop} {S : γ → δ → Prop} {x : Fallible α} {y : Fallible β}

theorem of_eq {y : Fallible α} (h : x = y) : Agree Eq x y := by
  subst h
  cases x with
  | ok a => exact .ok rfl
  | error fault => exact .error

theorem eq {y : Fallible α} (h : Agree Eq x y) : x = y := by
  cases h with
  | ok h => rw [h]
  | error => rfl

theorem exists_ok {a : α} (h : Agree R (.ok a) y) : ∃ b, y = .ok b ∧ R a b := by
  cases h with
  | ok h => exact ⟨_, rfl, h⟩

theorem eq_error {fault : Fault} (h : Agree R (.error fault) y) : y = .error fault := by
  cases h with
  | error => rfl

theorem flip (h : Agree R x y) : Agree (fun b a => R a b) y x := by
  cases h with
  | ok h => exact .ok h
  | error => exact .error

theorem imp {R' : α → β → Prop} (h : Agree R x y) (himp : ∀ a b, R a b → R' a b) :
    Agree R' x y := by
  cases h with
  | ok h => exact .ok (himp _ _ h)
  | error => exact .error

theorem bind {f : α → Fallible γ} {g : β → Fallible δ} (h : Agree R x y)
    (hrest : ∀ a b, R a b → Agree S (f a) (g b)) : Agree S (x >>= f) (y >>= g) := by
  cases h with
  | ok h => exact hrest _ _ h
  | error => exact .error

end Fallible.Agree

namespace Eval

def Agree (ctx : Context) (R : α → β → Prop) (x : Eval α) (y : Eval β) : Prop :=
  Fallible.Agree R (x.run ctx).result (y.run ctx).result

-- The same for computations that take place under different contexts.
def AgreeAcross (ctx ctx' : Context) (R : α → β → Prop) (x : Eval α) (y : Eval β) : Prop :=
  Fallible.Agree R (x.run ctx).result (y.run ctx').result

namespace AgreeAcross

variable {ctx ctx' : Context} {R : α → β → Prop} {S : γ → δ → Prop} {a : α} {b : β}

theorem imp {R' : α → β → Prop} {x : Eval α} {y : Eval β} (h : AgreeAcross ctx ctx' R x y)
    (himp : ∀ a b, R a b → R' a b) : AgreeAcross ctx ctx' R' x y :=
  Fallible.Agree.imp h himp

theorem pure (h : R a b) : AgreeAcross ctx ctx' R (pure a) (pure b) := .ok h

theorem throw (fault : Fault) : AgreeAcross ctx ctx' R (throw fault) (throw fault) := .error

theorem liftM {x : Fallible α} {y : Fallible β} (h : Fallible.Agree R x y) :
    AgreeAcross ctx ctx' R (liftM x) (liftM y) := h

theorem bind {x : Eval α} {y : Eval β} {f : α → Eval γ} {g : β → Eval δ}
    (h : AgreeAcross ctx ctx' R x y) (hrest : ∀ a b, R a b → AgreeAcross ctx ctx' S (f a) (g b)) :
    AgreeAcross ctx ctx' S (x >>= f) (y >>= g) := by
  rw [AgreeAcross, bind_result, bind_result]
  exact Fallible.Agree.bind h hrest

-- Records may differ as long as both can be made or neither can.
theorem record {r r' : Fallible Record} (hdebug : ctx.debug = ctx'.debug)
    (h : Fallible.Agree (fun _ _ => True) r r') :
    AgreeAcross ctx ctx' Eq (record r) (record r') := by
  rw [AgreeAcross, run, run, Eval.record.eq_def, Eval.record.eq_def, hdebug]
  split
  · cases h with
    | ok _ => exact .ok rfl
    | error => exact .error
  · exact .ok rfl

theorem exists_returns {x : Eval α} {y : Eval β} (h : AgreeAcross ctx ctx' R x y)
    (ha : x.Returns ctx a) : ∃ b, y.Returns ctx' b ∧ R a b := by
  rw [AgreeAcross, ha] at h
  exact h.exists_ok

theorem faults {x : Eval α} {y : Eval β} {fault : Fault} (h : AgreeAcross ctx ctx' R x y)
    (hx : x.Faults ctx fault) : y.Faults ctx' fault := by
  rw [AgreeAcross, hx] at h
  exact h.eq_error

section Loop

variable {step : α → Eval (α ⊕ γ)} {step' : β → Eval (β ⊕ δ)}

-- Loops whose steps agree take equally many steps.
theorem exists_passes {n : Nat} {result : Fallible γ}
    (hstep : ∀ a b, R a b → AgreeAcross ctx ctx' (Sum.LiftRel R S) (step a) (step' b)) (h : R a b)
    (hpasses : Passes step ctx a n result) :
    ∃ result', Passes step' ctx' b n result' ∧ Fallible.Agree S result result' := by
  induction hpasses generalizing b with
  | done hdone =>
    obtain ⟨_, hdone', hrel⟩ := (hstep _ b h).exists_returns hdone
    cases hrel with
    | inr hrel => exact ⟨_, .done hdone', .ok hrel⟩
  | fault hfault => exact ⟨_, .fault ((hstep _ b h).faults hfault), .error⟩
  | more hmore _ ih =>
    obtain ⟨_, hmore', hrel⟩ := (hstep _ b h).exists_returns hmore
    cases hrel with
    | inl hrel =>
      obtain ⟨result', hrest, hresult⟩ := ih hrel
      exact ⟨result', .more hmore' hrest, hresult⟩

theorem iterate
    (hstep : ∀ a b, R a b → AgreeAcross ctx ctx' (Sum.LiftRel R S) (step a) (step' b))
    (h : R a b) : AgreeAcross ctx ctx' S (iterate step a) (iterate step' b) := by
  have hstep' : ∀ b a, R a b →
      AgreeAcross ctx' ctx (Sum.LiftRel (fun b a => R a b) fun d c => S c d) (step' b) (step a) := by
    intro b a h
    refine (hstep a b h).flip.imp ?_
    rintro _ _ (h | h)
    · exact .inl h
    · exact .inr h
  obtain ⟨n, result, hpasses⟩ | hendless := exists_passes_or_endless step ctx a
  · obtain ⟨result', hpasses', hresult⟩ := exists_passes hstep h hpasses
    rw [AgreeAcross, hpasses.result_eq, hpasses'.result_eq]
    exact hresult
  · obtain ⟨n, result, hpasses⟩ | hendless' := exists_passes_or_endless step' ctx' b
    · obtain ⟨result', hpasses', hresult⟩ := exists_passes hstep' h hpasses
      rw [AgreeAcross, hpasses.result_eq, hpasses'.result_eq]
      exact hresult.flip
    · rw [AgreeAcross, hendless, hendless']
      exact .error

end Loop

end AgreeAcross

theorem agree_eq_iff {ctx : Context} {x y : Eval α} :
    Agree ctx Eq x y ↔ (x.run ctx).result = (y.run ctx).result :=
  ⟨Fallible.Agree.eq, Fallible.Agree.of_eq⟩

namespace Agree

variable {ctx : Context} {x y z : Eval α} {f g : α → Eval β}

theorem refl (x : Eval α) : Agree ctx Eq x x := agree_eq_iff.mpr rfl

theorem symm (h : Agree ctx Eq x y) : Agree ctx Eq y x := agree_eq_iff.mpr h.eq.symm

theorem trans (hxy : Agree ctx Eq x y) (hyz : Agree ctx Eq y z) : Agree ctx Eq x z :=
  agree_eq_iff.mpr (hxy.eq.trans hyz.eq)

theorem returns_iff {a : α} (h : Agree ctx Eq x y) : x.Returns ctx a ↔ y.Returns ctx a := by
  rw [Returns, Returns, h.eq]

theorem bind_left (h : Agree ctx Eq x y) : Agree ctx Eq (x >>= f) (y >>= f) := by
  rw [agree_eq_iff, bind_result, bind_result, h.eq]

-- What comes behind a computation matters only for what the computation returns.
theorem bind_right (h : ∀ a, x.Returns ctx a → Agree ctx Eq (f a) (g a)) :
    Agree ctx Eq (x >>= f) (x >>= g) := by
  rw [agree_eq_iff, bind_result, bind_result]
  cases hx : (x.run ctx).result with
  | ok a => exact (h a hx).eq
  | error fault => rfl

theorem bind_of_returns {a : α} {y : Eval β} (hx : x.Returns ctx a) (hf : Agree ctx Eq (f a) y) :
    Agree ctx Eq (x >>= f) y := by
  rw [agree_eq_iff, bind_result, show (x.run ctx).result = .ok a from hx]
  exact hf.eq

end Agree

end Eval

end Parsing
