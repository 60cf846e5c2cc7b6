import Parsing.Proofs.Returns

namespace Parsing.Eval

variable {α β γ : Type} {ctx : Context} {log : List Record}

theorem bind_apply_of_ok {x : Eval α} {f : α → Eval β} {a : α} (h : x ctx = ⟨log, .ok a⟩) :
    (x >>= f) ctx = ⟨log ++ (f a ctx).log, (f a ctx).result⟩ := by
  change Eval.bind x f ctx = _
  rw [Eval.bind, h]

theorem bind_apply_of_error {x : Eval α} {f : α → Eval β} {fault : Fault}
    (h : x ctx = ⟨log, .error fault⟩) : (x >>= f) ctx = ⟨log, .error fault⟩ := by
  change Eval.bind x f ctx = _
  rw [Eval.bind, h]

theorem pure_bind_apply (a : α) (f : α → Eval β) (ctx : Context) :
    (pure a >>= f) ctx = f a ctx := by
  have hpure : (pure a : Eval α) ctx = ⟨[], .ok a⟩ := rfl
  exact bind_apply_of_ok hpure

theorem bind_pure_apply (x : Eval α) (ctx : Context) : (x >>= pure) ctx = x ctx := by
  obtain ⟨log, result, h⟩ : ∃ log result, x ctx = ⟨log, result⟩ := ⟨_, _, rfl⟩
  cases result with
  | error fault => rw [bind_apply_of_error h, h]
  | ok a =>
    rw [bind_apply_of_ok h, h]
    change (⟨log ++ [], .ok a⟩ : Outcome α) = _
    rw [List.append_nil]

theorem bind_bind_apply (x : Eval α) (f : α → Eval β) (g : β → Eval γ) (ctx : Context) :
    (x >>= f >>= g) ctx = (x >>= fun a => f a >>= g) ctx := by
  obtain ⟨log, result, h⟩ : ∃ log result, x ctx = ⟨log, result⟩ := ⟨_, _, rfl⟩
  cases result with
  | error fault => rw [bind_apply_of_error (bind_apply_of_error h), bind_apply_of_error h]
  | ok a =>
    obtain ⟨more, result, hf⟩ : ∃ more result, f a ctx = ⟨more, result⟩ := ⟨_, _, rfl⟩
    have hxf : (x >>= f) ctx = ⟨log ++ more, result⟩ := by rw [bind_apply_of_ok h, hf]
    rw [bind_apply_of_ok h]
    cases result with
    | error fault => rw [bind_apply_of_error hxf, bind_apply_of_error hf]
    | ok b => rw [bind_apply_of_ok hxf, bind_apply_of_ok hf, List.append_assoc]

-- What comes behind a computation matters only for what the computation returns.
theorem bind_apply_congr {x : Eval α} {f g : α → Eval β}
    (h : ∀ a, x.Returns ctx a → f a ctx = g a ctx) : (x >>= f) ctx = (x >>= g) ctx := by
  obtain ⟨log, result, hx⟩ : ∃ log result, x ctx = ⟨log, result⟩ := ⟨_, _, rfl⟩
  cases result with
  | error fault => rw [bind_apply_of_error hx, bind_apply_of_error hx]
  | ok a =>
    have hfg := h a (returns_iff_exists_log.mpr ⟨log, hx⟩)
    rw [bind_apply_of_ok hx, bind_apply_of_ok hx, hfg]

instance : LawfulMonad Eval :=
  LawfulMonad.mk' Eval (fun x => funext (bind_pure_apply x))
    (fun a f => funext (pure_bind_apply a f)) fun x f g => funext (bind_bind_apply x f g)

instance : LawfulMonadLift Fallible Eval where
  monadLift_pure _ := rfl
  monadLift_bind x _ := by cases x <;> rfl

theorem map_apply_of_fixed {x : Eval α} {f : α → α} (h : ∀ a, x.Returns ctx a → f a = a) :
    (f <$> x) ctx = x ctx := by
  calc (f <$> x) ctx = (x >>= fun a => pure (f a)) ctx := by rw [bind_pure_comp]
    _ = (x >>= pure) ctx := bind_apply_congr fun a ha => by rw [h a ha]
    _ = x ctx := bind_pure_apply x ctx

end Parsing.Eval
