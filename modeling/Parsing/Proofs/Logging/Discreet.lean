import Parsing.Proofs.Faults
import Parsing.Proofs.Lawful
import Parsing.Proofs.Logging.Nesting

namespace Parsing

namespace Context

def recording (ctx : Context) : Context := { ctx with debug := true }

def silent (ctx : Context) : Context := { ctx with debug := false }

end Context

-- The outcomes of one computation with records and without them, where `Q` holds of what is
-- returned.
inductive Outcome.Discreet (Q : α → Prop) : Outcome α → Outcome α → Prop
  | ok {a : α} {log : List Record} : Q a → WellNested (attempts log) →
      Discreet Q ⟨log, .ok a⟩ ⟨[], .ok a⟩
  | error {fault : Fault} {log : List Record} : Unfinished (attempts log) →
      Discreet Q ⟨log, .error fault⟩ ⟨[], .error fault⟩

namespace Outcome.Discreet

variable {Q : α → Prop} {loud quiet : Outcome α}

theorem result_eq (h : Outcome.Discreet Q loud quiet) : loud.result = quiet.result := by
  cases h with
  | ok _ _ => rfl
  | error _ => rfl

theorem unfinished {fault : Fault} (h : Outcome.Discreet Q loud quiet)
    (hfault : loud.result = .error fault) : Unfinished (attempts loud.log) := by
  cases h with
  | ok _ _ => cases hfault
  | error hunfinished => exact hunfinished

-- Finished attempts may go ahead of a computation.
theorem behind {log : List Record} (h : Outcome.Discreet Q loud quiet)
    (hlog : WellNested (attempts log)) :
    Outcome.Discreet Q ⟨log ++ loud.log, loud.result⟩ quiet := by
  cases h with
  | ok ha hmore =>
    refine .ok ha ?_
    rw [attempts_append]
    exact hlog.append hmore
  | error hmore =>
    refine .error ?_
    rw [attempts_append]
    exact hlog.append_unfinished hmore

end Outcome.Discreet

namespace Eval

def Discreet (Q : α → Prop) (x : Eval α) : Prop :=
  ∀ ctx : Context, Outcome.Discreet Q (x ctx.recording) (x ctx.silent)

section Loop

variable {step : σ → Eval (σ ⊕ β)} {a next : σ} {ctx ctx' : Context} {log : List Record}

theorem iterate_apply_of_inr {b : β} (h : step a ctx = ⟨log, .ok (.inr b)⟩) :
    iterate step a ctx = ⟨log, .ok b⟩ := by
  rw [iterate, h, Outcome.resume?]
  rfl

theorem iterate_apply_of_error {fault : Fault} (h : step a ctx = ⟨log, .error fault⟩) :
    iterate step a ctx = ⟨log, .error fault⟩ := by
  rw [iterate, h, Outcome.resume?]
  rfl

-- Where the rest of the loop does not end, there is no record of the steps before it either.
theorem iterate_apply_of_inl (h : step a ctx = ⟨log, .ok (.inl next)⟩) :
    iterate step a ctx =
        ⟨log ++ (iterate step next ctx).log, (iterate step next ctx).result⟩ ∨
      iterate step a ctx = ⟨[], .error .endless⟩ ∧
        iterate step next ctx = ⟨[], .error .endless⟩ := by
  rw [iterate, iterate, h, Outcome.resume?, ReaderT.run]
  cases (step next ctx).resume? step ctx with
  | none => exact .inr ⟨rfl, rfl⟩
  | some rest => exact .inl rfl

theorem iterate_apply_of_silent (h : step a ctx = ⟨[], .ok (.inl next)⟩) :
    iterate step a ctx = iterate step next ctx := by
  obtain hrest | ⟨hendless, hrest⟩ := iterate_apply_of_inl h
  · exact hrest
  · rw [hendless, hrest]

theorem Passes.congr {n : Nat} {result : Fallible β} (h : Passes step ctx a n result)
    (hstep : ∀ a, ((step a).run ctx).result = ((step a).run ctx').result) :
    Passes step ctx' a n result := by
  induction h with
  | done hdone => exact .done ((hstep _).symm.trans hdone)
  | fault hfault => exact .fault ((hstep _).symm.trans hfault)
  | more hmore _ ih => exact .more ((hstep _).symm.trans hmore) ih

end Loop

namespace Discreet

variable {α β : Type} {Q : α → Prop} {R : β → Prop} {x : Eval α} {ctx : Context}

theorem exists_log_of_returns {a : α} (h : Discreet Q x) (hx : x.Returns ctx.recording a) :
    ∃ log, x ctx.recording = ⟨log, .ok a⟩ ∧ x ctx.silent = ⟨[], .ok a⟩ ∧ Q a ∧
      WellNested (attempts log) := by
  obtain ⟨log, hlog⟩ := returns_iff_exists_log.mp hx
  have hboth := h ctx
  generalize x ctx.silent = quiet at hboth ⊢
  rw [hlog] at hboth
  cases hboth with
  | ok ha hnested => exact ⟨log, hlog, rfl, ha, hnested⟩

theorem exists_log_of_faults {fault : Fault} (h : Discreet Q x)
    (hx : x.Faults ctx.recording fault) :
    ∃ log, x ctx.recording = ⟨log, .error fault⟩ ∧ x ctx.silent = ⟨[], .error fault⟩ ∧
      Unfinished (attempts log) := by
  obtain ⟨log, hlog⟩ : ∃ log, x ctx.recording = ⟨log, .error fault⟩ :=
    ⟨(x ctx.recording).log, by rw [← show (x ctx.recording).result = .error fault from hx]⟩
  have hboth := h ctx
  generalize x ctx.silent = quiet at hboth ⊢
  rw [hlog] at hboth
  cases hboth with
  | error hunfinished => exact ⟨log, hlog, rfl, hunfinished⟩

theorem pure {a : α} (ha : Q a) : Discreet Q (pure a) := fun _ => .ok ha .nil

theorem throw (fault : Fault) : Discreet Q (throw fault) :=
  fun _ => .error WellNested.nil.unfinished

-- What does not ask whether records are wanted.
theorem ofContext {f : Context → Fallible α}
    (hf : ∀ ctx : Context, f ctx.recording = f ctx.silent) (hQ : ∀ ctx a, f ctx = .ok a → Q a) :
    Discreet Q (ofContext f) := by
  intro ctx
  rw [Eval.ofContext, Eval.ofContext, hf]
  cases h : f ctx.silent with
  | ok a => exact .ok (hQ _ a h) .nil
  | error fault => exact .error WellNested.nil.unfinished

theorem liftM {y : Fallible α} (hQ : ∀ a, y = .ok a → Q a) : Discreet Q (liftM y) :=
  ofContext (fun _ => rfl) fun _ => hQ

theorem bind {f : α → Eval β} (h : Discreet Q x) (hf : ∀ a, Q a → Discreet R (f a)) :
    Discreet R (x >>= f) := by
  intro ctx
  obtain ⟨a, ha⟩ | ⟨fault, hfault⟩ := returns_or_faults x ctx.recording
  · obtain ⟨log, hloud, hquiet, hQ, hnested⟩ := h.exists_log_of_returns ha
    rw [bind_apply_of_ok hloud, bind_apply_of_ok hquiet]
    exact (hf a hQ ctx).behind hnested
  · obtain ⟨log, hloud, hquiet, hunfinished⟩ := h.exists_log_of_faults hfault
    rw [bind_apply_of_error hloud, bind_apply_of_error hquiet]
    exact .error hunfinished

-- Records that no named parser writes.
theorem record {r : Record} (hr : r.attempt? = none) :
    Discreet (fun _ => True) (record (.ok r)) := by
  intro ctx
  have hlog : attempts [r] = [] := List.filterMap_cons_none hr
  exact .ok trivial (hlog ▸ .nil)

-- A record that opens an attempt, what is attempted, and a record that closes the attempt.
theorem attempt {name : String} {opening : Record} {closing : α → Fallible Record}
    (hopening : opening.attempt? = some (.opened name)) (hx : Discreet Q x)
    (hclosing : ∀ a, Q a → ∃ r, closing a = .ok r ∧ r.attempt? = some (.closed name)) :
    Discreet Q (Eval.record (.ok opening) >>= fun _ => x >>= fun a =>
      Eval.record (closing a) >>= fun _ => Pure.pure a) := by
  intro ctx
  have hopen : Eval.record (.ok opening) ctx.recording = ⟨[opening], .ok ()⟩ := rfl
  have hpass (r : Fallible Record) : Eval.record r ctx.silent = ⟨[], .ok ()⟩ := rfl
  rw [bind_apply_of_ok hopen, bind_apply_of_ok (hpass _)]
  obtain ⟨a, ha⟩ | ⟨fault, hfault⟩ := returns_or_faults x ctx.recording
  · obtain ⟨log, hloud, hquiet, hQ, hnested⟩ := hx.exists_log_of_returns ha
    obtain ⟨r, hr, hclosed⟩ := hclosing a hQ
    have hclose : Eval.record (closing a) ctx.recording = ⟨[r], .ok ()⟩ := by
      rw [hr]
      rfl
    rw [bind_apply_of_ok hloud, bind_apply_of_ok hquiet, bind_apply_of_ok hclose,
      bind_apply_of_ok (hpass _)]
    refine .ok hQ ?_
    have hattempts : attempts (opening :: (log ++ [r])) =
        .opened name :: attempts log ++ [.closed name] := by
      simp [attempts, hopening, hclosed]
    exact hattempts ▸ hnested.single name
  · obtain ⟨log, hloud, hquiet, hunfinished⟩ := hx.exists_log_of_faults hfault
    rw [bind_apply_of_error hloud, bind_apply_of_error hquiet]
    refine .error ?_
    have hattempts : attempts (opening :: log) = .opened name :: attempts log :=
      List.filterMap_cons_some hopening
    exact hattempts ▸ hunfinished.opened name

section Loop

variable {step : σ → Eval (σ ⊕ β)} {a : σ}

theorem iterate_of_passes {n : Nat} {result : Fallible β}
    (hstep : ∀ a, Discreet (fun next => ∀ b, next = .inr b → R b) (step a))
    (h : Passes step ctx.recording a n result) :
    Outcome.Discreet R (iterate step a ctx.recording) (iterate step a ctx.silent) := by
  induction h with
  | done hdone =>
    obtain ⟨log, hloud, hquiet, hQ, hnested⟩ := (hstep _).exists_log_of_returns hdone
    rw [iterate_apply_of_inr hloud, iterate_apply_of_inr hquiet]
    exact .ok (hQ _ rfl) hnested
  | fault hfault =>
    obtain ⟨log, hloud, hquiet, hunfinished⟩ := (hstep _).exists_log_of_faults hfault
    rw [iterate_apply_of_error hloud, iterate_apply_of_error hquiet]
    exact .error hunfinished
  | more hmore _ ih =>
    obtain ⟨log, hloud, hquiet, _, hnested⟩ := (hstep _).exists_log_of_returns hmore
    rw [iterate_apply_of_silent hquiet]
    obtain hrest | ⟨hendless, hrest⟩ := iterate_apply_of_inl hloud
    · rw [hrest]
      exact ih.behind hnested
    · rw [hendless, ← hrest]
      exact ih

-- Loops whose steps are discreet end together, or neither of them ends.
theorem iterate (hstep : ∀ a, Discreet (fun next => ∀ b, next = .inr b → R b) (step a)) (a : σ) :
    Discreet R (iterate step a) := by
  intro ctx
  obtain ⟨n, result, hpasses⟩ | hloud := exists_passes_or_never step ctx.recording a
  · exact iterate_of_passes hstep hpasses
  · obtain ⟨n, result, hpasses⟩ | hquiet := exists_passes_or_never step ctx.silent a
    · exact iterate_of_passes hstep (hpasses.congr fun a => (hstep a ctx).result_eq.symm)
    · rw [hloud, hquiet]
      exact .error WellNested.nil.unfinished

end Loop

end Discreet

end Eval

end Parsing
