import Parsing.Parser.Recursion
import Parsing.Parser.Repetition
import Parsing.Proofs.Combinators
import Parsing.Proofs.Faults

namespace Parsing.Parser

open Eval

-- The successes of `p` from `s` on, first one first, and the failure that ended them.
inductive Repeats (p : Parser α) (ctx : Context) : State → List (Success α) → Failure → Prop
  | stop : (p.apply s).Returns ctx (.error e) → Repeats p ctx s [] e
  | more : (p.apply s).Returns ctx (.ok r) → (r.consumed = true ∨ r.state.offset ≠ s.offset) →
      Repeats p ctx r.state rest e → Repeats p ctx s (r :: rest) e

-- Runs of `p` one behind the other: the values that they give and the state that they lead to.
inductive Collects (p : Parser α) (ctx : Context) : State → List α → State → Prop
  | nil : Collects p ctx s [] s
  | cons : (p.apply s).Returns ctx (.ok r) → Collects p ctx r.state values last →
      Collects p ctx s (r.value.value :: values) last

variable {α : Type} {p : Parser α} {ctx : Context} {s : State} {e : Failure}

theorem repeatOnce_returns_iff {found : List (Success α)}
    {next : (List (Success α) × State) ⊕ (List (Success α) × Failure)} :
    (p.repeatOnce (found, s)).Returns ctx next ↔
      (∃ e, (p.apply s).Returns ctx (.error e) ∧ next = .inr (found, e)) ∨
      (∃ r, (p.apply s).Returns ctx (.ok r) ∧
        (r.consumed = true ∨ r.state.offset ≠ s.offset) ∧ next = .inl (r :: found, r.state)) := by
  refine returns_bind_result_iff.trans ?_
  simp only [returns_pure_iff]
  refine or_congr_right (exists_congr fun r => and_congr_right fun _ => ?_)
  by_cases hmoves : r.consumed = true ∨ r.state.offset ≠ s.offset
  · have hstuck : ¬(!r.consumed && r.state.offset == s.offset) = true := by
      intro hstuck
      rw [Bool.and_eq_true, Bool.not_eq_true', beq_iff_eq] at hstuck
      rcases hmoves with hconsumed | hmoved
      · exact Bool.false_ne_true (hstuck.1.symm.trans hconsumed)
      · exact hmoved hstuck.2
    rw [if_neg hstuck]
    simp [hmoves]
  · have hstuck : (!r.consumed && r.state.offset == s.offset) = true := by
      simpa using hmoves
    rw [if_pos hstuck]
    simp [hmoves]

-- The loop started with `found` goes on from there.
theorem Repeats.iterate_returns {rest : List (Success α)} (h : Repeats p ctx s rest e)
    (found : List (Success α)) :
    (iterate p.repeatOnce (found, s)).Returns ctx (rest.reverse ++ found, e) := by
  induction h generalizing found with
  | stop hp => exact iterate_returns_of_inr (repeatOnce_returns_iff.mpr (.inl ⟨_, hp, rfl⟩))
  | @more s r rest e hp hmoves _ ih =>
    refine iterate_returns_of_inl (repeatOnce_returns_iff.mpr (.inr ⟨_, hp, hmoves, rfl⟩)) ?_
    simpa only [List.reverse_cons, List.append_assoc, List.singleton_append] using ih (r :: found)

theorem repeats_of_iterate_returns {found all : List (Success α)}
    (h : (iterate p.repeatOnce (found, s)).Returns ctx (all, e)) :
    ∃ rest, all = rest.reverse ++ found ∧ Repeats p ctx s rest e := by
  refine h.iterate_induction (motive := fun a b => ∃ rest, b.1 = rest.reverse ++ a.1 ∧
    Repeats p ctx a.2 rest b.2) ?_ ?_
  · rintro ⟨found, s⟩ b hlast
    obtain ⟨e, hp, hb⟩ | ⟨r, _, _, hb⟩ := repeatOnce_returns_iff.mp hlast
    · cases hb
      exact ⟨[], rfl, .stop hp⟩
    · cases hb
  · rintro ⟨found, s⟩ ⟨found', s'⟩ b hmore ⟨rest, hb, hrest⟩
    obtain ⟨e, _, hnext⟩ | ⟨r, hp, hmoves, hnext⟩ := repeatOnce_returns_iff.mp hmore
    · cases hnext
    · cases hnext
      exact ⟨r :: rest, by simp [hb], .more hp hmoves hrest⟩

theorem successes_returns_iff {found : List (Success α)} :
    (p.successes s).Returns ctx (found, e) ↔ Repeats p ctx s found.reverse e := by
  constructor
  · intro h
    obtain ⟨rest, hall, hrest⟩ := repeats_of_iterate_returns h
    rw [List.append_nil] at hall
    rwa [hall, List.reverse_reverse]
  · intro h
    have hloop := h.iterate_returns []
    rwa [List.reverse_reverse, List.append_nil] at hloop

end Parsing.Parser
