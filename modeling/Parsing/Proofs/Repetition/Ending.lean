import Parsing.Proofs.Faults
import Parsing.Proofs.Span

namespace Parsing

open Eval Parsing.Parser

namespace Parser

-- Runs of `p` from `s` on that succeed, first one first, each getting further than the one before,
-- and the state that they lead to.
inductive Advances (p : Parser α) (ctx : Context) : State → List (Success α) → State → Prop
  | refl : Advances p ctx s [] s
  | more : (p.apply s).Returns ctx (.ok r) → s.offset < r.state.offset →
      Advances p ctx r.state rest last → Advances p ctx s (r :: rest) last

-- Behind some successes that get further comes one that does not.
def Stuck (p : Parser α) (ctx : Context) (s : State) : Prop :=
  ∃ found last r, Advances p ctx s found last ∧ (p.apply last).Returns ctx (.ok r) ∧
    r.state.offset = last.offset

variable {ctx : Context} {α : Type} {p : Parser α} {s last : State} {found : List (Success α)}
  {r : Success α} {e : Failure} {fault : Fault}

theorem repeatOnce_faults_iff :
    (p.repeatOnce (found, s)).Faults ctx fault ↔ (p.apply s).Faults ctx fault ∨
      ∃ r, (p.apply s).Returns ctx (.ok r) ∧ r.consumed = false ∧ r.state.offset = s.offset ∧
        fault = .stuckRepetition p.shown := by
  refine faults_bind_iff.trans (or_congr_right ?_)
  constructor
  · rintro ⟨r | e, hr, h⟩
    · cases hstuck : (!r.consumed && r.state.offset == s.offset) with
      | true =>
        rw [Bool.and_eq_true, Bool.not_eq_true', beq_iff_eq] at hstuck
        exact ⟨r, hr, hstuck.1, hstuck.2, by simpa [hstuck] using h⟩
      | false => simp [hstuck] at h
    · exact (faults_pure_iff.mp h).elim
  · rintro ⟨r, hr, hconsumed, hoffset, rfl⟩
    exact ⟨_, hr, by simp [hconsumed, hoffset]⟩

namespace Advances

variable {before : List (Success α)}

theorem listed_state (h : Advances p ctx s found last) : (listed s found).state = last := by
  induction h with
  | refl => rfl
  | more _ _ _ ih => exact ih

-- A loop that has gone as far as the successes go does as from there on.
theorem passes {n : Nat} {result : Fallible (List (Success α) × Failure)}
    (h : Advances p ctx s found last)
    (hlast : Passes p.repeatOnce ctx (found.reverse ++ before, last) n result) :
    Passes p.repeatOnce ctx (before, s) (found.length + n) result := by
  induction h generalizing before with
  | refl => simpa using hlast
  | @more s r rest last hr hlt _ ih =>
    rw [List.reverse_cons, List.append_assoc, List.singleton_append] at hlast
    rw [List.length_cons, Nat.add_right_comm]
    exact .more (repeatOnce_returns_iff.mpr (.inr ⟨r, hr, .inr (Nat.ne_of_gt hlt), rfl⟩)) (ih hlast)

theorem passes_of_error (h : Advances p ctx s found last)
    (he : (p.apply last).Returns ctx (.error e)) :
    Passes p.repeatOnce ctx ([], s) (found.length + 1) (.ok (found.reverse, e)) := by
  refine h.passes (.done (repeatOnce_returns_iff.mpr (.inl ⟨e, he, ?_⟩)))
  rw [List.append_nil]

theorem passes_of_fault (h : Advances p ctx s found last)
    (hfault : (p.repeatOnce (found.reverse, last)).Faults ctx fault) :
    Passes p.repeatOnce ctx ([], s) (found.length + 1) (.error fault) := by
  refine h.passes (.fault ?_)
  rwa [List.append_nil]

theorem repeats (h : Advances p ctx s found last) (he : (p.apply last).Returns ctx (.error e)) :
    Repeats p ctx s found e := by
  have hloop := successes_returns_iff.mp (h.passes_of_error he).result_eq
  rwa [List.reverse_reverse] at hloop

theorem rep_returns (h : Advances p ctx s found last)
    (he : (p.apply last).Returns ctx (.error e)) :
    (p.rep.apply s).Returns ctx (repeated e found) :=
  rep_returns_iff.mpr ⟨found, e, h.repeats he, rfl⟩

theorem rep_faults (h : Advances p ctx s found last)
    (hfault : (p.repeatOnce (found.reverse, last)).Faults ctx fault) :
    (p.rep.apply s).Faults ctx fault :=
  faults_bind_iff.mpr (.inl (h.passes_of_fault hfault).result_eq)

theorem offset_le (h : Advances p ctx s found last) : s.offset ≤ last.offset := by
  induction h with
  | refl => exact Nat.le_refl _
  | more _ hlt _ ih => exact Nat.le_trans (Nat.le_of_lt hlt) ih

theorem rep_stuck (h : Advances p ctx s found last) (hr : (p.apply last).Returns ctx (.ok r))
    (hconsumed : r.consumed = false) (hoffset : r.state.offset = last.offset) :
    (p.rep.apply s).Faults ctx (.stuckRepetition p.shown) :=
  h.rep_faults (repeatOnce_faults_iff.mpr (.inr ⟨r, hr, hconsumed, hoffset, rfl⟩))

end Advances

end Parser

section Grammar

variable {d : Dialect} {ctx : Context} {α : Type} {p : Parser α} {s : State}

theorem Grammar.reaches_of_ok {r : Success α} (hp : Grammar d p) (hs : s.offset ≤ s.input.size)
    (h : (p.apply s).Returns ctx (.ok r)) :
    s.Reaches ctx r.state ∧ (r.consumed = true → s.offset < r.state.offset) := by
  have hheld := (Invariant.span d ctx).sound hp hs h
  exact ⟨hheld.reaches, hheld.lt_of_consumed⟩

-- Every success that gets further leaves less to be read, so that at some place there is none.
theorem Grammar.exists_advances (hp : Grammar d p) (ctx : Context)
    (hs : s.offset ≤ s.input.size) :
    ∃ found last, Advances p ctx s found last ∧ s.Reaches ctx last ∧
      found.length ≤ s.input.size - s.offset ∧
      ∀ r, (p.apply last).Returns ctx (.ok r) →
        r.consumed = false ∧ r.state.offset = last.offset := by
  induction hn : s.input.size - s.offset using Nat.strongRecOn generalizing s with
  | ind n ih =>
    by_cases hmore : ∃ r, (p.apply s).Returns ctx (.ok r) ∧ s.offset < r.state.offset
    · obtain ⟨r, hr, hlt⟩ := hmore
      obtain ⟨hreaches, _⟩ := hp.reaches_of_ok hs hr
      have hinput := hreaches.input_eq
      have hsize := hreaches.offset_le_size
      obtain ⟨found, last, hfound, hlast, hlength, hend⟩ :=
        ih (r.state.input.size - r.state.offset) (by rw [hinput]; omega) (by rwa [hinput]) rfl
      rw [hinput] at hlength
      refine ⟨r :: found, last, .more hr hlt hfound, hreaches.trans hlast, ?_, hend⟩
      rw [List.length_cons]
      omega
    · refine ⟨[], s, .refl, .refl hs, Nat.zero_le _, fun r hr => ?_⟩
      obtain ⟨hreaches, hlt⟩ := hp.reaches_of_ok hs hr
      have hle := hreaches.offset_le
      have hnot : ¬ s.offset < r.state.offset := fun hlt => hmore ⟨r, hr, hlt⟩
      refine ⟨?_, by omega⟩
      cases hconsumed : r.consumed with
      | true => exact absurd (hlt hconsumed) hnot
      | false => rfl

-- The failure that the successes of a repetition lead to is the one that it makes its result of.
theorem Grammar.ending_of_rep {r : Result (List α)} (hp : Grammar d p)
    (hs : s.offset ≤ s.input.size) (h : (p.rep.apply s).Returns ctx r) :
    ∃ found last e, Advances p ctx s found last ∧ s.Reaches ctx last ∧
      (p.apply last).Returns ctx (.error e) ∧ r = repeated e found := by
  obtain ⟨found, last, hfound, hlast, _, hend⟩ := hp.exists_advances ctx hs
  obtain ⟨r' | e, hr⟩ | ⟨fault, hfault⟩ := returns_or_faults (p.apply last) ctx
  · obtain ⟨hconsumed, hoffset⟩ := hend r' hr
    exact ((hfound.rep_stuck hr hconsumed hoffset).not_returns h).elim
  · exact ⟨found, last, e, hfound, hlast, hr, h.unique (hfound.rep_returns hr)⟩
  · exact ((hfound.rep_faults (repeatOnce_faults_iff.mpr (.inl hfault))).not_returns h).elim

theorem Grammar.exists_passes (hp : Grammar d p) (hs : s.offset ≤ s.input.size) :
    ∃ n ≤ s.input.size - s.offset + 1,
      Passes p.repeatOnce ctx ([], s) n ((p.successes s).run ctx).result := by
  obtain ⟨found, last, hfound, _, hlength, hend⟩ := hp.exists_advances ctx hs
  obtain ⟨result, hpasses⟩ : ∃ result, Passes p.repeatOnce ctx ([], s) (found.length + 1) result := by
    obtain ⟨r | e, hr⟩ | ⟨fault, hfault⟩ := returns_or_faults (p.apply last) ctx
    · obtain ⟨hconsumed, hoffset⟩ := hend r hr
      exact ⟨_, hfound.passes_of_fault
        (repeatOnce_faults_iff.mpr (.inr ⟨r, hr, hconsumed, hoffset, rfl⟩))⟩
    · exact ⟨_, hfound.passes_of_error hr⟩
    · exact ⟨_, hfound.passes_of_fault (repeatOnce_faults_iff.mpr (.inl hfault))⟩
  refine ⟨found.length + 1, Nat.succ_le_succ hlength, ?_⟩
  rw [show ((p.successes s).run ctx).result = result from hpasses.result_eq]
  exact hpasses

theorem Grammar.reaches_of_advances {found : List (Success α)} {last : State} (hp : Grammar d p)
    (h : Advances p ctx s found last) (hs : s.offset ≤ s.input.size) : s.Reaches ctx last := by
  induction h with
  | refl => exact .refl hs
  | more hr _ _ ih =>
    obtain ⟨hreaches, _⟩ := hp.reaches_of_ok hs hr
    exact hreaches.trans (ih hreaches.bounded)

end Grammar

end Parsing
