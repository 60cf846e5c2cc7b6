import Parsing.Proofs.Repetition.Ending
import Parsing.Proofs.TokenRun

namespace Parsing

open Eval Parsing.Parser

namespace Parser

-- Every run on what is left of the input at `s` ends with a result.
def Answers (p : Parser α) (ctx : Context) (s : State) : Prop :=
  ∀ ⦃here⦄, s.Reaches ctx here → ∃ r, (p.apply here).Returns ctx r

-- Every such run ends with a result or finds that some repetition is stuck.
def Settles (p : Parser α) (ctx : Context) (s : State) : Prop :=
  ∀ ⦃here⦄, s.Reaches ctx here → (∃ r, (p.apply here).Returns ctx r) ∨
    ∃ name, (p.apply here).Faults ctx (.stuckRepetition name)

-- No such run fails without consuming.
def Lenient (p : Parser α) (ctx : Context) (s : State) : Prop :=
  ∀ ⦃here e⦄, s.Reaches ctx here → (p.apply here).Returns ctx (.error e) → e.consumed = true

-- One or more occurrences are never found at `s`: the repetition is stuck, or it fails behind
-- something it has consumed.
def Unrepeatable (p : Parser α) (ctx : Context) (s : State) : Prop :=
  (∃ name, (p.rep.apply s).Faults ctx (.stuckRepetition name)) ∨
    ∃ e, (p.rep.apply s).Returns ctx (.error e) ∧ e.consumed = true

variable {d : Dialect} {ctx : Context} {α β : Type} {p : Parser α} {s : State}

theorem Answers.settles (h : p.Answers ctx s) : p.Settles ctx s := fun _ hhere => .inl (h hhere)

namespace Settles

theorem pure (a : α) : (Parser.pure a).Settles ctx s := fun _ _ => .inl ⟨_, pure_returns_iff.mpr rfl⟩

theorem map (f : α → β) (h : p.Settles ctx s) : (p.map f).Settles ctx s := by
  intro here hhere
  obtain ⟨r, hr⟩ | ⟨name, hstuck⟩ := h hhere
  · exact .inl ⟨_, map_returns_iff.mpr ⟨r, hr, rfl⟩⟩
  · exact .inr ⟨name, faults_bind_iff.mpr (.inl hstuck)⟩

theorem orElse {q : Parser α} (h : p.Settles ctx s) (h' : q.Settles ctx s) :
    (p.orElse q).Settles ctx s := by
  intro here hhere
  obtain ⟨first, hfirst⟩ | ⟨name, hstuck⟩ := h hhere
  · cases hconsumed : first.consumed with
    | true => exact .inl ⟨first, orElse_returns_iff.mpr (.inl ⟨hfirst, hconsumed⟩)⟩
    | false =>
      obtain ⟨second, hsecond⟩ | ⟨name, hstuck⟩ := h' hhere
      · exact .inl ⟨_, orElse_returns_iff.mpr
          (.inr ⟨first, second, hfirst, hconsumed, hsecond, rfl⟩)⟩
      · refine .inr ⟨name, faults_bind_iff.mpr (.inr ⟨first, hfirst, ?_⟩)⟩
        rw [hconsumed, if_neg Bool.false_ne_true]
        exact faults_bind_iff.mpr (.inl hstuck)
  · exact .inr ⟨name, faults_bind_iff.mpr (.inl hstuck)⟩

theorem bind {f : α → Parser β} (hp : Grammar d p) (h : p.Settles ctx s)
    (h' : ∀ a, (f a).Settles ctx s) : (p.bind f).Settles ctx s := by
  intro here hhere
  obtain ⟨r | e, hr⟩ | ⟨name, hstuck⟩ := h hhere
  · obtain ⟨hreaches, _⟩ := hp.reaches_of_ok hhere.bounded hr
    obtain ⟨next, hnext⟩ | ⟨name, hstuck⟩ := h' r.value.value (hhere.trans hreaches)
    · exact .inl ⟨_, bind_returns_iff.mpr (.inr ⟨r, next, hr, hnext, rfl⟩)⟩
    · exact .inr ⟨name, faults_bind_iff.mpr (.inr ⟨_, hr, faults_bind_iff.mpr (.inl hstuck)⟩)⟩
  · exact .inl ⟨_, bind_returns_iff.mpr (.inl ⟨e, hr, rfl⟩)⟩
  · exact .inr ⟨name, faults_bind_iff.mpr (.inl hstuck)⟩

theorem rep (hp : Grammar d p) (h : p.Settles ctx s) : p.rep.Settles ctx s := by
  intro here hhere
  obtain ⟨found, last, hfound, hlast, _, hend⟩ :=
    hp.exists_advances ctx hhere.bounded
  obtain ⟨r | e, hr⟩ | ⟨name, hstuck⟩ := h (hhere.trans hlast)
  · obtain ⟨hconsumed, hoffset⟩ := hend r hr
    exact .inr ⟨p.shown, hfound.rep_stuck hr hconsumed hoffset⟩
  · exact .inl ⟨_, hfound.rep_returns hr⟩
  · exact .inr ⟨name, hfound.rep_faults (repeatOnce_faults_iff.mpr (.inl hstuck))⟩

theorem repSep {separator : Parser β} (hp : Grammar d p) (hsep : Grammar d separator)
    (h : p.Settles ctx s) (h' : separator.Settles ctx s) :
    (p.repSep separator).Settles ctx s := by
  have hpair : (separator.followedBy p).Settles ctx s := bind hsep h' fun _ => h
  have hrest : (separator.followedBy p).rep0.Settles ctx s :=
    orElse (rep (hsep.followedBy hp) hpair) (pure [])
  exact map _ (bind hp h fun _ => map _ hrest)

end Settles

namespace Lenient

-- What gives nothing instead of failing without consuming never fails without consuming.
theorem orElse_pure (p : Parser α) (a : α) (ctx : Context) (s : State) :
    (p.orElse (Parser.pure a)).Lenient ctx s := by
  intro here e _ he
  obtain ⟨_, hconsumed⟩ | ⟨first, second, _, _, hsecond, he⟩ := orElse_returns_iff.mp he
  · exact hconsumed
  · rw [pure_returns_iff.mp hsecond] at he
    cases he

-- A repetition ends by a failure of its parser, and succeeds only if that consumed nothing.
theorem error_of_rep {r : Result (List α)} (hp : Grammar d p) (hs : s.offset ≤ s.input.size)
    (h : p.Lenient ctx s) (hr : (p.rep.apply s).Returns ctx r) :
    ∃ e, r = .error e ∧ e.consumed = true := by
  obtain ⟨found, last, e, _, hlast, he, rfl⟩ := hp.ending_of_rep hs hr
  have hconsumed := h hlast he
  refine ⟨e, ?_, hconsumed⟩
  cases found with
  | nil => rfl
  | cons first rest => rw [repeated, if_pos hconsumed]

theorem rep_not_ok (hp : Grammar d p) (hs : s.offset ≤ s.input.size) (h : p.Lenient ctx s)
    (r : Success (List α)) : ¬ (p.rep.apply s).Returns ctx (.ok r) := by
  intro hr
  obtain ⟨e, he, _⟩ := h.error_of_rep hp hs hr
  cases he

theorem unrepeatable (hp : Grammar d p) (hs : s.offset ≤ s.input.size) (h : p.Lenient ctx s)
    (hsettles : p.Settles ctx s) : p.Unrepeatable ctx s := by
  obtain ⟨r, hr⟩ | hstuck := hsettles.rep hp (.refl hs)
  · obtain ⟨e, rfl, hconsumed⟩ := h.error_of_rep hp hs hr
    exact .inr ⟨e, hr, hconsumed⟩
  · exact .inl hstuck

end Lenient

end Parser

namespace TokenParser

variable {t : TokenParser} {ctx : Context} {s : State}

theorem rep0_lenient : t.rep0.Lenient ctx s := by
  intro here e _ he
  obtain ⟨_, _, he⟩ | ⟨_, he⟩ := rep0_returns_iff.mp he
  · cases he
  · cases he

-- Where the steps of a run give results, so does reading it at once, if it can be sliced out.
theorem rep0_settles (h : t.toParser.Answers ctx s) (hinput : s.input.Sliceable) :
    t.rep0.Settles ctx s := by
  intro here hhere
  obtain ⟨found, last, hfound, hlast, _, hend⟩ :=
    (Grammar.token (d := .full) t).exists_advances ctx hhere.bounded
  obtain ⟨r | e, hr⟩ := h (hhere.trans hlast)
  · obtain ⟨hconsumed, _⟩ := hend r hr
    obtain ⟨_, _, _, hr⟩ | ⟨_, _, _, _, _, _, _, _, hr⟩ := apply_returns_iff.mp hr
    · cases hr
    · cases hr
      cases hconsumed
  · have hslice : here.input.Sliceable := hhere.input_eq ▸ hinput
    obtain ⟨_, ⟨_, hnone, _⟩ | ⟨_, _, hsome⟩⟩ :=
      run?_returns_of_repeats (hfound.repeats hr) hslice hhere.bounded
    · exact .inl ⟨_, rep0_returns_iff.mpr (.inr ⟨hnone, rfl⟩)⟩
    · exact .inl ⟨_, rep0_returns_iff.mpr (.inl ⟨_, hsome, rfl⟩)⟩

-- Characters can be measured whatever they are, so any of them is read where it can be taken out.
theorem any_answers (hmap : s.map = .chars) (hform : s.input.form ≠ .unsized)
    (hget : ∀ i < s.input.size, ∃ token, s.input.get i = .ok token) :
    any.toParser.Answers ctx s := by
  intro here hhere
  have hform : here.input.form ≠ .unsized := hhere.input_eq ▸ hform
  by_cases hend : here.input.size ≤ here.offset
  · have hatEnd : here.isAtEnd = .ok true :=
      State.isAtEnd_eq_ok_iff.mpr ⟨hform, (decide_eq_true hend).symm⟩
    exact ⟨_, apply_returns_at_end hatEnd⟩
  · have hatEnd : here.isAtEnd = .ok false :=
      State.isAtEnd_eq_ok_iff.mpr ⟨hform, (decide_eq_false hend).symm⟩
    rw [hhere.input_eq] at hend
    obtain ⟨token, htoken⟩ := hget here.offset (Nat.lt_of_not_le hend)
    rw [← hhere.input_eq] at htoken
    have hmap : here.map = .chars := hhere.map_eq.trans hmap
    have hstart : here.map.startOf ctx.maps token here.pos = .ok here.pos := by
      rw [hmap]
      rfl
    obtain ⟨stop, hstop⟩ : ∃ stop, here.map.stopOf ctx.maps token here.pos = .ok stop := by
      rw [hmap]
      exact ⟨_, rfl⟩
    exact ⟨_, apply_returns_iff.mpr
      (.inr ⟨hatEnd, token, _, stop, htoken, rfl, hstart, hstop, rfl⟩)⟩

-- Tokens that can only be taken out one by one are no run to be read at once: repeating it is
-- neither stuck nor a failure, but a fault of its own.
theorem rep0_rep_faults_on_deque :
    let s : State := .start ⟨.deque, #[.int 1]⟩ .chars
    Grammar .full any.toParser ∧ s.offset ≤ s.input.size ∧ any.toParser.Answers .builtin s ∧
      (any.rep0.rep.apply s).Faults .builtin .wrongType ∧ ¬ any.rep0.Unrepeatable .builtin s := by
  intro s
  have hanswers : any.toParser.Answers .builtin s := by
    refine any_answers rfl (by decide) fun i hi => ⟨.int 1, ?_⟩
    obtain rfl : i = 0 := Nat.lt_one_iff.mp hi
    rfl
  have hrep0 : (any.rep0.apply s).Faults .builtin .wrongType := rfl
  have hfaults : (any.rep0.rep.apply s).Faults .builtin .wrongType :=
    Advances.refl.rep_faults (repeatOnce_faults_iff.mpr (.inl hrep0))
  refine ⟨.token any, Nat.zero_le _, hanswers, hfaults, ?_⟩
  rintro (⟨name, hstuck⟩ | ⟨e, he, _⟩)
  · cases hfaults.unique hstuck
  · exact hfaults.not_returns he

end TokenParser

namespace Grammar

variable {d : Dialect} {ctx : Context} {α : Type} {p : Parser α} {s : State}

theorem rep_faults_iff_stuck (hp : Grammar d p) (hs : s.offset ≤ s.input.size)
    (h : p.Answers ctx s) :
    (p.rep.apply s).Faults ctx (.stuckRepetition p.shown) ↔ p.Stuck ctx s := by
  constructor
  · intro hfaults
    obtain ⟨found, last, hfound, hlast, _, hend⟩ := hp.exists_advances ctx hs
    obtain ⟨r | e, hr⟩ := h hlast
    · exact ⟨found, last, r, hfound, hr, (hend r hr).2⟩
    · exact (hfaults.not_returns (hfound.rep_returns hr)).elim
  · rintro ⟨found, last, r, hfound, hr, hoffset⟩
    obtain ⟨_, hlt⟩ := hp.reaches_of_ok (hp.reaches_of_advances hfound hs).bounded hr
    have hconsumed : r.consumed = false := by
      rw [← Bool.not_eq_true]
      intro hconsumed
      exact Nat.lt_irrefl _ (hoffset ▸ hlt hconsumed)
    exact hfound.rep_stuck hr hconsumed hoffset

-- A repetition that is not stuck comes to a failure, which ends it if it consumed nothing and comes
-- behind some success.
theorem ending_of_not_stuck (hp : Grammar d p) (hs : s.offset ≤ s.input.size)
    (h : p.Answers ctx s) (hstuck : ¬ p.Stuck ctx s) :
    ∃ found last e, Advances p ctx s found last ∧ (p.apply last).Returns ctx (.error e) ∧
      ((∃ r, (p.rep.apply s).Returns ctx (.ok r)) ↔ found ≠ [] ∧ e.consumed = false) ∧
      (¬ (found ≠ [] ∧ e.consumed = false) → (p.rep.apply s).Returns ctx (.error e)) := by
  obtain ⟨found, last, hfound, hlast, _, hend⟩ := hp.exists_advances ctx hs
  obtain ⟨r | e, hr⟩ := h hlast
  · exact (hstuck ⟨found, last, r, hfound, hr, (hend r hr).2⟩).elim
  · have hrep := hfound.rep_returns hr
    refine ⟨found, last, e, hfound, hr, ?_⟩
    by_cases hkept : found ≠ [] ∧ e.consumed = false
    · obtain ⟨first, rest, rfl⟩ := List.exists_cons_of_ne_nil hkept.1
      rw [repeated, if_neg (by simp [hkept.2])] at hrep
      exact ⟨iff_of_true ⟨_, hrep⟩ hkept, fun hnot => (hnot hkept).elim⟩
    · have herror : repeated e found = .error e := by
        cases found with
        | nil => rfl
        | cons first rest => rw [repeated, if_pos (by simpa using hkept)]
      rw [herror] at hrep
      refine ⟨iff_of_false ?_ hkept, fun _ => hrep⟩
      rintro ⟨r, hok⟩
      cases hok.unique hrep

-- The loop of a repetition ends after as many passes as there are tokens left and one more. It is
-- at fault exactly if the parser succeeds somewhere without getting further; else it ends by the
-- failure that it comes to. A parser that may give nothing is never repeated with success.
theorem rep_ends (hp : Grammar d p) (hs : s.offset ≤ s.input.size) (h : p.Answers ctx s) :
    (∃ n ≤ s.input.size - s.offset + 1,
      Passes p.repeatOnce ctx ([], s) n ((p.successes s).run ctx).result) ∧
    ((p.rep.apply s).Faults ctx (.stuckRepetition p.shown) ↔ p.Stuck ctx s) ∧
    (¬ p.Stuck ctx s → ∃ found last e,
      Advances p ctx s found last ∧ (p.apply last).Returns ctx (.error e) ∧
      ((∃ r, (p.rep.apply s).Returns ctx (.ok r)) ↔ found ≠ [] ∧ e.consumed = false) ∧
      (¬ (found ≠ [] ∧ e.consumed = false) → (p.rep.apply s).Returns ctx (.error e))) ∧
    p.rep0.Unrepeatable ctx s ∧
    p.optional.Unrepeatable ctx s ∧
    (∀ a, (Parser.option a p).Unrepeatable ctx s) ∧
    (∀ (β : Type) (separator : Parser β), Grammar d separator →
      (∀ r, ¬ ((p.repSep0 separator).rep.apply s).Returns ctx (.ok r)) ∧
      (separator.Answers ctx s → (p.repSep0 separator).Unrepeatable ctx s)) ∧
    (∀ t : TokenParser, t.toParser.Answers ctx s →
      (∀ r, ¬ (t.rep0.rep.apply s).Returns ctx (.ok r)) ∧
      (s.input.Sliceable → t.rep0.Unrepeatable ctx s)) := by
  refine ⟨hp.exists_passes hs, hp.rep_faults_iff_stuck hs h, hp.ending_of_not_stuck hs h,
    ?_, ?_, fun a => ?_, fun β separator hsep => ⟨?_, fun hanswers => ?_⟩,
    fun t hanswers => ⟨?_, fun hinput => ?_⟩⟩
  · exact (Lenient.orElse_pure _ _ _ _).unrepeatable hp.rep0 hs
      ((h.settles.rep hp).orElse (.pure []))
  · exact (Lenient.orElse_pure _ _ _ _).unrepeatable hp.optional hs
      ((h.settles.map some).orElse (.pure none))
  · exact (Lenient.orElse_pure _ _ _ _).unrepeatable (hp.option a) hs (h.settles.orElse (.pure a))
  · exact (Lenient.orElse_pure _ _ _ _).rep_not_ok (hp.repSep0 hsep) hs
  · exact (Lenient.orElse_pure _ _ _ _).unrepeatable (hp.repSep0 hsep) hs
      ((h.settles.repSep hp hsep hanswers.settles).orElse (.pure []))
  · exact TokenParser.rep0_lenient.rep_not_ok (.tokenRep0 (d := .full) t) hs
  · exact TokenParser.rep0_lenient.unrepeatable (.tokenRep0 (d := .full) t) hs
      (TokenParser.rep0_settles hanswers hinput)

-- With two tokens left there are three passes at most; what gives nothing at the end is stuck there.
theorem rep_ends_of_any :
    let s : State := .start (.ofList [.int 1, .int 2]) .chars
    let p := TokenParser.any.toParser
    Grammar .full p ∧ s.offset ≤ s.input.size ∧ p.Answers .builtin s ∧
      (∃ n ≤ 3, Passes p.repeatOnce .builtin ([], s) n ((p.successes s).run .builtin).result) ∧
      ((p.rep.apply s).Faults .builtin (.stuckRepetition p.shown) ↔ p.Stuck .builtin s) ∧
      p.rep0.Unrepeatable .builtin s ∧ (p.repSep0 p).Unrepeatable .builtin s ∧
      TokenParser.any.rep0.Unrepeatable .builtin s := by
  intro s p
  have hp : Grammar .full p := .token _
  have hs : s.offset ≤ s.input.size := Nat.zero_le _
  have hanswers : p.Answers .builtin s := by
    refine TokenParser.any_answers rfl (by decide) fun i hi => ?_
    obtain rfl | rfl : i = 0 ∨ i = 1 := by
      have : i < 2 := hi
      omega
    · exact ⟨_, rfl⟩
    · exact ⟨_, rfl⟩
  obtain ⟨hpasses, hstuck, _, hrep0, _, _, hrepSep0, htoken⟩ := hp.rep_ends hs hanswers
  exact ⟨hp, hs, hanswers, hpasses, hstuck, hrep0, (hrepSep0 _ p hp).2 hanswers,
    (htoken .any hanswers).2 trivial⟩

end Grammar

end Parsing
