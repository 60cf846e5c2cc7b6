import Parsing.Proofs.Repetition.Recursion
import Parsing.Proofs.TokenParser

namespace Parsing.TokenParser

open Eval Parsing.Parser

variable {t : TokenParser} {ctx : Context} {s : State}

-- What the steps from `s` on amount to: the tokens `values`, read up to `next`, behind which stands
-- nothing that the parser takes.
structure Run (t : TokenParser) (ctx : Context) (s : State) (values : List Value)
    (next : State) : Prop where
  stop_le : s.offset + values.length ≤ s.input.size
  stretch : s.input.stretch s.offset (s.offset + values.length) = .ok values
  runStop : t.runStop s.input (s.input.size - s.offset) s.offset = .ok (s.offset + values.length)
  consumed : (s.consumeAll values).Returns ctx next

theorem runStop_eq_of_refused {left : Nat}
    (h : left = 0 ∨ ∃ token, s.token = .ok token ∧ t.test token = .ok false) :
    t.runStop s.input left s.offset = .ok s.offset := by
  cases left with
  | zero => rfl
  | succ left =>
    obtain h | ⟨token, htoken, hrefused⟩ := h
    · cases h
    · exact Fallible.bind_eq_ok_iff.mpr ⟨token, htoken,
        Fallible.bind_eq_ok_iff.mpr ⟨false, hrefused, rfl⟩⟩

theorem Run.stop (hs : s.offset ≤ s.input.size) (h : t.Refuses s) : t.Run ctx s [] s where
  stop_le := hs
  stretch := Tokens.stretch_self _ _
  runStop := by
    refine runStop_eq_of_refused ?_
    obtain hatEnd | ⟨_, hrefused⟩ := h
    · have hsize := of_decide_eq_true (State.isAtEnd_eq_ok_iff.mp hatEnd).2.symm
      exact .inl (by omega)
    · exact .inr hrefused
  consumed := State.consumeAll_returns_iff.mpr ⟨s.pos, rfl, rfl⟩

theorem Run.more {token : Value} {values : List Value} {pos : Position} {next : State}
    (hatEnd : s.isAtEnd = .ok false) (htoken : s.token = .ok token)
    (hfits : t.test token = .ok true) (hpos : s.map.stopOf ctx.maps token s.pos = .ok pos)
    (h : t.Run ctx { s with offset := s.offset + 1, pos } values next) :
    t.Run ctx s (token :: values) next := by
  have hlt : s.offset < s.input.size := by
    have := of_decide_eq_false (State.isAtEnd_eq_ok_iff.mp hatEnd).2.symm
    omega
  have hlength : s.offset + (token :: values).length = s.offset + 1 + values.length := by
    simp only [List.length_cons]
    omega
  have hleft : s.input.size - s.offset = s.input.size - (s.offset + 1) + 1 := by omega
  constructor
  · rw [hlength]
    exact h.stop_le
  · rw [hlength]
    exact (Tokens.stretch_eq_cons_iff (by omega)).mpr ⟨token, values, htoken, h.stretch, rfl⟩
  · rw [hlength, hleft]
    exact Fallible.bind_eq_ok_iff.mpr ⟨token, htoken,
      Fallible.bind_eq_ok_iff.mpr ⟨true, hfits, h.runStop⟩⟩
  · obtain ⟨stop, hstop, rfl⟩ := State.consumeAll_returns_iff.mp h.consumed
    refine State.consumeAll_returns_iff.mpr ⟨stop, ?_, by rw [hlength]⟩
    exact Fallible.bind_eq_ok_iff.mpr ⟨pos, hpos, hstop⟩

theorem run_of_repeats {found : List (Success Value)} {e : Failure} {name : String}
    (h : Repeats ⟨t.apply, name⟩ ctx s found e) (hs : s.offset ≤ s.input.size) :
    ∃ values next, t.Run ctx s values next ∧ found.length = values.length ∧
      e.consumed = false ∧ trailing s e found = ⟨!found.isEmpty,
        ⟨values, found.head?.elim s.pos fun first => first.value.start, next.pos⟩, next,
        t.runMessage⟩ := by
  induction h with
  | @stop s e hp =>
    obtain ⟨hrefused, m, hm, he⟩ | ⟨_, _, _, _, _, _, _, _, hr⟩ := apply_returns_iff.mp hp
    · cases he
      refine ⟨[], s, .stop hs hrefused, rfl, rfl, ?_⟩
      simp [trailing, nothing, Message.mergeExpected, Message.empty, runMessage,
        expected_of_unexpected hm]
    · cases hr
  | @more s r rest e hp _ _ ih =>
    obtain ⟨_, _, _, hr⟩ | ⟨hatEnd, token, start, stop, htoken, hfits, _, hstop, hr⟩ :=
      apply_returns_iff.mp hp
    · cases hr
    · cases hr
      have hsize := of_decide_eq_false (State.isAtEnd_eq_ok_iff.mp hatEnd).2.symm
      obtain ⟨values, next, hrun, hlength, he, htrailing⟩ := ih (by simp only; omega)
      refine ⟨token :: values, next, hrun.more hatEnd htoken hfits hstop, by simp [hlength], he,
        ?_⟩
      simp [trailing, joined, htrailing]

theorem Run.run?_returns_none (h : t.Run ctx s [] s) (hinput : s.input.Sliceable) :
    (t.run? s).Returns ctx none :=
  run?_returns_iff.mpr ⟨hinput.form_ne_unsized, s.offset, h.runStop, .inl ⟨rfl, rfl⟩⟩

theorem Run.run?_returns_some {values : List Value} {token : Value} {start : Position}
    {next : State} (h : t.Run ctx s values next) (hinput : s.input.Sliceable)
    (hvalues : values ≠ []) (htoken : s.token = .ok token)
    (hstart : s.map.startOf ctx.maps token s.pos = .ok start) :
    (t.run? s).Returns ctx (some ⟨true, ⟨values, start, next.pos⟩, next, t.runMessage⟩) := by
  have hlength := List.length_pos_iff.mpr hvalues
  obtain ⟨form, hslice⟩ := hinput.slice_eq h.stop_le (Nat.le_add_right _ _)
  have hitems : (s.input.items.extract s.offset (s.offset + values.length)).toList = values :=
    Except.ok.inj ((hinput.stretch_eq h.stop_le).symm.trans h.stretch)
  refine run?_returns_iff.mpr ⟨hinput.form_ne_unsized, _, h.runStop,
    .inr ⟨by omega, _, next, token, start, hslice, ?_, htoken, hstart, ?_⟩⟩
  · rw [hitems]
    exact h.consumed
  · rw [hitems]

-- Reading at once sees what the steps see.
theorem run?_returns_of_repeats {found : List (Success Value)} {e : Failure} {name : String}
    (h : Repeats ⟨t.apply, name⟩ ctx s found e) (hinput : s.input.Sliceable)
    (hs : s.offset ≤ s.input.size) :
    e.consumed = false ∧
      ((found = [] ∧ (t.run? s).Returns ctx none ∧
          trailing s e found = ⟨false, ⟨[], s.pos, s.pos⟩, s, t.runMessage⟩) ∨
        (found ≠ [] ∧ (trailing s e found).consumed = true ∧
          (t.run? s).Returns ctx (some (trailing s e found)))) := by
  obtain ⟨values, next, hrun, hlength, he, htrailing⟩ := run_of_repeats h hs
  refine ⟨he, ?_⟩
  cases h with
  | stop hp =>
    have hvalues : values = [] := List.eq_nil_of_length_eq_zero hlength.symm
    subst hvalues
    obtain ⟨pos, hpos, hnext⟩ := State.consumeAll_returns_iff.mp hrun.consumed
    cases hpos
    have hnext : next = s := hnext
    subst hnext
    exact .inl ⟨rfl, hrun.run?_returns_none hinput, htrailing⟩
  | more hp _ _ =>
    obtain ⟨_, _, _, hr⟩ | ⟨_, token, start, _, htoken, _, hstart, _, hr⟩ :=
      apply_returns_iff.mp hp
    · cases hr
    · cases hr
      have hvalues : values ≠ [] := by
        rintro rfl
        cases hlength
      rw [htrailing]
      exact .inr ⟨List.cons_ne_nil _ _, rfl,
        hrun.run?_returns_some hinput hvalues htoken hstart⟩

-- Where nothing is taken, it does not matter whether the input has ended long before.
theorem run?_returns_none_of_refused (hinput : s.input.Sliceable) (h : t.Refuses s) :
    (t.run? s).Returns ctx none := by
  have hstop : t.runStop s.input (s.input.size - s.offset) s.offset = .ok s.offset := by
    refine runStop_eq_of_refused ?_
    obtain hatEnd | ⟨_, hrefused⟩ := h
    · have hsize := of_decide_eq_true (State.isAtEnd_eq_ok_iff.mp hatEnd).2.symm
      exact .inl (by omega)
    · exact .inr hrefused
  exact run?_returns_iff.mpr ⟨hinput.form_ne_unsized, s.offset, hstop, .inl ⟨rfl, rfl⟩⟩

section Repetitions

variable {found : List (Success Value)} {e : Failure}

theorem offset_lt_of_ok {r : Success Value} (h : (t.apply s).Returns ctx (.ok r)) :
    s.offset < s.input.size := by
  obtain ⟨_, _, _, hr⟩ | ⟨hatEnd, _⟩ := apply_returns_iff.mp h
  · cases hr
  · have := of_decide_eq_false (State.isAtEnd_eq_ok_iff.mp hatEnd).2.symm
    omega

theorem rep_returns_of_repeats (h : Repeats t.toParser ctx s found e)
    (hinput : s.input.Sliceable) : (t.rep.apply s).Returns ctx (repeated e found) := by
  cases h with
  | stop hp =>
    obtain ⟨hrefused, m, hm, he⟩ | ⟨_, _, _, _, _, _, _, _, hr⟩ := apply_returns_iff.mp hp
    · cases he
      exact rep_returns_iff.mpr
        (.inr ⟨run?_returns_none_of_refused hinput hrefused, m, hm, rfl⟩)
    · cases hr
  | more hp hmoves hrest =>
    obtain ⟨he, ⟨hnil, _⟩ | ⟨_, hconsumed, hsome⟩⟩ :=
      run?_returns_of_repeats (.more hp hmoves hrest) hinput (Nat.le_of_lt (offset_lt_of_ok hp))
    · cases hnil
    · refine rep_returns_iff.mpr (.inl ⟨_, hsome, ?_⟩)
      rw [trailing_eq_joined hconsumed, repeated, he]
      rfl

theorem rep0_returns_of_repeats (h : Repeats t.toParser ctx s found e)
    (hinput : s.input.Sliceable) : (t.rep0.apply s).Returns ctx (ended s e found) := by
  cases h with
  | stop hp =>
    obtain ⟨hrefused, m, hm, he⟩ | ⟨_, _, _, _, _, _, _, _, hr⟩ := apply_returns_iff.mp hp
    · cases he
      refine rep0_returns_iff.mpr (.inr ⟨run?_returns_none_of_refused hinput hrefused, ?_⟩)
      simp [ended, trailing, nothing, Message.mergeExpected, Message.empty, runMessage,
        expected_of_unexpected hm]
    · cases hr
  | more hp hmoves hrest =>
    obtain ⟨he, ⟨hnil, _⟩ | ⟨_, _, hsome⟩⟩ :=
      run?_returns_of_repeats (.more hp hmoves hrest) hinput (Nat.le_of_lt (offset_lt_of_ok hp))
    · cases hnil
    · rw [ended, he]
      exact rep0_returns_iff.mpr (.inl ⟨_, hsome, rfl⟩)

end Repetitions

-- Where the steps lead to a result, reading the run at once leads to the same one.
theorem run_refines_steps (hinput : s.input.Sliceable) (hs : s.offset ≤ s.input.size) :
    (∀ r, (t.toParser.unnamed.rep.apply s).Returns ctx r → (t.rep.apply s).Returns ctx r) ∧
    (∀ r, (t.toParser.unnamed.rep0.apply s).Returns ctx r → (t.rep0.apply s).Returns ctx r) := by
  constructor
  · intro r h
    obtain ⟨found, e, hfound, rfl⟩ := Parser.rep_returns_iff.mp h
    obtain ⟨he, ⟨rfl, hnone, _⟩ | ⟨hne, hconsumed, hsome⟩⟩ :=
      run?_returns_of_repeats hfound hinput hs
    · cases hfound with
      | stop hp =>
        obtain ⟨_, m, hm, he⟩ | ⟨_, _, _, _, _, _, _, _, hr⟩ := apply_returns_iff.mp hp
        · cases he
          exact rep_returns_iff.mpr (.inr ⟨hnone, m, hm, rfl⟩)
        · cases hr
    · obtain ⟨first, rest, rfl⟩ := List.exists_cons_of_ne_nil hne
      refine rep_returns_iff.mpr (.inl ⟨_, hsome, ?_⟩)
      rw [trailing_eq_joined hconsumed, repeated, if_neg (by simp [he])]
  · intro r h
    obtain ⟨r, hrep, rfl⟩ := orElse_pure_nil_returns_iff.mp h
    obtain ⟨found, e, hfound, rfl⟩ := Parser.rep_returns_iff.mp hrep
    rw [repeated_or_nothing]
    obtain ⟨he, ⟨rfl, hnone, htrailing⟩ | ⟨_, _, hsome⟩⟩ :=
      run?_returns_of_repeats hfound hinput hs
    · exact rep0_returns_iff.mpr (.inr ⟨hnone, by rw [if_neg (by simp [he]), htrailing]⟩)
    · exact rep0_returns_iff.mpr (.inl ⟨_, hsome, by rw [if_neg (by simp [he])]⟩)

-- A run starts where its first word does, not where the token before it ended.
theorem run_refines_steps_behind_gap :
    let word : Value := .lexeme ⟨⟨"Word", []⟩, "word", "b", ⟨0, 4⟩, ⟨0, 5⟩⟩
    let s : State := ⟨.ofList [.none, word], 1, ⟨0, 3⟩, .spans⟩
    let t := any.label "word"
    let r : Result (List Value) := .ok ⟨true, ⟨[word], ⟨0, 4⟩, ⟨0, 5⟩⟩,
      { s with offset := 2, pos := ⟨0, 5⟩ }, { Message.empty with expected := ["word"] }⟩
    s.input.Sliceable ∧ s.offset ≤ s.input.size ∧
      (t.toParser.unnamed.rep.apply s).Returns .builtin r ∧
      (t.rep.apply s).Returns .builtin r := by
  intro word s t r
  have hinput : s.input.Sliceable := trivial
  have hs : s.offset ≤ s.input.size := by decide
  have hsteps : (t.toParser.unnamed.rep.apply s).Returns .builtin r :=
    Parser.rep_returns_iff.mpr ⟨[_], _, .more rfl (.inl rfl) (.stop rfl), rfl⟩
  exact ⟨hinput, hs, hsteps, (run_refines_steps hinput hs).1 r hsteps⟩

end Parsing.TokenParser
