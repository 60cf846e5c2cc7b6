import Parsing.Proofs.Combinators
import Parsing.Proofs.Stretch
import Parsing.TokenParser

namespace Parsing.TokenParser

open Eval

variable {t : TokenParser} {ctx : Context} {s : State}

-- At `s` there is nothing that the parser has a use for.
def Refuses (t : TokenParser) (s : State) : Prop :=
  s.isAtEnd = .ok true ∨
    s.isAtEnd = .ok false ∧ ∃ token, s.token = .ok token ∧ t.test token = .ok false

-- A token parser fails at the end of the input and at tokens that it has no use for. It takes any
-- other token, and nothing else.
theorem apply_returns_iff {r : Result Value} :
    (t.apply s).Returns ctx r ↔
      (t.Refuses s ∧ ∃ m, (s.unexpected t.expected).Returns ctx m ∧ r = .error ⟨false, m⟩) ∨
      (s.isAtEnd = .ok false ∧ ∃ token start stop, s.token = .ok token ∧
        t.test token = .ok true ∧ s.map.startOf ctx.maps token s.pos = .ok start ∧
        s.map.stopOf ctx.maps token s.pos = .ok stop ∧
        r = .ok ⟨true, ⟨token, start, stop⟩, { s with offset := s.offset + 1, pos := stop },
          .empty⟩) := by
  simp only [TokenParser.apply, returns_bind_iff, returns_liftM_iff, returns_ite_iff,
    returns_pure_iff, State.consume_returns_iff, State.startOf, returns_ofContext_iff]
  constructor
  · intro h
    rcases h with ⟨atEnd, hatEnd, h⟩
    cases atEnd with
    | true => exact .inl ⟨.inl hatEnd, h⟩
    | false =>
      obtain ⟨token, htoken, fits, hfits, h⟩ := h
      cases fits with
      | false => exact .inl ⟨.inr ⟨hatEnd, token, htoken, hfits⟩, h⟩
      | true =>
        obtain ⟨next, ⟨stop, hstop, rfl⟩, start, hstart, rfl⟩ := h
        exact .inr ⟨hatEnd, token, start, stop, htoken, hfits, hstart, hstop, rfl⟩
  · rintro (⟨hatEnd | ⟨hatEnd, token, htoken, hfits⟩, h⟩ |
      ⟨hatEnd, token, start, stop, htoken, hfits, hstart, hstop, rfl⟩)
    · exact ⟨true, hatEnd, h⟩
    · exact ⟨false, hatEnd, token, htoken, false, hfits, h⟩
    · exact ⟨false, hatEnd, token, htoken, true, hfits, _, ⟨stop, hstop, rfl⟩, start, hstart, rfl⟩

theorem Refuses.test_eq {v : Value} (h : t.Refuses s) (hatEnd : s.isAtEnd = .ok false)
    (hv : s.token = .ok v) : t.test v = .ok false := by
  obtain hend | ⟨_, v', hv', hrefused⟩ := h
  · cases hatEnd.symm.trans hend
  · cases hv.symm.trans hv'
    exact hrefused

theorem apply_returns_at_end (h : s.isAtEnd = .ok true) :
    (t.apply s).Returns ctx (.error ⟨false, ⟨s.offset, s.pos, .eof, t.expected⟩⟩) :=
  apply_returns_iff.mpr
    (.inl ⟨.inl h, _, State.unexpected_returns_iff.mpr (.inl ⟨h, rfl⟩), rfl⟩)

theorem expected_of_unexpected {expected : List Value} {m : Message}
    (h : (s.unexpected expected).Returns ctx m) : m.expected = expected := by
  obtain ⟨_, rfl⟩ | ⟨_, _, _, _, _, _, _, rfl⟩ := State.unexpected_returns_iff.mp h
  · rfl
  · rfl

-- The run that is read at once: up to the first token that the parser has no use for.
theorem run?_returns_iff {r? : Option (Success (List Value))} :
    (t.run? s).Returns ctx r? ↔ s.input.form ≠ .unsized ∧
      ∃ stop, t.runStop s.input (s.input.size - s.offset) s.offset = .ok stop ∧
        ((stop = s.offset ∧ r? = none) ∨
          (stop ≠ s.offset ∧ ∃ part next token start, s.input.slice s.offset stop = .ok part ∧
            (s.consumeAll part.items.toList).Returns ctx next ∧ s.token = .ok token ∧
            s.map.startOf ctx.maps token s.pos = .ok start ∧
            r? = some ⟨true, ⟨part.items.toList, start, next.pos⟩, next, t.runMessage⟩)) := by
  simp only [run?, returns_bind_iff, returns_liftM_iff, Tokens.length_eq_ok_iff, returns_ite_iff,
    returns_pure_iff, State.startOf, returns_ofContext_iff]
  constructor
  · intro h
    rcases h with ⟨_, ⟨hform, rfl⟩, stop, hstop, h⟩
    refine ⟨hform, stop, hstop, ?_⟩
    split at h
    · exact .inl ⟨‹_›, h⟩
    · obtain ⟨part, hpart, next, hnext, token, htoken, start, hstart, rfl⟩ := h
      exact .inr ⟨‹_›, part, next, token, start, hpart, hnext, htoken, hstart, rfl⟩
  · rintro ⟨hform, stop, hstop, ⟨hempty, rfl⟩ |
      ⟨hsome, part, next, token, start, hpart, hnext, htoken, hstart, rfl⟩⟩
    · exact ⟨_, ⟨hform, rfl⟩, stop, hstop, by rw [if_pos hempty]⟩
    · refine ⟨_, ⟨hform, rfl⟩, stop, hstop, ?_⟩
      rw [if_neg hsome]
      exact ⟨part, hpart, next, hnext, token, htoken, start, hstart, rfl⟩

theorem runStop_bounds {input : Tokens} {left i stop : Nat}
    (h : t.runStop input left i = .ok stop) : i ≤ stop ∧ stop ≤ i + left := by
  induction left generalizing i with
  | zero =>
    cases Fallible.pure_eq_ok_iff.mp h
    omega
  | succ left ih =>
    obtain ⟨_, _, h⟩ := Fallible.bind_eq_ok_iff.mp h
    obtain ⟨fits, _, h⟩ := Fallible.bind_eq_ok_iff.mp h
    cases fits with
    | true =>
      obtain ⟨hle, hstop⟩ := ih h
      omega
    | false =>
      cases Fallible.pure_eq_ok_iff.mp h
      omega

-- Reading at once reads tokens that are there one by one.
theorem tokens_of_run? {r : Success (List Value)} (h : (t.run? s).Returns ctx (some r)) :
    ∃ values token start next, values ≠ [] ∧ s.offset + values.length ≤ s.input.size ∧
      s.input.stretch s.offset (s.offset + values.length) = .ok values ∧
      (s.consumeAll values).Returns ctx next ∧ s.token = .ok token ∧
      s.map.startOf ctx.maps token s.pos = .ok start ∧
      r = ⟨true, ⟨values, start, next.pos⟩, next, t.runMessage⟩ := by
  obtain ⟨_, stop, hstop, ⟨_, hr⟩ |
    ⟨hne, part, next, token, start, hpart, hnext, htoken, hstart, hr⟩⟩ := run?_returns_iff.mp h
  · cases hr
  · cases hr
    obtain ⟨hle, hbound⟩ := runStop_bounds hstop
    have hstretch := Tokens.stretch_of_slice hpart (by omega) hle
    have hlength := Tokens.length_stretch hstretch
    have hstop : s.offset + part.items.toList.length = stop := by omega
    refine ⟨part.items.toList, token, start, next, ?_, by omega, ?_, hnext, htoken, hstart, rfl⟩
    · exact List.ne_nil_of_length_pos (by omega)
    · rw [hstop]
      exact hstretch

theorem rep_returns_iff {r : Result (List Value)} :
    (t.rep.apply s).Returns ctx r ↔
      (∃ run, (t.run? s).Returns ctx (some run) ∧ r = .ok run) ∨
      ((t.run? s).Returns ctx none ∧
        ∃ m, (s.unexpected t.expected).Returns ctx m ∧ r = .error ⟨false, m⟩) := by
  simp only [TokenParser.rep, returns_bind_iff]
  constructor
  · intro h
    rcases h with ⟨run | _, hrun, h⟩
    · exact .inr ⟨hrun, by simpa only [returns_bind_iff, returns_pure_iff] using h⟩
    · exact .inl ⟨_, hrun, returns_pure_iff.mp h⟩
  · intro h
    rcases h with ⟨run, hrun, rfl⟩ | ⟨hrun, h⟩
    · exact ⟨_, hrun, returns_pure_iff.mpr rfl⟩
    · exact ⟨_, hrun, by simpa only [returns_bind_iff, returns_pure_iff] using h⟩

theorem rep0_returns_iff {r : Result (List Value)} :
    (t.rep0.apply s).Returns ctx r ↔
      (∃ run, (t.run? s).Returns ctx (some run) ∧ r = .ok run) ∨
      ((t.run? s).Returns ctx none ∧ r = .ok ⟨false, ⟨[], s.pos, s.pos⟩, s, t.runMessage⟩) := by
  simp only [TokenParser.rep0, returns_bind_iff]
  constructor
  · intro h
    rcases h with ⟨run | _, hrun, h⟩
    · exact .inr ⟨hrun, returns_pure_iff.mp h⟩
    · exact .inl ⟨_, hrun, returns_pure_iff.mp h⟩
  · intro h
    rcases h with ⟨run, hrun, rfl⟩ | ⟨hrun, rfl⟩
    · exact ⟨_, hrun, returns_pure_iff.mpr rfl⟩
    · exact ⟨_, hrun, returns_pure_iff.mpr rfl⟩

end Parsing.TokenParser
