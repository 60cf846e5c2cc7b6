import Parsing.Proofs.Invariant.Grammar

namespace Parsing

open Eval

variable {ctx : Context} {α : Type} {s next last : State}

theorem SourceMap.stopAfter_append {maps : Registry SourceMap} {map : SourceMap}
    {vs : List Value} {pos middle : Position} (h : map.stopAfter maps vs pos = .ok middle)
    (ws : List Value) : map.stopAfter maps (vs ++ ws) pos = map.stopAfter maps ws middle := by
  rw [stopAfter, List.foldlM_append]
  change map.stopAfter maps vs pos >>= map.stopAfter maps ws = _
  rw [h, Fallible.ok_bind]

namespace State

-- `next` is `s` after some more of the input has been read.
structure Reaches (ctx : Context) (s next : State) : Prop where
  input_eq : next.input = s.input
  map_eq : next.map = s.map
  offset_le : s.offset ≤ next.offset
  offset_le_size : next.offset ≤ s.input.size
  pos_eq : ∃ tokens, s.input.stretch s.offset next.offset = .ok tokens ∧
    s.map.stopAfter ctx.maps tokens s.pos = .ok next.pos

namespace Reaches

theorem refl (hs : s.offset ≤ s.input.size) : s.Reaches ctx s where
  input_eq := rfl
  map_eq := rfl
  offset_le := Nat.le_refl _
  offset_le_size := hs
  pos_eq := ⟨[], Tokens.stretch_self _ _, rfl⟩

theorem trans (h : s.Reaches ctx next) (h' : next.Reaches ctx last) : s.Reaches ctx last := by
  obtain ⟨read, hread, hmiddle⟩ := h.pos_eq
  obtain ⟨more, hmore, hstop⟩ := h'.pos_eq
  rw [h.input_eq] at hmore
  rw [h.map_eq] at hstop
  constructor
  · rw [h'.input_eq, h.input_eq]
  · rw [h'.map_eq, h.map_eq]
  · exact Nat.le_trans h.offset_le h'.offset_le
  · rw [← h.input_eq]
    exact h'.offset_le_size
  · exact ⟨read ++ more, Tokens.stretch_append hread hmore h.offset_le h'.offset_le,
      (SourceMap.stopAfter_append hmiddle more).trans hstop⟩

theorem bounded (h : s.Reaches ctx next) : next.offset ≤ next.input.size := by
  rw [h.input_eq]
  exact h.offset_le_size

-- Where nothing has been read, nothing has changed.
theorem eq_of_offset_eq (h : s.Reaches ctx next) (hoffset : next.offset = s.offset) : next = s := by
  obtain ⟨tokens, hstretch, hstop⟩ := h.pos_eq
  have hinput := h.input_eq
  have hmap := h.map_eq
  rw [hoffset, Tokens.stretch_self] at hstretch
  cases hstretch
  have hpos : next.pos = s.pos := (Except.ok.inj hstop).symm
  obtain ⟨input, offset, pos, map⟩ := next
  simp only at hinput hoffset hpos hmap
  rw [hinput, hoffset, hpos, hmap]

theorem of_consumeAll {values : List Value} (hsize : s.offset + values.length ≤ s.input.size)
    (hstretch : s.input.stretch s.offset (s.offset + values.length) = .ok values)
    (h : (s.consumeAll values).Returns ctx next) : s.Reaches ctx next := by
  obtain ⟨pos, hpos, rfl⟩ := State.consumeAll_returns_iff.mp h
  exact ⟨rfl, rfl, Nat.le_add_right _ _, hsize, values, hstretch, hpos⟩

theorem consumeAll_returns (h : s.Reaches ctx next) :
    ∃ tokens, s.input.stretch s.offset next.offset = .ok tokens ∧
      (s.consumeAll tokens).Returns ctx next := by
  obtain ⟨tokens, hstretch, hstop⟩ := h.pos_eq
  have hlength := Tokens.length_stretch hstretch
  have hle := h.offset_le
  refine ⟨tokens, hstretch, State.consumeAll_returns_iff.mpr ⟨next.pos, hstop, ?_⟩⟩
  obtain ⟨input, offset, pos, map⟩ := next
  obtain rfl : input = s.input := h.input_eq
  obtain rfl : map = s.map := h.map_eq
  simp only at hle hlength
  simp only [State.mk.injEq, true_and, and_true]
  omega

end Reaches

end State

-- The success has read the stretch of the input between `s` and its own state, and spans it. The
-- span starts where the first token starts, or where the token before it ended.
structure Success.Spans (ctx : Context) (s : State) (r : Success α) : Prop where
  reaches : s.Reaches ctx r.state
  lt_of_consumed : r.consumed = true → s.offset < r.state.offset
  start_eq : r.value.start = s.pos ∨ ∃ token, s.token = .ok token ∧
    s.map.startOf ctx.maps token s.pos = .ok r.value.start
  stop_eq : r.value.stop = r.state.pos
  message_eq : r.message = { Message.empty with expected := r.message.expected }

namespace Success.Spans

theorem stay (a : α) (hs : s.offset ≤ s.input.size) :
    Spans ctx s ⟨false, ⟨a, s.pos, s.pos⟩, s, .empty⟩ where
  reaches := .refl hs
  lt_of_consumed := nofun
  start_eq := .inl rfl
  stop_eq := rfl
  message_eq := rfl

theorem andThen {first : Success α} {second : Success β} (h : first.Spans ctx s)
    (h' : second.Spans ctx first.state) :
    Spans ctx s { second with
      consumed := first.consumed || second.consumed
      value := second.value.withStart first.value.start } where
  reaches := h.reaches.trans h'.reaches
  lt_of_consumed := by
    intro hconsumed
    have hfirst := h.reaches.offset_le
    have hsecond := h'.reaches.offset_le
    obtain hconsumed | hconsumed := Bool.or_eq_true_iff.mp hconsumed
    · exact Nat.lt_of_lt_of_le (h.lt_of_consumed hconsumed) hsecond
    · exact Nat.lt_of_le_of_lt hfirst (h'.lt_of_consumed hconsumed)
  start_eq := h.start_eq
  stop_eq := h'.stop_eq
  message_eq := h'.message_eq

end Success.Spans

namespace Invariant

variable {d : Dialect}

-- Whatever a run gives back, it succeeds only with what it has read.
def span (d : Dialect) (ctx : Context) : Invariant d ctx where
  admits s := s.offset ≤ s.input.size
  holds
    | s, .ok r => r.Spans ctx s
    | _, .error _ => True
  admits_next _ h := by
    rw [h.reaches.input_eq]
    exact h.reaches.offset_le_size
  stay hs := .stay () hs
  refuse _ _ := trivial
  run {s values token start next} _ hne hsize hstretch hnext htoken hstart := by
    have hreaches := State.Reaches.of_consumeAll hsize hstretch hnext
    refine ⟨hreaches, fun _ => ?_, .inr ⟨token, htoken, hstart⟩, rfl, rfl⟩
    obtain ⟨pos, _, rfl⟩ := State.consumeAll_returns_iff.mp hnext
    exact Nat.lt_add_of_pos_right (List.length_pos_iff.mpr hne)
  relabel {s r} labels _ h := by
    cases r with
    | error e => trivial
    | ok r =>
      refine ⟨h.reaches, h.lt_of_consumed, h.start_eq, h.stop_eq, ?_⟩
      rw [h.message_eq]
  bind {s first next} _ h hnext := by
    cases next with
    | ok next => exact h.andThen hnext
    | error e => trivial
  backtrack {s r} _ _ h := by
    cases r with
    | error e => trivial
    | ok r => exact ⟨h.reaches, nofun, h.start_eq, h.stop_eq, h.message_eq⟩
  reject _ _ _ := trivial

end Invariant

-- Every success of a grammar spans the stretch of the input that it has read.
theorem Grammar.success_spans {d : Dialect} {p : Parser α} {r : Success α} (hp : Grammar d p)
    (hs : s.offset ≤ s.input.size) (h : (p.apply s).Returns ctx (.ok r)) : r.Spans ctx s := by
  have hheld := (Invariant.span d ctx).sound hp hs h
  exact ⟨hheld.reaches, hheld.lt_of_consumed, hheld.start_eq, hheld.stop_eq, hheld.message_eq⟩

theorem Grammar.success_spans_second :
    let s : State := ⟨.ofList [.int 1, .int 2], 1, ⟨0, 1⟩, .chars⟩
    let p := TokenParser.any.toParser.backtrack
    let r : Success Value := ⟨false, ⟨.int 2, ⟨0, 1⟩, ⟨0, 2⟩⟩,
      { s with offset := 2, pos := ⟨0, 2⟩ }, .empty⟩
    Grammar .full p ∧ s.offset ≤ s.input.size ∧ (p.apply s).Returns .builtin (.ok r) ∧
      r.Spans .builtin s := by
  intro s p r
  have hp : Grammar .full p := .backtrack rfl (.token _)
  have hs : s.offset ≤ s.input.size := by decide
  have hr : (p.apply s).Returns .builtin (.ok r) := rfl
  exact ⟨hp, hs, hr, hp.success_spans hs hr⟩

end Parsing
