import Parsing.Proofs.Span

namespace Parsing

open Eval

variable {d : Dialect} {ctx : Context} {α : Type} {s here : State} {m : Message} {e : Failure}

namespace State

-- What is expected has no part in the rest of the message.
theorem unexpected_relabel {expected : List Value} (h : (s.unexpected expected).Returns ctx m)
    (labels : List Value) :
    (s.unexpected labels).Returns ctx { m with expected := labels } := by
  rw [unexpected_returns_iff] at h ⊢
  obtain ⟨hatEnd, rfl⟩ | ⟨hatEnd, token, start, text, htoken, hstart, htext, rfl⟩ := h
  · exact .inl ⟨hatEnd, rfl⟩
  · exact .inr ⟨hatEnd, token, start, text, htoken, hstart, htext, rfl⟩

theorem offset_of_unexpected {expected : List Value} (h : (s.unexpected expected).Returns ctx m) :
    m.offset = s.offset := by
  obtain ⟨_, rfl⟩ | ⟨_, _, _, _, _, _, _, rfl⟩ := unexpected_returns_iff.mp h
  · rfl
  · rfl

-- The end of the input is reported behind the last token and nowhere else.
theorem found_eq_eof_iff {expected : List Value} (h : (s.unexpected expected).Returns ctx m) :
    m.found = .eof ↔ s.input.size ≤ s.offset := by
  obtain ⟨hatEnd, rfl⟩ | ⟨hatEnd, _, _, _, _, _, _, rfl⟩ := unexpected_returns_iff.mp h
  · simpa using (isAtEnd_eq_ok_iff.mp hatEnd).2
  · simpa using (isAtEnd_eq_ok_iff.mp hatEnd).2

end State

-- The message is that of the place which the run from `s` has come to.
def Message.PointsFrom (ctx : Context) (s : State) (m : Message) : Prop :=
  ∃ here, s.Reaches ctx here ∧ (here.unexpected m.expected).Returns ctx m

namespace Message.PointsFrom

theorem of_unexpected {expected : List Value} (hs : s.offset ≤ s.input.size)
    (h : (s.unexpected expected).Returns ctx m) : m.PointsFrom ctx s :=
  ⟨s, .refl hs, State.unexpected_relabel h m.expected⟩

theorem relabel (h : m.PointsFrom ctx s) (labels : List Value) :
    Message.PointsFrom ctx s { m with expected := labels } := by
  obtain ⟨here, hreaches, hm⟩ := h
  exact ⟨here, hreaches, State.unexpected_relabel hm labels⟩

theorem behind (h : m.PointsFrom ctx here) (hreaches : s.Reaches ctx here) :
    m.PointsFrom ctx s := by
  obtain ⟨place, hplace, hm⟩ := h
  exact ⟨place, hreaches.trans hplace, hm⟩

end Message.PointsFrom

-- The failure lies in what was left of the input at `s`, and not at `s` itself if it consumed.
structure Failure.Lies (s : State) (e : Failure) : Prop where
  offset_le : s.offset ≤ e.message.offset
  offset_le_size : e.message.offset ≤ s.input.size
  lt_of_consumed : e.consumed = true → s.offset < e.message.offset

namespace Failure.Lies

theorem at_start (hs : s.offset ≤ s.input.size) (h : m.offset = s.offset) :
    Lies s ⟨false, m⟩ where
  offset_le := Int.le_of_eq h.symm
  offset_le_size := by
    rw [h]
    exact Int.ofNat_le.mpr hs
  lt_of_consumed := nofun

theorem andThen {first : Success α} (h : first.Spans ctx s) (h' : e.Lies first.state) :
    Lies s { e with consumed := first.consumed || e.consumed } := by
  have hfirst := h.reaches.offset_le
  have hnext := h'.offset_le
  refine ⟨by simp only; omega, ?_, fun hconsumed => ?_⟩
  · rw [← h.reaches.input_eq]
    exact h'.offset_le_size
  · obtain hconsumed | hconsumed := Bool.or_eq_true_iff.mp hconsumed
    · have := h.lt_of_consumed hconsumed
      simp only
      omega
    · have := h'.lt_of_consumed hconsumed
      simp only
      omega

end Failure.Lies

-- Where a failure lies is said of every dialect, what stands there only of those that reject
-- nothing but single tokens.
def Result.Placed (d : Dialect) (ctx : Context) (s : State) : Result α → Prop
  | .ok _ => True
  | .error e => e.Lies s ∧ (d.rejection = false → e.message.PointsFrom ctx s)

namespace Invariant

-- A failure behind a success starts from what the success spans, so that spans are carried along.
def failure (d : Dialect) (ctx : Context) : Invariant d ctx where
  admits := (span d ctx).admits
  holds s r := (span d ctx).holds s r ∧ r.Placed d ctx s
  admits_next hs h := (span d ctx).admits_next hs h.1
  stay hs := ⟨(span d ctx).stay hs, trivial⟩
  refuse hs hm := ⟨trivial, .at_start hs (State.offset_of_unexpected hm), fun _ => .of_unexpected hs hm⟩
  run hs hne hsize hstretch hnext htoken hstart :=
    ⟨(span d ctx).run hs hne hsize hstretch hnext htoken hstart, trivial⟩
  relabel {s r} labels hs h := by
    refine ⟨(span d ctx).relabel labels hs h.1, ?_⟩
    cases r with
    | ok r => trivial
    | error e =>
      obtain ⟨_, hlies, hpoints⟩ := h
      exact ⟨⟨hlies.offset_le, hlies.offset_le_size, hlies.lt_of_consumed⟩,
        fun hd => (hpoints hd).relabel labels⟩
  bind {s first next} hs h hnext := by
    refine ⟨(span d ctx).bind hs h.1 hnext.1, ?_⟩
    cases next with
    | ok next => trivial
    | error e =>
      obtain ⟨_, hlies, hpoints⟩ := hnext
      exact ⟨hlies.andThen h.1, fun hd => (hpoints hd).behind h.1.reaches⟩
  backtrack {s r} hd hs h := by
    refine ⟨(span d ctx).backtrack hd hs h.1, ?_⟩
    cases r with
    | ok r => trivial
    | error e =>
      obtain ⟨_, hlies, hpoints⟩ := h
      exact ⟨⟨hlies.offset_le, hlies.offset_le_size, nofun⟩, hpoints⟩
  reject hd hs _ :=
    ⟨trivial, .at_start hs rfl, fun hnone => absurd (hd.symm.trans hnone) (by decide)⟩

end Invariant

-- `m` is the message of the place that is reached by reading `tokens` from `s` on: of the token that
-- stands at `here`, or of the end of the input if none does.
structure Message.PointsAt (ctx : Context) (s : State) (tokens : List Value) (here : State)
    (m : Message) : Prop where
  stretch_eq : s.input.stretch s.offset here.offset = .ok tokens
  consumeAll : (s.consumeAll tokens).Returns ctx here
  unexpected : (here.unexpected m.expected).Returns ctx m
  offset_eq : m.offset = here.offset
  found_eof_iff : m.found = .eof ↔ m.offset = s.input.size
  token_eq : m.offset ≠ s.input.size → ∃ token text, s.input.get here.offset = .ok token ∧
    s.map.startOf ctx.maps token here.pos = .ok m.pos ∧ token.text = .ok text ∧
    m.found = .text text

theorem Message.PointsFrom.exists_pointsAt (h : m.PointsFrom ctx s) :
    ∃ tokens here, m.PointsAt ctx s tokens here := by
  obtain ⟨here, hreaches, hm⟩ := h
  obtain ⟨tokens, hstretch, hconsume⟩ := hreaches.consumeAll_returns
  have hinput := hreaches.input_eq
  have hmap := hreaches.map_eq
  have hsize := hreaches.offset_le_size
  have hoffset := State.offset_of_unexpected hm
  refine ⟨tokens, here, hstretch, hconsume, hm, hoffset, ?_, fun hne => ?_⟩
  · rw [State.found_eq_eof_iff hm, hinput, hoffset]
    omega
  · obtain ⟨hatEnd, _⟩ | ⟨_, token, start, text, htoken, hstart, htext, hm⟩ :=
      State.unexpected_returns_iff.mp hm
    · have hend := of_decide_eq_true (State.isAtEnd_eq_ok_iff.mp hatEnd).2.symm
      rw [hinput] at hend
      omega
    · rw [State.token, hinput] at htoken
      rw [hmap] at hstart
      rw [hm]
      exact ⟨token, text, htoken, hstart, htext, rfl⟩

-- Every failure of a grammar lies in what was left of the input, past the start if it consumed. If
-- only single tokens are rejected, the message is the one of the token that stands there.
theorem Grammar.failure_points_at_token {p : Parser α} (hp : Grammar d p)
    (hs : s.offset ≤ s.input.size) (h : (p.apply s).Returns ctx (.error e)) :
    e.Lies s ∧
      (d.rejection = false → ∃ tokens here, e.message.PointsAt ctx s tokens here) := by
  obtain ⟨_, hlies, hpoints⟩ := (Invariant.failure d ctx).sound hp hs h
  exact ⟨hlies, fun hd => (hpoints hd).exists_pointsAt⟩

-- Behind a token that was read and given back, the failure points past it without consuming.
theorem Grammar.failure_points_at_token_behind_backtrack :
    let s : State := .start (.ofList [.int 1, .int 2]) .chars
    let p := TokenParser.any.toParser.backtrack.followedBy (TokenParser.equalTo (.int 1)).toParser
    let e : Failure := ⟨false, ⟨1, ⟨0, 1⟩, .text "2", [.int 1]⟩⟩
    Grammar ⟨true, false⟩ p ∧ s.offset ≤ s.input.size ∧ (p.apply s).Returns .builtin (.error e) ∧
      e.Lies s ∧ ∃ tokens here, e.message.PointsAt .builtin s tokens here := by
  intro s p e
  have hp : Grammar ⟨true, false⟩ p := .followedBy (.backtrack rfl (.token _)) (.token _)
  have hs : s.offset ≤ s.input.size := by decide
  have he : (p.apply s).Returns .builtin (.error e) := rfl
  obtain ⟨hlies, hpoints⟩ := hp.failure_points_at_token hs he
  exact ⟨hp, hs, he, hlies, hpoints rfl⟩

end Parsing
