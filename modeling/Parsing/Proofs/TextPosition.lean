import Mathlib.Data.Nat.Find
import Parsing.Proofs.Invariant.Grammar

namespace Parsing

open Eval Parsing.Parser

-- Where the line of the place behind `k` characters starts: right behind the last line end before
-- that place, or at the start of the text.
def lineStart (text : String) (k : Nat) : Nat :=
  Nat.findGreatest (fun i => i = 0 ∨ text.toList[i - 1]? = some '\n') k

-- The line ends before the place behind `k` characters, and the characters since the last of them.
def lineColumn (text : String) (k : Nat) : Position :=
  ⟨(text.toList.take k).count '\n', (k - lineStart text k : Nat)⟩

section LineColumn

variable {text : String} {k : Nat} {c : Char}

@[simp] theorem lineColumn_zero (text : String) : lineColumn text 0 = .initial := by
  simp [lineColumn, lineStart, Position.initial]

theorem lineStart_le (text : String) (k : Nat) : lineStart text k ≤ k := Nat.findGreatest_le k

theorem lineStart_succ (h : text.toList[k]? = some c) :
    lineStart text (k + 1) = if c = '\n' then k + 1 else lineStart text k := by
  rw [lineStart, Nat.findGreatest_succ]
  simp [h, lineStart]

-- A line end leads to the next line, any other character to the next column.
theorem lineColumn_succ (h : text.toList[k]? = some c) :
    lineColumn text (k + 1) =
      if c = '\n' then (lineColumn text k).nextLine else (lineColumn text k).nextColumn := by
  have htake : text.toList.take (k + 1) = text.toList.take k ++ [c] := by
    rw [List.take_add_one, h, Option.toList_some]
  have hle := lineStart_le text k
  unfold lineColumn
  rw [htake, List.count_append, lineStart_succ h]
  by_cases hc : c = '\n'
  · simp [hc, Position.nextLine]
  · simp only [if_neg hc, Position.nextColumn, List.count_singleton, beq_iff_eq, Nat.add_zero,
      Position.mk.injEq, true_and]
    omega

example : lineColumn "a\n\nbc" 4 = ⟨2, 1⟩ := by decide

end LineColumn

section Characters

variable {text : String} {a b : Nat} {maps : Registry SourceMap}

theorem Value.char_beq_char (c d : Char) : (Value.char c == .char d) = (c == d) := by
  rw [Bool.eq_iff_iff, Value.char, Value.char, Value.beq_str_iff, beq_iff_eq, Value.str.injEq,
    String.singleton_inj]

theorem SourceMap.stopOf_char (c : Char) (pos : Position) :
    SourceMap.chars.stopOf maps (.char c) pos =
      .ok (if c = '\n' then pos.nextLine else pos.nextColumn) := by
  change Except.ok (if Value.char c == .char '\n' then _ else _) = _
  simp only [Value.char_beq_char, beq_iff_eq]

namespace Tokens

@[simp] theorem size_ofText (text : String) : (ofText text).size = text.length := by
  simp [size, ofText, String.length_toList]

theorem sliceable_ofText (text : String) : (ofText text).Sliceable := trivial

theorem get_ofText {i : Nat} {v : Value} (h : (ofText text).get i = .ok v) :
    ∃ c, text.toList[i]? = some c ∧ v = .char c := by
  rw [(sliceable_ofText text).get_eq_getElem?] at h
  cases hc : text.toList[i]? with
  | none => simp [ofText, hc] at h
  | some c =>
    refine ⟨c, rfl, ?_⟩
    simpa [ofText, hc, eq_comm] using h

end Tokens

-- Reading on in a text goes from the line and column of one place to those of the other.
theorem SourceMap.stopAfter_of_text {values : List Value}
    (h : (Tokens.ofText text).stretch a (a + values.length) = .ok values) :
    SourceMap.chars.stopAfter maps values (lineColumn text a) =
      .ok (lineColumn text (a + values.length)) := by
  induction values generalizing a with
  | nil => rfl
  | cons v vs ih =>
    rw [List.length_cons, ← Nat.add_assoc, Nat.add_right_comm] at h ⊢
    obtain ⟨v', rest, hv, hrest, heq⟩ := (Tokens.stretch_eq_cons_iff (by omega)).mp h
    obtain ⟨rfl, rfl⟩ := List.cons.inj heq
    obtain ⟨c, hc, rfl⟩ := Tokens.get_ofText hv
    rw [← ih hrest, lineColumn_succ hc, stopAfter, List.foldlM_cons, stopOf_char]
    rfl

end Characters

-- A place in a text: the position is the line and column of the offset.
structure State.InText (text : String) (s : State) : Prop where
  input_eq : s.input = .ofText text
  map_eq : s.map = .chars
  offset_le : s.offset ≤ text.length
  pos_eq : s.pos = lineColumn text s.offset

namespace State.InText

variable {text : String} {ctx : Context} {s next : State}

theorem start (text : String) : State.InText text (.start (.ofText text) .chars) where
  input_eq := rfl
  map_eq := rfl
  offset_le := Nat.zero_le _
  pos_eq := (lineColumn_zero text).symm

theorem size_eq (h : s.InText text) : s.input.size = text.length := by
  rw [h.input_eq, Tokens.size_ofText]

-- In a text, a token starts where the one before it ended.
theorem startOf_eq (h : s.InText text) (token : Value) :
    s.map.startOf ctx.maps token s.pos = .ok s.pos := by
  rw [h.map_eq]
  rfl

theorem consumeAll {values : List Value} (h : s.InText text)
    (hsize : s.offset + values.length ≤ s.input.size)
    (hstretch : s.input.stretch s.offset (s.offset + values.length) = .ok values)
    (hnext : (s.consumeAll values).Returns ctx next) : next.InText text := by
  obtain ⟨pos, hpos, rfl⟩ := State.consumeAll_returns_iff.mp hnext
  rw [h.input_eq] at hstretch
  rw [h.map_eq, h.pos_eq, SourceMap.stopAfter_of_text hstretch] at hpos
  exact ⟨h.input_eq, h.map_eq, h.size_eq ▸ hsize, (Except.ok.inj hpos).symm⟩

theorem unexpected {expected : List Value} {m : Message} (h : s.InText text)
    (hm : (s.unexpected expected).Returns ctx m) : m.offset = s.offset ∧ m.pos = s.pos := by
  obtain ⟨_, rfl⟩ | ⟨_, token, start, shown, _, hstart, _, rfl⟩ :=
    State.unexpected_returns_iff.mp hm
  · exact ⟨rfl, rfl⟩
  · rw [h.startOf_eq token] at hstart
    exact ⟨rfl, (Except.ok.inj hstart).symm⟩

end State.InText

-- The success spans from `s` to its own place in the text.
structure Success.InText (text : String) (s : State) (r : Success α) : Prop where
  start_eq : r.value.start = s.pos
  stop_eq : r.value.stop = r.state.pos
  state : r.state.InText text

-- The failure lies at the line and column of its offset.
def Failure.InText (text : String) (e : Failure) : Prop :=
  ∃ k ≤ text.length, e.message.offset = k ∧ e.message.pos = lineColumn text k

theorem Failure.InText.at_start {text : String} {s : State} {m : Message} (hs : s.InText text)
    (hoffset : m.offset = s.offset) (hpos : m.pos = s.pos) : InText text ⟨false, m⟩ :=
  ⟨s.offset, hs.offset_le, hoffset, hpos.trans hs.pos_eq⟩

def Result.InText (text : String) (s : State) : Result α → Prop
  | .ok r => r.InText text s
  | .error e => e.InText text

namespace Invariant

-- A rejected value is reported where it starts, and that is where its parser started.
def textual (text : String) (d : Dialect) (ctx : Context) : Invariant d ctx where
  admits := State.InText text
  holds := Result.InText text
  admits_next _ h := h.state
  stay hs := ⟨rfl, rfl, hs⟩
  refuse hs hm := .at_start hs (hs.unexpected hm).1 (hs.unexpected hm).2
  run {s values token start next} hs _ hsize hstretch hnext _ hstart := by
    rw [hs.startOf_eq token] at hstart
    exact ⟨(Except.ok.inj hstart).symm, rfl, hs.consumeAll hsize hstretch hnext⟩
  relabel {s r} labels _ h := by
    cases r with
    | ok r => exact ⟨h.start_eq, h.stop_eq, h.state⟩
    | error e => exact h
  bind {s first next} _ h hnext := by
    cases next with
    | ok next => exact ⟨h.start_eq, hnext.stop_eq, hnext.state⟩
    | error e => exact hnext
  backtrack {s r} _ _ h := by
    cases r with
    | ok r => exact ⟨h.start_eq, h.stop_eq, h.state⟩
    | error e => exact h
  reject _ hs h := .at_start hs rfl h.start_eq

end Invariant

section Grammar

variable {d : Dialect} {ctx : Context} {text : String} {s : State} {α : Type} {p : Parser α}

theorem Grammar.success_inText {r : Success α} (hp : Grammar d p) (hs : s.InText text)
    (h : (p.apply s).Returns ctx (.ok r)) : r.InText text s := by
  have hheld := (Invariant.textual text d ctx).sound hp hs h
  exact ⟨hheld.start_eq, hheld.stop_eq, hheld.state⟩

-- The span that is kept with a value is the one that it was read from.
theorem Grammar.span_inText {r : Success (Parsed α)} (hp : Grammar d p) (hs : s.InText text)
    (h : (p.withPosition.apply s).Returns ctx (.ok r)) :
    r.value.value.start = lineColumn text s.offset ∧
      r.value.value.stop = lineColumn text r.state.offset ∧ r.state.InText text := by
  obtain ⟨e, _, hr⟩ | ⟨r₀, hr₀, hr⟩ := withPosition_returns_iff.mp h
  · cases hr
  · cases hr
    have hheld := hp.success_inText hs hr₀
    exact ⟨hheld.start_eq.trans hs.pos_eq, hheld.stop_eq.trans hheld.state.pos_eq, hheld.state⟩

-- From any place in a text, a grammar succeeds with a span from there to the place that it leads
-- to, and fails at the line and column of the offset that it names. A value that is kept with its
-- span starts where its run started and ends where its run ended.
theorem Grammar.positions_exact_in_text (hp : Grammar d p) (hs : s.InText text) :
    (∀ r, (p.apply s).Returns ctx (.ok r) → r.value.start = lineColumn text s.offset ∧
      r.value.stop = r.state.pos ∧ r.state.pos = lineColumn text r.state.offset ∧
      r.state.InText text) ∧
    (∀ e, (p.apply s).Returns ctx (.error e) →
      ∃ k ≤ text.length, e.message.offset = k ∧ e.message.pos = lineColumn text k) ∧
    ∀ r, (p.withPosition.apply s).Returns ctx (.ok r) →
      r.value.value.start = lineColumn text s.offset ∧
        r.value.value.stop = lineColumn text r.state.offset := by
  refine ⟨fun r hr => ?_, fun e he => (Invariant.textual text d ctx).sound hp hs he, fun r hr => ?_⟩
  · have hheld := hp.success_inText hs hr
    exact ⟨hheld.start_eq.trans hs.pos_eq, hheld.stop_eq, hheld.state.pos_eq, hheld.state⟩
  · obtain ⟨hstart, hstop, _⟩ := hp.span_inText hs hr
    exact ⟨hstart, hstop⟩

-- Three characters that end with a line end are kept with their span. Three with the line end among
-- them are rejected for the last one, and reported where the first one starts.
theorem Grammar.positions_exact_of_rejected :
    let s : State := .start (.ofText "ab\nc") .chars
    let later : State := { s with offset := 1, pos := ⟨0, 1⟩ }
    let next : State := { s with offset := 3, pos := ⟨1, 0⟩ }
    let any := TokenParser.any.toParser
    let p := ((any.followedBy any).followedBy any).filter fun v => .ok (v != "c")
    let r : Success Value := ⟨true, ⟨"\n", ⟨0, 0⟩, ⟨1, 0⟩⟩, next, .empty⟩
    let kept : Success (Parsed Value) := ⟨true, ⟨r.value, ⟨0, 0⟩, ⟨1, 0⟩⟩, next, .empty⟩
    let e : Failure := ⟨false, ⟨1, ⟨0, 1⟩, .text "c", []⟩⟩
    Grammar .full p ∧ s.InText "ab\nc" ∧ later.InText "ab\nc" ∧
      ((p.apply s).Returns .builtin (.ok r) ∧ r.value.start = lineColumn "ab\nc" 0 ∧
        r.value.stop = next.pos ∧ next.pos = lineColumn "ab\nc" 3) ∧
      ((p.withPosition.apply s).Returns .builtin (.ok kept) ∧
        kept.value.value.start = lineColumn "ab\nc" 0 ∧
        kept.value.value.stop = lineColumn "ab\nc" 3) ∧
      (p.apply later).Returns .builtin (.error e) ∧
      ∃ k ≤ "ab\nc".length, e.message.offset = k ∧ e.message.pos = lineColumn "ab\nc" k := by
  intro s later next any p r kept e
  have hp : Grammar .full p :=
    .filter _ rfl (.followedBy (.followedBy (.token _) (.token _)) (.token _))
  have hs : s.InText "ab\nc" := ⟨rfl, rfl, by decide, by decide⟩
  have hlater : later.InText "ab\nc" := ⟨rfl, rfl, by decide, by decide⟩
  have hr : (p.apply s).Returns .builtin (.ok r) := rfl
  have hkept : (p.withPosition.apply s).Returns .builtin (.ok kept) := rfl
  have he : (p.apply later).Returns .builtin (.error e) := rfl
  obtain ⟨hok, _, hspan⟩ := hp.positions_exact_in_text hs
  obtain ⟨hstart, hstop, hpos, _⟩ := hok r hr
  obtain ⟨_, herror, _⟩ := hp.positions_exact_in_text hlater
  exact ⟨hp, hs, hlater, ⟨hr, hstart, hstop, hpos⟩, ⟨hkept, hspan kept hkept⟩, he, herror e he⟩

end Grammar

end Parsing
