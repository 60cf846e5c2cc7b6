import Parsing.Proofs.Failure
import Parsing.Proofs.Repetition.Ending
import Parsing.Proofs.Run
import Parsing.Proofs.TextPosition

namespace Parsing

open Eval Parsing.Parser

-- Tokens that lie in a text one after the other: the `i`-th one from the place `a i` to the place
-- `b i`.
structure LaidOut (text : String) (tokens : List (Parsed α)) (a b : Nat → Nat) : Prop where
  start_eq : ∀ i (h : i < tokens.length), tokens[i].start = lineColumn text (a i)
  stop_eq : ∀ i (h : i < tokens.length), tokens[i].stop = lineColumn text (b i)
  le : ∀ i < tokens.length, a i ≤ b i
  le_next : ∀ i, i + 1 < tokens.length → b i ≤ a (i + 1)
  le_length : ∀ i < tokens.length, b i ≤ text.length

-- The numbers of a sequence with one more in front.
def behindFirst (first : Nat) (rest : Nat → Nat) : Nat → Nat
  | 0 => first
  | i + 1 => rest i

namespace LaidOut

variable {text : String} {token : Parsed α} {tokens : List (Parsed α)} {a b : Nat → Nat}
  {start stop : Nat}

theorem nil (a b : Nat → Nat) : LaidOut text ([] : List (Parsed α)) a b :=
  ⟨nofun, nofun, nofun, nofun, nofun⟩

theorem cons (hstart : token.start = lineColumn text start)
    (hstop : token.stop = lineColumn text stop) (hle : start ≤ stop) (hlength : stop ≤ text.length)
    (h : LaidOut text tokens a b) (hnext : ∀ i < tokens.length, stop ≤ a i) :
    LaidOut text (token :: tokens) (behindFirst start a) (behindFirst stop b) where
  start_eq i hi := by
    cases i with
    | zero => exact hstart
    | succ i => exact h.start_eq i (Nat.lt_of_succ_lt_succ hi)
  stop_eq i hi := by
    cases i with
    | zero => exact hstop
    | succ i => exact h.stop_eq i (Nat.lt_of_succ_lt_succ hi)
  le i hi := by
    cases i with
    | zero => exact hle
    | succ i => exact h.le i (Nat.lt_of_succ_lt_succ hi)
  le_next i hi := by
    cases i with
    | zero => exact hnext 0 (Nat.lt_of_succ_lt_succ hi)
    | succ i => exact h.le_next i (Nat.lt_of_succ_lt_succ hi)
  le_length i hi := by
    cases i with
    | zero => exact hlength
    | succ i => exact h.le_length i (Nat.lt_of_succ_lt_succ hi)

end LaidOut

section FirstPass

variable {d d' : Dialect} {ctx : Context} {text : String} {s last : State} {α β : Type}
  {tok : Parser α} {skip : Parser β}

theorem Grammar.next_inText {p : Parser α} {r : Success α} (hp : Grammar d p) (hs : s.InText text)
    (h : (p.apply s).Returns ctx (.ok r)) : r.state.InText text ∧ s.offset ≤ r.state.offset :=
  ⟨(hp.success_inText hs h).state,
    (hp.reaches_of_ok (hs.size_eq ▸ hs.offset_le) h).1.offset_le⟩

-- A token starts where the tokens and blanks before it end, and keeps the span it was read from.
theorem Grammar.token_inText {r : Success (Parsed α)} (htok : Grammar d tok)
    (hskip : Grammar d' skip) (hs : s.InText text)
    (h : ((tok.withPosition.surroundedBy skip).apply s).Returns ctx (.ok r)) :
    ∃ start stop, r.value.value.start = lineColumn text start ∧
      r.value.value.stop = lineColumn text stop ∧ s.offset ≤ start ∧ start ≤ stop ∧
      stop ≤ r.state.offset ∧ r.state.InText text := by
  obtain ⟨opened, inner, closed, hopened, hinner, hclosed, hvalue, hstate⟩ := between_returns_ok h
  obtain ⟨hopenedText, hopenedLe⟩ := hskip.next_inText hs hopened
  obtain ⟨hstart, hstop, _⟩ := htok.span_inText hopenedText hinner
  obtain ⟨hinnerText, hinnerLe⟩ := htok.withPosition.next_inText hopenedText hinner
  obtain ⟨hclosedText, hclosedLe⟩ := hskip.next_inText hinnerText hclosed
  rw [hvalue, hstate]
  exact ⟨opened.state.offset, inner.state.offset, hstart, hstop, hopenedLe, hinnerLe, hclosedLe,
    hclosedText⟩

theorem Grammar.exists_laidOut {tokens : List (Parsed α)} (htok : Grammar d tok)
    (hskip : Grammar d' skip) (hs : s.InText text)
    (h : Collects (tok.withPosition.surroundedBy skip) ctx s tokens last) :
    ∃ a b, LaidOut text tokens a b ∧ ∀ i < tokens.length, s.offset ≤ a i := by
  induction h with
  | nil => exact ⟨id, id, .nil id id, nofun⟩
  | cons hr _ ih =>
    obtain ⟨start, stop, hstart, hstop, hbefore, hle, hbehind, hnext⟩ :=
      htok.token_inText hskip hs hr
    obtain ⟨a, b, hlaid, hfrom⟩ := ih hnext
    have hlength := Nat.le_trans hbehind hnext.offset_le
    refine ⟨_, _, .cons hstart hstop hle hlength hlaid fun i hi => ?_, fun i hi => ?_⟩
    · exact Nat.le_trans hbehind (hfrom i hi)
    · cases i with
      | zero => exact hbefore
      | succ i =>
        have hrest := hfrom i (Nat.lt_of_succ_lt_succ hi)
        have hnextLe : start ≤ _ := Nat.le_trans hle hbehind
        exact Nat.le_trans hbefore (Nat.le_trans hnextLe hrest)

end FirstPass

section SecondPass

variable {ctx : Context} {α : Type} [ToValue α] {tokens : List (Parsed α)} {next : State}

-- The state at the first of some tokens that keep their spans.
def State.startOn (tokens : List (Parsed α)) : State :=
  .start (.ofList (tokens.map toValue)) .byClass

theorem State.sliceable_startOn (tokens : List (Parsed α)) : (startOn tokens).input.Sliceable :=
  trivial

theorem State.size_startOn (tokens : List (Parsed α)) :
    (startOn tokens).input.size = tokens.length := by
  simp [startOn, State.start, Tokens.ofList, Tokens.size]

theorem State.get_startOn {i : Nat} {v : Value} (h : (startOn tokens).input.get i = .ok v)
    (hi : i < tokens.length) : v = toValue tokens[i] := by
  have hget : (startOn tokens).input.get i = .ok (toValue tokens[i]) := by
    rw [(sliceable_startOn tokens).get_eq_getElem?]
    simp [startOn, State.start, Tokens.ofList, hi]
  exact Except.ok.inj (h.symm.trans hget)

variable (hmaps : ctx.maps.entries.lookup "Parsed" = some .spans)
include hmaps

theorem SourceMap.resolve_spanned (token : Parsed α) :
    SourceMap.byClass.resolve ctx.maps (toValue token) = .ok .spans := by
  have hfind : ctx.maps.find? (toValue token).classes = some .spans := by
    change ["Parsed", "object"].findSome? (fun name => ctx.maps.entries.lookup name) = _
    rw [List.findSome?_cons, hmaps]
  rw [SourceMap.resolve, hfind]
  rfl

theorem SourceMap.startOf_spanned (token : Parsed α) (pos : Position) :
    SourceMap.byClass.startOf ctx.maps (toValue token) pos = .ok token.start := by
  rw [SourceMap.startOf, resolve_spanned hmaps]
  rfl

theorem SourceMap.stopOf_spanned (token : Parsed α) (pos : Position) :
    SourceMap.byClass.stopOf ctx.maps (toValue token) pos = .ok token.stop := by
  rw [SourceMap.stopOf, resolve_spanned hmaps]
  rfl

-- Where the last token ends does not depend on those before it.
theorem SourceMap.stopAfter_spanned (tokens : List (Parsed α)) (last : Parsed α) (pos : Position) :
    SourceMap.byClass.stopAfter ctx.maps ((tokens ++ [last]).map toValue) pos = .ok last.stop := by
  induction tokens generalizing pos with
  | nil =>
    rw [List.nil_append, List.map_singleton, stopAfter, List.foldlM_cons, stopOf_spanned hmaps]
    rfl
  | cons token tokens ih =>
    rw [List.cons_append, List.map_cons, stopAfter, List.foldlM_cons, stopOf_spanned hmaps]
    exact ih token.stop

-- Behind a token, the position is the one where that token ends.
theorem State.Reaches.pos_eq_stop (h : (State.startOn tokens).Reaches ctx next) {i : Nat}
    (hoffset : next.offset = i + 1) :
    ∃ hi : i < tokens.length, next.pos = tokens[i].stop := by
  have hsize := h.offset_le_size
  rw [State.size_startOn, hoffset] at hsize
  refine ⟨hsize, ?_⟩
  obtain ⟨values, hstretch, hstop⟩ := h.pos_eq
  have hvalues : values = (tokens.take (i + 1)).map toValue := by
    rw [(State.sliceable_startOn tokens).stretch_eq h.offset_le_size, hoffset] at hstretch
    rw [← Except.ok.inj hstretch]
    simp [State.startOn, State.start, Tokens.ofList]
  rw [hvalues, List.take_add_one, List.getElem?_eq_getElem hsize, Option.toList_some] at hstop
  exact Except.ok.inj (hstop.symm.trans (SourceMap.stopAfter_spanned hmaps _ _ _))

-- A failure is reported where the token starts that it points at, and behind all tokens where the
-- last one ends.
theorem Message.PointsFrom.pos_eq {m : Message} (h : m.PointsFrom ctx (State.startOn tokens))
    (hne : tokens ≠ []) :
    ∃ k : Nat, m.offset = k ∧ ((∃ hk : k < tokens.length, m.pos = tokens[k].start) ∨
      (k = tokens.length ∧ m.found = .eof ∧
        ∃ hlast : k - 1 < tokens.length, m.pos = tokens[k - 1].stop)) := by
  obtain ⟨here, hreaches, hm⟩ := h
  have hinput := hreaches.input_eq
  have hle := hreaches.offset_le_size
  rw [State.size_startOn] at hle
  refine ⟨here.offset, State.offset_of_unexpected hm, ?_⟩
  obtain ⟨hatEnd, hm⟩ | ⟨hatEnd, token, start, text, htoken, hstart, _, hm⟩ :=
    State.unexpected_returns_iff.mp hm
  · have hend := of_decide_eq_true (State.isAtEnd_eq_ok_iff.mp hatEnd).2.symm
    rw [hinput, State.size_startOn] at hend
    have hpos := List.length_pos_iff.mpr hne
    rw [hm]
    exact .inr ⟨by omega, rfl, hreaches.pos_eq_stop hmaps (by omega)⟩
  · have hlt := of_decide_eq_false (State.isAtEnd_eq_ok_iff.mp hatEnd).2.symm
    rw [hinput, State.size_startOn, Nat.not_le] at hlt
    rw [State.token, hinput] at htoken
    rw [hreaches.map_eq, State.get_startOn htoken hlt] at hstart
    have hspanned := SourceMap.startOf_spanned hmaps tokens[here.offset] here.pos
    rw [hm]
    exact .inl ⟨hlt, Except.ok.inj (hstart.symm.trans hspanned)⟩

end SecondPass

section Pipeline

variable {d d' : Dialect} {ctx : Context} {text : String} {α β γ : Type} [ToValue α]
  {tok : Parser α} {skip : Parser β} {p : Parser γ} {tokens : List (Parsed α)}

theorem Parser.run_tokens_returns {r : Result γ} (hctx : ctx.tokenizers = Tokenizer.builtin)
    (h : (p.run (.value (toValue tokens)) none none).Returns ctx r) :
    (p.apply (.startOn tokens)).Returns ctx r :=
  (run_returns_iff (tokenize_list hctx _) nofun).mp h

-- Tokens that a first pass over a text gives lie in the text one after the other. A second pass
-- over them, if it rejects nothing but single tokens, comes to where the last token that it has read
-- ends in the text, and fails where the token that it points at starts there.
theorem Grammar.pipeline_keeps_positions {r : Success (List (Parsed α))} (htok : Grammar d tok)
    (hskip : Grammar d' skip) (hctx : ctx.tokenizers = Tokenizer.builtin)
    (hmaps : ctx.maps.entries.lookup "Parsed" = some .spans)
    (h : ((tok.withPosition.surroundedBy skip).rep.run (.ofText text) none none).Returns ctx
      (.ok r)) :
    ∃ a b, LaidOut text r.value.value a b ∧
      ∀ {γ : Type} {second : Dialect} {p : Parser γ}, Grammar second p → second.rejection = false →
        (∀ r', (p.run (.value (toValue r.value.value)) none none).Returns ctx (.ok r') →
          r'.state.offset ≤ r.value.value.length ∧
            (0 < r'.state.offset →
              r'.state.pos = lineColumn text (b (r'.state.offset - 1)))) ∧
        ∀ e, (p.run (.value (toValue r.value.value)) none none).Returns ctx (.error e) →
          ∃ k : Nat, e.message.offset = k ∧
            ((k < r.value.value.length ∧ e.message.pos = lineColumn text (a k)) ∨
              (k = r.value.value.length ∧ e.message.pos = lineColumn text (b (k - 1)) ∧
                e.message.found = .eof)) := by
  have hrep := (run_returns_iff (tokenize_text hctx text) nofun).mp h
  obtain ⟨hne, hcollects⟩ := collects_of_rep hrep
  obtain ⟨a, b, hlaid, _⟩ := htok.exists_laidOut hskip (.start text) hcollects
  refine ⟨a, b, hlaid, fun {γ second p} hp hrejection => ⟨fun r' hr' => ?_, fun e he => ?_⟩⟩
  · have hreaches := (hp.reaches_of_ok (Nat.zero_le _) (run_tokens_returns hctx hr')).1
    have hle := hreaches.offset_le_size
    rw [State.size_startOn] at hle
    refine ⟨hle, fun hpos => ?_⟩
    obtain ⟨i, hi⟩ := Nat.exists_eq_succ_of_ne_zero (Nat.ne_of_gt hpos)
    obtain ⟨hlt, hstop⟩ := hreaches.pos_eq_stop hmaps hi
    rw [hstop, hlaid.stop_eq i hlt, hi]
    rfl
  · obtain ⟨_, _, hpoints⟩ :=
      (Invariant.failure second ctx).sound hp (Nat.zero_le _) (run_tokens_returns hctx he)
    obtain ⟨k, hk, ⟨hlt, hstart⟩ | ⟨hend, hfound, hlast, hstop⟩⟩ :=
      (hpoints hrejection).pos_eq hmaps hne
    · exact ⟨k, hk, .inl ⟨hlt, hstart.trans (hlaid.start_eq k hlt)⟩⟩
    · exact ⟨k, hk, .inr ⟨hend, hstop.trans (hlaid.stop_eq (k - 1) hlast), hfound⟩⟩

-- Two words on two lines: a second pass that expects a third one fails where the second one ends.
theorem Grammar.pipeline_keeps_positions_of_lines :
    let tok := (TokenParser.equalTo "a").toParser.orElse (TokenParser.equalTo "b").toParser
    let skip := (TokenParser.anyOf " \n").rep0
    let r : Success (List (Parsed Value)) :=
      ⟨true, ⟨[⟨.str "a", ⟨0, 0⟩, ⟨0, 1⟩⟩, ⟨.str "b", ⟨1, 1⟩, ⟨1, 2⟩⟩], ⟨0, 0⟩, ⟨1, 2⟩⟩,
        ⟨.ofText "a\n b", 4, ⟨1, 2⟩, .chars⟩, { Message.empty with expected := ["a", "b"] }⟩
    let any := TokenParser.any.toParser
    let p := (any.followedBy any).followedBy any
    let e : Failure := ⟨true, ⟨2, ⟨1, 2⟩, .eof, []⟩⟩
    Grammar .full tok ∧ Grammar .full skip ∧ Context.builtin.tokenizers = Tokenizer.builtin ∧
      Context.builtin.maps.entries.lookup "Parsed" = some .spans ∧
      ((tok.withPosition.surroundedBy skip).rep.run (.ofText "a\n b") none none).Returns .builtin
        (.ok r) ∧
      Grammar ⟨true, false⟩ p ∧
      (p.run (.value (toValue r.value.value)) none none).Returns .builtin (.error e) ∧
      ∃ a b, LaidOut "a\n b" r.value.value a b ∧ ∃ k : Nat, e.message.offset = k ∧
        ((k < r.value.value.length ∧ e.message.pos = lineColumn "a\n b" (a k)) ∨
          (k = r.value.value.length ∧ e.message.pos = lineColumn "a\n b" (b (k - 1)) ∧
            e.message.found = .eof)) := by
  intro tok skip r any p e
  have htok : Grammar .full tok := .orElse (.token _) (.token _)
  have hskip : Grammar .full skip := .tokenRep0 _
  have hrep : ((tok.withPosition.surroundedBy skip).rep.run (.ofText "a\n b") none none).Returns
      .builtin (.ok r) :=
    (run_returns_iff (tokenize_text rfl _) nofun).mpr (rep_returns_iff.mpr ⟨[_, _], _,
      .more rfl (.inl rfl) (.more rfl (.inl rfl) (.stop rfl)), rfl⟩)
  have hp : Grammar ⟨true, false⟩ p := .followedBy (.followedBy (.token _) (.token _)) (.token _)
  have he : (p.run (.value (toValue r.value.value)) none none).Returns .builtin (.error e) := rfl
  obtain ⟨a, b, hlaid, hsecond⟩ := htok.pipeline_keeps_positions hskip rfl rfl hrep
  exact ⟨htok, hskip, rfl, rfl, hrep, hp, he, a, b, hlaid, (hsecond hp rfl).2 e he⟩

end Pipeline

end Parsing
