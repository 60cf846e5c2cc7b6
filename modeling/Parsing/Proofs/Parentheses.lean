import Parsing.Proofs.Keyword
import Parsing.Proofs.Run

namespace Parsing

open Eval Parsing.Parser

-- As long as a run of one character has not ended, the character comes next.
theorem lt_length_takeWhile_iff {c : Char} {cs : List Char} {k : Nat}
    (hk : k ≤ (cs.takeWhile (· == c)).length) :
    k < (cs.takeWhile (· == c)).length ↔ cs[k]? = some c := by
  induction cs generalizing k with
  | nil => simp
  | cons d cs ih =>
    by_cases hd : d = c
    · have hrun : (d :: cs).takeWhile (· == c) = d :: cs.takeWhile (· == c) :=
        List.takeWhile_cons_of_pos (by simp [hd])
      rw [hrun] at hk ⊢
      cases k with
      | zero => simp [hd]
      | succ k => simpa using ih (Nat.le_of_succ_le_succ hk)
    · have hrun : (d :: cs).takeWhile (· == c) = [] := List.takeWhile_cons_of_neg (by simp [hd])
      rw [hrun] at hk ⊢
      obtain rfl : k = 0 := Nat.le_zero.mp hk
      simp [hd]

theorem takeWhile_drop_pos_iff {c : Char} {cs : List Char} {i : Nat} :
    0 < ((cs.drop i).takeWhile (· == c)).length ↔ cs[i]? = some c := by
  rw [lt_length_takeWhile_iff (Nat.zero_le _), List.getElem?_drop, Nat.add_zero]

section Text

variable {ctx : Context} {text : String} {i : Nat} {pos : Position} {c : Char}

-- What there is to be found at a place of a text.
def foundIn (text : String) (i : Nat) : Found :=
  (text.toList[i]?).elim .eof fun c => .text (String.singleton c)

theorem drop_eq_cons (h : text.toList[i]? = some c) :
    text.toList.drop i = c :: text.toList.drop (i + 1) := by
  obtain ⟨hlt, rfl⟩ := List.getElem?_eq_some_iff.mp h
  exact List.drop_eq_getElem_cons hlt

theorem State.unexpected_of_text (ctx : Context) (text : String) (i : Nat) (pos : Position)
    (expected : List Value) :
    ((⟨.ofText text, i, pos, .chars⟩ : State).unexpected expected).Returns ctx
      ⟨i, pos, foundIn text i, expected⟩ := by
  cases hc : text.toList[i]? with
  | none =>
    have hdrop : text.toList.drop i = [] := List.drop_eq_nil_iff.mpr (by simpa using hc)
    rw [foundIn, hc]
    exact unexpected_returns_iff.mpr (.inl ⟨isAtEnd_of_text_end hdrop, rfl⟩)
  | some c =>
    rw [foundIn, hc]
    exact unexpected_of_text_char (drop_eq_cons hc) expected

namespace TokenParser

theorem char_test (c d : Char) : (char (String.singleton d)).test (.char c) = .ok (c == d) := by
  rw [← Value.char_beq_char]
  rfl

theorem char_takes (ctx : Context) (pos : Position) (h : text.toList[i]? = some c)
    (hc : c ≠ '\n') :
    ((char (String.singleton c)).apply ⟨.ofText text, i, pos, .chars⟩).Returns ctx
      (.ok ⟨true, ⟨.char c, pos, pos.nextColumn⟩, ⟨.ofText text, i + 1, pos.nextColumn, .chars⟩,
        .empty⟩) := by
  have hdrop := drop_eq_cons h
  have hfits : (char (String.singleton c)).test (.char c) = .ok true := by simp [char_test]
  have hstop : SourceMap.chars.stopOf ctx.maps (.char c) pos = .ok pos.nextColumn := by
    rw [SourceMap.stopOf_char, if_neg hc]
  exact apply_returns_iff.mpr (.inr ⟨State.isAtEnd_of_text_char hdrop, _, pos, _,
    State.token_of_text_char hdrop, hfits, rfl, hstop, rfl⟩)

theorem char_refuses (ctx : Context) (pos : Position) (h : text.toList[i]? ≠ some c) :
    ((char (String.singleton c)).apply ⟨.ofText text, i, pos, .chars⟩).Returns ctx
      (.error ⟨false, ⟨i, pos, foundIn text i, [.str (String.singleton c)]⟩⟩) := by
  refine apply_returns_iff.mpr (.inl ⟨?_, _, State.unexpected_of_text ctx text i pos _, rfl⟩)
  cases hd : text.toList[i]? with
  | none => exact .inl (State.isAtEnd_of_text_end (List.drop_eq_nil_iff.mpr (by simpa using hd)))
  | some d =>
    have hmisfits : (char (String.singleton c)).test (.char d) = .ok false := by
      have hne : d ≠ c := fun heq => h (heq ▸ hd)
      simpa [char_test] using hne
    have hdrop := drop_eq_cons hd
    exact .inr ⟨State.isAtEnd_of_text_char hdrop, _, State.token_of_text_char hdrop, hmisfits⟩

end TokenParser

end Text

namespace Parser

-- Parentheses around the same again, or nothing. The value says how deep they go.
def parenthesesRule (self : Unit → Parser Nat) (_ : Unit) : Parser Nat :=
  (((TokenParser.char "(").toParser.followedBy (self ())).endedBy
    (TokenParser.char ")").toParser).map (fun depth => depth + 1) <|> Parser.pure 0

def parentheses : Parser Nat := recursive 1 parenthesesRule ()

section Rule

variable {ctx : Context} {text : String} {i j : Nat} {pos stop : Position} {m : Message}
  {depth : Nat} {consumed : Bool} {self : Unit → Parser Nat}

theorem parenthesesRule_gives_nothing (h : text.toList[i]? ≠ some '(') :
    ((parenthesesRule self ()).apply ⟨.ofText text, i, pos, .chars⟩).Returns ctx
      (.ok ⟨false, ⟨0, pos, pos⟩, ⟨.ofText text, i, pos, .chars⟩,
        Message.empty.expecting "("⟩) := by
  have hrefused := TokenParser.char_refuses ctx pos h
  have hopened : (((TokenParser.char "(").toParser.followedBy (self ())).apply _).Returns ctx _ :=
    bind_returns_iff.mpr (.inl ⟨_, hrefused, rfl⟩)
  have hclosed := endedBy_returns_iff (q := (TokenParser.char ")").toParser).mpr
    (.inl ⟨_, hopened, rfl⟩)
  exact orElse_pure_returns_iff.mpr ⟨_, map_returns_iff.mpr ⟨_, hclosed, rfl⟩, rfl⟩

section Opened

variable (h : text.toList[i]? = some '(')
include h

-- Behind an opening parenthesis there is no way back.
theorem parenthesesRule_fails
    (hinner : ((self ()).apply ⟨.ofText text, i + 1, pos.nextColumn, .chars⟩).Returns ctx
      (.error ⟨consumed, m⟩)) :
    ((parenthesesRule self ()).apply ⟨.ofText text, i, pos, .chars⟩).Returns ctx
      (.error ⟨true, m⟩) := by
  have htaken := TokenParser.char_takes ctx pos h (by decide)
  have hopened : (((TokenParser.char "(").toParser.followedBy (self ())).apply _).Returns ctx _ :=
    bind_returns_iff.mpr (.inr ⟨_, _, htaken, hinner, rfl⟩)
  have hclosed := endedBy_returns_iff (q := (TokenParser.char ")").toParser).mpr
    (.inl ⟨_, hopened, rfl⟩)
  exact orElse_pure_returns_iff.mpr ⟨_, map_returns_iff.mpr ⟨_, hclosed, rfl⟩, rfl⟩

variable (hinner : ((self ()).apply ⟨.ofText text, i + 1, pos.nextColumn, .chars⟩).Returns ctx
  (.ok ⟨consumed, ⟨depth, pos.nextColumn, stop⟩, ⟨.ofText text, j, stop, .chars⟩, m⟩))
include hinner

theorem opened_returns :
    (((TokenParser.char "(").toParser.followedBy (self ())).apply
      ⟨.ofText text, i, pos, .chars⟩).Returns ctx
      (.ok ⟨true, ⟨depth, pos, stop⟩, ⟨.ofText text, j, stop, .chars⟩, m⟩) := by
  have htaken := TokenParser.char_takes ctx pos h (by decide)
  exact bind_returns_iff.mpr (.inr ⟨_, _, htaken, hinner, rfl⟩)

theorem parenthesesRule_closes (hclosing : text.toList[j]? = some ')') :
    ((parenthesesRule self ()).apply ⟨.ofText text, i, pos, .chars⟩).Returns ctx
      (.ok ⟨true, ⟨depth + 1, pos, stop.nextColumn⟩,
        ⟨.ofText text, j + 1, stop.nextColumn, .chars⟩, .empty⟩) := by
  have htaken := TokenParser.char_takes ctx stop hclosing (by decide)
  have hclosed := endedBy_returns_iff (q := (TokenParser.char ")").toParser).mpr
    (.inr ⟨_, _, opened_returns h hinner, htaken, rfl⟩)
  exact orElse_pure_returns_iff.mpr ⟨_, map_returns_iff.mpr ⟨_, hclosed, rfl⟩, rfl⟩

theorem parenthesesRule_stays_open (hclosing : text.toList[j]? ≠ some ')') :
    ((parenthesesRule self ()).apply ⟨.ofText text, i, pos, .chars⟩).Returns ctx
      (.error ⟨true, ⟨j, stop, foundIn text j, [")"]⟩⟩) := by
  have hrefused := TokenParser.char_refuses ctx stop hclosing
  have hclosed := endedBy_returns_iff (q := (TokenParser.char ")").toParser).mpr
    (.inr ⟨_, _, opened_returns h hinner, hrefused, rfl⟩)
  exact orElse_pure_returns_iff.mpr ⟨_, map_returns_iff.mpr ⟨_, hclosed, rfl⟩, rfl⟩

end Opened

end Rule

section Nesting

variable {ctx : Context} {text : String} {p : Parser Nat} {self : Unit → Parser Nat}
  {i opened closed depth : Nat} {pos : Position}

theorem forward_nextColumn (pos : Position) (n : Nat) :
    (pos.forward n).nextColumn = pos.forward (n + 1 : Nat) := by
  simp only [Position.forward, Position.nextColumn, Position.mk.injEq, true_and]
  omega

theorem nextColumn_forward (pos : Position) (n : Nat) :
    pos.nextColumn.forward n = pos.forward (n + 1 : Nat) := by
  simp only [Position.forward, Position.nextColumn, Position.mk.injEq, true_and]
  omega

-- `p` reads `opened` parentheses at a place of a text with `closed` closing ones behind these.
-- Where nothing is opened, an opening parenthesis would have been welcome.
structure Nests (p : Parser Nat) (ctx : Context) (text : String) (i : Nat) (pos : Position)
    (opened closed : Nat) : Prop where
  gives : opened ≤ closed → (p.apply ⟨.ofText text, i, pos, .chars⟩).Returns ctx
    (.ok ⟨decide (0 < opened), ⟨opened, pos, pos.forward (2 * opened : Nat)⟩,
      ⟨.ofText text, i + 2 * opened, pos.forward (2 * opened : Nat), .chars⟩,
      { Message.empty with expected := if opened = 0 then ["("] else [] }⟩)
  fails : closed < opened → (p.apply ⟨.ofText text, i, pos, .chars⟩).Returns ctx
    (.error ⟨true, ⟨(i + opened + closed : Nat), pos.forward (opened + closed : Nat),
      foundIn text (i + opened + closed), [")"]⟩⟩)

theorem parenthesesRule_nests_none (h : text.toList[i]? ≠ some '(') :
    (parenthesesRule self ()).Nests ctx text i pos 0 closed where
  gives _ := by
    have hpos : pos.forward (2 * 0 : Nat) = pos := by simp [Position.forward]
    rw [hpos]
    exact parenthesesRule_gives_nothing h
  fails hlt := absurd hlt (Nat.not_lt_zero closed)

-- All levels see the same run of closing parentheses, from which each takes one.
theorem parenthesesRule_nests (h : text.toList[i]? = some '(')
    (hclosed : ((text.toList.drop (i + 1 + opened)).takeWhile (· == ')')).length = closed)
    (hinner : (self ()).Nests ctx text (i + 1) pos.nextColumn opened closed) :
    (parenthesesRule self ()).Nests ctx text i pos (opened + 1) closed := by
  have hclosing (hle : opened ≤ closed) :
      opened < closed ↔ text.toList[i + 1 + 2 * opened]? = some ')' := by
    subst hclosed
    rw [lt_length_takeWhile_iff hle, List.getElem?_drop, Nat.two_mul, ← Nat.add_assoc]
  constructor
  · intro hlt
    have hle := Nat.le_of_succ_le hlt
    have hcloses := parenthesesRule_closes h (hinner.gives hle) ((hclosing hle).mp hlt)
    rw [forward_nextColumn, nextColumn_forward,
      show 2 * opened + 1 + 1 = 2 * (opened + 1) by omega] at hcloses
    rw [show i + 2 * (opened + 1) = i + 1 + 2 * opened + 1 by omega,
      decide_eq_true (Nat.succ_pos opened), if_neg (Nat.succ_ne_zero opened)]
    exact hcloses
  · intro hlt
    rcases Nat.eq_or_lt_of_le (Nat.le_of_lt_succ hlt) with rfl | hlt
    · have hopen := parenthesesRule_stays_open h (hinner.gives (Nat.le_refl closed))
        ((hclosing (Nat.le_refl closed)).not.mp (Nat.lt_irrefl closed))
      rw [nextColumn_forward] at hopen
      rw [show i + (closed + 1) + closed = i + 1 + 2 * closed by omega,
        show closed + 1 + closed = 2 * closed + 1 by omega]
      exact hopen
    · have hfails := parenthesesRule_fails h (hinner.fails hlt)
      rw [nextColumn_forward] at hfails
      rw [show i + (opened + 1) + closed = i + 1 + opened + closed by omega,
        show opened + 1 + closed = opened + closed + 1 by omega]
      exact hfails

-- Every reference to the rule opens one more parenthesis, so that as many references are enough
-- and more of them make no difference.
theorem unroll_nests (ctx : Context) (pos : Position)
    (hopened : ((text.toList.drop i).takeWhile (· == '(')).length = opened)
    (hdepth : opened ≤ depth) :
    (unroll parenthesesRule (depth + 1) ()).Nests ctx text i pos opened
      ((text.toList.drop (i + opened)).takeWhile (· == ')')).length := by
  induction opened generalizing i pos depth with
  | zero =>
    have hnone : text.toList[i]? ≠ some '(' :=
      takeWhile_drop_pos_iff.not.mp (Nat.not_lt.mpr (Nat.le_of_eq hopened))
    exact parenthesesRule_nests_none hnone
  | succ opened ih =>
    obtain ⟨depth, rfl⟩ := Nat.exists_eq_succ_of_ne_zero (Nat.ne_zero_of_lt hdepth)
    have hfirst : text.toList[i]? = some '(' :=
      takeWhile_drop_pos_iff.mp (Nat.lt_of_lt_of_eq (Nat.succ_pos opened) hopened.symm)
    have hrest : ((text.toList.drop (i + 1)).takeWhile (· == '(')).length = opened := by
      rw [drop_eq_cons hfirst, List.takeWhile_cons_of_pos rfl] at hopened
      exact Nat.succ.inj hopened
    rw [← Nat.add_assoc, Nat.add_right_comm]
    exact parenthesesRule_nests hfirst rfl (ih pos.nextColumn hrest (Nat.le_of_succ_le_succ hdepth))

theorem parentheses_apply (s : State) :
    parentheses.apply s = (unroll parenthesesRule (s.remaining + 1) ()).apply s := by
  simp only [parentheses, recursive, Nat.one_mul]

theorem parentheses_nests (ctx : Context) (text : String) :
    let opened := (text.toList.takeWhile (· == '(')).length
    parentheses.Nests ctx text 0 .initial opened
      ((text.toList.drop opened).takeWhile (· == ')')).length := by
  intro opened
  have hdepth : opened ≤ text.length := by
    rw [← String.length_toList]
    exact (List.takeWhile_sublist _).length_le
  have hnests := unroll_nests (i := 0) ctx .initial rfl hdepth
  rw [Nat.zero_add] at hnests
  have hremaining : (⟨.ofText text, 0, .initial, .chars⟩ : State).remaining = text.length := by
    rw [State.remaining, Tokens.size_ofText, Nat.sub_zero]
  have hunrolled := parentheses_apply ⟨.ofText text, 0, .initial, .chars⟩
  rw [hremaining] at hunrolled
  constructor
  · rw [hunrolled]
    exact hnests.gives
  · rw [hunrolled]
    exact hnests.fails

-- With `closed` counted up to `opened`: where all that is opened is closed, the value is how deep
-- it goes; elsewhere the text is refused right behind the parentheses that are closed.
theorem parentheses_nest_to_any_depth (hctx : ctx.tokenizers = Tokenizer.builtin)
    (text : String) :
    let opened := (text.toList.takeWhile (· == '(')).length
    let closed := min opened ((text.toList.drop opened).takeWhile (· == ')')).length
    let run := parentheses.run (.ofText text) none none
    (closed = opened → run.Returns ctx
      (.ok ⟨decide (0 < opened), ⟨opened, .initial, Position.initial.forward (2 * opened : Nat)⟩,
        ⟨.ofText text, 2 * opened, Position.initial.forward (2 * opened : Nat), .chars⟩,
        { Message.empty with expected := if opened = 0 then ["("] else [] }⟩)) ∧
    (closed < opened → run.Returns ctx
      (.error ⟨true, ⟨(opened + closed : Nat), Position.initial.forward (opened + closed : Nat),
        foundIn text (opened + closed), [")"]⟩⟩)) := by
  intro opened closed run
  have hnests := parentheses_nests ctx text
  refine ⟨fun hall => ?_, fun hlt => ?_⟩
  · refine (run_returns_iff (tokenize_text hctx text) nofun).mpr ?_
    have hgives := hnests.gives (Nat.le_trans (Nat.le_of_eq hall.symm) (Nat.min_le_right opened _))
    rw [Nat.zero_add] at hgives
    exact hgives
  · refine (run_returns_iff (tokenize_text hctx text) nofun).mpr ?_
    have hfew := Nat.lt_of_not_le fun hle => Nat.ne_of_lt hlt (Nat.min_eq_left hle)
    have hfails := hnests.fails hfew
    rw [Nat.zero_add, ← Nat.min_eq_right (Nat.le_of_lt hfew)] at hfails
    exact hfails

theorem parentheses_nest_in_texts :
    Context.builtin.tokenizers = Tokenizer.builtin ∧
      (parentheses.run (.ofText "(())") none none).Returns .builtin
        (.ok ⟨true, ⟨2, ⟨0, 0⟩, ⟨0, 4⟩⟩, ⟨.ofText "(())", 4, ⟨0, 4⟩, .chars⟩, .empty⟩) ∧
      (parentheses.run (.ofText "((a)") none none).Returns .builtin
        (.error ⟨true, ⟨2, ⟨0, 2⟩, .text "a", [")"]⟩⟩) ∧
      (parentheses.run (.ofText "(()") none none).Returns .builtin
        (.error ⟨true, ⟨3, ⟨0, 3⟩, .eof, [")"]⟩⟩) :=
  ⟨rfl, (parentheses_nest_to_any_depth rfl "(())").1 (by decide),
    (parentheses_nest_to_any_depth rfl "((a)").2 (by decide),
    (parentheses_nest_to_any_depth rfl "(()").2 (by decide)⟩

end Nesting

end Parser

end Parsing
