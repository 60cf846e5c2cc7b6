import Parsing.Characters
import Parsing.Proofs.Correspondence.Grammar
import Parsing.Proofs.Run

namespace Parsing

open Eval Parsing.Parser

-- Sources that hold `items` one after the other. Characters can make up a text where the map that
-- is registered for texts measures them as it measures a text.
inductive Source.Presents (maps : Registry SourceMap) : Source → List Value → Prop
  | list (items : List Value) : Presents maps (.value (.list items)) items
  | tuple (items : List Value) : Presents maps (.value (.tuple items)) items
  | deque (items : List Value) : Presents maps (.deque items) items
  | iterator (items : List Value) : Presents maps (.iterator items) items
  | generator (items : List Value) : Presents maps (.generator items) items
  | text (s : String) (hstr : maps.entries.lookup "str" = some .chars) :
      Presents maps (.ofText s) (s.toList.map Value.char)

-- Results that differ at most in the sequence and the map that their states go on with.
inductive Result.SameOutcome : Result α → Result α → Prop
  | ok {r r' : Success α} : r.consumed = r'.consumed → r.value = r'.value →
      r.state.offset = r'.state.offset → r.state.pos = r'.state.pos → r.message = r'.message →
      SameOutcome (.ok r) (.ok r')
  | error (e : Failure) : SameOutcome (.error e) (.error e)

variable {ctx : Context} {d : Dialect} {α : Type} {p : Parser α} {a b : Source}
  {items : List Value}

-- Each character of a text is measured by class as the text is.
theorem SourceMap.resolve_char {maps : Registry SourceMap}
    (hstr : maps.entries.lookup "str" = some .chars) (c : Char) :
    SourceMap.byClass.resolve maps (.char c) = .ok .chars := by
  have hfind : maps.find? (Value.char c).classes = some .chars := by
    rw [Registry.find?, Value.char, Value.classes, List.findSome?_cons, hstr]
  rw [resolve, hfind]
  rfl

-- What a run on such a source works with: the tokens, under a map that measures them by class.
theorem Source.Presents.exists_tokens (hctx : ctx.tokenizers = Tokenizer.builtin)
    (h : a.Presents ctx.maps items) :
    ∃ tokens, (tokenize a).Returns ctx tokens ∧ tokens.Sliceable ∧ tokens.items.toList = items ∧
      ∀ token ∈ items, (SourceMap.forTokens tokens).resolve ctx.maps token =
        SourceMap.byClass.resolve ctx.maps token := by
  cases h with
  | list => exact ⟨_, tokenize_list hctx items, trivial, rfl, fun _ _ => rfl⟩
  | tuple =>
    exact ⟨.ofTuple items, tokenize_sequence hctx trivial rfl, trivial, rfl, fun _ _ => rfl⟩
  | deque | iterator | generator =>
    exact ⟨_, tokenize_collected hctx id rfl, trivial, rfl, fun _ _ => rfl⟩
  | text s hstr =>
    refine ⟨_, tokenize_text hctx s, trivial, rfl, fun token hmem => ?_⟩
    obtain ⟨c, _, rfl⟩ := List.mem_map.mp hmem
    exact (SourceMap.resolve_char hstr c).symm

theorem Pairing.runOn_agree {P : Pairing} (hp : P.Respected p) (hfront : P.front = 0) :
    P.Agree P.Results (p.runOn P.input P.map) (p.runOn P.input' P.map') := by
  have hstart : P.States (.start P.input P.map) (.start P.input' P.map') := by
    have h := States.mk (P := P) 0 .initial
    rw [hfront] at h
    exact h
  refine .bind (.liftM P.shifted.length_agree) fun _ _ _ => ?_
  refine .bind (.record P.debug_eq (.ok trivial)) fun _ _ _ => .bind (hp hstart) fun r r' hr => ?_
  obtain ⟨hr⟩ | ⟨he⟩ := hr
  · exact .bind (.record P.debug_eq (.ok trivial)) fun _ _ _ => .pure (.ok hr)
  · exact .bind (.record P.debug_eq (.ok trivial)) fun _ _ _ => .pure (.error he)

theorem Pairing.Results.sameOutcome {P : Pairing} {r r' : Result α} (hfront : P.front = 0)
    (h : P.Results r r') : r.SameOutcome r' := by
  obtain ⟨⟨⟨offset, pos⟩⟩⟩ | ⟨@⟨consumed, m⟩⟩ := h
  · refine .ok rfl rfl ?_ rfl rfl
    rw [hfront, Nat.zero_add]
  · have hshift : m.shift P.front = m := by
      rw [hfront, Message.shift, Int.natCast_zero, Int.zero_add]
    rw [hshift]
    exact .error _

-- A run with the default settings ends in the same fault or with the same outcome on all sources of
-- the same tokens. The tokens of a source are its elements in order, and taking tokens for a source
-- gives the same tokens again.
theorem Grammar.run_depends_on_tokens_only (hp : Grammar d p)
    (hctx : ctx.tokenizers = Tokenizer.builtin) :
    (∀ {items a b}, a.Presents ctx.maps items → b.Presents ctx.maps items →
      Agree ctx Result.SameOutcome (p.run a none none) (p.run b none none)) ∧
    ∀ {source items}, source.items? = some items →
      ∃ tokens, (tokenize source).Returns ctx tokens ∧ tokens.items.toList = items ∧
        (∃ again, Tokenizer.asIs again = .ok tokens) ∧
        ∀ again, Tokenizer.asIs again = .ok tokens → (tokenize again).Returns ctx tokens := by
  constructor
  · intro items a b ha hb
    obtain ⟨tokens, htokens, hsliceable, rfl, hmap⟩ := ha.exists_tokens hctx
    obtain ⟨tokens', htokens', hsliceable', hitems, hmap'⟩ := hb.exists_tokens hctx
    have hshifted : tokens.Shifted 0 tokens' :=
      ⟨hsliceable, hsliceable', Nat.zero_le _, hitems.symm⟩
    have hagree : ∀ token ∈ tokens'.items, (SourceMap.forTokens tokens).resolve ctx.maps token =
        (SourceMap.forTokens tokens').resolve ctx.maps token := by
      intro token hmem
      have hmem : token ∈ tokens.items.toList := hitems ▸ Array.mem_toList_iff.mpr hmem
      exact (hmap token hmem).trans (hmap' token hmem).symm
    let P : Pairing := .within ctx _ _ hshifted hagree
    rw [Agree, run_result htokens, run_result htokens']
    exact (Pairing.runOn_agree (hp.respected P) rfl).imp fun _ _ h => h.sameOutcome rfl
  · intro source items hitems
    obtain ⟨tokens, htokens, hsliceable, heq, hagain⟩ := tokenize_items hctx hitems
    exact ⟨tokens, htokens, heq, hagain, fun again h =>
      tokenize_sequence hctx (.of_asIs h hsliceable) h⟩

-- A text and something that yields its characters one by one.
theorem Grammar.run_depends_on_tokens_only_of_text :
    let p := TokenParser.letter.rep.withPosition.named "word"
    let text : Source := .ofText "ab1"
    let characters : Source := .generator [.str "a", .str "b", .str "1"]
    let items : List Value := [.str "a", .str "b", .str "1"]
    Grammar .full p ∧ Context.builtin.tokenizers = Tokenizer.builtin ∧
      text.Presents Context.builtin.maps items ∧ characters.Presents Context.builtin.maps items ∧
      text.items? = some items ∧
      Agree .builtin Result.SameOutcome (p.run text none none) (p.run characters none none) ∧
      ∃ tokens, (tokenize text).Returns .builtin tokens ∧ tokens.items.toList = items ∧
        (∃ again, Tokenizer.asIs again = .ok tokens) ∧
        ∀ again, Tokenizer.asIs again = .ok tokens → (tokenize again).Returns .builtin tokens := by
  intro p text characters items
  have hp : Grammar .full p := .named _ (.withPosition (.tokenRep _))
  have htext : text.Presents Context.builtin.maps items := .text "ab1" rfl
  have hcharacters : characters.Presents Context.builtin.maps items := .generator items
  have hctx : Context.builtin.tokenizers = Tokenizer.builtin := rfl
  have h := hp.run_depends_on_tokens_only hctx
  exact ⟨hp, hctx, htext, hcharacters, rfl, h.1 htext hcharacters, h.2 rfl⟩

end Parsing
