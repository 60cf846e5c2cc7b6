import Parsing.Proofs.Faults
import Parsing.Proofs.Stretch
import Parsing.Run

namespace Parsing

open Eval

variable {ctx : Context} {source : Source}

theorem tokenize_result {tokenizer : Tokenizer}
    (h : ctx.tokenizers.find? source.classes = some tokenizer) :
    ((tokenize source).run ctx).result = tokenizer source := by
  rw [tokenize, Eval.run, Eval.ofContext, h]

-- Sources that are token sequences already.
def Source.IsSequence : Source → Prop
  | .value (.str _) | .value (.list _) | .value (.tuple _) | .bytes _ | .range .. => True
  | _ => False

theorem Source.IsSequence.exists_tokens (h : source.IsSequence) :
    ∃ tokens, Tokenizer.asIs source = .ok tokens ∧ tokens.Sliceable ∧
      source.items? = some tokens.items.toList := by
  cases source with
  | value v =>
    cases v with
    | str | list | tuple => exact ⟨_, rfl, trivial, rfl⟩
    | _ => exact h.elim
  | bytes | range => exact ⟨_, rfl, trivial, rfl⟩
  | deque | iterator | generator | mapping | set | document => exact h.elim

-- Only such a source is, as it is, a sequence that can be sliced.
theorem Source.IsSequence.of_asIs {tokens : Tokens} (h : Tokenizer.asIs source = .ok tokens)
    (hsliceable : tokens.Sliceable) : source.IsSequence := by
  cases source with
  | value v =>
    cases v with
    | str | list | tuple => trivial
    | _ => cases h; exact hsliceable.elim
  | bytes | range => trivial
  | deque | iterator | generator | mapping | set | document => cases h; exact hsliceable.elim

section Builtin

variable (hctx : ctx.tokenizers = Tokenizer.builtin)
include hctx

theorem tokenize_builtin_result {tokenizer : Tokenizer}
    (h : Tokenizer.builtin.find? source.classes = some tokenizer) :
    ((tokenize source).run ctx).result = tokenizer source :=
  tokenize_result (hctx ▸ h)

theorem tokenize_sequence {tokens : Tokens} (hsource : source.IsSequence)
    (h : Tokenizer.asIs source = .ok tokens) : (tokenize source).Returns ctx tokens := by
  cases source with
  | value v =>
    cases v with
    | str | list | tuple => exact (tokenize_builtin_result hctx rfl).trans h
    | _ => exact hsource.elim
  | bytes | range => exact (tokenize_builtin_result hctx rfl).trans h
  | deque | iterator | generator | mapping | set | document => exact hsource.elim

theorem tokenize_text (text : String) :
    (tokenize (.ofText text)).Returns ctx (.ofText text) :=
  tokenize_sequence hctx trivial rfl

theorem tokenize_list (items : List Value) :
    (tokenize (.value (.list items))).Returns ctx (.ofList items) :=
  tokenize_sequence hctx trivial rfl

-- Everything else that can be walked through is collected.
theorem tokenize_collected {items : List Value} (hsource : ¬source.IsSequence)
    (hitems : source.items? = some items) : (tokenize source).Returns ctx (.ofTuple items) := by
  cases source with
  | value v =>
    cases v with
    | str | list | tuple => exact (hsource trivial).elim
    | _ => cases hitems
  | bytes | range => exact (hsource trivial).elim
  | document => cases hitems
  | deque | iterator | generator | mapping | set =>
    cases hitems
    exact (tokenize_builtin_result hctx rfl).trans rfl

-- The tokens of a source are its elements in order, and tokens are tokens of themselves.
theorem tokenize_items {items : List Value} (hitems : source.items? = some items) :
    ∃ tokens, (tokenize source).Returns ctx tokens ∧ tokens.Sliceable ∧
      tokens.items.toList = items ∧ ∃ again, Tokenizer.asIs again = .ok tokens := by
  by_cases hsource : source.IsSequence
  · obtain ⟨tokens, htokens, hsliceable, hsome⟩ := hsource.exists_tokens
    have htoList := Option.some.inj (hsome.symm.trans hitems)
    exact ⟨tokens, tokenize_sequence hctx hsource htokens, hsliceable, htoList, source, htokens⟩
  · exact ⟨.ofTuple items, tokenize_collected hctx hsource hitems, trivial, rfl,
      .value (.tuple items), rfl⟩

end Builtin

-- The tokens that a run on a source sees.
def tokensOf (source : Source) : Option Tokenizer → Eval Tokens
  | some tokenizer => liftM (tokenizer source)
  | none => tokenize source

namespace Parser

variable {α β : Type} {p : Parser α} {tokens : Tokens} {map : SourceMap} {r : Result α}

theorem run_eq (p : Parser α) (source : Source) (tokenizer : Option Tokenizer)
    (map : Option SourceMap) :
    p.run source tokenizer map = tokensOf source tokenizer >>= fun tokens =>
      p.runOn tokens (map.getD (SourceMap.forTokens tokens)) := by
  cases tokenizer <;> rfl

-- The records of a run can always be made, so that they change nothing about what is returned.
theorem record_ok_bind_returns_iff {record : Record} {x : Eval β} {b : β} :
    (Eval.record (.ok record) >>= fun _ => x).Returns ctx b ↔ x.Returns ctx b := by
  have hrecord : (Eval.record (.ok record)).Returns ctx () := by
    rw [Returns, Eval.run, Eval.record.eq_def]
    split <;> rfl
  exact ⟨Returns.of_record, fun h => returns_bind_iff.mpr ⟨(), hrecord, h⟩⟩

theorem runOn_returns_iff :
    (p.runOn tokens map).Returns ctx r ↔
      tokens.form ≠ .unsized ∧ (p.apply (.start tokens map)).Returns ctx r := by
  constructor
  · intro h
    obtain ⟨size, hsize, h⟩ := returns_bind_iff.mp h
    obtain ⟨result, hresult, h⟩ := returns_bind_iff.mp (record_ok_bind_returns_iff.mp h)
    have hr : r = result := by
      cases result with
      | ok s => exact returns_pure_iff.mp (Returns.of_record h)
      | error e => exact returns_pure_iff.mp (Returns.of_record h)
    subst hr
    exact ⟨(Tokens.length_eq_ok_iff.mp hsize).1, hresult⟩
  · rintro ⟨hform, h⟩
    refine returns_bind_iff.mpr ⟨tokens.size, Tokens.length_eq_ok_iff.mpr ⟨hform, rfl⟩, ?_⟩
    refine record_ok_bind_returns_iff.mpr (returns_bind_iff.mpr ⟨r, h, ?_⟩)
    cases r with
    | ok s => exact record_ok_bind_returns_iff.mpr (returns_pure_iff.mpr rfl)
    | error e => exact record_ok_bind_returns_iff.mpr (returns_pure_iff.mpr rfl)

-- A run with the default settings is a run on the tokens of the source.
theorem run_result (htokens : (tokenize source).Returns ctx tokens) :
    ((p.run source none none).run ctx).result =
      ((p.runOn tokens (SourceMap.forTokens tokens)).run ctx).result := by
  rw [run, bind_result, htokens]
  rfl

theorem run_returns_iff (htokens : (tokenize source).Returns ctx tokens)
    (hform : tokens.form ≠ .unsized) :
    (p.run source none none).Returns ctx r ↔
      (p.apply (.start tokens (SourceMap.forTokens tokens))).Returns ctx r := by
  rw [Returns, run_result htokens]
  exact runOn_returns_iff.trans (and_iff_right hform)

end Parser

end Parsing
