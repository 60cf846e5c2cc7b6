import Parsing.Proofs.Logging.Combinators
import Parsing.Proofs.Logging.Erasure
import Parsing.Proofs.Run

namespace Parsing

open Eval Parsing.Parser

variable {ctx : Context} {source : Source}

theorem tokensOf_discreet (source : Source) (tokenizer : Option Tokenizer) :
    (tokensOf source tokenizer).Discreet fun _ => True := by
  cases tokenizer with
  | some tokenizer => exact .liftM fun _ _ => trivial
  | none => exact .ofContext (fun _ => rfl) fun _ _ _ => trivial

namespace Parser

variable {α : Type} {p q : Parser α} {tokenizer : Option Tokenizer} {map : Option SourceMap}

theorem Discreet.runOn (h : p.Discreet) (tokens : Tokens) (map : SourceMap) :
    (p.runOn tokens map).Discreet fun _ => True := by
  refine .bind (.liftM fun _ _ => trivial) fun length _ => .bind (.record rfl) fun _ _ => ?_
  refine .bind (h _) fun r _ => ?_
  cases r with
  | ok r => exact .bind (.record rfl) fun _ _ => .pure trivial
  | error e => exact .bind (.record rfl) fun _ _ => .pure trivial

theorem Discreet.run (h : p.Discreet) (source : Source) (tokenizer : Option Tokenizer)
    (map : Option SourceMap) : (p.run source tokenizer map).Discreet fun _ => True := by
  rw [run_eq]
  exact .bind (tokensOf_discreet source tokenizer) fun tokens _ => h.runOn tokens _

theorem RefinedBy.run {r : Result α} (h : p.RefinedBy ctx q)
    (htokens : ∀ tokens, (tokensOf source tokenizer).Returns ctx tokens →
      tokens.form ≠ .unsized → tokens.Sliceable)
    (hr : (p.run source tokenizer map).Returns ctx r) :
    (q.run source tokenizer map).Returns ctx r := by
  rw [run_eq] at hr ⊢
  obtain ⟨tokens, hmade, hr⟩ := returns_bind_iff.mp hr
  obtain ⟨hform, hr⟩ := runOn_returns_iff.mp hr
  have hstart : (State.start tokens (map.getD (SourceMap.forTokens tokens))).Readable :=
    ⟨htokens tokens hmade hform, Nat.zero_le _⟩
  exact returns_bind_iff.mpr ⟨tokens, hmade, runOn_returns_iff.mpr ⟨hform, h hstart hr⟩⟩

end Parser

variable {α : Type} {p q : Parser α}

end Parsing
