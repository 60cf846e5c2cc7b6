import Parsing.Proofs.Correspondence.Grammar

namespace Parsing

open Eval

inductive State.Shifted (n : Nat) : State → State → Prop
  | mk {input input' offset pos map} : input.Shifted n input' →
      Shifted n ⟨input, n + offset, pos, map⟩ ⟨input', offset, pos, map⟩

-- The message of a success counts from nowhere, and is the same.
inductive Success.Shifted (n : Nat) : Success α → Success α → Prop
  | mk {consumed value s s' m} : s.Shifted n s' →
      Shifted n ⟨consumed, value, s, m⟩ ⟨consumed, value, s', m⟩

inductive Failure.Shifted (n : Nat) : Failure → Failure → Prop
  | mk {consumed m} : Shifted n ⟨consumed, m.shift n⟩ ⟨consumed, m⟩

inductive Result.Shifted (n : Nat) : Result α → Result α → Prop
  | ok : Success.Shifted n r r' → Shifted n (.ok r) (.ok r')
  | error : Failure.Shifted n e e' → Shifted n (.error e) (.error e')

-- Tokens in front of those that remain are not seen, but counted.
def Parser.Local (p : Parser α) : Prop :=
  ∀ ⦃n ctx s s'⦄, State.Shifted n s s' →
    Agree ctx (Result.Shifted n) (p.apply s) (p.apply s')

variable {d : Dialect} {α : Type} {p : Parser α}

theorem Grammar.isLocal (hp : Grammar d p) : p.Local := by
  intro n ctx s s' h
  obtain @⟨_, _, offset, pos, map, hinput⟩ := h
  let P : Pairing := .within ctx map map hinput fun _ _ => rfl
  refine (hp.respected P (.mk offset pos)).imp ?_
  rintro _ _ (⟨⟨⟨_, _⟩⟩⟩ | ⟨⟨⟩⟩)
  · exact .ok ⟨⟨hinput⟩⟩
  · exact .error ⟨⟩

-- With tokens in front of those that remain, a grammar ends in the same fault or in the same result
-- as without them, but for the offsets of the state behind a success and of the message of a failure:
-- these are greater by the number of tokens in front.
theorem Grammar.sees_only_remaining (hp : Grammar d p) {whole rest : Tokens}
    (hwhole : whole.Sliceable) (hrest : rest.Sliceable) {front : List Value}
    (hitems : whole.items.toList = front ++ rest.items.toList) (ctx : Context) (map : SourceMap)
    (j : Nat) (pos : Position) :
    Agree ctx (Result.Shifted front.length) (p.apply ⟨whole, front.length + j, pos, map⟩)
      (p.apply ⟨rest, j, pos, map⟩) := by
  have hle : front.length ≤ whole.size := by
    rw [Tokens.size, ← Array.length_toList, hitems, List.length_append]
    exact Nat.le_add_right _ _
  have hinput : whole.Shifted front.length rest :=
    ⟨hwhole, hrest, hle, by rw [hitems, List.drop_left]⟩
  exact hp.isLocal ⟨hinput⟩

-- A run of letters that is rejected is reported where it starts, whatever comes before it.
theorem Grammar.sees_only_remaining_of_text :
    let p := TokenParser.letter.rep.filter fun _ => .ok false
    let whole : Tokens := .ofText "1ab"
    let rest : Tokens := .ofText "ab"
    Grammar .full p ∧ whole.Sliceable ∧ rest.Sliceable ∧
      whole.items.toList = [.str "1"] ++ rest.items.toList ∧
      Agree .builtin (Result.Shifted 1) (p.apply ⟨whole, 1, .initial, .chars⟩)
        (p.apply ⟨rest, 0, .initial, .chars⟩) := by
  intro p whole rest
  have hp : Grammar .full p := .filter _ rfl (.tokenRep _)
  have hwhole : whole.Sliceable := trivial
  have hrest : rest.Sliceable := trivial
  have hitems : whole.items.toList = [.str "1"] ++ rest.items.toList := rfl
  exact ⟨hp, hwhole, hrest, hitems,
    hp.sees_only_remaining hwhole hrest hitems .builtin .chars 0 .initial⟩

end Parsing
