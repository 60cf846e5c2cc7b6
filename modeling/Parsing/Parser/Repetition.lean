import Parsing.Parser.Choice
import Parsing.Parser.Sequence

namespace Parsing.Parser

-- One pass of the loop: the successes so far (latest first) and the state behind them lead to one
-- more success or to the failure that ends the loop. A success that neither consumed nor moved
-- would be repeated forever.
def repeatOnce (p : Parser α) : List (Success α) × State →
    Eval ((List (Success α) × State) ⊕ (List (Success α) × Failure))
  | (found, s) => do
    match ← p.apply s with
    | .error e => return .inr (found, e)
    | .ok r =>
      if !r.consumed && r.state.offset == s.offset then throw (.stuckRepetition p.shown)
      return .inl (r :: found, r.state)

-- The successes of `p` from `s` on, latest first, and the failure that ended them.
def successes (p : Parser α) (s : State) : Eval (List (Success α) × Failure) :=
  Eval.iterate p.repeatOnce ([], s)

-- The end of a repetition seen from one of its successes on: whether anything from there on
-- consumed input, the successes that are kept (latest first), the state behind them and the
-- message.
structure Ending (α : Type) where
  consumed : Bool
  kept : List (Success α)
  state : State
  message : Message

-- Goes back over the successes, latest first. If nothing from a success on consumed input, the
-- empty list is taken in its place, right where the success before it stopped.
def unwind : List (Success α) → Ending α → Ending α
  | [], e => e
  | r :: earlier, e =>
    let consumed := r.consumed || e.consumed
    match earlier with
    | [] => { e with consumed }
    | before :: _ =>
      if consumed then unwind earlier { e with consumed }
      else unwind earlier ⟨false, earlier, before.state, Message.empty.mergeExpected e.message⟩

-- The list of the successes that are kept of `last` and those before it, ended by the message of
-- `e`.
def gathered (last : Success α) (earlier : List (Success α)) (e : Failure) : Success (List α) :=
  let all := last :: earlier
  let ending := unwind all ⟨false, all, last.state, Message.empty.mergeExpected e.message⟩
  ⟨ending.consumed,
    ⟨ending.kept.reverse.map fun r => r.value.value, (earlier.getLastD last).value.start,
      ending.state.pos⟩,
    ending.state, ending.message⟩

-- One or more occurrences.
def rep (p : Parser α) : Parser (List α) where
  apply s := do
    match ← p.successes s with
    | ([], e) => return .error e
    | (last :: earlier, e) =>
      if e.consumed then return .error e
      return .ok (gathered last earlier e)

-- Zero or more occurrences.
def rep0 (p : Parser α) : Parser (List α) := p.rep <|> Parser.pure []

-- Zero or more occurrences, of which no value is kept.
def skipMany (p : Parser α) : Parser Unit := p.rep0.as ()

-- One or more occurrences with `separator` between them.
def repSep (p : Parser α) (separator : Parser β) : Parser (List α) :=
  (p.andThen (separator.followedBy p).rep0).map fun (first, rest) => first :: rest

-- Zero or more occurrences with `separator` between them.
def repSep0 (p : Parser α) (separator : Parser β) : Parser (List α) :=
  p.repSep separator <|> Parser.pure []

-- Zero or more occurrences, each with `separator` after it.
def endBy (p : Parser α) (separator : Parser β) : Parser (List α) := (p.endedBy separator).rep0

end Parsing.Parser
