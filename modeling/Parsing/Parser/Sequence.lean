import Parsing.Parser.Basic
import Parsing.Value.Arithmetic

namespace Parsing.Parser

-- What `f` makes of the first value runs where the first parser stopped. The combination starts
-- where its first part starts, and has consumed as soon as one of them has.
protected def bind (p : Parser α) (f : α → Parser β) : Parser β where
  apply s := do
    match ← p.apply s with
    | .error e => return .error e
    | .ok r =>
      let next ← (f r.value.value).apply r.state
      return (if r.consumed then next.consume else next).withStart r.value.start

def andThen (p : Parser α) (q : Parser β) : Parser (α × β) :=
  p.bind fun a => q.map fun b => (a, b)

-- Keeps the second value.
def followedBy (p : Parser α) (q : Parser β) : Parser β := p.bind fun _ => q

-- Keeps the first value.
def endedBy (p : Parser α) (q : Parser β) : Parser α := p.bind fun a => q.map fun _ => a

def between (p : Parser α) (left : Parser β) (right : Parser γ) : Parser α :=
  (left.followedBy p).endedBy right

def surroundedBy (p : Parser α) (q : Parser β) : Parser α := p.between q q

-- The argument is parsed before the function that is applied to it.
def applied (f : Parser (α → Fallible β)) (p : Parser α) : Parser β :=
  p.bind fun a => f.tryMap fun f => f a

-- Runs the rest of a sequence, with what the parsers before it have given: the latest value
-- first.
def sequenceRest (start : Position) :
    List (Parser α) → Bool → List α → State → Eval (Result (List α))
  | [], consumed, values, s => return .ok ⟨consumed, ⟨values.reverse, start, s.pos⟩, s, .empty⟩
  | p :: ps, consumed, values, s => do
    match ← p.apply s with
    | .error e => return .error { e with consumed := consumed || e.consumed }
    | .ok r => sequenceRest start ps (consumed || r.consumed) (r.value.value :: values) r.state

-- All parsers in order, with the list of their values. The first failure is the failure.
def sequence : List (Parser α) → Parser (List α)
  | [] => Parser.pure []
  | p :: ps =>
    { apply := fun s => do
        match ← p.apply s with
        | .error e => return .error e
        | .ok r => sequenceRest r.value.start ps r.consumed [r.value.value] r.state }

def count (p : Parser α) (n : Nat) : Parser (List α) := sequence (List.replicate n p)

-- As many occurrences as a value says.
def countOf (p : Parser α) (v : Value) : Parser (List α) :=
  match v.asCount with
  | .ok n => p.count n
  | .error fault => faulty fault

end Parsing.Parser
