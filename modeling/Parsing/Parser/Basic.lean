import Parsing.Result

namespace Parsing

-- `shown` stands for the parser in records and faults.
structure Parser (α : Type) where
  apply : State → Eval (Result α)
  shown : String := "<Parser>"

namespace Parser

-- The same parser without its name.
def unnamed (p : Parser α) : Parser α := { apply := p.apply }

-- A success at `s` that reads nothing.
def stay (value : α) (s : State) : Result α := .ok ⟨false, ⟨value, s.pos, s.pos⟩, s, .empty⟩

protected def pure (value : α) : Parser α where
  apply s := return stay value s

-- Fails without consuming.
def fail (expected : List Value) : Parser α where
  apply s := return .error ⟨false, ← s.unexpected expected⟩

-- Fails expecting the text of a value.
def failAs (v : Value) : Parser α where
  apply s := do
    let label ← v.text
    (fail [.str label] : Parser α).apply s

-- A grammar that cannot be run.
def faulty (fault : Fault) : Parser α where
  apply _ := throw fault

-- Succeeds only after the last token.
def atEnd : Parser Unit where
  apply s := do
    if ← s.isAtEnd then return stay () s
    return .error ⟨false, ← s.unexpected ["EOF"]⟩

-- Labels say what a parser expects. They reach only the results that consumed nothing.
def label (p : Parser α) (label : Value) : Parser α where
  apply s := return (← p.apply s).label label

def eof : Parser Unit := atEnd.label "end of input"

protected def map (p : Parser α) (f : α → β) : Parser β where
  apply s := return (← p.apply s).map f

def tryMap (p : Parser α) (f : α → Fallible β) : Parser β where
  apply s := do (← p.apply s).tryMap f

-- Replaces the value.
def as (p : Parser α) (value : β) : Parser β := p.map fun _ => value

def spanned : Success α → Success (Parsed α)
  | r => ⟨r.consumed, r.value.map fun _ => r.value, r.state, r.message⟩

-- Keeps the span with the value.
def withPosition (p : Parser α) : Parser (Parsed α) where
  apply s := do
    match ← p.apply s with
    | .ok r => return .ok (spanned r)
    | .error e => return .error e

-- Every result counts as non-consuming, so that a choice goes on to the next alternative.
def backtrack (p : Parser α) : Parser α where
  apply s := return (← p.apply s).markNonConsuming

end Parser

end Parsing
