import Parsing.Parser.Basic

namespace Parsing.Parser

-- An alternative is tried only while nothing has been consumed, and its labels are joined to the
-- others only if it has consumed nothing either.
protected def orElse (p q : Parser α) : Parser α where
  apply s := do
    let first ← p.apply s
    if first.consumed then return first
    let second ← q.apply s
    if second.consumed then return second
    return second.mapMessage fun m => m.mergeExpected first.message

instance : OrElse (Parser α) := ⟨fun p q => p.orElse (q ())⟩

def oneOf (p : Parser α) (ps : List (Parser α)) : Parser α :=
  ps.foldl (fun tried q => tried <|> q) p

-- Of no alternatives at all, none succeeds and nothing is expected.
def choice : List (Parser α) → Parser α
  | [] => fail []
  | p :: ps => oneOf p ps

-- The default stands in for a failure that consumed nothing.
def option (value : α) (p : Parser α) : Parser α := p <|> Parser.pure value

def optional (p : Parser α) : Parser (Option α) := p.map some <|> Parser.pure none

end Parsing.Parser
