import Parsing.TokenParser

namespace Parsing

-- A parser of single tokens stays one as long as possible: only then its repetitions read runs.
inductive AnyParser where
  | token (t : TokenParser)
  | general (p : Parser Value)

namespace AnyParser

def toParser : AnyParser → Parser Value
  | token t => t.toParser
  | general p => p

def label : AnyParser → Value → AnyParser
  | token t, label => token (t.label label)
  | general p, label => general (p.label label)

-- A single alternative is the choice itself.
def oneOf : AnyParser → List AnyParser → AnyParser
  | p, [] => p
  | p, ps => general (.oneOf p.toParser (ps.map toParser))

def choice : List AnyParser → AnyParser
  | [] => general (.fail [])
  | p :: ps => p.oneOf ps

def rep : AnyParser → Parser (List Value)
  | token t => t.rep
  | general p => p.rep

def rep0 : AnyParser → Parser (List Value)
  | token t => t.rep0
  | general p => p.rep0

def skipMany : AnyParser → Parser Unit
  | token t => t.skipMany
  | general p => p.skipMany

end AnyParser

end Parsing
