import Parsing.Parser.Repetition

namespace Parsing.Parser

abbrev Operator (α : Type) := α → α → Fallible α

-- Applies the operators from the left: the first two operands come first.
def applyLeft (first : α) (rest : List (Operator α × α)) : Fallible α :=
  rest.foldlM (fun value (f, next) => f value next) first

-- Applies the operators from the right: the last two operands come first.
def applyRight : α → List (Operator α × α) → Fallible α
  | value, [] => return value
  | value, (f, next) :: rest => do f value (← applyRight next rest)

-- All operands and operators are read before any operator is applied.
def chain (p : Parser α) (op : Parser (Operator α)) : Parser (α × List (Operator α × α)) :=
  p.andThen (op.andThen p).rep0

def chainLeft (p : Parser α) (op : Parser (Operator α)) : Parser α :=
  (p.chain op).tryMap fun (first, rest) => applyLeft first rest

def chainRight (p : Parser α) (op : Parser (Operator α)) : Parser α :=
  (p.chain op).tryMap fun (first, rest) => applyRight first rest

end Parsing.Parser
