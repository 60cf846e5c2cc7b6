import Parsing.Parser.Basic

namespace Parsing.Parser

-- A parser that is built when it is run.
def deferred (build : Unit → Parser α) : Parser α where
  apply s := (build ()).apply s

-- The rules with references nested at most `depth` deep.
def unroll (rules : (ι → Parser α) → ι → Parser α) : Nat → ι → Parser α
  | 0, _ => faulty .endless
  | depth + 1, i => deferred fun _ => rules (unroll rules depth) i

-- A rule of a grammar with `count` rules. Between two tokens no rule can be reached from itself,
-- unless it would be so forever; hence references nest at most once for every rule and place in
-- the input.
def recursive (count : Nat) (rules : (ι → Parser α) → ι → Parser α) (i : ι) : Parser α where
  apply s := (unroll rules (count * (s.remaining + 1)) i).apply s

end Parsing.Parser
