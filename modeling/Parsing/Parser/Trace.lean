import Parsing.Parser.Basic

namespace Parsing.Parser

-- Records the attempts of this parser under a name. Parsers made from it do not have the name,
-- but they run it and so record its attempts.
def named (p : Parser α) (name : String) : Parser α where
  shown := name
  apply s := do
    Eval.record (return .trying name s.pos)
    let result ← p.apply s
    match result with
    | .ok r => Eval.record (return .matched name r.state.pos)
    | .error e => Eval.record (return .unmatched name e.message.pos (← e.message.expectedText))
    return result

-- How many tokens a trace shows.
def previewSize : Nat := 30

-- Succeeds without reading, and records what is left of the input.
def trace (label : String) : Parser Unit where
  apply s := do
    let preview ← s.input.slice s.offset (s.offset + previewSize)
    let more := decide (previewSize < (← s.input.length) - s.offset)
    Eval.record (return .traced label preview more s.offset s.pos)
    return stay () s

end Parsing.Parser
