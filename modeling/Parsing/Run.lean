import Parsing.Parser.Basic

namespace Parsing

-- The tokens of a source, by the tokenizer registered for its class.
def tokenize (source : Source) : Eval Tokens :=
  Eval.ofContext fun ctx =>
    match ctx.tokenizers.find? source.classes with
    | some tokenizer => tokenizer source
    | none => throw (.notTokenizable source.className)

namespace Parser

-- The result on tokens, with records of the start and the outcome.
def runOn (p : Parser α) (tokens : Tokens) (map : SourceMap) : Eval (Result α) := do
  let length ← tokens.length
  Eval.record (return .running p.shown length)
  let result ← p.apply (.start tokens map)
  match result with
  | .ok r => Eval.record (return .succeeded p.shown r.state.offset)
  | .error e => Eval.record (return .failed p.shown e.message)
  return result

-- Without a tokenizer the registered one is used, without a source map the one that fits the
-- tokens.
def run (p : Parser α) (source : Source) (tokenizer : Option Tokenizer) (map : Option SourceMap) :
    Eval (Result α) := do
  let tokens ← match tokenizer with
    | some tokenizer => (tokenizer source : Fallible Tokens)
    | none => tokenize source
  p.runOn tokens (map.getD (SourceMap.forTokens tokens))

-- The value of a success; a failure is a fault here.
def parse (p : Parser α) (source : Source) (tokenizer : Option Tokenizer) (map : Option SourceMap) :
    Eval α := do
  (← p.run source tokenizer map).get

end Parser

end Parsing
