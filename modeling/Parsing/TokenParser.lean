import Parsing.Parser.Repetition
import Parsing.Value.Test

namespace Parsing

structure TokenParser where
  test : Test
  expected : List Value := []

namespace TokenParser

-- Single tokens are read or failed at without consuming, so a label always reaches the failure.
def label (t : TokenParser) (label : Value) : TokenParser := ⟨t.test, [label]⟩

def apply (t : TokenParser) (s : State) : Eval (Result Value) := do
  if ← s.isAtEnd then return .error ⟨false, ← s.unexpected t.expected⟩
  let token ← s.token
  if !(← t.test token) then return .error ⟨false, ← s.unexpected t.expected⟩
  let next ← s.consume token
  return .ok ⟨true, ⟨token, ← s.startOf token, next.pos⟩, next, .empty⟩

def toParser (t : TokenParser) : Parser Value := ⟨t.apply, "<TokenParser>"⟩

instance : Coe TokenParser (Parser Value) := ⟨toParser⟩

-- The end of the run of matching tokens that starts at `i`, looking at `left` tokens at most.
def runStop (t : TokenParser) (input : Tokens) : Nat → Nat → Fallible Nat
  | 0, i => return i
  | left + 1, i => do
    if ← t.test (← input.get i) then runStop t input left (i + 1) else return i

-- A run that ended leaves the labels of the token that ended it.
def runMessage (t : TokenParser) : Message := { Message.empty with expected := t.expected }

-- The run of matching tokens from `s` on, read at once; `none` if not even one token matches. The
-- run starts where its first token starts, which need not be where the token before it ended.
def run? (t : TokenParser) (s : State) : Eval (Option (Success (List Value))) := do
  let left := (← s.input.length) - s.offset
  let stop ← t.runStop s.input left s.offset
  if stop = s.offset then return none
  let values := (← s.input.slice s.offset stop).items.toList
  let next ← s.consumeAll values
  let start ← s.startOf (← s.token)
  return some ⟨true, ⟨values, start, next.pos⟩, next, t.runMessage⟩

-- One or more matching tokens.
def rep (t : TokenParser) : Parser (List Value) where
  apply s := do
    match ← t.run? s with
    | some r => return .ok r
    | none => return .error ⟨false, ← s.unexpected t.expected⟩

-- Zero or more matching tokens.
def rep0 (t : TokenParser) : Parser (List Value) where
  apply s := do
    match ← t.run? s with
    | some r => return .ok r
    | none => return .ok ⟨false, ⟨[], s.pos, s.pos⟩, s, t.runMessage⟩

def skipMany (t : TokenParser) : Parser Unit := t.rep0.as ()

def satisfy (test : Test) : TokenParser := ⟨test, []⟩

-- Any token.
def any : TokenParser := satisfy Test.always

-- The token `v`, which also is the label.
def equalTo (v : Value) : TokenParser := (satisfy (Test.equals v)).label v

-- A function stands for the tokens it holds of, any other value for itself.
def ofValue (v : Value) : TokenParser :=
  match v with
  | .unary .. | .binary .. => satisfy (Test.ofCall v)
  | _ => equalTo v

end TokenParser

end Parsing
