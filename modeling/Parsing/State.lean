import Parsing.Eval

namespace Parsing

-- `pos` is right after the last token that was read.
structure State where
  input : Tokens
  offset : Nat
  pos : Position
  map : SourceMap

namespace State

def start (input : Tokens) (map : SourceMap) : State := ⟨input, 0, .initial, map⟩

def isAtEnd (s : State) : Fallible Bool := return (← s.input.length) ≤ s.offset

-- How many tokens can still be read.
def remaining (s : State) : Nat := s.input.size - s.offset

def token (s : State) : Fallible Value := s.input.get s.offset

-- Where `token` would start if it came next.
def startOf (s : State) (token : Value) : Eval Position :=
  Eval.ofContext fun ctx => s.map.startOf ctx.maps token s.pos

-- Where `token` would end if it started at `pos`.
def stopOf (s : State) (token : Value) (pos : Position) : Eval Position :=
  Eval.ofContext fun ctx => s.map.stopOf ctx.maps token pos

-- The state after `token`, whatever the input holds.
def consume (s : State) (token : Value) : Eval State := do
  let pos ← s.stopOf token s.pos
  return { s with offset := s.offset + 1, pos }

-- The state after `tokens`. Tokens differ in width, so their positions are walked one by one.
def consumeAll (s : State) (tokens : List Value) : Eval State := do
  let pos ← tokens.foldlM (fun pos token => s.stopOf token pos) s.pos
  return { s with offset := s.offset + tokens.length, pos }

-- The message that the token here, or the end of the input, is not one of what is expected.
def unexpected (s : State) (expected : List Value) : Eval Message := do
  if ← s.isAtEnd then return ⟨s.offset, s.pos, .eof, expected⟩
  let token ← s.token
  return ⟨s.offset, ← s.startOf token, .text (← token.text), expected⟩

def written (s : State) : String := s!"State(offset={s.offset}, pos=" ++ s.pos.written ++ ")"

end State

end Parsing
