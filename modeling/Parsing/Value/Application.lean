import Parsing.Value.Arithmetic
import Parsing.Value.Sequence
import Parsing.Value.Attribute
import Parsing.Value.Text

namespace Parsing

def Operation.apply : Operation → Value → Fallible Value
  | .identity, v => return v
  | .integer, v => v.asInteger
  | .length, v => return toValue (← v.length)
  | .text, v => return .str (← v.text)
  | .written, v => return .str (← v.written)
  | .join, v => v.joined
  | .increment, v => v.plus (.int 1)
  | .negate, v => v.negated
  | .double, v => v.times (.int 2)
  | .total, v => v.total
  | .reverse, v => v.reversed
  | .first, v => v.index 0
  | .second, v => v.index 1
  | .value, v => v.inner
  | .start, v => return .position (← v.start)
  | .stop, v => return .position (← v.stop)
  | .lexemeText, v => return .str (← v.lexemeText)
  | .kind, v => return .str (← v.kind)
  | .tuple, v => v.asTuple
  | .list, v => v.asList
  | .wrap, v => return .list [v]
  | .none, _ => return .none
  | .complement, v => return .bool !v.truth
  | .cons, v => do
    let head ← v.index 0
    return .list (head :: (← (← v.index 1).asListMembers))
  | .addTotal, v => do
    let head ← v.index 0
    head.plus (← (← v.index 1).total)
  | .refuse, _ => throw .badValue

mutual

def Unary.apply : Unary → Value → Fallible Value
  | .operation op, v => op.apply v
  | .index i, v => v.index i
  | .const c, _ => return c
  | .add c, v => v.plus c
  | .chain fs, v => Unary.applyAll fs v
termination_by structural f => f

def Unary.applyAll : List Unary → Value → Fallible Value
  | [], v => return v
  | f :: fs, v => do Unary.applyAll fs (← f.apply v)
termination_by structural fs => fs

end

def Binary.apply : Binary → Value → Value → Fallible Value
  | .add, a, b => a.plus b
  | .subtract, a, b => a.minus b
  | .multiply, a, b => a.times b
  | .power, a, b => a.power b
  | .divide, a, b => a.floorDivide b
  | .remainder, a, b => a.floorRemainder b
  | .pair, a, b => return .tuple [a, b]
  | .left, a, _ => return a
  | .right, _, b => return b
  | .refuse, _, _ => throw .badValue
  | .enclose separator, a, b => return .str ("(" ++ (← a.text) ++ separator ++ (← b.text) ++ ")")

namespace Value

-- The call of a value with one argument.
def call : Value → Value → Fallible Value
  | .unary _ f, v => f.apply v
  | _, _ => throw .wrongType

-- The call of a value with two arguments.
def call₂ : Value → Value → Value → Fallible Value
  | .binary _ f, a, b => f.apply a b
  | _, _, _ => throw .wrongType

end Value

end Parsing
