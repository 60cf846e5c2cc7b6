import Parsing.Value.Basic
import Parsing.Text.Numeral
import Parsing.Fault

namespace Parsing.Value

def onIntegers (f : Int → Int → Fallible Int) (a b : Value) : Fallible Value :=
  match a.integer?, b.integer? with
  | some m, some n => return .int (← f m n)
  | _, _ => throw .wrongType

-- The sum of two numbers; two texts, lists or tuples are joined.
def plus : Value → Value → Fallible Value
  | .str a, .str b => return .str (a ++ b)
  | .list as, .list bs => return .list (as ++ bs)
  | .tuple as, .tuple bs => return .tuple (as ++ bs)
  | a, b => onIntegers (fun m n => return m + n) a b

def minus : Value → Value → Fallible Value := onIntegers fun m n => return m - n

-- A number of repetitions, which is a signed number of 64 bits. Less than none is none.
def repetitions (n : Int) : Fallible Nat :=
  if Int64.minValue.toInt ≤ n ∧ n ≤ Int64.maxValue.toInt then return n.toNat
  else throw .tooLarge

def asCount (v : Value) : Fallible Nat := v.integer?.elim (throw .wrongType) repetitions

-- A text, list or tuple repeated `n` times.
def repeated (v : Value) (n : Int) : Fallible Value :=
  match v with
  | .str s => return .str (String.join (List.replicate (← repetitions n) s))
  | .list items => return .list (List.replicate (← repetitions n) items).flatten
  | .tuple items => return .tuple (List.replicate (← repetitions n) items).flatten
  | _ => throw .wrongType

-- The product of two numbers; a number may also say how often to repeat a sequence, on either
-- side.
def times (a b : Value) : Fallible Value :=
  match a.integer?, b.integer? with
  | some m, some n => return .int (m * n)
  | some m, Option.none => b.repeated m
  | Option.none, some n => a.repeated n
  | Option.none, Option.none => throw .wrongType

-- Negative exponents leave the integers, so they have no value here; zero has no negative powers.
def power : Value → Value → Fallible Value :=
  onIntegers fun m n =>
    if 0 ≤ n then return m.pow n.toNat
    else if m = 0 then throw .divisionByZero
    else throw .wrongType

-- Quotients are rounded down, and remainders have the sign of the divisor.
def floorDivide : Value → Value → Fallible Value :=
  onIntegers fun m n => if n = 0 then throw .divisionByZero else return m.fdiv n

def floorRemainder : Value → Value → Fallible Value :=
  onIntegers fun m n => if n = 0 then throw .divisionByZero else return m.fmod n

def negated (v : Value) : Fallible Value :=
  match v.integer? with
  | some n => return .int (-n)
  | Option.none => throw .wrongType

-- The sum of the members, starting from zero.
def total (v : Value) : Fallible Value :=
  match v.items? with
  | some items => items.foldlM plus (.int 0)
  | Option.none => throw .wrongType

-- Numbers are taken as they are, texts are read as numerals.
def asInteger : Value → Fallible Value
  | .str s => (Text.integer? s).elim (throw .badValue) fun n => return .int n
  | v => v.integer?.elim (throw .wrongType) fun n => return .int n

end Parsing.Value
