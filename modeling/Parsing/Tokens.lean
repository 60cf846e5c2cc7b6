import Parsing.Value.Text
import Parsing.Value.Equality

namespace Parsing

inductive Form where
  | text
  | list
  | tuple
  | bytes
  | range (start stop step : Int)
  -- tokens can be taken out one by one only
  | deque
  -- the items are keys, under which nothing is kept
  | keyed
  -- only the number of tokens is known
  | unordered
  -- not even their number is known
  | unsized
deriving DecidableEq

-- The form decides how a sequence is shown, whether its length is known and whether single tokens
-- and stretches of it can be taken out.
structure Tokens where
  form : Form
  items : Array Value

namespace Tokens

def ofText (s : String) : Tokens := ⟨.text, (s.toList.map Value.char).toArray⟩

def ofList (vs : List Value) : Tokens := ⟨.list, vs.toArray⟩

def ofTuple (vs : List Value) : Tokens := ⟨.tuple, vs.toArray⟩

def ofBytes (bytes : List Nat) : Tokens := ⟨.bytes, (bytes.map fun (n : Nat) => toValue n).toArray⟩

-- How many numbers lie from `start` on in steps before `stop`.
def rangeSize (start stop step : Int) : Nat :=
  if 0 < step then ((stop - start + step - 1) / step).toNat
  else ((start - stop - step - 1) / -step).toNat

def ofRange (start stop step : Int) : Tokens :=
  let places := List.range (rangeSize start stop step)
  ⟨.range start stop step, (places.map fun k => Value.int (start + Int.ofNat k * step)).toArray⟩

-- Something that is taken for tokens without being a sequence.
def unsized : Tokens := ⟨.unsized, #[]⟩

-- How many tokens can be counted on.
def size (ts : Tokens) : Nat := ts.items.size

def length (ts : Tokens) : Fallible Nat :=
  match ts.form with
  | .unsized => throw .wrongType
  | _ => return ts.size

def get (ts : Tokens) (i : Nat) : Fallible Value :=
  match ts.form with
  | .unordered | .unsized => throw .wrongType
  | .keyed => if ts.items.contains (.int i) then return .none else throw .missingKey
  | _ => (ts.items[i]?).elim (throw .outOfRange) fun v => return v

-- The tokens from `start` on that lie before `stop`, in the same form. The bounds of a stretch of a
-- range are again numbers of the range, or the one after its last.
def slice (ts : Tokens) (start stop : Nat) : Fallible Tokens :=
  let low := min start ts.size
  let high := min stop ts.size
  match ts.form with
  | .deque | .keyed | .unordered | .unsized => throw .wrongType
  | .range first _ step =>
    return ⟨.range (first + low * step) (first + high * step) step, ts.items.extract low high⟩
  | form => return ⟨form, ts.items.extract low high⟩

-- The first `n` tokens, or all but the last `-n` if `n` is negative.
def take (ts : Tokens) (n : Int) : Fallible Tokens :=
  ts.slice 0 (if n < 0 then ts.size + n else n).toNat

def byte (v : Value) : Nat := (v.integer?.getD 0).toNat

def written (ts : Tokens) : Fallible String :=
  match ts.form with
  | .text => return Text.quoted (String.join (← ts.items.toList.mapM Value.text))
  | .tuple => (Value.tuple ts.items.toList).written
  | .bytes => return Text.quotedBytes (ts.items.toList.map byte)
  | .range start stop step =>
    return if step = 1 then s!"range({start}, {stop})" else s!"range({start}, {stop}, {step})"
  | _ => (Value.list ts.items.toList).written

end Tokens

end Parsing
