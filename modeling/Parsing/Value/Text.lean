import Parsing.Value.Basic
import Parsing.Text.Numeral
import Parsing.Text.Quoted
import Parsing.Fault

namespace Parsing.Value

open Text (commaSeparated quoted)

-- A tuple of one member keeps a comma, which tells it from a value in brackets.
def writtenTuple : List String → String
  | [one] => "(" ++ one ++ ",)"
  | parts => "(" ++ commaSeparated parts ++ ")"

-- The notation with every part spelled out. Only a value that holds too long a number has none.
mutual

def written : Value → Fallible String
  | .none => return "None"
  | .bool b => return if b then "True" else "False"
  | .int n => (Text.numeral? n).elim (throw .badValue) pure
  | .str s => return quoted s
  | .list items => return "[" ++ commaSeparated (← writtenAll items) ++ "]"
  | .tuple items => return writtenTuple (← writtenAll items)
  | .parsed v start stop => do
    let value ← v.written
    return "Parsed(value=" ++ value ++ ", start=" ++ start.written ++ ", end=" ++ stop.written ++
      ")"
  | .position p => return p.written
  | .lexeme l => return "<" ++ l.cls.name ++ " " ++ l.kind ++ ":" ++ l.text ++ ">"
  | .unary .. => return "<fn>"
  | .binary .. => return "<fn2>"
termination_by structural v => v

def writtenAll : List Value → Fallible (List String)
  | [] => return []
  | v :: vs => return (← v.written) :: (← writtenAll vs)
termination_by structural vs => vs

end

def text : Value → Fallible String
  | .str s => return s
  | .position p => return p.text
  | .lexeme l => return l.kind ++ ":" ++ l.text
  | v => v.written

theorem text_int_eq_error_iff {n : Int} :
    (int n).text = .error .badValue ↔ Nat.pow 10 Text.maxDigits ≤ n.natAbs := by
  have htext : (int n).text = (Text.numeral? n).elim (throw .badValue) pure := rfl
  rw [htext, ← Text.numeral?_eq_none_iff]
  cases Text.numeral? n with
  | none => exact iff_of_true rfl rfl
  | some numeral => exact iff_of_false nofun nofun

end Parsing.Value
