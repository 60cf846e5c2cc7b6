import Parsing.Value.Basic

namespace Parsing

-- The same word of the same class, whatever the places.
def Lexeme.same (a b : Lexeme) : Bool := a.cls == b.cls && a.kind == b.kind && a.text == b.text

namespace Value

-- Values of different kinds differ, but truth values are numbers. Functions differ from everything,
-- themselves included.
mutual

def same : Value → Value → Bool
  | .none, .none => true
  | .bool a, .bool b => a == b
  | .int a, .int b => a == b
  -- truth values count as zero and one
  | .bool a, .int b => a.toInt == b
  | .int a, .bool b => a == b.toInt
  | .str a, .str b => a == b
  | .list as, .list bs => sameAll as bs
  | .tuple as, .tuple bs => sameAll as bs
  | .parsed a start stop, .parsed b start' stop' => a.same b && start == start' && stop == stop'
  | .position a, .position b => a == b
  | .lexeme a, .lexeme b => a.same b
  | _, _ => false
termination_by structural v => v

def sameAll : List Value → List Value → Bool
  | [], [] => true
  | a :: as, b :: bs => a.same b && sameAll as bs
  | _, _ => false
termination_by structural vs => vs

end

instance : BEq Value := ⟨same⟩

@[simp] theorem beq_str_iff (v : Value) (s : String) : (v == .str s) = true ↔ v = .str s := by
  show v.same (.str s) = true ↔ v = .str s
  cases v <;> simp [same]

end Value

end Parsing
