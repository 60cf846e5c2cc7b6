import Parsing.Value.Basic
import Parsing.Fault

namespace Parsing.Value

-- The members of a text are its characters, each again a text.
def members (v : Value) : Fallible (List Value) :=
  v.items?.elim (throw .wrongType) fun items => return items

def length (v : Value) : Fallible Nat := return (← v.members).length

-- Negative indices count from the end.
def index (v : Value) (i : Int) : Fallible Value := do
  let items ← v.members
  let place := if i < 0 then i + items.length else i
  if place < 0 then throw .outOfRange
  else (items[place.toNat]?).elim (throw .outOfRange) fun item => return item

def reversed : Value → Fallible Value
  | .str s => return .str (String.ofList s.toList.reverse)
  | .list items => return .list items.reverse
  | .tuple items => return .tuple items.reverse
  | _ => throw .wrongType

def asText : Value → Fallible String
  | .str s => return s
  | _ => throw .wrongType

-- The texts of a sequence, one after the other.
def joinTexts (vs : List Value) : Fallible String := return String.join (← vs.mapM asText)

def joined (v : Value) : Fallible Value := return .str (← joinTexts (← v.members))

def asTuple (v : Value) : Fallible Value := return .tuple (← v.members)

def asList (v : Value) : Fallible Value := return .list (← v.members)

def asListMembers : Value → Fallible (List Value)
  | .list items => return items
  | _ => throw .wrongType

end Parsing.Value
