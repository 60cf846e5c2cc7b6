import Parsing.Position

namespace Parsing

-- A class of token objects, with the classes it specialises, nearest first.
structure TokenClass where
  name : String
  supers : List String
deriving DecidableEq

-- A token object made by a separate pass over the text; it carries its own span.
structure Lexeme where
  cls : TokenClass
  kind : String
  text : String
  start : Position
  stop : Position

-- Functions of one value that need no further data.
inductive Operation where
  | identity | integer | length | text | written | join
  | increment | negate | double | total | reverse | first | second
  | value | start | stop | lexemeText | kind
  | tuple | list | wrap | none | complement | cons | addTotal | refuse

-- Functions of two values.
inductive Binary where
  | add | subtract | multiply | power | divide | remainder
  | pair | left | right | refuse
  | enclose (separator : String)

mutual

inductive Value where
  | none
  | bool (b : Bool)
  | int (n : Int)
  | str (s : String)
  | list (items : List Value)
  | tuple (items : List Value)
  | parsed (value : Value) (start stop : Position)
  | position (p : Position)
  | lexeme (l : Lexeme)
  -- functions keep the words in which they were given
  | unary (words : String) (f : Unary)
  | binary (words : String) (f : Binary)

-- Functions of one value; `chain` applies its members in order.
inductive Unary where
  | operation (op : Operation)
  | index (i : Int)
  | const (v : Value)
  | add (v : Value)
  | chain (fs : List Unary)

end

namespace Value

-- Texts stand for themselves, as tokens and as labels.
instance : Coe String Value := ⟨.str⟩

-- A character token is a text of one code point.
def char (c : Char) : Value := .str (String.singleton c)

-- The class of a value, and after it the classes it specialises, nearest first.
def classes : Value → List String
  | .none => ["NoneType", "object"]
  | .bool _ => ["bool", "int", "object"]
  | .int _ => ["int", "object"]
  | .str _ => ["str", "object"]
  | .list _ => ["list", "object"]
  | .tuple _ => ["tuple", "object"]
  | .parsed .. => ["Parsed", "object"]
  | .position _ => ["Position", "object"]
  | .lexeme l => l.cls.name :: l.cls.supers ++ ["object"]
  | .unary .. => ["Fn", "object"]
  | .binary .. => ["Fn2", "object"]

def className (v : Value) : String := v.classes.headD "object"

-- Nothing, zero and whatever is empty count as false.
def truth : Value → Bool
  | .none => false
  | .bool b => b
  | .int n => n ≠ 0
  | .str s => !s.isEmpty
  | .list items => !items.isEmpty
  | .tuple items => !items.isEmpty
  | _ => true

mutual

-- Lists may change, and with them whatever holds one; all other values are fixed.
def isFixed : Value → Bool
  | .list _ => false
  | .tuple items => areFixed items
  | .parsed v _ _ => v.isFixed
  | _ => true
termination_by structural v => v

def areFixed : List Value → Bool
  | [] => true
  | v :: vs => v.isFixed && areFixed vs
termination_by structural vs => vs

end

-- The members of a value that can be walked through.
def items? : Value → Option (List Value)
  | .str s => some (s.toList.map char)
  | .list items => some items
  | .tuple items => some items
  | _ => Option.none

-- Truth values count as zero and one in arithmetic.
def integer? : Value → Option Int
  | .int n => some n
  | .bool b => some (if b then 1 else 0)
  | _ => Option.none

end Value

-- Types whose elements have a dynamic value, and with it a text.
class ToValue (α : Type) where
  toValue : α → Value

export ToValue (toValue)

instance : ToValue Value := ⟨id⟩
instance : ToValue Unit := ⟨fun _ => .none⟩
instance : ToValue String := ⟨.str⟩
instance : ToValue Nat := ⟨fun n => .int n⟩
instance [ToValue α] : ToValue (List α) := ⟨fun xs => .list (xs.map toValue)⟩
instance [ToValue α] : ToValue (Option α) := ⟨fun x => x.elim .none toValue⟩
instance [ToValue α] [ToValue β] : ToValue (α × β) := ⟨fun p => .tuple [toValue p.1, toValue p.2]⟩
instance [ToValue α] : ToValue (Parsed α) := ⟨fun p => .parsed (toValue p.value) p.start p.stop⟩

end Parsing
