import Parsing.Value.Equality
import Parsing.Tokens

namespace Parsing

inductive Source where
  | value (v : Value)
  | bytes (data : List Nat)
  | range (start stop step : Int)
  | deque (items : List Value)
  -- sources that can be walked through once
  | iterator (items : List Value)
  | generator (items : List Value)
  -- sources without an order of their own
  | mapping (keys : List Value)
  | set (items : List Value)
  -- a text with a class of its own, which cannot be walked through
  | document (cls : TokenClass) (text : String)

namespace Source

def ofText (s : String) : Source := .value (.str s)

-- Not every source can be made: bytes are small, the steps of a range lead somewhere, and keys do
-- not change.
def ofBytes (data : List Int) : Fallible Source :=
  if data.all fun n => 0 ≤ n && n < 256 then return .bytes (data.map Int.toNat)
  else throw .badValue

def ofRange (start stop step : Int) : Fallible Source :=
  if step = 0 then throw .badValue else return .range start stop step

-- Each key is kept once, where it came first.
def ofKeys (keys : List Value) : Fallible Source :=
  if keys.all Value.isFixed then return .mapping keys.eraseDups else throw .wrongType

def ofElement (v : Value) : Fallible Source :=
  if v.isFixed then return .set [v] else throw .wrongType

-- The class of a source and those it specialises. Texts, lists, tuples, bytes and ranges are
-- sequences.
def classes : Source → List String
  | .value (.str _) => ["str", "Sequence", "object"]
  | .value (.list _) => ["list", "Sequence", "object"]
  | .value (.tuple _) => ["tuple", "Sequence", "object"]
  | .value v => v.classes
  | .bytes _ => ["bytes", "Sequence", "object"]
  | .range .. => ["range", "Sequence", "object"]
  | .deque _ => ["deque", "object"]
  | .iterator _ => ["list_iterator", "object"]
  | .generator _ => ["generator", "object"]
  | .mapping _ => ["dict", "object"]
  | .set _ => ["set", "object"]
  | .document cls _ => cls.name :: cls.supers ++ ["object"]

def className (s : Source) : String := s.classes.headD "object"

-- The elements of a source that can be walked through, in order.
def items? : Source → Option (List Value)
  | .value v => v.items?
  | .bytes data => some (Tokens.ofBytes data).items.toList
  | .range start stop step => some (Tokens.ofRange start stop step).items.toList
  | .deque items | .iterator items | .generator items | .mapping items | .set items => some items
  | .document .. => none

end Source

end Parsing
