import Parsing.Registry
import Parsing.Value.Equality
import Parsing.Value.Attribute
import Parsing.Tokens

namespace Parsing

-- Where a token starts and ends, given the position right after the token before it.
inductive SourceMap where
  -- a line end leads to the next line, any other token to the next column
  | chars
  -- the span that the token carries
  | spans
  -- the map registered for the class of each token, so that one stream may mix tokens of many kinds
  | byClass
  -- starts where the last token ended, and does not know where it ends itself
  | unknown
  -- one-off maps; without a function for the start, a token starts where the last one ended
  | custom (stop : Value → Position → Fallible Position)
      (start : Option (Value → Position → Fallible Position))

namespace SourceMap

-- A map by class that is itself registered for a class leads nowhere.
def ownStart : SourceMap → Value → Position → Fallible Position
  | .chars, _, current => return current
  | .spans, token, _ => token.start
  | .byClass, _, _ => throw .endless
  | .unknown, _, current => return current
  | .custom _ none, _, current => return current
  | .custom _ (some start), token, current => start token current

def ownStop : SourceMap → Value → Position → Fallible Position
  | .chars, token, current =>
    return if token == .str "\n" then current.nextLine else current.nextColumn
  | .spans, token, _ => token.stop
  | .byClass, _, _ => throw .endless
  | .unknown, _, _ => throw .unimplemented
  | .custom stop _, token, current => stop token current

-- The map that a token is measured by.
def resolve (maps : Registry SourceMap) (map : SourceMap) (token : Value) : Fallible SourceMap :=
  match map with
  | .byClass => (maps.find? token.classes).elim (throw (.missingSourceMap token.className)) pure
  | _ => return map

def startOf (maps : Registry SourceMap) (map : SourceMap) (token : Value) (current : Position) :
    Fallible Position := do
  (← map.resolve maps token).ownStart token current

def stopOf (maps : Registry SourceMap) (map : SourceMap) (token : Value) (current : Position) :
    Fallible Position := do
  (← map.resolve maps token).ownStop token current

def builtin : Registry SourceMap := ⟨[("str", .chars), ("Parsed", .spans)]⟩

-- The map used for a sequence when none is given.
def forTokens (ts : Tokens) : SourceMap :=
  match ts.form with
  | .text => .chars
  | _ => .byClass

-- As many columns as the text of the token has characters.
def width (token : Value) (current : Position) : Fallible Position :=
  return current.forward (← token.text).length

end SourceMap

end Parsing
