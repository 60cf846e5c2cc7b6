import Parsing.Registry
import Parsing.Source.Basic
import Parsing.Value.Sequence
import Parsing.Value.Attribute

namespace Parsing

abbrev Tokenizer := Source → Fallible Tokens

namespace Tokenizer

-- The source itself, whether or not it is a sequence.
def asIs : Tokenizer
  | .value (.str s) => return .ofText s
  | .value (.list items) => return .ofList items
  | .value (.tuple items) => return .ofTuple items
  | .bytes data => return .ofBytes data
  | .range start stop step => return .ofRange start stop step
  | .deque items => return ⟨.deque, items.toArray⟩
  | .mapping keys => return ⟨.keyed, keys.toArray⟩
  | .set items => return ⟨.unordered, items.toArray⟩
  | _ => return .unsized

def asList : Tokenizer := fun s =>
  s.items?.elim (throw .wrongType) fun items => return .ofList items

def asTuple : Tokenizer := fun s =>
  s.items?.elim (throw .wrongType) fun items => return .ofTuple items

-- The elements of the source, if it can be walked through.
def collect : Tokenizer := fun s =>
  s.items?.elim (throw (.notTokenizable s.className)) fun items => return .ofTuple items

def reversed : Tokenizer
  | .value v => do asIs (.value (← v.reversed))
  | .bytes data => return .ofBytes data.reverse
  | .range start stop step =>
    let last := start + (Tokens.rangeSize start stop step - 1) * step
    return .ofRange last (start - step) (-step)
  | _ => throw .wrongType

-- The stretches of a text between blanks, empty ones included.
def wordsOf (s : String) : Tokens := .ofList ((s.splitOn " ").map Value.str)

def words : Tokenizer
  | .value (.str s) => return wordsOf s
  | .bytes _ => throw .wrongType
  | _ => throw .noAttribute

def empty : Tokenizer := fun _ => return .ofTuple []

def refuse : Tokenizer := fun _ => throw .badValue

def documentText : Source → Fallible String
  | .document _ text => return text
  | .value v => v.lexemeText
  | _ => throw .noAttribute

def documentWords : Tokenizer := fun s => return wordsOf (← documentText s)

def documentCharacters : Tokenizer := fun s => return .ofText (← documentText s)

-- Every source has some tokenizer: what is registered for no other class is collected.
def builtin : Registry Tokenizer :=
  ⟨[("str", asIs), ("Sequence", asIs), ("deque", asTuple), ("object", collect)]⟩

end Tokenizer

end Parsing
