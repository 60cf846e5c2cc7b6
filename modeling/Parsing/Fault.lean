namespace Parsing

-- The ways in which a run ends without any result. A parse that fails has a result.
inductive Fault where
  -- a repeated parser succeeded without reading anything
  | stuckRepetition (parser : String)
  -- no source map is registered for any class of a token
  | missingSourceMap (className : String)
  -- a source that cannot be turned into tokens
  | notTokenizable (className : String)
  -- the value of a failed parse was demanded, which failed with this text
  | rejected (text : String)
  | wrongType
  | badValue
  | noAttribute
  | outOfRange
  | missingKey
  | tooLarge
  | divisionByZero
  | unimplemented
  -- a rule that calls itself without reading anything in between, or a loop without end
  | endless
deriving DecidableEq

-- A computation that may end in a fault.
abbrev Fallible := Except Fault

namespace Fault

-- The text that goes with a fault, for those that have one.
def text? : Fault → Option String
  | .stuckRepetition parser =>
    some (parser ++ " succeeded without consuming input inside a repetition")
  | .missingSourceMap name => some ("no source map registered for tokens of type " ++ name)
  | .notTokenizable name => some ("cannot tokenize a value of type " ++ name)
  | .rejected text => some text
  | _ => none

end Fault

end Parsing
