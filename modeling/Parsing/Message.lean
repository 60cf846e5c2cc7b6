import Parsing.Value.Text
import Parsing.Value.Sequence

namespace Parsing

-- What a failure met: a token (or a rejected value) by its text, or the end of the input. The end
-- is told apart from a token with the same text.
inductive Found where
  | text (s : String)
  | eof
deriving DecidableEq

namespace Found

def shown : Found → String
  | .text s => s
  | .eof => "EOF"

def written : Found → String
  | .text s => Text.quoted s
  | .eof => "EOF"

end Found

-- `offset` counts the tokens before the failure, `pos` is where the failing token starts. Labels
-- are texts, except that a token that is no text may be expected under itself.
structure Message where
  offset : Int
  pos : Position
  found : Found
  expected : List Value

namespace Message

-- The message of a success that has nothing to report.
def empty : Message := ⟨0, .initial, .text "", []⟩

def expecting (m : Message) (label : Value) : Message := { m with expected := [label] }

-- The labels of `earlier`, an alternative that was tried before, come first.
def mergeExpected (m earlier : Message) : Message :=
  { m with expected := earlier.expected ++ m.expected }

-- The labels in one line, which takes labels that are texts.
def expectedText (m : Message) : Fallible String :=
  return Text.commaSeparated (← m.expected.mapM Value.asText)

def text (m : Message) : Fallible String := do
  let failure := "Parse error at " ++ m.pos.text ++ ": found " ++ m.found.shown
  if m.expected.isEmpty then return failure
  return failure ++ ", expected one of " ++ (← m.expectedText)

def written (m : Message) : Fallible String := do
  let labels ← (Value.tuple m.expected).written
  return s!"Message(offset={m.offset}, pos=" ++ m.pos.written ++ ", input=" ++ m.found.written ++
    ", expected=" ++ labels ++ ")"

end Message

end Parsing
