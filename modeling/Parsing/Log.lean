import Parsing.Message
import Parsing.Tokens

namespace Parsing

-- Whole runs, attempts of named parsers, and traces of the input that is left.
inductive Record where
  | running (parser : String) (size : Nat)
  | succeeded (parser : String) (offset : Nat)
  | failed (parser : String) (message : Message)
  | trying (name : String) (pos : Position)
  | matched (name : String) (pos : Position)
  | unmatched (name : String) (pos : Position) (expected : String)
  | traced (label : String) (preview : Tokens) (more : Bool) (offset : Nat) (pos : Position)

namespace Record

def text : Record → Fallible String
  | .running parser size => return s!"running {parser} on {size} tokens"
  | .succeeded parser offset => return s!"{parser} succeeded at offset {offset}"
  | .failed parser message => return s!"{parser} failed: " ++ (← message.text)
  | .trying name pos => return s!"trying {name} at " ++ pos.text
  | .matched name pos => return s!"{name} matched up to " ++ pos.text
  | .unmatched name pos expected =>
    return s!"{name} failed at " ++ pos.text ++ ", expected " ++ expected
  | .traced label preview more offset pos =>
    return s!"{label}: " ++ (← preview.written) ++ (if more then "..." else "") ++
      s!" at offset {offset}, " ++ pos.text

-- All records are for those who follow a run in detail.
def level (_ : Record) : String := "DEBUG"

-- The line of a record: its level and its text. A record that has no text leaves no line.
def line? (r : Record) : Option (String × String) := r.text.toOption.map fun text => (r.level, text)

end Record

end Parsing
