import Parsing.Value.Basic
import Parsing.Fault

namespace Parsing.Value

-- Only spanned values and token objects have a start and a stop.
def start : Value → Fallible Position
  | .parsed _ start _ => return start
  | .lexeme l => return l.start
  | _ => throw .noAttribute

def stop : Value → Fallible Position
  | .parsed _ _ stop => return stop
  | .lexeme l => return l.stop
  | _ => throw .noAttribute

def inner : Value → Fallible Value
  | .parsed v _ _ => return v
  | _ => throw .noAttribute

def lexemeText : Value → Fallible String
  | .lexeme l => return l.text
  | _ => throw .noAttribute

def kind : Value → Fallible String
  | .lexeme l => return l.kind
  | _ => throw .noAttribute

end Parsing.Value
