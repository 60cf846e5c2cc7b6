import Parsing.Value.Equality
import Parsing.Value.Application
import Parsing.Unicode.Blank
import Parsing.Unicode.Digit
import Parsing.Unicode.Letter
import Parsing.Unicode.Lowercase
import Parsing.Unicode.Numeric
import Parsing.Unicode.Titlecase
import Parsing.Unicode.Uppercase

namespace Parsing

-- A test of a property that the value cannot have is a fault, not a no.
abbrev Test := Value → Fallible Bool

namespace Test

def always : Test := fun _ => return true

def never : Test := fun _ => return false

def truthy : Test := fun v => return v.truth

def refuse : Test := fun _ => throw .badValue

def equals (x : Value) : Test := fun v => return v == x

def differs (x : Value) : Test := fun v => return v != x

def not (t : Test) : Test := fun v => return !(← t v)

-- The first test that says no decides.
def all : List Test → Test
  | [], _ => return true
  | t :: ts, v => do if ← t v then all ts v else return false

-- The first test that says yes decides.
def any : List Test → Test
  | [], _ => return false
  | t :: ts, v => do if ← t v then return true else any ts v

-- The test `t` of what `f` makes of the value.
def on (f : Unary) (t : Test) : Test := fun v => do t (← f.apply v)

-- A function used as a test holds where its value counts as true.
def ofCall (f : Value) : Test := fun v => return (← f.call v).truth

def compare (holds : Int → Int → Bool) (n : Int) : Test := fun v =>
  v.integer?.elim (throw .wrongType) fun m => return holds m n

def above (n : Int) : Test := compare (fun m n => n < m) n

def below (n : Int) : Test := compare (fun m n => m < n) n

def longerThan (n : Int) : Test := fun v => return n < ((← v.length : Nat) : Int)

def isA (className : String) : Test := fun v => return v.classes.contains className

-- Whether `part` stands somewhere in the second list, without gaps.
def occursIn (part : List Char) : List Char → Bool
  | [] => part.isEmpty
  | c :: cs => part.isPrefixOf (c :: cs) || occursIn part cs

-- The value occurs in `s`; the empty text and texts of several characters may do so as well.
def partOf (s : String) : Test := fun v => return occursIn (← v.asText).toList s.toList

-- Every character satisfies `p`, and there is one.
def everyCharacter (p : Char → Bool) : Test := fun v => do
  let cs := (← v.asText).toList
  return !cs.isEmpty && cs.all p

def isLetter : Test := everyCharacter Unicode.letters.contains

def isDigit : Test := everyCharacter Unicode.digits.contains

def isBlank : Test := everyCharacter Unicode.blanks.contains

def isLetterOrNumeric : Test :=
  everyCharacter fun c => Unicode.letters.contains c || Unicode.numerics.contains c

-- Some character is in the wanted case and none is in the other case or in title case.
def inCase (wanted other : Unicode.CodePoints) : Test := fun v => do
  let cs := (← v.asText).toList
  return cs.any wanted.contains &&
    !cs.any fun c => other.contains c || Unicode.titlecase.contains c

def isUpper : Test := inCase Unicode.uppercase Unicode.lowercase

def isLower : Test := inCase Unicode.lowercase Unicode.uppercase

end Test

end Parsing
