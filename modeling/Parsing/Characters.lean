import Parsing.TokenParser

namespace Parsing

namespace TokenParser

-- The character `c`.
def char (c : String) : TokenParser := equalTo c

def letter : TokenParser := (satisfy Test.isLetter).label "letter"

def digit : TokenParser := (satisfy Test.isDigit).label "digit"

def whitespace : TokenParser := (satisfy Test.isBlank).label "whitespace"

def letterOrDigit : TokenParser := (satisfy Test.isLetterOrNumeric).label "letter or digit"

def upper : TokenParser := (satisfy Test.isUpper).label "uppercase letter"

def lower : TokenParser := (satisfy Test.isLower).label "lowercase letter"

def hexDigit : TokenParser :=
  (satisfy (Test.partOf "0123456789abcdefABCDEF")).label "hexadecimal digit"

def newline : TokenParser := (char "\n").label "new-line"

-- Any of the characters of `cs`.
def anyOf (cs : String) : TokenParser := (satisfy (Test.partOf cs)).label (.str ("one of " ++ cs))

-- Any character but those of `cs`.
def noneOf (cs : String) : TokenParser :=
  (satisfy (Test.partOf cs).not).label (.str ("none of " ++ cs))

end TokenParser

namespace Parser

-- What the members of a sequence stand for, one after the other, as one text. All of it is known by
-- the same label, so a failure half way through names the whole and points at the token that
-- differs.
def tokens (items : List Value) (label : Value) : Parser String :=
  let all := sequence (items.map fun v => ((TokenParser.ofValue v).label label).toParser)
  (all.tryMap Value.joinTexts).label label

-- The characters of `s` one after the other.
def string (s : String) : Parser String := tokens (s.toList.map Value.char) s

-- The members of a sequence one after the other.
def membersOf (v : Value) : Parser String :=
  match v.members with
  | .ok items => tokens items v
  | .error fault => faulty fault

-- Letters, digits and underscores, at least one.
def identifier : Parser String :=
  ((TokenParser.letter.toParser <|> TokenParser.digit.toParser) <|>
    (TokenParser.char "_").toParser).rep.tryMap Value.joinTexts

end Parser

end Parsing
