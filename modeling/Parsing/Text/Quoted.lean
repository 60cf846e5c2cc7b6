import Parsing.Unicode.Printable

namespace Parsing.Text

def hexDigit (n : Nat) : Char :=
  if n < 10 then Char.ofNat (n + 48) else Char.ofNat (n + 87)

-- The lowest `width` hexadecimal digits of `n`, most significant first.
def hex : Nat → Nat → List Char
  | 0, _ => []
  | width + 1, n => hex width (n / 16) ++ [hexDigit (n % 16)]

-- The shortest of the three forms that can name the code point.
def escapePoint (n : Nat) : List Char :=
  if n < 0x100 then '\\' :: 'x' :: hex 2 n
  else if n < 0x10000 then '\\' :: 'u' :: hex 4 n
  else '\\' :: 'U' :: hex 8 n

def escape (shown : Char → Bool) (quote c : Char) : List Char :=
  if c == quote || c == '\\' then ['\\', c]
  else if c == '\n' then ['\\', 'n']
  else if c == '\r' then ['\\', 'r']
  else if c == '\t' then ['\\', 't']
  else if shown c then [c]
  else escapePoint c.toNat

-- Double quotes save an escape.
def quoteFor (cs : List Char) : Char :=
  if cs.contains '\'' && !cs.contains '"' then '"' else '\''

def quotedWith (shown : Char → Bool) (cs : List Char) : String :=
  let quote := quoteFor cs
  String.ofList (quote :: cs.flatMap (escape shown quote) ++ [quote])

def quoted (s : String) : String := quotedWith Unicode.printables.contains s.toList

-- Bytes are shown as the ASCII characters they encode, all others as escapes.
def quotedBytes (bytes : List Nat) : String :=
  "b" ++ quotedWith (fun c => 0x20 ≤ c.toNat && c.toNat < 0x7f) (bytes.map Char.ofNat)

def commaSeparated (parts : List String) : String := ", ".intercalate parts

end Parsing.Text
