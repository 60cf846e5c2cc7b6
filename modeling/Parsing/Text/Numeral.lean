import Parsing.Unicode.Blank
import Parsing.Unicode.Decimal

namespace Parsing.Text

-- Longer numerals are neither read nor written.
def maxDigits : Nat := 4300

-- The white space allowed around a numeral: the blank, U+0009 to U+000D, and beyond ASCII all
-- white space. The separators U+001C to U+001F do not count here.
def surrounds (c : Char) : Bool :=
  c == ' ' || (9 ≤ c.toNat && c.toNat ≤ 13) || (0x80 ≤ c.toNat && Unicode.blanks.contains c)

def trimWith (blank : Char → Bool) (cs : List Char) : List Char :=
  ((cs.dropWhile blank).reverse.dropWhile blank).reverse

-- The digits of a run in which an underscore is allowed only between two of them.
def digitRun? : Bool → List Char → Option (List Nat)
  | afterDigit, [] => if afterDigit then some [] else none
  | afterDigit, c :: cs =>
    if c == '_' then if afterDigit then digitRun? false cs else none
    else
      match Unicode.decimalValue? c, digitRun? true cs with
      | some d, some ds => some (d :: ds)
      | _, _ => none

def natural? (cs : List Char) : Option Nat :=
  match digitRun? false cs with
  | some ds => if ds.length ≤ maxDigits then some (ds.foldl (fun n d => 10 * n + d) 0) else none
  | none => none

-- A sign may stand before the digits, and white space around both.
def integer? (s : String) : Option Int :=
  match trimWith surrounds s.toList with
  | '-' :: cs => (natural? cs).map fun n => -(n : Int)
  | '+' :: cs => (natural? cs).map Int.ofNat
  | cs => (natural? cs).map Int.ofNat

-- The decimal numeral of `n`; there is none if it would be too long.
def numeral? (n : Int) : Option String :=
  let digits := toString n.natAbs
  if digits.length ≤ maxDigits then some (if n < 0 then "-" ++ digits else digits) else none

theorem numeral?_eq_none_iff {n : Int} :
    numeral? n = none ↔ Nat.pow 10 maxDigits ≤ n.natAbs := by
  have hpos : 0 < maxDigits := by decide
  simp only [numeral?]
  -- The bound is too large a number to be looked at.
  generalize maxDigits = most at hpos ⊢
  have hlength : (toString n.natAbs).length ≤ most ↔ n.natAbs < Nat.pow 10 most :=
    Nat.length_repr_le_iff hpos
  have hshort : ¬ (toString n.natAbs).length ≤ most ↔ Nat.pow 10 most ≤ n.natAbs := by
    rw [hlength, Nat.not_lt]
  rw [← hshort]
  simp

end Parsing.Text
