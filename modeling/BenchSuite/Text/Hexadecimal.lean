/-!
# Hexadecimal numbers

Escapes number characters in hexadecimal.  Digits are read in either case and written small.
-/

namespace BenchSuite.Text

def hexValue? (c : Char) : Option Nat :=
  if c.isDigit then some (c.toNat - '0'.toNat)
  else if 'a' ≤ c && c ≤ 'f' then some (c.toNat - 'a'.toNat + 10)
  else if 'A' ≤ c && c ≤ 'F' then some (c.toNat - 'A'.toNat + 10)
  else none

def hexNumber? (digits : List Char) : Option Nat :=
  digits.foldlM (fun number digit => (16 * number + ·) <$> hexValue? digit) 0

/-- The digits of a number, without leading zeros. -/
def hexDigits (number : Nat) : List Char :=
  Nat.toDigits 16 number

def characterOfNumber? (number : Nat) : Option Char :=
  if valid : number.isValidChar then
    some ⟨number.toUInt32, by
      have small : number < UInt32.size := by
        rcases valid with below | above
        · exact Nat.lt_trans below (by decide)
        · exact Nat.lt_trans above.2 (by decide)
      simpa [UInt32.isValidChar, Nat.mod_eq_of_lt small] using valid⟩
  else none

end BenchSuite.Text
