/-!
## Decimal numerals

Natural numbers as runs of the ten ASCII digits.

* `decimal` writes a number without leading zeros.
* `digitsValue` reads a run of digits; leading zeros are allowed.
-/

namespace Phrasebook.Text

/-- Whether a character is one of the ten ASCII digits. -/
def isDigit (c : Char) : Bool :=
  '0' ≤ c && c ≤ '9'

theorem isDigit_iff {c : Char} : isDigit c = true ↔ 0x30 ≤ c.toNat ∧ c.toNat ≤ 0x39 := by
  rw [isDigit, Bool.and_eq_true, decide_eq_true_eq, decide_eq_true_eq]
  exact Iff.rfl

/-- The value of a digit. -/
def digitValue (c : Char) : Nat :=
  c.toNat - '0'.toNat

/-- The digit for a value below ten. -/
def digitChar (n : Nat) : Char :=
  Char.ofNat ('0'.toNat + n)

/-- The value of a run of digits. -/
def digitsValue (ds : List Char) : Nat :=
  ds.foldl (fun value d => 10 * value + digitValue d) 0

/-- The digits of a number, most significant first. -/
def decimal (n : Nat) : List Char :=
  if _h : n < 10 then [digitChar n]
  else decimal (n / 10) ++ [digitChar (n % 10)]
termination_by n
decreasing_by omega

/-- The digits of an integer, with a minus sign if it is negative. -/
def decimalInt (n : Int) : List Char :=
  if n < 0 then '-' :: decimal n.natAbs else decimal n.natAbs

/-- The digit for a value below sixteen, in lower case. -/
def hexChar (n : Nat) : Char :=
  if n < 10 then digitChar n else Char.ofNat ('a'.toNat + (n - 10))

/-- The digit for a value below sixteen, in upper case. -/
def upperHexChar (n : Nat) : Char :=
  if n < 10 then digitChar n else Char.ofNat ('A'.toNat + (n - 10))

/-- The value of a hexadecimal digit of either case. -/
def hexValue? (c : Char) : Option Nat :=
  if isDigit c then some (digitValue c)
  else if 'a' ≤ c && c ≤ 'f' then some (c.toNat - 'a'.toNat + 10)
  else if 'A' ≤ c && c ≤ 'F' then some (c.toNat - 'A'.toNat + 10)
  else none

/-- The value of a run of hexadecimal digits, if it has no other characters. -/
def hexNumber? (ds : List Char) : Option Nat :=
  ds.foldl (fun value d => do return 16 * (← value) + (← hexValue? d)) (some 0)

/-- The character whose code point is written with hexadecimal digits, if it is one. -/
def codePoint? (ds : List Char) : Option Char := do
  let n ← hexNumber? ds
  if n < 0xD800 || (0xE000 ≤ n && n < 0x110000) then some (Char.ofNat n) else none

/-- The hexadecimal digits of a number in lower case, most significant first. -/
def hexadecimal (n : Nat) : List Char :=
  if _h : n < 16 then [hexChar n]
  else hexadecimal (n / 16) ++ [hexChar (n % 16)]
termination_by n
decreasing_by omega

end Phrasebook.Text
