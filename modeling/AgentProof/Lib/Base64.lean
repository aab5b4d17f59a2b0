import Mathlib.Tactic

/-!
# Base64

Bytes as base64 text, in the alphabet for URLs and without padding, and back:
the reader takes either alphabet, skips what belongs to neither, and stops at
the first padding character.  Padding is therefore up to the writer.
-/

namespace Base64

def digitOf (n : Nat) : Char :=
  if n < 26 then Char.ofNat (65 + n)
  else if n < 52 then Char.ofNat (71 + n)
  else if n < 62 then Char.ofNat (n - 4)
  else if n = 62 then '-'
  else '_'

def valueOf (c : Char) : Option Nat :=
  if 65 ≤ c.toNat ∧ c.toNat ≤ 90 then some (c.toNat - 65)
  else if 97 ≤ c.toNat ∧ c.toNat ≤ 122 then some (c.toNat - 71)
  else if 48 ≤ c.toNat ∧ c.toNat ≤ 57 then some (c.toNat + 4)
  else if c = '+' ∨ c = '-' then some 62
  else if c = '/' ∨ c = '_' then some 63
  else none

/-- Three bytes to four digits; what is left over takes two or three. -/
def encodeUrl : List Nat → List Char
  | a :: b :: c :: rest =>
      digitOf (a / 4) :: digitOf (a % 4 * 16 + b / 16) :: digitOf (b % 16 * 4 + c / 64) ::
        digitOf (c % 64) :: encodeUrl rest
  | [a, b] => [digitOf (a / 4), digitOf (a % 4 * 16 + b / 16), digitOf (b % 16 * 4)]
  | [a] => [digitOf (a / 4), digitOf (a % 4 * 16)]
  | [] => []

/-- Four digits to three bytes. -/
def bytesOf : List Nat → List Nat
  | a :: b :: c :: d :: rest =>
      (a * 4 + b / 16) :: (b % 16 * 16 + c / 4) :: (c % 4 * 64 + d) :: bytesOf rest
  | [a, b, c] => [a * 4 + b / 16, b % 16 * 16 + c / 4]
  | [a, b] => [a * 4 + b / 16]
  | _ => []

def decode (s : List Char) : List Nat :=
  bytesOf ((s.takeWhile (· ≠ '=')).filterMap valueOf)

end Base64
