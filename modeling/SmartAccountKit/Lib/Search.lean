import Mathlib.Data.List.Basic
import Mathlib.Data.List.TakeWhile

/-!
# Searching texts

The small part of regular expressions that the code uses: words, white space and digits, at the
first place of a text where they match.
-/

namespace SmartAccountKit.Lib

/-- What follows a word at the start of a text. -/
def afterWord (word : String) (cs : List Char) : Option (List Char) :=
  if word.toList.isPrefixOf cs then some (cs.drop word.length) else none

/-- The characters that `\s` matches. -/
def isSpace (c : Char) : Bool :=
  c.toNat ∈ [0x9, 0xa, 0xb, 0xc, 0xd, 0x20, 0xa0, 0x1680, 0x2028, 0x2029, 0x202f, 0x205f, 0x3000,
    0xfeff] ∨ 0x2000 ≤ c.toNat ∧ c.toNat ≤ 0x200a

/-- What follows the white space at the start of a text. -/
def afterSpaces (cs : List Char) : List Char := cs.dropWhile isSpace

/-- `text.trim()`. -/
def trim (text : String) : String :=
  String.ofList (afterSpaces (afterSpaces text.toList).reverse).reverse

/-- The number that the digits at the start of a text denote, and what follows them. -/
def readDigits (cs : List Char) : Option (ℕ × List Char) :=
  let digits := cs.takeWhile Char.isDigit
  if digits = [] then none
  else some (Nat.ofDigitChars 10 digits 0, cs.dropWhile Char.isDigit)

/-- The first match of a pattern in a text. -/
def firstMatch {α : Type} (pattern : List Char → Option α) (text : String) : Option α :=
  text.toList.tails.findSome? pattern

end SmartAccountKit.Lib
