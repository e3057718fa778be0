/-!
Characters given by code units. A high and a low surrogate together stand for one character.
-/

namespace Remit.Text

def isHighSurrogate (n : Nat) : Bool :=
  0xD800 ≤ n && n < 0xDC00

def isLowSurrogate (n : Nat) : Bool :=
  0xDC00 ≤ n && n < 0xE000

/-- The character of a code point; a lone surrogate has none of its own. -/
def charOfCode (n : Nat) : Char :=
  if n.isValidChar then Char.ofNat n else '\uFFFD'

def joinSurrogates : List Nat → List Char
  | [] => []
  | high :: low :: rest =>
      if isHighSurrogate high && isLowSurrogate low then
        charOfCode (0x10000 + (high - 0xD800) * 0x400 + (low - 0xDC00)) :: joinSurrogates rest
      else charOfCode high :: joinSurrogates (low :: rest)
  | [n] => [charOfCode n]

end Remit.Text
