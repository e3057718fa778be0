import Remit.Number.Digits

/-!
Integers written as text.
-/

namespace Remit.Settings.Numeral

/-- White space in the sense of the Unicode property of that name. -/
def isWhite (c : Char) : Bool :=
  let n := c.toNat
  (0x09 ≤ n && n ≤ 0x0D) || n = 0x20 || n = 0x85 || n = 0xA0 || n = 0x1680 ||
    (0x2000 ≤ n && n ≤ 0x200A) || n = 0x2028 || n = 0x2029 || n = 0x202F || n = 0x205F ||
    n = 0x3000

def trim (text : List Char) : List Char :=
  ((text.dropWhile isWhite).reverse.dropWhile isWhite).reverse

inductive Unreadable where
  | malformed
  | tooLong
deriving DecidableEq

/-- Number of digits, a minus sign included, up to which an integer is read. -/
def longest : Nat := 4300

/-- Digits without leading zeros, behind a minus sign or not. The limit of their number counts also
where something else follows them. -/
def plain (text : List Char) : Except Unreadable Int :=
  let (sign, body) : Int × List Char :=
    match text with
    | '-' :: rest => (-1, rest)
    | _ => (1, text)
  let digits := body.takeWhile Char.isDigit
  let rest := body.dropWhile Char.isDigit
  match digits with
  | [] => .error .malformed
  | ['0'] => if rest.isEmpty then .ok 0 else .error .malformed
  | '0' :: _ => .error .malformed
  | _ =>
      if longest < text.length - rest.length then .error .tooLong
      else if rest.isEmpty then .ok (sign * Digits.value 10 digits)
      else .error .malformed

/-- What follows zeros and underscores, from the first other digit on, or from the character before
a point. If nothing follows, the last character is left. -/
def dropZeros (last : Char) : List Char → Option (List Char)
  | [] => some [last]
  | c :: rest =>
      if c = '0' ∨ c = '_' then dropZeros c rest
      else if c = '-' ∨ ('1' ≤ c ∧ c ≤ '9') then some (c :: rest)
      else if c = '.' then some (last :: c :: rest)
      else none

/-- Leading zeros are dropped, with the underscores between them. -/
def stripZeros? : List Char → Option (List Char)
  | '0' :: rest => dropZeros '0' rest
  | c :: rest => if c = '-' ∨ ('1' ≤ c ∧ c ≤ '9') then some (c :: rest) else none
  | [] => none

/-- A fraction of zeros, one at least, is dropped. -/
def stripFraction (text : List Char) : List Char :=
  match text.dropWhile (· ≠ '.') with
  | '.' :: zeros =>
      if zeros ≠ [] ∧ zeros.all (· = '0') then text.takeWhile (· ≠ '.') else text
  | _ => text

def hasDoubleUnderscore : List Char → Bool
  | '_' :: '_' :: _ => true
  | _ :: rest => hasDoubleUnderscore rest
  | [] => false

/-- Single underscores between other characters are dropped. -/
def stripUnderscores (text : List Char) : List Char :=
  if text.head? = some '_' ∨ text.getLast? = some '_' ∨ hasDoubleUnderscore text then text
  else text.filter (· ≠ '_')

/-- An integer without the white space around it, a plus sign, leading zeros, a fraction of zeros
and single underscores. -/
def clean? (text : List Char) : Option (List Char) := do
  let body ←
    match trim text with
    | '+' :: '-' :: _ => none
    | '+' :: rest => some rest
    | rest => some rest
  return stripUnderscores (stripFraction (← stripZeros? body))

/-- A text is read as it stands, and cleaned if that fails. -/
def integer (text : String) : Except Unreadable Int :=
  match plain text.toList with
  | .error .malformed =>
      match clean? text.toList with
      | some cleaned => plain cleaned
      | none => .error .malformed
  | read => read

end Remit.Settings.Numeral
