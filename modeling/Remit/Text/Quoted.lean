import Remit.Text.Printable

/-!
Texts in quotation marks, with escapes for what cannot be shown as itself.
-/

namespace Remit.Text

/-- The low `width` hexadecimal digits of a number, in lower case. -/
def hexDigits : Nat → Nat → List Char
  | 0, _ => []
  | width + 1, n => hexDigits width (n / 16) ++ [Nat.digitChar (n % 16)]

/-- Two digits below `U+0100`, four below `U+10000`, eight otherwise. -/
def codeEscape (n : Nat) : List Char :=
  if n < 0x100 then '\\' :: 'x' :: hexDigits 2 n
  else if n < 0x10000 then '\\' :: 'u' :: hexDigits 4 n
  else '\\' :: 'U' :: hexDigits 8 n

/-- A backslash, the marks around the text, line ends, tabs and all that is not shown as itself are
escaped. -/
def escape (mark : Char) (isShown : Char → Bool) (c : Char) : List Char :=
  if c = '\\' ∨ c = mark then ['\\', c]
  else if c = '\t' then ['\\', 't']
  else if c = '\n' then ['\\', 'n']
  else if c = '\r' then ['\\', 'r']
  else if isShown c then [c]
  else codeEscape c.toNat

/-- Single quotation marks, unless the text holds such and no double ones. -/
def markFor (text : List Char) : Char :=
  if text.contains '\'' && !text.contains '"' then '"' else '\''

def quoteWith (isShown : Char → Bool) (text : String) : String :=
  let chars := text.toList
  let mark := markFor chars
  String.ofList (mark :: chars.flatMap (escape mark isShown) ++ [mark])

/-- Printable characters are shown as themselves. -/
def quote (text : String) : String :=
  quoteWith isPrintable text

/-- Printable ASCII characters are shown as themselves. -/
def quoteAscii (text : String) : String :=
  quoteWith (fun c => isPrintable c && c.toNat < 0x80) text

def quoteChar (c : Char) : String :=
  quote (String.singleton c)

end Remit.Text
