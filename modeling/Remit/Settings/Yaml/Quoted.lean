import Remit.Number.Digits
import Remit.Settings.Yaml.Source
import Remit.Text.Surrogate

/-!
Scalars in quotation marks. They go on over line ends, which are folded; in double quotation marks
a backslash starts an escape.
-/

namespace Remit.Settings.Yaml

/-- Further line ends, and the spaces around them. A mark between documents is not allowed here. -/
def quotedBreaks : Nat → Source → Except Error (List Char × Source)
  | 0, _ => .error .malformed
  | fuel + 1, s =>
      if s.isAtBoundary then .error .malformed
      else
        let s := s.skipWhile isSpace
        match s.lineBreak? with
        | none => .ok ([], s)
        | some (c, s) => do
            let (more, s) ← quotedBreaks fuel s
            return (c :: more, s)

def quotedBlanks (s : Source) : Except Error (List Char × Source) := do
  let (spaces, s) := s.split isSpace
  match s.lineBreak? with
  | none => return (spaces, s)
  | some (first, s) =>
      let (more, s) ← quotedBreaks s.fuel s
      return (foldBreaks first more, s)

def escape? : Char → Option Char
  | '0' => some '\x00'
  | 'a' => some '\x07'
  | 'b' => some '\x08'
  | 't' => some '\t'
  | '\t' => some '\t'
  | 'n' => some '\n'
  | 'v' => some '\x0b'
  | 'f' => some '\x0c'
  | 'r' => some '\r'
  | 'e' => some '\x1b'
  | ' ' => some ' '
  | '"' => some '"'
  | '\\' => some '\\'
  | '/' => some '/'
  | 'N' => some '\x85'
  | '_' => some '\xa0'
  | 'L' => some '\u2028'
  | 'P' => some '\u2029'
  | _ => none

def escapeLength? : Char → Option Nat
  | 'x' => some 2
  | 'u' => some 4
  | 'U' => some 8
  | _ => none

def isHexDigit (c : Char) : Bool :=
  (Digits.digitValue? 16 c).isSome

/-- The code points of an escape, whose backslash is past. -/
def quotedEscape (s : Source) : Except Error (List Nat × Source) :=
  match s.rest with
  | [] => .error .malformed
  | c :: rest =>
      match escape? c, escapeLength? c, s.lineBreak? with
      | some meant, _, _ => .ok ([meant.toNat], s.advance)
      | none, some length, _ =>
          let digits := rest.take length
          if digits.length < length ∨ !digits.all isHexDigit then .error .malformed
          else
            let code := Digits.value 16 digits
            if 0x110000 ≤ code then .error .noSuchValue
            else .ok ([code], s.skip (length + 1))
      | none, none, some (_, after) => do
          let (more, s) ← quotedBreaks after.fuel after
          return (more.map Char.toNat, s)
      | none, none, none => .error .malformed

/-- The code points up to the closing quotation mark, after those in reverse that are read. -/
def quotedCodes (mark : Char) : Nat → List Nat → Source → Except Error (List Nat × Source)
  | 0, _, _ => .error .malformed
  | fuel + 1, read, s =>
      match s.rest with
      | [] => .error .malformed
      | c :: rest =>
          if isBlank c then do
            let (blanks, s) ← quotedBlanks s
            quotedCodes mark fuel ((blanks.map Char.toNat).reverse ++ read) s
          else if c = '\\' ∧ mark = '"' then do
            let (codes, s) ← quotedEscape s.advance
            quotedCodes mark fuel (codes.reverse ++ read) s
          else if c ≠ mark then quotedCodes mark fuel (c.toNat :: read) s.advance
          else if mark = '\'' ∧ rest.head? = some mark then
            quotedCodes mark fuel (c.toNat :: read) (s.skip 2)
          else .ok (read.reverse, s.advance)

def quoted (mark : Char) (s : Source) : Except Error (String × Source) := do
  let (codes, s) ← quotedCodes mark s.fuel [] s.advance
  return (String.ofList (Text.joinSurrogates codes), s)

end Remit.Settings.Yaml
