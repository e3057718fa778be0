import Remit.Log.Conversion
import Remit.Log.Record
import Remit.Number.Digits
import Remit.Text.Word

/-!
Line formats of log handlers. A field is written `%(name)`, flags, a width, a precision and a
letter, and a percent sign is doubled. A format is accepted if it is empty or has something that
looks like a field, which is looked for at every place, also behind a doubled percent sign.
-/

namespace Remit.Log

inductive Piece where
  | literal (c : Char)
  | field (name : String) (conversion : Conversion)
deriving DecidableEq

namespace Format

/-! ### What is accepted -/

/-- Letters of fields, in either case. Some letters of other scripts count as the case of one. -/
def isLetter (c : Char) : Bool :=
  ['d', 'i', 'o', 'u', 'x', 'e', 'f', 'g', 'c', 'r', 's', 'a', '%', '\u0130', '\u0131',
    '\u017F'].contains c.toLower

def isFlag (c : Char) : Bool :=
  c = '#' || c = '0' || c = '+' || c = ' ' || c = '-'

/-- What follows a star or digits of any script, none if there are none. -/
def dropSize? (text : List Char) : Option (List Char) :=
  match text with
  | '*' :: rest => some rest
  | c :: _ => if Text.isDecimal c then some (text.dropWhile Text.isDecimal) else none
  | [] => none

def dropPrecision (text : List Char) : List Char :=
  match text with
  | '.' :: rest => (dropSize? rest).getD text
  | _ => text

def looksLikeField (text : List Char) : Bool :=
  match text with
  | '(' :: rest =>
      !(rest.takeWhile Text.isWord).isEmpty &&
        match rest.dropWhile Text.isWord with
        | ')' :: rest =>
            let rest := rest.dropWhile isFlag
            (dropPrecision ((dropSize? rest).getD rest)).head?.any isLetter
        | _ => false
  | _ => false

def hasField : List Char → Bool
  | [] => false
  | c :: rest => (c = '%' && looksLikeField rest) || hasField rest

/-- The empty format stands for the bare text of the record. -/
def effective (format : String) : String :=
  if format = "" then "%(message)s" else format

def accepted (format : String) : Bool :=
  hasField (effective format).toList

/-! ### What is written -/

/-- A name up to the bracket that closes it, and what follows. The number counts the open ones. -/
def name? : Nat → List Char → Option (List Char × List Char)
  | _, [] => none
  | isOpen, c :: rest =>
      if c = ')' ∧ isOpen = 0 then some ([], rest)
      else
        let isOpen := if c = '(' then isOpen + 1 else if c = ')' then isOpen - 1 else isOpen
        (name? isOpen rest).map fun (name, rest) => (c :: name, rest)

def size (text : List Char) : Nat × List Char :=
  (Digits.value 10 (text.takeWhile Char.isDigit), text.dropWhile Char.isDigit)

def precision (text : List Char) : Option Nat × List Char :=
  match text with
  | '.' :: rest =>
      let (n, rest) := size rest
      (some n, rest)
  | _ => (none, text)

/-- A letter for the length of numbers, which says nothing. -/
def dropLength (text : List Char) : List Char :=
  match text with
  | 'h' :: rest => rest
  | 'l' :: rest => rest
  | 'L' :: rest => rest
  | _ => text

/-- Sizes from here on are refused. -/
def sizeLimit : Nat := 0x80000000

/-- A field behind a percent sign, and what follows it. A size that is taken from elsewhere is
refused. -/
def field? (text : List Char) : Option (Piece × List Char) :=
  match text with
  | '(' :: rest => do
      let (name, rest) ← name? 0 rest
      let flags := rest.takeWhile isFlag
      let (width, rest) := size (rest.drop flags.length)
      let (precision, rest) := precision rest
      match dropLength rest with
      | [] => none
      | letter :: rest =>
          if sizeLimit ≤ width ∨ sizeLimit ≤ precision.getD 0 then none
          else
            let conversion : Conversion := {
              left := flags.contains '-'
              zero := flags.contains '0'
              plus := flags.contains '+'
              space := flags.contains ' '
              alternate := flags.contains '#'
              width := width
              precision := precision
              letter := letter }
            some (.field (String.ofList name) conversion, rest)
  | _ => none

/-- The pieces of a format, unless a percent sign begins none. The number bounds the steps. -/
def pieces? : Nat → List Char → Option (List Piece)
  | _, [] => some []
  | 0, _ => none
  | fuel + 1, '%' :: '%' :: rest => (pieces? fuel rest).map (.literal '%' :: ·)
  | fuel + 1, '%' :: rest => do
      let (piece, rest) ← field? rest
      return piece :: (← pieces? fuel rest)
  | fuel + 1, c :: rest => (pieces? fuel rest).map (.literal c :: ·)

def value? (r : Record) (name : String) : Option FieldValue :=
  if name = "levelname" then some (.text r.level.name)
  else if name = "levelno" then some (.number r.level.severity)
  else if name = "name" then some (.text r.logger)
  else if name = "message" then some (.text r.text)
  else none

def renderPiece? (r : Record) : Piece → Option String
  | .literal c => some (String.singleton c)
  | .field name conversion => do conversion.render? (← value? r name)

/-- The line of a record, unless the format asks for what the record lacks. -/
def render? (format : String) (r : Record) : Option String := do
  let chars := (effective format).toList
  return String.join (← (← pieces? chars.length chars).mapM (renderPiece? r))

end Format

end Remit.Log
