import Remit.Settings.Yaml.Source

/-!
Scalars without quotation marks. They end before a colon that is a word by itself, before a comment
and, inside brackets, before brackets, commas and question marks. They go on over line ends, which
are folded.
-/

namespace Remit.Settings.Yaml

def isBracketOrComma (c : Char) : Bool :=
  c = ',' || c = '[' || c = ']' || c = '\x7b' || c = '\x7d'

def isIndicator (c : Char) : Bool :=
  isBracketOrComma c || c = '-' || c = '?' || c = ':' || c = '#' || c = '&' || c = '*' ||
    c = '!' || c = '|' || c = '>' || c = '\'' || c = '"' || c = '%' || c = '@' || c = '\x60'

/-- A dash, and outside brackets a question mark or a colon, begins a plain scalar if a blank does
not follow. -/
def startsPlain (inFlow : Bool) : List Char → Bool
  | [] => false
  | c :: rest =>
      (!isBlank c && !isIndicator c) ||
        (!endsWord rest && (c = '-' || (!inFlow && (c = '?' || c = ':'))))

def endsPlain (inFlow : Bool) : List Char → Bool
  | [] => true
  | c :: rest =>
      isBlank c ||
        (c = ':' && (endsWord rest || (inFlow && rest.head?.any isBracketOrComma))) ||
        (inFlow && (c = '?' || isBracketOrComma c))

def plainWord (inFlow : Bool) : List Char → List Char
  | [] => []
  | c :: rest => if endsPlain inFlow (c :: rest) then [] else c :: plainWord inFlow rest

/-- Further line ends, and the spaces around them; none if a mark between documents follows. -/
def plainBreaks : Nat → Source → Option (List Char) × Source
  | 0, s => (some [], s)
  | fuel + 1, s =>
      if s.isAtBoundary then (none, s)
      else
        let s := s.skipSpaces
        match s.lineBreak? with
        | none => (some [], s)
        | some (c, s) =>
            let (more, s) := plainBreaks fuel s
            (more.map (c :: ·), s)

/-- The blanks behind a word as they count if another word follows, and whether there is a line end
among them. -/
def plainBlanks (s : Source) : List Char × Bool × Source :=
  let (spaces, s) := s.split (· = ' ')
  match s.lineBreak? with
  | none => (spaces, false, s)
  | some (first, s) =>
      let (more, s) := plainBreaks s.fuel s
      ((more.map (foldBreaks first)).getD [], true, s)

structure PlainScalar where
  text : List Char
  onNewLine : Bool
  source : Source

/-- The words of a plain scalar from a place on. The text before them, in reverse, and the blanks
after it are given. Words on further lines stand in the column `least` or behind it, except inside
brackets. -/
def plainWords (inFlow : Bool) (least : Nat) :
    Nat → (read blanks : List Char) → (onNewLine : Bool) → Source → PlainScalar
  | 0, read, _, onNewLine, s => ⟨read.reverse, onNewLine, s⟩
  | fuel + 1, read, blanks, onNewLine, s =>
      let word := plainWord inFlow s.rest
      if s.rest.head? = some '#' ∨ word.isEmpty then ⟨read.reverse, onNewLine, s⟩
      else
        let read := word.reverse ++ (blanks.reverse ++ read)
        let (blanks, onNewLine, s) := plainBlanks (s.skip word.length)
        if blanks.isEmpty ∨ (!inFlow ∧ s.column < least) then ⟨read.reverse, onNewLine, s⟩
        else plainWords inFlow least fuel read blanks onNewLine s

def plainScalar (inFlow : Bool) (least : Nat) (s : Source) : PlainScalar :=
  plainWords inFlow least s.fuel [] [] false s

end Remit.Settings.Yaml
