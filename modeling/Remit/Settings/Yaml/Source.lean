/-!
A text that is being read, and the place that the reading has come to.
-/

namespace Remit.Settings.Yaml

inductive Error where
  /-- The text does not follow the grammar, or names what there is not. -/
  | malformed
  /-- A number, a date or a character is written that does not exist. -/
  | noSuchValue
deriving DecidableEq

structure Source where
  rest : List Char
  size : Nat
  index : Nat
  line : Nat
  column : Nat

def byteOrderMark : Char := '\uFEFF'

def isBreak (c : Char) : Bool :=
  c = '\n' || c = '\x85' || c = '\u2028' || c = '\u2029'

def isSpace (c : Char) : Bool :=
  c = ' ' || c = '\t'

def isBlank (c : Char) : Bool :=
  isSpace c || isBreak c

/-- Whether a text begins with a blank or is at its end. -/
def endsWord : List Char → Bool
  | [] => true
  | c :: _ => isBlank c

/-- Whether a text begins with a space or a line end or is at its end. -/
def endsName : List Char → Bool
  | [] => true
  | c :: _ => c = ' ' || isBreak c

namespace Source

def ofChars (text : List Char) : Source :=
  ⟨text, text.length, 0, 0, 0⟩

def fuel (s : Source) : Nat :=
  s.size - s.index + 1

/-- One character on. A byte order mark has no width. -/
def advance (s : Source) : Source :=
  match s.rest with
  | [] => s
  | c :: rest =>
      let s := { s with rest := rest, index := s.index + 1 }
      if isBreak c then { s with line := s.line + 1, column := 0 }
      else if c = byteOrderMark then s
      else { s with column := s.column + 1 }

def skip : Nat → Source → Source
  | 0, s => s
  | n + 1, s => skip n s.advance

def skipWhile (p : Char → Bool) (s : Source) : Source :=
  s.skip (s.rest.takeWhile p).length

def split (p : Char → Bool) (s : Source) : List Char × Source :=
  (s.rest.takeWhile p, s.skipWhile p)

@[simp] theorem rest_advance (s : Source) : s.advance.rest = s.rest.drop 1 := by
  obtain ⟨rest, size, index, line, column⟩ := s
  cases rest with
  | nil => rfl
  | cons c rest =>
      unfold advance
      dsimp only
      split
      · rfl
      · split <;> rfl

@[simp] theorem rest_skip (n : Nat) (s : Source) : (s.skip n).rest = s.rest.drop n := by
  induction n generalizing s with
  | zero => rfl
  | succ n ih =>
      rw [skip, ih, rest_advance, List.drop_drop]
      congr 1
      omega

theorem split_append (p : Char → Bool) (s : Source) :
    (s.split p).1 ++ (s.split p).2.rest = s.rest := by
  rw [split, skipWhile, rest_skip]
  exact List.prefix_iff_eq_append.1 (List.takeWhile_prefix p)

def skipSpaces (s : Source) : Source :=
  s.skipWhile (· = ' ')

def skipLine (s : Source) : Source :=
  s.skipWhile fun c => !isBreak c

/-- A line end, and what follows it. The line end of old terminals counts as a line feed. -/
def lineBreak? (s : Source) : Option (Char × Source) :=
  match s.rest with
  | c :: _ => if isBreak c then some (if c = '\x85' then '\n' else c, s.advance) else none
  | [] => none

/-- Three times the same mark as a word at the start of a line. -/
def isAtMarker (mark : Char) (s : Source) : Bool :=
  s.column = 0 && s.rest.take 3 = [mark, mark, mark] && endsWord (s.rest.drop 3)

def isAtBoundary (s : Source) : Bool :=
  s.isAtMarker '-' || s.isAtMarker '.'

/-- What a line may hold behind an indicator: nothing but spaces and a comment. -/
def restOfLine? (s : Source) : Option Source :=
  let s := s.skipSpaces
  let s := if s.rest.head? = some '#' then s.skipLine else s
  match s.rest with
  | [] => some s
  | _ => s.lineBreak?.map (·.2)

end Source

/-- Line ends inside a scalar: one line feed is a space, and the first of several is dropped. -/
def foldBreaks (first : Char) (more : List Char) : List Char :=
  if first ≠ '\n' then first :: more
  else if more.isEmpty then [' ']
  else more

end Remit.Settings.Yaml
