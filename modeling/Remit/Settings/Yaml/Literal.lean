import Remit.Number.Digits
import Remit.Settings.Yaml.Source

/-!
Scalars of whole lines, which stand below a bar or an angle bracket. Behind the bar lines are kept,
behind the angle bracket they are folded.
-/

namespace Remit.Settings.Yaml

inductive Chomping where
  | strip
  | clip
  | keep
deriving DecidableEq

structure LiteralHeader where
  chomping : Chomping
  /-- Columns of the lines, counted from those of the surroundings. -/
  increment : Option Nat

def chomping? : Char → Option Chomping
  | '+' => some .keep
  | '-' => some .strip
  | _ => none

def increment? (c : Char) : Option Nat :=
  match Digits.digitValue? 10 c with
  | some 0 => none
  | found => found

/-- At most one sign and one digit, in any order. -/
def literalHeader? (s : Source) : Option (LiteralHeader × Source) :=
  let (header, length) : LiteralHeader × Nat :=
    match s.rest with
    | a :: b :: _ =>
        match chomping? a, increment? a, chomping? b, increment? b with
        | some chomping, _, _, some n => (⟨chomping, some n⟩, 2)
        | some chomping, _, _, none => (⟨chomping, none⟩, 1)
        | none, some n, some chomping, _ => (⟨chomping, some n⟩, 2)
        | none, some n, none, _ => (⟨.clip, some n⟩, 1)
        | none, none, _, _ => (⟨.clip, none⟩, 0)
    | [a] =>
        match chomping? a, increment? a with
        | some chomping, _ => (⟨chomping, none⟩, 1)
        | none, some n => (⟨.clip, some n⟩, 1)
        | none, none => (⟨.clip, none⟩, 0)
    | [] => (⟨.clip, none⟩, 0)
  let s := s.skip length
  if endsName s.rest then (s.restOfLine?).map (header, ·) else none

def indentTo (column : Nat) (s : Source) : Source :=
  s.skip (min (column - s.column) (s.rest.takeWhile (· = ' ')).length)

/-- Empty lines, and the indentation of the line that follows them. -/
def literalBreaks (column : Nat) : Nat → Source → List Char × Source
  | 0, s => ([], s)
  | fuel + 1, s =>
      let s := indentTo column s
      match s.lineBreak? with
      | none => ([], s)
      | some (c, s) =>
          let (more, s) := literalBreaks column fuel s
          (c :: more, s)

/-- Empty lines before the first line, and the largest column among them and the first line. -/
def literalIndentation : Nat → Source → List Char × Nat × Source
  | 0, s => ([], 0, s)
  | fuel + 1, s =>
      let s := s.skipSpaces
      match s.lineBreak? with
      | none => ([], s.column, s)
      | some (c, after) =>
          let (more, column, after) := literalIndentation fuel after
          (c :: more, max s.column column, after)

def startsWithSpace (s : Source) : Bool :=
  s.rest.head?.any isSpace

/-- The lines at a column: their text, the end of the last one and the empty lines behind it. -/
def literalLines (folded : Bool) (column : Nat) :
    Nat → (breaks : List Char) → Source → List Char × List Char × List Char × Source
  | 0, breaks, s => ([], [], breaks, s)
  | fuel + 1, breaks, s =>
      if s.column ≠ column ∨ s.rest.isEmpty then ([], [], breaks, s)
      else
        let indented := startsWithSpace s
        let (line, s) := s.split fun c => !isBreak c
        let (ending, s) : List Char × Source :=
          match s.lineBreak? with
          | some (c, s) => ([c], s)
          | none => ([], s)
        let (more, s) := literalBreaks column s.fuel s
        if s.column ≠ column ∨ s.rest.isEmpty then (breaks ++ line, ending, more, s)
        else
          let joint :=
            if folded ∧ ending = ['\n'] ∧ !indented ∧ !startsWithSpace s then
              (if more.isEmpty then [' '] else [])
            else ending
          let (text, ending, tail, s) := literalLines folded column fuel more s
          (breaks ++ line ++ joint ++ text, ending, tail, s)

/-- A scalar whose indicator is at the front. Its lines stand in the column `least` or behind it. -/
def literal (folded : Bool) (least : Nat) (s : Source) : Except Error (String × Source) :=
  match literalHeader? s.advance with
  | none => .error .malformed
  | some (header, s) =>
      let least := max least 1
      let fuel := s.fuel
      let (breaks, column, s) : List Char × Nat × Source :=
        match header.increment with
        | none =>
            let (breaks, column, s) := literalIndentation fuel s
            (breaks, max least column, s)
        | some n =>
            let column := least + n - 1
            let (breaks, s) := literalBreaks column fuel s
            (breaks, column, s)
      let (text, ending, tail, s) := literalLines folded column fuel breaks s
      let text :=
        match header.chomping with
        | .strip => text
        | .clip => text ++ ending
        | .keep => text ++ ending ++ tail
      .ok (String.ofList text, s)

end Remit.Settings.Yaml
