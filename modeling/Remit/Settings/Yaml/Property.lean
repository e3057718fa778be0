import Remit.Number.Digits
import Remit.Settings.Yaml.Source

/-!
What may stand before a value beside its text: anchors, tags, and the directives of a document.
-/

namespace Remit.Settings.Yaml

def isNameChar (c : Char) : Bool :=
  c.isAlphanum || c = '-' || c = '_'

/-- What may follow the name of an anchor. -/
def endsAnchor : List Char → Bool
  | [] => true
  | c :: _ =>
      isBlank c || c = '?' || c = ':' || c = ',' || c = ']' || c = '\x7d' || c = '%' || c = '@' ||
        c = '\x60'

def anchorName (s : Source) : Except Error (String × Source) :=
  let (name, s) := s.advance.split isNameChar
  if name.isEmpty ∨ !endsAnchor s.rest then .error .malformed else .ok (String.ofList name, s)

/-- A tag as it is written: the mark of a group of tags, if any, and the name in the group. -/
structure TagName where
  handle : Option String
  suffix : String

def isUriChar (c : Char) : Bool :=
  c.isAlphanum ||
    ['-', ';', '/', '?', ':', '@', '&', '=', '+', '$', ',', '_', '.', '!', '~', '*', '\'', '(', ')',
      '[', ']', '%'].contains c

def uriEscapes : Nat → List Char → Except Error (List UInt8 × List Char)
  | 0, _ => .error .malformed
  | fuel + 1, '%' :: rest =>
      match rest with
      | a :: b :: rest =>
          match Digits.digitValue? 16 a, Digits.digitValue? 16 b with
          | some high, some low => do
              let (more, rest) ← uriEscapes fuel rest
              return (UInt8.ofNat (high * 16 + low) :: more, rest)
          | _, _ => .error .malformed
      | _ => .error .malformed
  | _, rest => .ok ([], rest)

/-- The characters of an address. Escapes stand for the bytes of a text. -/
def uriText : Nat → List Char → Except Error (List Char × List Char)
  | 0, _ => .error .malformed
  | _, [] => .ok ([], [])
  | fuel + 1, c :: rest =>
      if c = '%' then do
        let (bytes, rest) ← uriEscapes (rest.length + 2) (c :: rest)
        match String.fromUTF8? (ByteArray.mk bytes.toArray) with
        | none => throw .malformed
        | some chunk =>
            let (more, rest) ← uriText fuel rest
            return (chunk.toList ++ more, rest)
      else if isUriChar c then do
        let (more, rest) ← uriText fuel rest
        return (c :: more, rest)
      else .ok ([], c :: rest)

def uri (s : Source) : Except Error (String × Source) := do
  let (text, rest) ← uriText s.fuel s.rest
  let length := s.rest.length - rest.length
  if length = 0 then throw .malformed
  return (String.ofList text, s.skip length)

/-- The mark of a group of tags: an exclamation mark, or a name between two of them. -/
def tagHandle (s : Source) : Except Error (String × Source) :=
  match s.rest with
  | '!' :: ' ' :: _ => .ok ("!", s.advance)
  | '!' :: rest =>
      let name := rest.takeWhile isNameChar
      match rest.drop name.length with
      | '!' :: _ => .ok (String.ofList ('!' :: name ++ ['!']), s.skip (name.length + 2))
      | _ => .error .malformed
  | _ => .error .malformed

def tagName (s : Source) : Except Error (TagName × Source) := do
  let (tag, s) : TagName × Source ←
    match s.rest.drop 1 with
    | '<' :: _ => do
        let (suffix, s) ← uri (s.skip 2)
        if s.rest.head? ≠ some '>' then throw .malformed
        pure (⟨none, suffix⟩, s.advance)
    | rest =>
        if endsWord rest then pure (⟨none, "!"⟩, s.advance)
        else if (rest.takeWhile fun c => c ≠ ' ' && !isBreak c).contains '!' then do
          let (handle, s) ← tagHandle s
          let (suffix, s) ← uri s
          pure (⟨some handle, suffix⟩, s)
        else do
          let (suffix, s) ← uri s.advance
          pure (⟨some "!", suffix⟩, s)
  if endsName s.rest then return (tag, s) else throw .malformed

inductive Directive where
  | version (major : Nat)
  /-- The addresses that the tags of a group begin with. -/
  | tags (handle start : String)
  /-- Any other; it says nothing about the values. -/
  | reserved

def versionNumber (s : Source) : Except Error (Nat × Source) :=
  let (digits, s) := s.split Char.isDigit
  if digits.isEmpty then .error .malformed else .ok (Digits.value 10 digits, s)

def versionDirective (s : Source) : Except Error (Directive × Source) := do
  let (major, s) ← versionNumber s.skipSpaces
  if s.rest.head? ≠ some '.' then throw .malformed
  let (_, s) ← versionNumber s.advance
  if endsName s.rest then return (.version major, s) else throw .malformed

def tagDirective (s : Source) : Except Error (Directive × Source) := do
  let (handle, s) ← tagHandle s.skipSpaces
  if s.rest.head? ≠ some ' ' then throw .malformed
  let (start, s) ← uri s.skipSpaces
  if endsName s.rest then return (.tags handle start, s) else throw .malformed

/-- A directive at the front, with its line. -/
def directive (s : Source) : Except Error (Directive × Source) := do
  let (name, s) := s.advance.split isNameChar
  if name.isEmpty ∨ !endsName s.rest then throw .malformed
  let (found, s) ←
    match String.ofList name with
    | "YAML" => versionDirective s
    | "TAG" => tagDirective s
    | _ => pure (.reserved, s.skipLine)
  match s.restOfLine? with
  | some s => return (found, s)
  | none => throw .malformed

end Remit.Settings.Yaml
