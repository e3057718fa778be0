import Remit.Settings.Yaml.Literal
import Remit.Settings.Yaml.Plain
import Remit.Settings.Yaml.Property
import Remit.Settings.Yaml.Quoted

/-!
The tokens of a file. Indentation shows as tokens that open and close blocks, and a key shows as a
token before it, which is put there when its colon is found. A key stands on one line, and its colon
follows within `longestKey` characters.
-/

namespace Remit.Settings.Yaml

inductive Token where
  | directive (d : Directive)
  | documentStart
  | documentEnd
  | openBlockList
  | openBlockMapping
  | closeBlock
  | openFlowList
  | closeFlowList
  | openFlowMapping
  | closeFlowMapping
  | comma
  | dash
  | key
  | value
  | alias (name : String)
  | anchor (name : String)
  | tag (name : TagName)
  | scalar (text : String) (isPlain : Bool)
  /-- What follows is no token. -/
  | failure (error : Error)

structure KeyPlace where
  /-- Number of tokens before it. -/
  position : Nat
  /-- Whether nothing but a key may stand there. -/
  required : Bool
  index : Nat
  line : Nat
  column : Nat

structure Tokenizer where
  source : Source
  /-- The tokens so far, the last one first. -/
  tokens : List Token
  count : Nat
  indents : List Nat
  /-- The place where the key of the next colon may begin, for each open bracket and, last, for what
  is outside of them. -/
  keys : List (Option KeyPlace)
  keyAllowed : Bool

def longestKey : Nat := 1024

namespace Tokenizer

def ofSource (s : Source) : Tokenizer :=
  ⟨s, [], 0, [], [none], true⟩

def inFlow (t : Tokenizer) : Bool :=
  1 < t.keys.length

def emit (t : Tokenizer) (token : Token) : Tokenizer :=
  { t with tokens := token :: t.tokens, count := t.count + 1 }

/-- Puts a token in front of those from a position on. -/
def insert (t : Tokenizer) (position : Nat) (token : Token) : Tokenizer :=
  let after := t.count - position
  { t with
    tokens := t.tokens.take after ++ token :: t.tokens.drop after
    count := t.count + 1 }

def emitOf (t : Tokenizer) (length : Nat) (token : Token) : Tokenizer :=
  { t.emit token with source := t.source.skip length }

/-! ### Blocks -/

def isDeeper (t : Tokenizer) (column : Nat) : Bool :=
  t.indents.head?.all (· < column)

def nextColumn (t : Tokenizer) : Nat :=
  (t.indents.head?.map (· + 1)).getD 0

def closeWhile (isClosed : Nat → Bool) (t : Tokenizer) : Tokenizer :=
  let closed := t.indents.takeWhile isClosed
  closed.foldl (fun t _ => t.emit .closeBlock) { t with indents := t.indents.drop closed.length }

/-- Closes the blocks that are deeper than the current column. Brackets keep all blocks open. -/
def closeDeeper (t : Tokenizer) : Tokenizer :=
  if t.inFlow then t else t.closeWhile (t.source.column < ·)

def closeAll (t : Tokenizer) : Tokenizer :=
  if t.inFlow then t else t.closeWhile fun _ => true

/-- Opens a block at a column if that is deeper than the innermost one. -/
def openBlock (t : Tokenizer) (column position : Nat) (token : Token) : Tokenizer :=
  if t.isDeeper column then { t.insert position token with indents := column :: t.indents } else t

/-! ### Keys -/

/-- Gives up the place of a key, unless a key is required there. -/
def dropKey (t : Tokenizer) : Except Error Tokenizer :=
  match t.keys with
  | some place :: rest =>
      if place.required then .error .malformed else .ok { t with keys := none :: rest }
  | _ => .ok t

/-- Notes the current place if a key may begin there. -/
def noteKey (t : Tokenizer) : Except Error Tokenizer :=
  if !t.keyAllowed then .ok t
  else do
    let t ← t.dropKey
    let s := t.source
    let required := !t.inFlow && t.indents.head? = some s.column
    return { t with keys := some ⟨t.count, required, s.index, s.line, s.column⟩ :: t.keys.drop 1 }

/-- A key ends on its line and before it is too long. -/
def isStale (s : Source) (place : KeyPlace) : Bool :=
  place.line ≠ s.line || longestKey < s.index - place.index

def dropStaleKeys (t : Tokenizer) : Except Error Tokenizer :=
  let isStale := fun place : KeyPlace => isStale t.source place
  if t.keys.any fun key => key.any fun place => isStale place && place.required then
    .error .malformed
  else .ok { t with keys := t.keys.map fun key => key.filter fun place => !isStale place }

/-! ### Tokens -/

/-- Skips blanks and comments. A new line outside brackets may begin with a key. -/
def skipGap (inFlow : Bool) : Nat → Bool → Source → Bool × Source
  | 0, keyAllowed, s => (keyAllowed, s)
  | fuel + 1, keyAllowed, s =>
      let s := s.skipSpaces
      let s := if s.rest.head? = some '#' then s.skipLine else s
      match s.lineBreak? with
      | some (_, s) => skipGap inFlow fuel (keyAllowed || !inFlow) s
      | none => (keyAllowed, s)

def toNextToken (t : Tokenizer) : Tokenizer :=
  let s := t.source
  let s := if s.index = 0 ∧ s.rest.head? = some byteOrderMark then s.advance else s
  let (keyAllowed, s) := skipGap t.inFlow s.fuel t.keyAllowed s
  { t with keyAllowed := keyAllowed, source := s }

/-- A token between documents, which ends all blocks. -/
def documentToken (t : Tokenizer) (length : Nat) (token : Token) : Except Error Tokenizer := do
  let t ← t.closeAll.dropKey
  return { t.emitOf length token with keyAllowed := false }

def directiveToken (t : Tokenizer) : Except Error Tokenizer := do
  let t ← t.closeAll.dropKey
  let (found, s) ← directive t.source
  return { t.emit (.directive found) with keyAllowed := false, source := s }

def openBracket (t : Tokenizer) (token : Token) : Except Error Tokenizer := do
  let t ← t.noteKey
  return { t.emitOf 1 token with keyAllowed := true, keys := none :: t.keys }

/-- A bracket that was not opened closes nothing. -/
def closeBracket (t : Tokenizer) (token : Token) : Except Error Tokenizer := do
  let t ← t.dropKey
  match t.keys with
  | _ :: outer :: rest =>
      return { t.emitOf 1 token with keyAllowed := false, keys := outer :: rest }
  | _ => throw .malformed

def commaToken (t : Tokenizer) : Except Error Tokenizer := do
  let t ← t.dropKey
  return { t.emitOf 1 .comma with keyAllowed := true }

/-- A token that opens a block of its own where a key may begin. -/
def blockToken (t : Tokenizer) (block token : Token) : Except Error Tokenizer := do
  let t ←
    if t.inFlow then pure t
    else if t.keyAllowed then pure (t.openBlock t.source.column t.count block)
    else throw .malformed
  let t ← t.dropKey
  return t.emitOf 1 token

def dashToken (t : Tokenizer) : Except Error Tokenizer := do
  return { ← t.blockToken .openBlockList .dash with keyAllowed := true }

def questionToken (t : Tokenizer) : Except Error Tokenizer := do
  let t ← t.blockToken .openBlockMapping .key
  return { t with keyAllowed := !t.inFlow }

/-- A colon belongs to the key that was noted; otherwise it stands where a key may begin. -/
def colonToken (t : Tokenizer) : Except Error Tokenizer :=
  match t.keys with
  | some place :: rest =>
      let t := { t.insert place.position .key with keys := none :: rest, keyAllowed := false }
      let t := if t.inFlow then t else t.openBlock place.column place.position .openBlockMapping
      .ok (t.emitOf 1 .value)
  | _ => do
      let t ← t.blockToken .openBlockMapping .value
      return { t with keyAllowed := !t.inFlow }

/-- A token that may be a key, read by a function that gives what follows it. -/
def keyLike {α : Type} (t : Tokenizer) (read : Source → Except Error (α × Source))
    (token : α → Token) : Except Error Tokenizer := do
  let t ← t.noteKey
  let (found, s) ← read t.source
  return { t.emit (token found) with keyAllowed := false, source := s }

def literalToken (t : Tokenizer) (folded : Bool) : Except Error Tokenizer := do
  let t ← t.dropKey
  let (text, s) ← literal folded t.nextColumn t.source
  return { t.emit (.scalar text false) with keyAllowed := true, source := s }

def quotedToken (t : Tokenizer) (mark : Char) : Except Error Tokenizer :=
  t.keyLike (quoted mark) fun text => .scalar text false

/-- A new line behind a plain scalar may begin with a key. -/
def plainToken (t : Tokenizer) : Except Error Tokenizer := do
  let t ← t.noteKey
  let found := plainScalar t.inFlow t.nextColumn t.source
  return { t.emit (.scalar (String.ofList found.text) true) with
    keyAllowed := found.onNewLine, source := found.source }

/-- The token that begins with a character, whose text is at the front. -/
def tokenAt (t : Tokenizer) (c : Char) (rest : List Char) : Except Error Tokenizer :=
  let s := t.source
  let isWord := t.inFlow || endsWord rest
  if c = '%' ∧ s.column = 0 then t.directiveToken
  else if s.isAtMarker '-' then t.documentToken 3 .documentStart
  else if s.isAtMarker '.' then t.documentToken 3 .documentEnd
  else if c = '[' then t.openBracket .openFlowList
  else if c = '\x7b' then t.openBracket .openFlowMapping
  else if c = ']' then t.closeBracket .closeFlowList
  else if c = '\x7d' then t.closeBracket .closeFlowMapping
  else if c = ',' then t.commaToken
  else if c = '-' ∧ endsWord rest then t.dashToken
  else if c = '?' ∧ isWord then t.questionToken
  else if c = ':' ∧ isWord then t.colonToken
  else if c = '*' then t.keyLike anchorName .alias
  else if c = '&' then t.keyLike anchorName .anchor
  else if c = '!' then t.keyLike tagName .tag
  else if (c = '|' ∨ c = '>') ∧ !t.inFlow then t.literalToken (c = '>')
  else if c = '\'' ∨ c = '"' then t.quotedToken c
  else if startsPlain t.inFlow (c :: rest) then t.plainToken
  else throw .malformed

def step (t : Tokenizer) : Except Error (Option Tokenizer) := do
  let t ← t.toNextToken.dropStaleKeys
  let t := t.closeDeeper
  match t.source.rest with
  | [] => return none
  | c :: rest => return some (← t.tokenAt c rest)

/-- All tokens, with the failure that ends them if there is one. -/
def run : Nat → Tokenizer → List Token
  | 0, t => (t.emit (.failure .malformed)).tokens.reverse
  | fuel + 1, t =>
      match t.step with
      | .ok (some t) => run fuel t
      | .ok none =>
          match t.toNextToken.closeAll.dropKey with
          | .ok t => t.tokens.reverse
          | .error e => (t.emit (.failure e)).tokens.reverse
      | .error e => (t.emit (.failure e)).tokens.reverse

end Tokenizer

def Token.ofChars (text : List Char) : List Token :=
  (Tokenizer.ofSource (.ofChars text)).run (text.length + 1)

end Remit.Settings.Yaml
