import Remit.Settings.Yaml.Scalar
import Remit.Settings.Yaml.Token

/-!
The value of a file as a tree: scalars with their kinds, lists, and mappings with their entries as
they are written. A file holds one value, or none.
-/

namespace Remit.Settings.Yaml

inductive Node where
  | scalar (tag : Tag) (text : String)
  | list (tag : Tag) (items : List Node)
  | mapping (tag : Tag) (entries : List (Node × Node))

def Node.empty : Node :=
  .scalar .null ""

namespace Token

def isKey : Token → Bool
  | .key => true
  | _ => false

def isValue : Token → Bool
  | .value => true
  | _ => false

def isDash : Token → Bool
  | .dash => true
  | _ => false

def isComma : Token → Bool
  | .comma => true
  | _ => false

def closesBlock : Token → Bool
  | .closeBlock => true
  | _ => false

def closesFlowList : Token → Bool
  | .closeFlowList => true
  | _ => false

def closesFlowMapping : Token → Bool
  | .closeFlowMapping => true
  | _ => false

def startsDocument : Token → Bool
  | .documentStart => true
  | _ => false

def endsDocument : Token → Bool
  | .documentEnd => true
  | _ => false

def isDirective : Token → Bool
  | .directive _ => true
  | _ => false

end Token

/-- What is left to read, and the names that have been given. -/
structure Reader where
  tokens : List Token
  anchors : List (String × Node)
  /-- Beginnings of addresses by the marks of groups of tags. -/
  handles : List (String × String)

abbrev ReadM := StateT Reader (Except Error)

namespace ReadM

def peek : ReadM (Option Token) := do
  return (← get).tokens.head?

def drop : ReadM Unit :=
  modify fun r => { r with tokens := r.tokens.drop 1 }

/-- Stops at the next token. If that is a failure, it is the reason. -/
def refuse {α : Type} : ReadM α := do
  match ← peek with
  | some (.failure e) => throw e
  | _ => throw .malformed

def nextIs (p : Token → Bool) : ReadM Bool := do
  return (← peek).any p

/-- Drops the next token if it has a property. -/
def dropIf (p : Token → Bool) : ReadM Bool := do
  if ← nextIs p then
    drop
    return true
  else return false

def expect (p : Token → Bool) : ReadM Unit := do
  if ← dropIf p then return else refuse

/-- A value that is left out in front of certain tokens. -/
def orEmpty (absent : Token → Bool) (read : ReadM Node) : ReadM Node := do
  if ← nextIs absent then return .empty else read

def anchor? : ReadM (Option String) := do
  match ← peek with
  | some (.anchor name) =>
      drop
      return some name
  | _ => return none

def tag? : ReadM (Option TagName) := do
  match ← peek with
  | some (.tag name) =>
      drop
      return some name
  | _ => return none

/-- An anchor and a tag, in any order. -/
def properties : ReadM (Option String × Option TagName) := do
  match ← anchor? with
  | some name => return (some name, ← tag?)
  | none =>
      match ← tag? with
      | some tag => return (← anchor?, some tag)
      | none => return (none, none)

def address (tag : TagName) : ReadM String := do
  match tag.handle with
  | none => return tag.suffix
  | some handle =>
      match (← get).handles.lookup handle with
      | some start => return start ++ tag.suffix
      | none => throw .malformed

def anchored? (name : String) : ReadM (Option Node) := do
  return (← get).anchors.lookup name

def name (anchor : Option String) (node : Node) : ReadM Node := do
  match anchor with
  | none => return node
  | some name =>
      modify fun r => { r with anchors := (name, node) :: r.anchors }
      return node

/-- A collection. While it is read, its name stands for an empty one. -/
def collection {α : Type} (anchor : Option String) (make : List α → Node)
    (read : ReadM (List α)) : ReadM Node := do
  let _ ← name anchor (make [])
  name anchor (make (← read))

end ReadM

def openAddress : String := "!"

/-- The kind of a scalar. Without a tag, a text in quotation marks is a text. -/
def scalarTag (address : Option String) (text : String) (isPlain : Bool) : Tag :=
  match address with
  | none => if isPlain then .ofPlain text.toList else .text
  | some address => if address = openAddress then .ofPlain text.toList else .ofUri address

def collectionTag (address : Option String) (own : Tag) : Tag :=
  match address with
  | none => own
  | some address => if address = openAddress then own else .ofUri address

/-- An entry of a flow list; a pair is a mapping of its own. -/
def flowItem : Node × Option Node → Node
  | (item, none) => item
  | (key, some value) => .mapping .mapping [(key, value)]

/-- An entry of a flow mapping; a value may be missing. -/
def flowPair : Node × Option Node → Node × Node
  | (key, value) => (key, value.getD .empty)

mutual

/-- A value. The first argument bounds the steps. Behind a key of a block, a list needs no
indentation. -/
def readNode : Nat → (afterKey : Bool) → ReadM Node
  | 0, _ => ReadM.refuse
  | fuel + 1, afterKey => do
      if let some (.alias name) ← ReadM.peek then
        ReadM.drop
        match ← ReadM.anchored? name with
        | some node => return node
        | none => throw .malformed
      let (anchor, tag) ← ReadM.properties
      let address ← tag.mapM ReadM.address
      if let some name := anchor then
        if (← ReadM.anchored? name).isSome then throw .malformed
      let list := Node.list (collectionTag address .list)
      let mapping := Node.mapping (collectionTag address .mapping)
      match ← ReadM.peek with
      | some (.scalar text isPlain) =>
          ReadM.drop
          ReadM.name anchor (.scalar (scalarTag address text isPlain) text)
      | some .openFlowList =>
          ReadM.drop
          ReadM.collection anchor (fun entries => list (entries.map flowItem))
            (readFlow fuel true Token.closesFlowList)
      | some .openFlowMapping =>
          ReadM.drop
          ReadM.collection anchor (fun entries => mapping (entries.map flowPair))
            (readFlow fuel true Token.closesFlowMapping)
      | some .openBlockList =>
          ReadM.drop
          ReadM.collection anchor list (readBlockItems fuel)
      | some .openBlockMapping =>
          ReadM.drop
          ReadM.collection anchor mapping (readBlockPairs fuel)
      | next =>
          if afterKey && next.any Token.isDash then
            ReadM.collection anchor list (readDashes fuel)
          else if anchor.isSome || tag.isSome then
            ReadM.name anchor (.scalar (scalarTag address "" true) "")
          else ReadM.refuse

/-- The items of an indented list, with its end. -/
def readBlockItems : Nat → ReadM (List Node)
  | 0 => ReadM.refuse
  | fuel + 1 => do
      if ← ReadM.dropIf Token.isDash then
        let item ← ReadM.orEmpty (fun t => t.isDash || t.closesBlock) (readNode fuel false)
        return item :: (← readBlockItems fuel)
      else
        ReadM.expect Token.closesBlock
        return []

def readDashes : Nat → ReadM (List Node)
  | 0 => ReadM.refuse
  | fuel + 1 => do
      if ← ReadM.dropIf Token.isDash then
        let item ← ReadM.orEmpty
          (fun t => t.isDash || t.isKey || t.isValue || t.closesBlock) (readNode fuel false)
        return item :: (← readDashes fuel)
      else return []

def readBlockPairs : Nat → ReadM (List (Node × Node))
  | 0 => ReadM.refuse
  | fuel + 1 => do
      if ← ReadM.dropIf Token.isKey then
        let absent := fun t : Token => t.isKey || t.isValue || t.closesBlock
        let key ← ReadM.orEmpty absent (readNode fuel true)
        let value ←
          if ← ReadM.dropIf Token.isValue then ReadM.orEmpty absent (readNode fuel true)
          else pure .empty
        return (key, value) :: (← readBlockPairs fuel)
      else
        ReadM.expect Token.closesBlock
        return []

/-- The entries between brackets, with the closing bracket. A comma stands before all of them but
the first. -/
def readFlow : Nat → (isFirst : Bool) → (closes : Token → Bool) →
    ReadM (List (Node × Option Node))
  | 0, _, _ => ReadM.refuse
  | fuel + 1, isFirst, closes => do
      if ← ReadM.dropIf closes then return []
      if !isFirst then ReadM.expect Token.isComma
      if ← ReadM.dropIf Token.isKey then
        let key ← ReadM.orEmpty (fun t => t.isValue || t.isComma || closes t)
          (readNode fuel false)
        let value ←
          if ← ReadM.dropIf Token.isValue then
            ReadM.orEmpty (fun t => t.isComma || closes t) (readNode fuel false)
          else pure .empty
        return (key, some value) :: (← readFlow fuel false closes)
      else if ← ReadM.dropIf closes then return []
      else
        let item ← readNode fuel false
        return (item, none) :: (← readFlow fuel false closes)

end

def defaultHandles : List (String × String) :=
  [("!", "!"), ("!!", Tag.coreStart)]

def supportedVersion : Nat := 1

/-- Directives, each version and each mark at most once. -/
def readDirectives : Nat → (versionGiven : Bool) → ReadM Unit
  | 0, _ => ReadM.refuse
  | fuel + 1, versionGiven => do
      match ← ReadM.peek with
      | some (.directive (.version major)) =>
          if versionGiven || major ≠ supportedVersion then throw .malformed
          ReadM.drop
          readDirectives fuel true
      | some (.directive (.tags handle start)) =>
          if ((← get).handles.lookup handle).isSome then throw .malformed
          modify fun r => { r with handles := r.handles ++ [(handle, start)] }
          ReadM.drop
          readDirectives fuel versionGiven
      | some (.directive .reserved) =>
          ReadM.drop
          readDirectives fuel versionGiven
      | _ => return

/-- Nothing but the marks of its end follows a document. -/
def readEnd : Nat → ReadM Unit
  | 0 => ReadM.refuse
  | fuel + 1 => do
      if ← ReadM.dropIf Token.endsDocument then readEnd fuel
      else if (← ReadM.peek).isSome then ReadM.refuse

def readDocument (fuel : Nat) : ReadM (Option Node) := do
  if (← ReadM.peek).isNone then return none
  let isMarked := fun t : Token => t.isDirective || t.startsDocument
  let node ←
    if ← ReadM.nextIs isMarked then
      readDirectives fuel false
      modify fun r => { r with handles := r.handles ++ defaultHandles }
      ReadM.expect Token.startsDocument
      if (← ReadM.peek).isNone then pure Node.empty
      else ReadM.orEmpty (fun t => isMarked t || t.endsDocument) (readNode fuel false)
    else
      modify fun r => { r with handles := defaultHandles }
      readNode fuel false
  readEnd fuel
  return some node

def Node.ofTokens (tokens : List Token) : Except Error (Option Node) :=
  (readDocument (2 * tokens.length + 4)).run' ⟨tokens, [], []⟩

end Remit.Settings.Yaml
