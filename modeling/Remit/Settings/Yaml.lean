import Remit.Settings.Yaml.Node

/-!
Values written as YAML. Mappings are merged where they say so, and of a repeated key the last value
stands.
-/

namespace Remit.Settings.Yaml

def isAllowed (c : Char) : Bool :=
  let n := c.toNat
  n = 0x09 || n = 0x0A || n = 0x0D || (0x20 ≤ n && n ≤ 0x7E) || n = 0x85 ||
    (0xA0 ≤ n && n ≤ 0xD7FF) || (0xE000 ≤ n && n ≤ 0xFFFD) || 0x10000 ≤ n

/-- The line ends of all systems become line feeds. -/
def normalizeBreaks : List Char → List Char
  | [] => []
  | '\r' :: '\n' :: rest => '\n' :: normalizeBreaks rest
  | c :: rest => (if c = '\r' then '\n' else c) :: normalizeBreaks rest

abbrev Entries := List (Node × Node)

/-- The entries that are to be merged, in the order in which they are found. -/
def mergeValues (entries : Entries) : List Node :=
  entries.filterMap fun
    | (.scalar .merge _, value) => some value
    | _ => none

/-- The entries of a mapping itself. The default key is a text here. -/
def ownEntries (entries : Entries) : Entries :=
  entries.filterMap fun
    | (.scalar .merge _, _) => none
    | (.scalar .default text, value) => some (.scalar .text text, value)
    | entry => some entry

/-- The entries of a mapping, behind those that are merged into it. Of a list of mappings the first
one comes last, so that it counts. The first argument bounds the depth. -/
def flatten : Nat → Entries → Except Error Entries
  | 0, _ => .error .malformed
  | fuel + 1, entries => do
      let ofMapping : Node → Except Error Entries
        | .mapping _ entries => flatten fuel entries
        | _ => .error .malformed
      let merged ← (mergeValues entries).mapM fun
        | .list _ items => return (← items.mapM ofMapping).reverse.flatten
        | node => ofMapping node
      return merged.flatten ++ ownEntries entries

def keyOf : Node → Except Error Key
  | .scalar tag text => do
      match (← scalarValue tag text).toKey? with
      | some key => return key
      | none => throw .malformed
  | _ => throw .malformed

/-- A collection inside a collection, if its place holds one. A scalar must have a value, and a
collection must not be said to be a scalar. -/
def inner? (node : Node) : Except Error (Option Node) :=
  let collection := fun tag : Tag =>
    if tag = .list ∨ tag = .mapping then .ok (some node) else .error .malformed
  match node with
  | .scalar tag text => do
      let _ ← scalarValue tag text
      return none
  | .list tag _ => collection tag
  | .mapping tag _ => collection tag

/-- The collections directly inside a node, whose scalars must have values. -/
def inner (fuel : Nat) : Node → Except Error (List Node)
  | .scalar tag text => do
      let _ ← scalarValue tag text
      return []
  | .list tag items => do
      if tag ≠ .list then throw .malformed
      items.filterMapM inner?
  | .mapping tag entries => do
      if tag ≠ .mapping then throw .malformed
      (← flatten fuel entries).filterMapM fun (key, value) => do
        let _ ← keyOf key
        inner? value

/-- All levels of nodes, the outer ones first, so that the outermost fault is the one reported. -/
def checkLevels : Nat → List Node → Except Error Unit
  | 0, _ => return
  | fuel + 1, nodes => do
      if nodes.isEmpty then return
      checkLevels fuel (← nodes.mapM (inner fuel)).flatten

/-- Of equal keys the first one is kept, with the value of the last one. -/
def addEntry (fields : Fields) (key : Key) (value : Value) : Fields :=
  match fields with
  | [] => [(key, value)]
  | (k, v) :: rest => if k.same key then (k, value) :: rest else (k, v) :: addEntry rest key value

/-- The value of a tree. The first argument bounds its depth. -/
def valueOf : Nat → Node → Except Error Value
  | 0, _ => .error .malformed
  | _, .scalar tag text => scalarValue tag text
  | fuel + 1, .list _ items => return .list (← items.mapM (valueOf fuel))
  | fuel + 1, .mapping _ entries => do
      let fields ← (← flatten fuel entries).foldlM
        (fun fields (key, value) => return addEntry fields (← keyOf key) (← valueOf fuel value))
        []
      return .object fields

def parse (text : String) : Except Error Value := do
  let chars := normalizeBreaks text.toList
  if !chars.all isAllowed then throw .malformed
  match ← Node.ofTokens (Token.ofChars chars) with
  | none => return .null
  | some node =>
      let fuel := chars.length + 2
      checkLevels fuel [node]
      valueOf fuel node

end Remit.Settings.Yaml
