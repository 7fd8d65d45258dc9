import KeyWalk.Settings.Yaml.Token

/-!
Settings from a YAML text.

* `Yaml.Node` is what a document is made of; `Yaml.Reader` reads it from the tokens,
* `Yaml.entries? cs` is the mapping that a text spells.  A text without a document has no entries,
  and more than one document is refused.

Design notes.  A key is a scalar and is given once.  A tag makes a plain scalar a text, unless it
names one of the kinds of scalars; a scalar that is not of the kind that its tag names is nothing,
and a key that is nothing gives way to the next node.  An alias inside its own node is nothing as
well.
-/

namespace KeyWalk

namespace Yaml

/-- A node of a document.  No setting looks into a list. -/
inductive Node where
  | nothing
  | leaf (l : Leaf)
  | list
  | table (entries : List (String × Setting))

namespace Node

/-- The value of a node. -/
def toSetting? : Node → Option Setting
  | nothing => some .nil
  | leaf l => l.toSetting?
  | list => some .list
  | table es => some (.table es)

/-- The node of a plain scalar with a resolved tag. -/
def ofTagged (handle suffix : String) (cs : List Char) : Node :=
  if handle ≠ "tag:yaml.org,2002:" then leaf (.text (String.ofList cs))
  else match suffix with
    | "bool" =>
      if cs = "true".toList then leaf (.bool true)
      else if cs = "false".toList then leaf (.bool false)
      else nothing
    | "int" =>
      match Integral.signed? cs with
      | some n => leaf (.integer n)
      | none => nothing
    | "float" => if isReal cs then leaf (.real cs) else nothing
    | "null" => if cs = ['~'] ∨ cs = "null".toList then leaf .null else nothing
    | _ => leaf (.text (String.ofList cs))

end Node

/-! ### Mappings -/

/-- A mapping while it is read. -/
structure Mapping where
  entries : Setting := .table []
  keys : List Leaf := []
  /-- The key whose value comes next. -/
  waiting : Option Node := none

/-- One more node: a key or the value of the key before it. -/
def Mapping.add? (m : Mapping) (n : Node) : Option Mapping :=
  match m.waiting, n with
  | none, .nothing => some m
  | none, n => some { m with waiting := some n }
  | some (.leaf key), n => do
    let name ← key.name?
    if m.keys.contains key then
      none
    return { entries := m.entries.put name (← n.toSetting?), keys := key :: m.keys }
  | some _, _ => none

/-! ### Reading -/

/-- What is left of the tokens, and what the tokens before said. -/
structure Source where
  tokens : List Token
  /-- What the handles of tags stand for. -/
  handles : List (String × String) := []
  /-- The numbers of the anchors, the latest first. -/
  anchors : List (String × Nat) := []
  /-- The nodes of the anchors that are complete. -/
  nodes : List (Nat × Node) := []

/-- Reads tokens. -/
abbrev Reader (α : Type) := StateT Source Option α

namespace Reader

/-- The next token. -/
def peek : Reader (Option Token) := do return (← get).tokens.head?

/-- Goes over the next token. -/
def skip : Reader Unit := modify fun s => { s with tokens := s.tokens.tail }

/-- Goes over a token if it comes next; the answer says so. -/
def accepts (t : Token) : Reader Bool := do
  if (← peek) = some t then
    skip
    return true
  return false

/-- Whether one of the tokens comes next. -/
def isAt (ts : List Token) : Reader Bool := do return (← peek).any ts.contains

/-- A new anchor. -/
def register (name : String) : Reader Nat := do
  let s ← get
  let number := s.anchors.length + 1
  set { s with anchors := (name, number) :: s.anchors }
  return number

/-- What a handle of a tag stands for. -/
def resolve (handle suffix : String) : Reader (String × String) := do
  let known := fun h => (do return (← get).handles.lookup h : Reader (Option String))
  if handle = "!!" then
    return ((← known "!!").getD "tag:yaml.org,2002:", suffix)
  if handle = "" && suffix = "!" then
    return ((← known "").getD "", suffix)
  match ← known handle with
  | some start => return (start, suffix)
  | none =>
    if 2 ≤ handle.length && handle.startsWith "!" && handle.endsWith "!" then
      failure
    return (handle, suffix)

/-- The tag that comes next, if one does. -/
def tag? : Reader (Option (String × String)) := do
  match ← peek with
  | some (.tag handle suffix) =>
    skip
    return some (← resolve handle suffix)
  | _ => return none

/-- The number of the anchor that comes next, if one does. -/
def anchor? : Reader (Option Nat) := do
  match ← peek with
  | some (.anchor name) =>
    skip
    return some (← register name)
  | _ => return none

/-- The anchor and the tag in front of a node, in either order. -/
def properties : Reader (Option Nat × Option (String × String)) := do
  match ← anchor? with
  | some number => return (some number, ← tag?)
  | none =>
    match ← tag? with
    | some t => return (← anchor?, some t)
    | none => return (none, none)

/-- The node of an alias. -/
def aliasOf (name : String) : Reader Node := do
  let s ← get
  match s.anchors.lookup name with
  | none => failure
  | some number => return (s.nodes.lookup number).getD .nothing

/-- The node of a plain scalar. -/
def plain (tag : Option (String × String)) (cs : List Char) : Node :=
  match tag with
  | none => .leaf (.ofPlain cs)
  | some (handle, suffix) => .ofTagged handle suffix cs

/-- A node without a text. -/
def null : Node := .leaf .null

/-- The node of properties behind which nothing stands. -/
def noContent (anchor : Option Nat) (tag : Option (String × String)) : Reader Node :=
  if anchor.isSome || tag.isSome then return plain tag [] else failure

/-- An item of a list has a value. -/
def checkItem (n : Node) : Reader Unit := if n.toSetting?.isSome then pure () else failure

/-- A mapping with one more node. -/
def add (m : Mapping) (n : Node) : Reader Mapping :=
  match m.add? n with
  | some m => return m
  | none => failure

/-- The node of a mapping. -/
def ofMapping (m : Mapping) : Node := .table m.entries.entries

mutual

/-- A node.  The number bounds the depth of the recursion; the flags say whether it may be a block
and whether its items may stand at the column of its key. -/
def node : Nat → (block loose : Bool) → Reader Node
  | 0, _, _ => failure
  | n + 1, block, loose => do
    if let some (.aliasOf name) ← peek then
      skip
      return ← aliasOf name
    let (anchor, tag) ← properties
    let found ← content n block loose anchor tag
    if let some number := anchor then
      modify fun s => { s with nodes := (number, found) :: s.nodes }
    return found

/-- A node behind its properties. -/
def content : Nat → (block loose : Bool) → Option Nat → Option (String × String) → Reader Node
  | 0, _, _, _, _ => failure
  | n + 1, block, loose, anchor, tag => do
    match ← peek with
    | some (.plain cs) =>
      skip
      return plain tag cs
    | some (.quoted s) =>
      skip
      return .leaf (.text s)
    | some .openItems =>
      skip
      flowItems n true
    | some .openEntries =>
      skip
      flowEntries n true {}
    | some .item => if loose then looseItems n else noContent anchor tag
    | some .blockItems =>
      if block then
        skip
        blockItems n
      else noContent anchor tag
    | some .blockEntries =>
      if block then
        skip
        blockEntries n {}
      else noContent anchor tag
    | _ => noContent anchor tag

/-- A node, or nothing if one of the tokens comes next. -/
def nodeBefore : Nat → (block loose : Bool) → List Token → Reader Node
  | 0, _, _, _ => failure
  | n + 1, block, loose, stops => do
    if ← isAt stops then return null else node n block loose

/-- The items of a block list up to its end. -/
def blockItems : Nat → Reader Node
  | 0 => failure
  | n + 1 => do
    if ← accepts .blockEnd then
      return .list
    if ← accepts .item then
      checkItem (← nodeBefore n true false [.item, .blockEnd])
      blockItems n
    else failure

/-- The items at the column of their key. -/
def looseItems : Nat → Reader Node
  | 0 => failure
  | n + 1 => do
    if ← accepts .item then
      checkItem (← nodeBefore n true false [.item, .key, .value, .blockEnd])
      looseItems n
    else return .list

/-- The entries of a block mapping up to its end, behind those read before. -/
def blockEntries : Nat → Mapping → Reader Node
  | 0, _ => failure
  | n + 1, m => do
    if ← accepts .blockEnd then
      return ofMapping m
    let hasKey ← accepts .key
    if !hasKey && (← peek) ≠ some .value then
      failure
    let key ← if hasKey then nodeBefore n true true [.key, .value, .blockEnd] else pure null
    let value ← if ← accepts .value then nodeBefore n true true [.key, .value, .blockEnd]
      else pure null
    blockEntries n (← add (← add m key) value)

/-- The value of an entry in flow style, if there is one. -/
def flowValue : Nat → (close : Token) → Reader Node
  | 0, _ => failure
  | n + 1, close => do
    if ← accepts .value then nodeBefore n false false [.comma, close] else return null

/-- The entries of a flow mapping up to its end, behind those read before. -/
def flowEntries : Nat → (first : Bool) → Mapping → Reader Node
  | 0, _, _ => failure
  | n + 1, first, m => do
    if ← accepts .closeEntries then
      return ofMapping m
    if !first then
      if !(← accepts .comma) then
        failure
      if ← accepts .closeEntries then
        return ofMapping m
    let hasKey ← accepts .key
    let hasValue ← isAt [.value]
    let key ← if hasKey then nodeBefore n false false [.value, .comma, .closeEntries]
      else if hasValue then pure null
      else node n false false
    let value ← if hasKey || hasValue then flowValue n .closeEntries else pure null
    flowEntries n false (← add (← add m key) value)

/-- The items of a flow list up to its end; an item may be a pair without brackets. -/
def flowItems : Nat → (first : Bool) → Reader Node
  | 0, _ => failure
  | n + 1, first => do
    if ← accepts .closeItems then
      return .list
    if !first then
      if !(← accepts .comma) then
        failure
      if ← accepts .closeItems then
        return .list
    if ← accepts .key then
      let key ← node n false false
      let _ ← add (← add {} key) (← flowValue n .closeItems)
    else checkItem (← node n false false)
    flowItems n false

end

/-! ### Documents -/

/-- The directives in front of a document, at most `n` of them; a version is given once. -/
def directives : (n : Nat) → (versioned : Bool) → Reader Unit
  | 0, _ => failure
  | n + 1, versioned => do
    match ← peek with
    | some .version =>
      skip
      if versioned then failure else directives n true
    | some (.tagHandle handle start) =>
      skip
      modify fun s => { s with handles := (handle, start) :: s.handles }
      directives n versioned
    | _ => return ()

/-- Goes over the markers of the ends of documents, at most `n` of them. -/
def skipEnds : (n : Nat) → Reader Unit
  | 0 => return ()
  | n + 1 => do if ← accepts .documentEnd then skipEnds n

/-- The node of the only document, if there is one; the number bounds the depth of the
recursion. -/
def document (n : Nat) : Reader (Option Node) := do
  skipEnds n
  match ← peek with
  | none => return none
  | some first =>
    let explicit := match first with
      | .version | .tagHandle .. | .documentStart => true
      | _ => false
    directives n false
    if explicit && !(← accepts .documentStart) then
      failure
    let root ← match ← peek with
      | none | some .version | some (.tagHandle ..) | some .documentStart | some .documentEnd =>
        pure null
      | _ => node n true false
    skipEnds n
    if (← peek).isSome then failure else return some root

end Reader

/-- The entries of a text.  Every level of the recursion but two takes a token. -/
def entries? (cs : List Char) : Option (List (String × Setting)) := do
  let tokens ← Token.ofText? cs
  match ← (Reader.document (4 * tokens.length + 4)).run { tokens } with
  | (none, _) => return []
  | (some (.table es), _) => return es
  | _ => none

end Yaml

end KeyWalk
