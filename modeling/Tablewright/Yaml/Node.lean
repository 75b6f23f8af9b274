/-
The nodes of a table file: scalars, sequences and mappings, with aliases replaced by what they
stand for.

A document is read from its tokens by descent. A node may carry a tag and a name; a name may be
given once.
-/
import Tablewright.Yaml.Token

set_option autoImplicit false

namespace Tablewright

namespace Yaml

/-- A node. -/
inductive Node where
  /-- A scalar. A plain one without a tag stands for what its text looks like. -/
  | scalar (tag : Option Text) (isPlain : Bool) (text : Text)
  /-- A sequence. -/
  | sequence (tag : Option Text) (items : List Node)
  /-- A mapping, its keys and values in order. -/
  | mapping (tag : Option Text) (pairs : List (Node × Node))

/-- The node where nothing is written. -/
def Node.empty : Node := .scalar none true []

/-- A reading under way. -/
structure Reading where
  /-- The tokens still to come. -/
  tokens : List Token
  /-- The fault behind them. -/
  fault : Option TableFault
  /-- What the handles of tags stand for. -/
  handles : List (Text × Text)
  /-- The named nodes. -/
  named : List (Text × Node)
  /-- The names of nodes that are not finished yet. -/
  pending : List Text

/-- A step of a reading. -/
abbrev NodeReader := StateT Reading (Except TableFault)

namespace NodeReader

/-- The next token; none at the end. -/
def peek : NodeReader (Option Token) := do
  let s ← get
  match s.tokens, s.fault with
  | t :: _, _ => return some t
  | [], some fault => throw fault
  | [], none => return none

/-- Pass over the next token. -/
def advance : NodeReader Unit := modify fun s => { s with tokens := s.tokens.drop 1 }

/-- Whether a token comes next. -/
def isNext (t : Token) : NodeReader Bool := return (← peek) = some t

/-- Whether one of some tokens comes next. -/
def isNextIn (ts : List Token) : NodeReader Bool := do
  let next ← peek
  return ts.any fun t => next = some t

/-- Pass over a token if it comes next, and say whether it does. -/
def takes (t : Token) : NodeReader Bool := do
  if ← isNext t then
    advance
    return true
  return false

/-- Pass over a token, which has to come next. -/
def expect (t : Token) : NodeReader Unit := do
  if !(← takes t) then throw TableFault.badStructure

/-! ## Tags and names -/

/-- What a node carries. -/
structure Properties where
  /-- Its name. -/
  name : Option Text
  /-- The handle and the rest of its tag. -/
  tag : Option (Option Text × Text)

/-- A name, if one comes next. -/
def name? : NodeReader (Option Text) := do
  match ← peek with
  | some (.anchor n) =>
    advance
    return some n
  | _ => return none

/-- A tag, if one comes next. -/
def tag? : NodeReader (Option (Option Text × Text)) := do
  match ← peek with
  | some (.tag handle suffix) =>
    advance
    return some (handle, suffix)
  | _ => return none

/-- A name and a tag in any order. -/
def properties : NodeReader Properties := do
  let first ← name?
  let tag ← tag?
  let second ← if first.isNone && tag.isSome then name? else pure none
  return ⟨first.or second, tag⟩

/-- A tag with its handle replaced by what that stands for. -/
def fullTag (p : Properties) : NodeReader (Option Text) := do
  match p.tag with
  | none => return none
  | some (none, suffix) => return some suffix
  | some (some handle, suffix) =>
    match (← get).handles.find? fun h => h.1 = handle with
    | some (_, start) => return some (start ++ suffix)
    | none => throw TableFault.badStructure

/-- Give a name to the node that begins here. A name is given once. -/
def beginNamed (name : Option Text) : NodeReader Unit := do
  match name with
  | none => return ()
  | some n =>
    let s ← get
    if s.pending.contains n || s.named.any fun m => m.1 = n then throw TableFault.badReference
    set { s with pending := n :: s.pending }

/-- The node with a name ends here. -/
def endNamed (name : Option Text) (node : Node) : NodeReader Node := do
  match name with
  | none => return node
  | some n =>
    modify fun s => { s with named := (n, node) :: s.named }
    return node

/-- The node a name was given to. -/
def named (n : Text) : NodeReader Node := do
  match (← get).named.find? fun m => m.1 = n with
  | some (_, node) => return node
  | none => throw TableFault.badReference

/-! ## Collections -/

/-- Where a node stands. -/
inductive Position where
  /-- Among entries by indentation. -/
  | block
  /-- As a key or a value by indentation, where entries may stand at the column of the key. -/
  | member
  /-- Inside brackets. -/
  | flow
deriving DecidableEq

/-- A node, or the empty one if one of some tokens comes next. -/
def emptyBefore (ends : List Token) (node : NodeReader Node) : NodeReader Node := do
  if ← isNextIn ends then return Node.empty
  node

/-- Entries with hyphens. Some tokens show that nothing is written behind a hyphen. -/
def entries (ends : List Token) (node : NodeReader Node) : Nat → NodeReader (List Node)
  | 0 => return []
  | bound + 1 => do
    if !(← takes .entry) then return []
    let item ← emptyBefore (.entry :: ends) node
    let items ← entries ends node bound
    return item :: items

/-- Keys and values by indentation. -/
def members (node : NodeReader Node) : Nat → NodeReader (List (Node × Node))
  | 0 => return []
  | bound + 1 => do
    let ends : List Token := [.key, .value, .blockEnd]
    let hasKey ← takes .key
    if !hasKey then return []
    let key ← emptyBefore ends node
    let value ← (do if ← takes .value then emptyBefore ends node else return Node.empty)
    let rest ← members node bound
    return (key, value) :: rest

/-- A value inside brackets, which may be missing. -/
def flowValue (ends : List Token) (node : NodeReader Node) : NodeReader Node := do
  if ← takes .value then emptyBefore ends node else return Node.empty

/-- Items inside brackets, up to the closing one. A key makes an item a mapping of its own. -/
def items (isFirst : Bool) (node : NodeReader Node) : Nat → NodeReader (List Node)
  | 0 => throw TableFault.badStructure
  | bound + 1 => do
    if ← takes .closeBracket then return []
    if !isFirst then expect .comma
    if ← takes .key then
      let key ← emptyBefore [.value, .comma, .closeBracket] node
      let value ← flowValue [.comma, .closeBracket] node
      let rest ← items false node bound
      return .mapping none [(key, value)] :: rest
    if ← takes .closeBracket then return []
    let item ← node
    let rest ← items false node bound
    return item :: rest

/-- Keys and values inside braces, up to the closing one. -/
def flowMembers (isFirst : Bool) (node : NodeReader Node) :
    Nat → NodeReader (List (Node × Node))
  | 0 => throw TableFault.badStructure
  | bound + 1 => do
    if ← takes .closeBrace then return []
    if !isFirst then expect .comma
    if ← takes .key then
      let key ← emptyBefore [.value, .comma, .closeBrace] node
      let value ← flowValue [.comma, .closeBrace] node
      let rest ← flowMembers false node bound
      return (key, value) :: rest
    if ← takes .closeBrace then return []
    let key ← node
    let rest ← flowMembers false node bound
    return (key, Node.empty) :: rest

/-! ## Nodes -/

/-- The scalar that a name or a tag with nothing behind them stands for. -/
def bare (p : Properties) (tag : Option Text) : NodeReader Node := do
  if p.name.isNone && tag.isNone then throw TableFault.badStructure
  beginNamed p.name
  return .scalar (tag.filter fun t => t ≠ "!") true []

/-- What stands behind the name and the tag of a node. The argument reads a node inside of it. -/
def body (position : Position) (p : Properties) (tag : Option Text)
    (node : Position → NodeReader Node) : NodeReader Node := do
  let bound := (← get).tokens.length + 1
  match ← peek, position with
  | some .entry, .member =>
    beginNamed p.name
    return .sequence tag (← entries [.key, .value, .blockEnd] (node .block) bound)
  | some (.scalar text isPlain), _ =>
    advance
    beginNamed p.name
    -- A lone exclamation mark leaves it to the text what a scalar stands for.
    if tag = some "!" then return .scalar none true text
    return .scalar tag isPlain text
  | some .openBracket, _ =>
    advance
    beginNamed p.name
    return .sequence tag (← items true (node .flow) bound)
  | some .openBrace, _ =>
    advance
    beginNamed p.name
    return .mapping tag (← flowMembers true (node .flow) bound)
  | some .sequenceStart, .block | some .sequenceStart, .member =>
    advance
    beginNamed p.name
    let list ← entries [.blockEnd] (node .block) bound
    expect .blockEnd
    return .sequence tag list
  | some .mappingStart, .block | some .mappingStart, .member =>
    advance
    beginNamed p.name
    let pairs ← members (node .member) bound
    expect .blockEnd
    return .mapping tag pairs
  | _, _ => bare p tag

/-- A node. The number is a bound on how deep nodes stand inside each other. -/
def node : Nat → Position → NodeReader Node
  | 0, _ => throw TableFault.badStructure
  | depth + 1, position => do
    match ← peek with
    | some (.alias n) =>
      advance
      named n
    | _ =>
      let p ← properties
      let tag ← fullTag p
      let made ← body position p tag (node depth)
      endNamed p.name made

/-! ## Documents -/

/-- What handles stand for from the beginning. -/
def standardHandles : List (Text × Text) := [("!", "!"), ("!!", "tag:yaml.org,2002:")]

/-- The directives in front of a document. The version may be given once and has to be the first,
and a handle may be given a meaning once. -/
def directives (hasVersion : Bool) (handles : List (Text × Text)) :
    Nat → NodeReader (List (Text × Text))
  | 0 => return handles
  | bound + 1 => do
    match ← peek with
    | some (.directive (.version major _)) =>
      advance
      if hasVersion || major ≠ 1 then throw TableFault.badStructure
      directives true handles bound
    | some (.directive (.handle name start)) =>
      advance
      if handles.any fun h => h.1 = name then throw TableFault.badStructure
      directives hasVersion ((name, start) :: handles) bound
    | some (.directive .other) =>
      advance
      directives hasVersion handles bound
    | _ => return handles

/-- Marks behind a document. -/
def documentEnds : Nat → NodeReader Unit
  | 0 => return ()
  | bound + 1 => do
    if ← takes .documentEnd then documentEnds bound

/-- Whether a directive comes next. -/
def isDirectiveNext : NodeReader Bool := do
  match ← peek with
  | some (.directive _) => return true
  | _ => return false

/-- The next document behind its mark; none at the end of the text. -/
def markedDocument? (bound : Nat) : NodeReader (Option Node) := do
  documentEnds bound
  match ← peek with
  | none => return none
  | some _ =>
    let handles ← directives false [] bound
    expect .documentStart
    modify fun s => { s with handles := handles ++ standardHandles }
    match ← peek with
    | none => return some Node.empty
    | some _ =>
      if (← isDirectiveNext) || (← isNextIn [.documentStart, .documentEnd]) then
        return some Node.empty
      return some (← node bound .block)

/-- The first document. The mark in front of it may be left out. -/
def firstDocument? (bound : Nat) : NodeReader (Option Node) := do
  match ← peek with
  | none => return none
  | some .documentStart => markedDocument? bound
  | some (.directive _) => markedDocument? bound
  | some _ =>
    modify fun s => { s with handles := standardHandles }
    return some (← node bound .block)

/-- Make sure that no second document follows. -/
def noMore (bound : Nat) : NodeReader Unit := do
  documentEnds bound
  match ← peek with
  | none => return ()
  | some _ =>
    let _ ← directives false [] bound
    expect .documentStart
    throw TableFault.badReference

/-- The only document, if there is one. -/
def document? (bound : Nat) : NodeReader (Option Node) := do
  let doc ← firstDocument? bound
  if doc.isSome then noMore bound
  return doc

end NodeReader

/-- The node of the only document of some tokens, if there is one. -/
def Node.ofTokens? (tokens : Tokens) : Except TableFault (Option Node) :=
  (NodeReader.document? (tokens.list.length + 2)).run' ⟨tokens.list, tokens.fault, [], [], []⟩

end Yaml

end Tablewright
