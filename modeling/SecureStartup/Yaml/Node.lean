import SecureStartup.Yaml.Token

/-!
  The graph of a YAML document: scalars, sequences and mappings with their tags.

  A text holds one document at most.  Its nodes are numbered, so that an alias is the number of the
  node it stands for; a node may thus occur in several places, even inside itself.  An anchor is given
  once.  Reading takes tokens as it needs them, so the first fault of a text is the one that counts.

  The reader goes down into a collection and comes up again at its end (`depth` is how far down it is).
  A collection has its number from the moment it is opened, so an alias inside it can stand for the whole.
-/

namespace SecureStartup.Yaml

/-- The number of a node. -/
abbrev NodeId := Nat

/-- What a node holds. -/
inductive Content where
  | scalar (text : String)
  | sequence (items : List NodeId)
  | mapping (pairs : List (NodeId × NodeId))
  deriving Repr, Inhabited

/-- A node with its full tag. -/
structure Node where
  tag : String
  content : Content
  deriving Repr, Inhabited

/-- The nodes of a document, by number. -/
structure Graph where
  nodes : Array Node := #[]
  deriving Inhabited

namespace Graph

/-- How many nodes there are. -/
def size (g : Graph) : Nat := g.nodes.size

/-- The node with a number. -/
def node (g : Graph) (i : NodeId) : Node := (g.nodes[i]?).getD default

/-- One more node, numbered by the size before. -/
def add (g : Graph) (n : Node) : Graph := { g with nodes := g.nodes.push n }

/-- Another node in the place of one. -/
def replace (g : Graph) (i : NodeId) (n : Node) : Graph :=
  { g with nodes := g.nodes.setIfInBounds i n }

end Graph

/-- What is left to read, with what the document has declared so far. -/
structure Reader where
  lexer : Lexer
  graph : Graph := {}
  /-- The node of each anchor. -/
  anchors : List (String × NodeId) := []
  /-- The text that each tag handle stands for. -/
  handles : List (String × String) := []
  /-- How deep inside collections. -/
  depth : Nat := 0

/-- Steps of reading: each may fail. -/
abbrev Reading := StateT Reader (Except Failure)

namespace Reading

/-- A text that is not well formed. -/
def malformed {α : Type} : Reading α := throw .malformed

/-- The next token; none at the end of the text. -/
def peek? : Reading (Option Token) := do
  let s ← get
  let lexer ← s.lexer.ready
  set { s with lexer := lexer }
  return lexer.tokens.head?

/-- Go past the next token. -/
def advance : Reading Unit := modify fun s => { s with lexer := s.lexer.take }

/-- Whether the next token has a property. -/
def next (p : Token → Bool) : Reading Bool := do
  return ((← peek?).map p).getD false

/-- Go past the next token, which must have a property. -/
def expect (p : Token → Bool) : Reading Unit := do
  if ← next p then advance else malformed

/-- Go past the next token if it has a property: whether it had. -/
def accept (p : Token → Bool) : Reading Bool := do
  if ← next p then
    advance
    return true
  else return false

end Reading

namespace Token

/-- A token that has no more content than its kind, compared with another. -/
def isKind : Token → Token → Bool
  | .documentStart, .documentStart | .documentEnd, .documentEnd
  | .blockSequenceStart, .blockSequenceStart | .blockMappingStart, .blockMappingStart
  | .blockEnd, .blockEnd | .flowSequenceStart, .flowSequenceStart
  | .flowSequenceEnd, .flowSequenceEnd | .flowMappingStart, .flowMappingStart
  | .flowMappingEnd, .flowMappingEnd | .blockEntry, .blockEntry | .flowEntry, .flowEntry
  | .key, .key | .value, .value => true
  | _, _ => false

/-- Whether a token is one of several kinds. -/
def isOne (kinds : List Token) (t : Token) : Bool := kinds.any (·.isKind t)

/-- A directive. -/
def isDirective : Token → Bool
  | .directive _ => true
  | _ => false

end Token

namespace Reading

open Token

/-- An anchor or a tag in front of a node. -/
inductive Property where
  | anchor (name : String)
  | tag (handle : Option String) (text : String)

/-- The next property of a node, if one is next. -/
def property? : Reading (Option Property) := do
  match ← peek? with
  | some (.anchor a) => advance; return some (.anchor a)
  | some (.tag h t) => advance; return some (.tag h t)
  | _ => return none

/-- The anchor and the tag in front of a node, at most one of each in either order. -/
def properties : Reading (Option String × Option (Option String × String)) := do
  match ← property? with
  | none => return (none, none)
  | some (.anchor a) =>
    match ← peek? with
    | some (.tag h t) => advance; return (some a, some (h, t))
    | _ => return (some a, none)
  | some (.tag h t) =>
    match ← peek? with
    | some (.anchor a) => advance; return (some a, some (h, t))
    | _ => return (none, some (h, t))

/-- The full form of a tag; its handle must be known.  The tag `!` says that none is meant. -/
def fullTag (t : Option String × String) : Reading String := do
  match t.1 with
  | none => return t.2
  | some h =>
    match (← get).handles.find? fun p => p.1 == h with
    | some (_, lead) => return lead ++ t.2
    | none => malformed

/-- A new node; its anchor must not have been given yet. -/
def addNode (anchor : Option String) (tag : String) (content : Content) : Reading NodeId := do
  let s ← get
  let i := s.graph.size
  let graph := s.graph.add ⟨tag, content⟩
  match anchor with
  | none => set { s with graph := graph }
  | some a =>
    if s.anchors.any fun p => p.1 == a then malformed
    else set { s with graph := graph, anchors := (a, i) :: s.anchors }
  return i

/-- The node that stands where nothing is written. -/
def emptyNode : Reading NodeId := addNode none (impliedTag "") (.scalar "")

/-- The node of an alias. -/
def aliased (a : String) : Reading NodeId := do
  match (← get).anchors.find? fun p => p.1 == a with
  | some (_, i) => return i
  | none => malformed

/-- How deep collections may lie inside each other. -/
def maxDepth : Nat := 480

/-- A new collection: it has its number before its parts are read, so that they may refer to it. -/
def collection (anchor : Option String) (tag : String) (empty : Content)
    (parts : Reading Content) : Reading NodeId := do
  let i ← addNode anchor tag empty
  let depth := (← get).depth
  if maxDepth ≤ depth then throw .endless
  modify fun s => { s with depth := depth + 1 }
  let content ← parts
  modify fun s =>
    { s with graph := s.graph.replace i ⟨tag, content⟩, depth := depth }
  return i

mutual

/-- A node: in a block, collections may be written by indentation, and where a mapping's value is
    expected, a sequence need not be indented. -/
def node : Nat → (block dashes : Bool) → Reading NodeId
  | 0, _, _ => malformed
  | fuel + 1, block, dashes => do
    match ← peek? with
    | some (.alias a) => advance; aliased a
    | _ =>
      let (a, written) ← properties
      let tag ← match written with
        | none => pure none
        | some t => some <$> fullTag t
      let own := if tag == some "!" then none else tag
      let items := fun (parts : Reading (List NodeId)) =>
        collection a (own.getD (standardTag "seq")) (.sequence []) (.sequence <$> parts)
      let pairs := fun (parts : Reading (List (NodeId × NodeId))) =>
        collection a (own.getD (standardTag "map")) (.mapping []) (.mapping <$> parts)
      let bare := do
        if a.isNone && tag.isNone then malformed
        addNode a (own.getD (impliedTag "")) (.scalar "")
      match ← peek? with
      | some (.scalar text plain) =>
        advance
        let implied := (plain && tag.isNone) || tag == some "!"
        addNode a (own.getD (if implied then impliedTag text else standardTag "str"))
          (.scalar text)
      | some .flowSequenceStart => items (do advance; flowItems fuel true)
      | some .flowMappingStart => pairs (do advance; flowPairs fuel true)
      | some .blockEntry => if dashes then items (dashItems fuel) else bare
      | some .blockSequenceStart => if block then items (do advance; blockItems fuel) else bare
      | some .blockMappingStart => if block then pairs (do advance; blockPairs fuel) else bare
      | _ => bare

/-- The items of a block sequence, with its end. -/
def blockItems : Nat → Reading (List NodeId)
  | 0 => malformed
  | fuel + 1 => do
    if ← accept (isKind .blockEntry) then
      let n ← nodeUnless fuel [.blockEntry, .blockEnd] true false
      return n :: (← blockItems fuel)
    else
      expect (isKind .blockEnd)
      return []

/-- The items of a sequence that is not indented. -/
def dashItems : Nat → Reading (List NodeId)
  | 0 => malformed
  | fuel + 1 => do
    if ← accept (isKind .blockEntry) then
      let n ← nodeUnless fuel [.blockEntry, .key, .value, .blockEnd] true false
      return n :: (← dashItems fuel)
    else return []

/-- The pairs of a block mapping, with its end. -/
def blockPairs : Nat → Reading (List (NodeId × NodeId))
  | 0 => malformed
  | fuel + 1 => do
    if ← accept (isKind .key) then
      let k ← nodeUnless fuel [.key, .value, .blockEnd] true true
      let v ←
        if ← accept (isKind .value) then nodeUnless fuel [.key, .value, .blockEnd] true true
        else emptyNode
      return (k, v) :: (← blockPairs fuel)
    else
      expect (isKind .blockEnd)
      return []

/-- The items of a flow sequence, with its end: a pair may stand for a mapping of its own. -/
def flowItems : Nat → Bool → Reading (List NodeId)
  | 0, _ => malformed
  | fuel + 1, first => do
    if ← accept (isKind .flowSequenceEnd) then return []
    else
      if !first then expect (isKind .flowEntry)
      if ← next (isKind .key) then
        let n ← collection none (standardTag "map") (.mapping []) do
          advance
          let k ← nodeUnless fuel [.value, .flowEntry, .flowSequenceEnd] false false
          let v ←
            if ← accept (isKind .value) then
              nodeUnless fuel [.flowEntry, .flowSequenceEnd] false false
            else emptyNode
          return .mapping [(k, v)]
        return n :: (← flowItems fuel false)
      else if ← accept (isKind .flowSequenceEnd) then return []
      else
        let n ← node fuel false false
        return n :: (← flowItems fuel false)

/-- The pairs of a flow mapping, with its end. -/
def flowPairs : Nat → Bool → Reading (List (NodeId × NodeId))
  | 0, _ => malformed
  | fuel + 1, first => do
    if ← accept (isKind .flowMappingEnd) then return []
    else
      if !first then expect (isKind .flowEntry)
      if ← accept (isKind .key) then
        let k ← nodeUnless fuel [.value, .flowEntry, .flowMappingEnd] false false
        let v ←
          if ← accept (isKind .value) then
            nodeUnless fuel [.flowEntry, .flowMappingEnd] false false
          else emptyNode
        return (k, v) :: (← flowPairs fuel false)
      else if ← accept (isKind .flowMappingEnd) then return []
      else
        let k ← node fuel false false
        let v ← emptyNode
        return (k, v) :: (← flowPairs fuel false)

/-- A node, or the empty scalar before certain tokens. -/
def nodeUnless : Nat → List Token → (block dashes : Bool) → Reading NodeId
  | 0, _, _, _ => malformed
  | fuel + 1, ends, block, dashes => do
    if ← next (isOne ends) then emptyNode else node fuel block dashes

end

/-- The directives in front of a document: one version at most, of the first major kind, and no
    handle twice. -/
def directives : Nat → Bool → Reading Unit
  | 0, _ => malformed
  | fuel + 1, versioned => do
    match ← peek? with
    | some (.directive (.version major)) =>
      if versioned || major != 1 then malformed
      advance
      directives fuel true
    | some (.directive (.tag h lead)) =>
      if (← get).handles.any fun p => p.1 == h then malformed
      advance
      modify fun s => { s with handles := (h, lead) :: s.handles }
      directives fuel versioned
    | some (.directive .other) => advance; directives fuel versioned
    | _ => return ()

/-- The handles that every document knows, behind its own. -/
def standardHandles : Reading Unit :=
  modify fun s => { s with handles := s.handles ++ [("!", "!"), ("!!", "tag:yaml.org,2002:")] }

/-- Go past marks of a document's end. -/
def documentEnds : Nat → Reading Unit
  | 0 => malformed
  | fuel + 1 => do
    if ← accept (isKind .documentEnd) then documentEnds fuel else return ()

/-- The root of the only document of a text; an empty text has none. -/
def document (fuel : Nat) : Reading (Option NodeId) := do
  match ← peek? with
  | none => return none
  | some t =>
    let n ←
      if t.isDirective || t.isKind .documentStart then
        directives fuel false
        standardHandles
        expect (isKind .documentStart)
        match ← peek? with
        | none => emptyNode
        | some t =>
          if t.isDirective || t.isOne [.documentStart, .documentEnd] then emptyNode
          else node fuel true false
      else
        standardHandles
        node fuel true false
    documentEnds fuel
    match ← peek? with
    | none => return some n
    | some _ =>
      -- a second document is refused, but not before its directives are read
      modify fun s => { s with handles := [] }
      directives fuel false
      malformed

end Reading

/-- **The graph of a text** with the number of its root; no root when the text holds no document. -/
def compose (text : String) : Except Failure (Graph × Option NodeId) := do
  let lexer ← Lexer.start text
  -- every character gives a few tokens at most, and every token a few steps
  let (root, r) ← (Reading.document (20 * text.length + 64)).run { lexer := lexer }
  return (r.graph, root)

end SecureStartup.Yaml
