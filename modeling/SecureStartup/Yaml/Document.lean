import SecureStartup.Yaml.Sharing
import SecureStartup.Config.Merge
import SecureStartup.Value.Slots

/-!
  The value of a YAML document (`load_yaml`).

  Every node has one of the standard tags; other tags are refused.  A mapping may take over the pairs
  of others by the key `<<`; its own pairs win, and of two equal keys the later one wins.

  A node is met once, however often it occurs.  Scalars are read when they are met, but collections
  WAIT: their parts are met in the order in which the collections themselves were (`Building.fill`).
  So of several faults in one document the one on the outermost level is reported, and on one level
  the first.  When all parts are met, the value is put together (`Building.value`); a collection that
  contains itself has none.

  A host has a reader of YAML (`Host.yaml`), and `readShared` is only its default: what is proved about
  loading holds for every reader, and so for whatever a document may come to.
-/

namespace SecureStartup.Yaml

open SecureStartup.Config

/-! ## Nodes of a graph -/

/-- The standard tag of a node, by its short name; nothing for other tags. -/
def Node.shortTag (n : Node) : String :=
  match Text.dropLead (standardTag "").toList n.tag.toList with
  | some r => String.ofList r
  | none => ""

namespace Graph

/-- The short name of a node's tag. -/
def shortTag (g : Graph) (i : NodeId) : String := (g.node i).shortTag

/-- The pairs of a mapping; other nodes have none. -/
def pairs (g : Graph) (i : NodeId) : List (NodeId × NodeId) :=
  match (g.node i).content with
  | .mapping ps => ps
  | _ => []

/-- Whether a node is a mapping. -/
def isMapping (g : Graph) (i : NodeId) : Bool := (g.node i).content matches .mapping _

/-- Other pairs for a mapping. -/
def setPairs (g : Graph) (i : NodeId) (ps : List (NodeId × NodeId)) : Graph :=
  g.replace i { g.node i with content := .mapping ps }

/-- A key `=` is text. -/
def asText (g : Graph) (k : NodeId) : Graph :=
  if g.shortTag k == "value" then g.replace k { g.node k with tag := standardTag "str" } else g

/-- Cut a list at the first pair whose key is `<<`: its value, and the other pairs. -/
def cutTaken? (g : Graph) : List (NodeId × NodeId) → Option (NodeId × List (NodeId × NodeId))
  | [] => none
  | (k, v) :: ps =>
    if g.shortTag k == "merge" then some (v, ps)
    else (g.cutTaken? ps).map fun (w, rest) => (w, (k, v) :: rest)

/-- A mapping with the pairs that it takes over put in front, `taken` being those already found.  Of
    several mappings that are taken over together the first one wins, so its pairs come last.  Every
    step removes a key `<<`, so the number of pairs bounds them. -/
def flatten : Nat → Graph → NodeId → List (NodeId × NodeId) → Except Failure Graph
  | 0, _, _, _ => .error .malformed
  | fuel + 1, g, i, taken =>
    match g.cutTaken? (g.pairs i) with
    | none =>
      let own := g.pairs i
      .ok ((own.foldl (fun g p => g.asText p.1) g).setPairs i (taken ++ own))
    | some (v, rest) => do
      let g := g.setPairs i rest
      match (g.node v).content with
      | .mapping _ =>
        let g ← flatten fuel g v []
        flatten fuel g i (taken ++ g.pairs v)
      | .sequence ns =>
        let (g, parts) ← ns.foldlM (fun (g, parts) n => do
          if !g.isMapping n then throw .malformed
          let g ← flatten fuel g n []
          return (g, g.pairs n :: parts)) (g, ([] : List (List (NodeId × NodeId))))
        flatten fuel g i (taken ++ parts.flatten)
      | .scalar _ => throw .malformed

/-- How many pairs there are in all mappings. -/
def pairCount (g : Graph) : Nat :=
  g.nodes.foldl (fun n node => n + match node.content with
    | .mapping ps => ps.length
    | _ => 0) 0

/-- The text of a scalar node; a mapping may hold it under the key `=`. -/
def scalarText : Nat → Graph → NodeId → Except Failure String
  | 0, _, _ => .error .endless
  | fuel + 1, g, i =>
    match (g.node i).content with
    | .scalar text => .ok text
    | .mapping ps =>
      match ps.find? fun p => g.shortTag p.1 == "value" with
      | some p => scalarText fuel g p.2
      | none => .error .malformed
    | .sequence _ => .error .malformed

end Graph

/-- How a scalar with a standard tag is read. -/
def scalarReader? (tag : String) : Option (String → Except Failure Value) :=
  match tag with
  | "null" => some fun _ => .ok .none
  | "bool" => some readTruth
  | "int" => some readInt
  | "float" => some readFloat
  | "binary" => some readBytes
  | "timestamp" => some readStamp
  | "str" => some fun s => .ok (.str s)
  | _ => none

/-- The tags of collections. -/
def collectionTags : List String := ["seq", "map", "set", "omap", "pairs"]

/-! ## Meeting the nodes -/

/-- What a node was met as. -/
inductive Meeting where
  /-- A scalar, which has its value at once. -/
  | scalar (v : Value)
  /-- A collection, whose parts are met later. -/
  | collection

/-- A document whose nodes are being met. -/
structure Building where
  graph : Graph
  /-- The nodes that were met, each in its own place. -/
  met : Array (Option Meeting)
  /-- The collections whose parts have not been met. -/
  waiting : Std.Queue NodeId := .empty

namespace Building

/-- A document of which no node was met. -/
def ofGraph (g : Graph) : Building := { graph := g, met := Array.replicate g.size none }

/-- The value of a scalar that was met. -/
def scalar? (b : Building) (i : NodeId) : Option Value :=
  match b.met[i]? with
  | some (some (.scalar v)) => some v
  | _ => none

/-- Whether a node was met. -/
def isMet (b : Building) (i : NodeId) : Bool := (b.met[i]?.join).isSome

/-- Note that a node was met. -/
def note (b : Building) (i : NodeId) (m : Meeting) : Building :=
  { b with met := b.met.setIfInBounds i (some m) }

/-- Meet a node: a scalar is read, a collection waits. -/
def meet (b : Building) (i : NodeId) : Except Failure Building :=
  if b.isMet i then .ok b
  else
    let tag := b.graph.shortTag i
    match scalarReader? tag with
    | some read => do
      let text ← b.graph.scalarText (b.graph.size + 1) i
      -- a date is looked for in the node itself, where a mapping has no text
      if tag == "timestamp" && b.graph.isMapping i then throw (.mismatch .wrongType)
      return b.note i (.scalar (← read text))
    | none =>
      if collectionTags.contains tag then
        .ok (({ b with waiting := b.waiting.enqueue i } : Building).note i .collection)
      else .error .malformed

/-- Meet a pair of a mapping; a collection cannot be a key. -/
def meetPair (b : Building) (p : NodeId × NodeId) : Except Failure Building := do
  let b ← b.meet p.1
  if (b.scalar? p.1).isNone then throw .malformed
  b.meet p.2

/-- Meet the only pair of a mapping. -/
def meetSingle (b : Building) (i : NodeId) : Except Failure Building :=
  match (b.graph.node i).content with
  | .mapping [(k, v)] => do (← b.meet k).meet v
  | _ => .error .malformed

/-- Meet the parts of a collection. -/
def fill (b : Building) (i : NodeId) : Except Failure Building :=
  match b.graph.shortTag i, (b.graph.node i).content with
  | "seq", .sequence ns => ns.foldlM meet b
  | "map", .mapping _ | "set", .mapping _ => do
    let graph ← b.graph.flatten (b.graph.pairCount + 1) i []
    (graph.pairs i).foldlM meetPair { b with graph := graph }
  | "omap", .sequence ns | "pairs", .sequence ns => ns.foldlM meetSingle b
  | _, _ => .error .malformed

/-- Fill the collections that wait, in their order.  Each waits once, so the number of nodes bounds
    the steps. -/
def fillAll : Nat → Building → Except Failure Building
  | 0, b => .ok b
  | fuel + 1, b =>
    match b.waiting.dequeue? with
    | none => .ok b
    | some (i, rest) => do fillAll fuel (← fill { b with waiting := rest } i)

/-! ## Putting the value together -/

/-- Whether the scalar of a node is THE not-a-number, the one that is written by its name. -/
def isNamedNan (b : Building) (i : NodeId) : Bool :=
  match (b.graph.node i).content with
  | .scalar text =>
    [".nan", "+.nan", "-.nan"].contains
      (String.ofList (Text.lowerText (text.toList.filter (· != '_'))))
  | _ => false

/-- Whether two keys are one: equal values, or one and the same not-a-number. -/
def isSameKey (b : Building) (i j : NodeId) : Bool :=
  match b.scalar? i, b.scalar? j with
  | some (.float .nan), some (.float .nan) => i == j || (b.isNamedNan i && b.isNamedNan j)
  | some v, some w => v.same w
  | _, _ => false

/-- One more pair behind others: a key that is there keeps its place and gets the new value. -/
def insertPair (b : Building) (p : NodeId × NodeId) :
    List (NodeId × NodeId) → List (NodeId × NodeId)
  | [] => [p]
  | q :: qs => if b.isSameKey q.1 p.1 then (q.1, p.2) :: qs else q :: b.insertPair p qs

/-- The pairs of a mapping, every key once. -/
def distinctPairs (b : Building) (i : NodeId) : List (NodeId × NodeId) :=
  (b.graph.pairs i).foldl (fun qs p => b.insertPair p qs) []

/-- The value of a node that was met.  A chain of collections without repetition is no longer than
    the number of nodes. -/
def value : Nat → Building → NodeId → Except Failure Value
  | 0, _, _ => .error .endless
  | fuel + 1, b, i =>
    match b.scalar? i with
    | some v => .ok v
    | none =>
      let pairValue := fun (p : NodeId × NodeId) => do
        let k ← value fuel b p.1
        return (k, ← value fuel b p.2)
      match b.graph.shortTag i, (b.graph.node i).content with
      | "seq", .sequence ns => .list <$> ns.mapM (value fuel b)
      | "map", .mapping _ => .map <$> (b.distinctPairs i).mapM pairValue
      | "set", .mapping _ => do
        let keys ← (b.distinctPairs i).mapM fun p => value fuel b p.1
        return .set (Value.listedTogether keys)
      | _, .sequence ns =>
        .list <$> ns.mapM fun n => do
          return .tuple ((← (b.graph.pairs n).mapM pairValue).flatMap fun p => [p.1, p.2])
      | _, _ => .error .malformed

/-- The things in the places of a node's value.  Dates, times and sets are such, tuples too; lists and
    mappings only within a tuple (`kept`), since elsewhere they are copied when references are
    expanded. -/
def sharing : Nat → Building → Bool → NodeId → Sharing
  | 0, _, _, _ => .plain
  | fuel + 1, b, kept, i =>
    let thing := if kept then some ⟨i, none⟩ else none
    let both := fun (kept : Bool) (p : NodeId × NodeId) =>
      [sharing fuel b kept p.1, sharing fuel b kept p.2]
    match b.scalar? i with
    | some (.date _) | some (.datetime _) => .place (some ⟨i, none⟩) []
    | some _ => .plain
    | none =>
      match b.graph.shortTag i, (b.graph.node i).content with
      | "seq", .sequence ns => .place thing (ns.map (sharing fuel b kept))
      | "map", .mapping _ => .place thing ((b.distinctPairs i).flatMap (both kept))
      | "set", .mapping _ =>
        .place (some ⟨i, none⟩) ((b.distinctPairs i).map fun p => sharing fuel b kept p.1)
      | _, .sequence ns =>
        .place thing (ns.mapIdx fun k n =>
          .place (some ⟨i, some k⟩) ((b.graph.pairs n).flatMap (both true)))
      | _, _ => .plain

end Building

/-- **The value of a text**, and which of its places hold one thing; a text without a document gives
    nothing. -/
def readShared (text : String) : Except Failure (Value × Sharing) := do
  let (graph, root) ← compose text
  match root with
  | none => return (.none, .plain)
  | some i =>
    let b ← (← (Building.ofGraph graph).meet i).fillAll (graph.size + 1)
    return (← b.value (graph.size + 1) i, b.sharing (graph.size + 1) false i)

end SecureStartup.Yaml
