import SecureStartup.Yaml.Scan

/-!
  The tokens of a YAML text.

  Indentation becomes explicit here: every block collection has a start and an end token.  What makes
  this more than cutting is that a mapping key is recognised only by the colon AFTER it; until then a
  place where a key could start is remembered per level of flow collections (`SimpleKey`), and when
  the colon comes the key token, and possibly the start of a mapping, is put in at that place.  A key
  has to stand on one line and within 1024 characters of its colon.

  Tokens are taken from the text ONE BY ONE, when they are asked for (`Lexer.ready`), and further only
  while the next one could still turn out to be a key.  So a fault of the text is met only when the
  text before it is in order.
-/

namespace SecureStartup.Yaml

open SecureStartup.Text

/-- A token. -/
inductive Token where
  | directive (d : Directive)
  | documentStart
  | documentEnd
  | blockSequenceStart
  | blockMappingStart
  | blockEnd
  | flowSequenceStart
  | flowSequenceEnd
  | flowMappingStart
  | flowMappingEnd
  | blockEntry
  | flowEntry
  | key
  | value
  | alias (name : String)
  | anchor (name : String)
  | tag (handle : Option String) (text : String)
  | scalar (text : String) (plain : Bool)
  deriving Repr

/-- A place where a mapping key may have started. -/
structure SimpleKey where
  /-- The number of tokens before it. -/
  position : Nat
  /-- At the current indentation of a block: the key has to turn out to be one. -/
  required : Bool
  line : Nat
  column : Nat
  /-- How many characters were left there. -/
  left : Nat
  deriving Repr

/-- The state between two tokens. -/
structure Lexer where
  cursor : Cursor
  /-- The tokens that were read and not yet taken. -/
  tokens : List Token := []
  /-- How many tokens have been taken. -/
  taken : Nat := 0
  /-- Whether the end of the text was met. -/
  ended : Bool := false
  /-- How deep inside flow collections. -/
  flow : Nat := 0
  indent : Int := -1
  indents : List Int := []
  /-- Possible keys, by flow level. -/
  keys : List (Nat × SimpleKey) := []
  /-- Whether a key may start here. -/
  mayKey : Bool := true
  deriving Inhabited

namespace Lexer

/-- Add a token. -/
def emit (s : Lexer) (t : Token) : Lexer := { s with tokens := s.tokens ++ [t] }

/-- Take the next token. -/
def take (s : Lexer) : Lexer := { s with tokens := s.tokens.drop 1, taken := s.taken + 1 }

/-- Forget the possible key at the current level; it must not be a required one. -/
def dropKey (s : Lexer) : Except Failure Lexer :=
  match s.keys.find? fun k => k.1 == s.flow with
  | some (_, k) =>
    if k.required then .error .malformed
    else .ok { s with keys := s.keys.filter fun k => k.1 != s.flow }
  | none => .ok s

/-- Forget possible keys that are too far back. -/
def dropStale (s : Lexer) : Except Failure Lexer :=
  let stale := fun (k : Nat × SimpleKey) =>
    k.2.line != s.cursor.line || 1024 < k.2.left - s.cursor.left
  if s.keys.any fun k => stale k && k.2.required then .error .malformed
  else .ok { s with keys := s.keys.filter fun k => !stale k }

/-- Remember that a key may start here. -/
def saveKey (s : Lexer) : Except Failure Lexer :=
  if s.mayKey then do
    let required := s.flow == 0 && s.indent == s.cursor.column
    let s ← s.dropKey
    let k := ⟨s.taken + s.tokens.length, required, s.cursor.line, s.cursor.column, s.cursor.left⟩
    return { s with keys := (s.flow, k) :: s.keys }
  else .ok s

/-- Close the block collections that are indented more than a column. -/
def unwind (column : Int) : List Int → Lexer → Lexer
  | [], s => s
  | i :: rest, s =>
    if s.indent > column then
      unwind column rest { (s.emit .blockEnd) with indent := i, indents := rest }
    else s

/-- Close block collections, outside flow collections. -/
def unwindTo (s : Lexer) (column : Int) : Lexer :=
  if s.flow == 0 then unwind column s.indents s else s

/-- Open a block collection at a column, when it is indented more than the current one. -/
def openBlock (s : Lexer) (column : Nat) (t : Token) : Lexer :=
  if s.indent < column then
    { (s.emit t) with indent := column, indents := s.indent :: s.indents }
  else s

/-- Go past blanks, comments and line breaks; outside flow collections a key may start on a new
    line. -/
def toToken : Nat → Lexer → Lexer
  | 0, s => s
  | fuel + 1, s =>
    let c := (s.cursor.skipWhile (· == ' ')).skipComment
    if isBreak c.peek then
      toToken fuel { s with cursor := c.lineBreak.2, mayKey := s.mayKey || s.flow == 0 }
    else { s with cursor := c }

/-- A token of `n` characters that starts or ends a flow collection or separates its items. -/
def mark (s : Lexer) (t : Token) (n : Nat) (mayKey : Bool) : Lexer :=
  { (s.emit t) with cursor := s.cursor.skip n, mayKey := mayKey }

/-- A token at the beginning of a line that ends everything open. -/
def outermost (s : Lexer) : Except Failure Lexer := do
  let s ← (s.unwindTo (-1)).dropKey
  return { s with mayKey := false }

/-- A collection may only be opened where a key may start. -/
def checkOpen (s : Lexer) : Except Failure Unit :=
  if s.flow == 0 && !s.mayKey then .error .malformed else .ok ()

/-- The dash of a block sequence. -/
def blockEntry (s : Lexer) : Except Failure Lexer := do
  s.checkOpen
  let s := if s.flow == 0 then s.openBlock s.cursor.column .blockSequenceStart else s
  let s ← dropKey { s with mayKey := true }
  return s.mark .blockEntry 1 true

/-- The question mark of an explicit key. -/
def explicitKey (s : Lexer) : Except Failure Lexer := do
  s.checkOpen
  let s := if s.flow == 0 then s.openBlock s.cursor.column .blockMappingStart else s
  let s ← s.dropKey
  return s.mark .key 1 (s.flow == 0)

/-- The colon of a value: it turns the possible key at this level into a key. -/
def value (s : Lexer) : Except Failure Lexer :=
  match s.keys.find? fun k => k.1 == s.flow with
  | some (_, k) =>
    let before := s.tokens.take (k.position - s.taken)
    let after := s.tokens.drop (k.position - s.taken)
    let opens := s.flow == 0 && s.indent < k.column
    let tokens := before ++ (if opens then [.blockMappingStart, .key] else [.key]) ++ after
    let s := { s with tokens := tokens, keys := s.keys.filter fun k => k.1 != s.flow }
    let s := if opens then { s with indent := k.column, indents := s.indent :: s.indents } else s
    .ok (s.mark .value 1 false)
  | none => do
    s.checkOpen
    let s := if s.flow == 0 then s.openBlock s.cursor.column .blockMappingStart else s
    let s ← s.dropKey
    return s.mark .value 1 (s.flow == 0)

/-- A token that a reader takes from the text, where a key may have started. -/
def readBy {α : Type} (s : Lexer) (read : Cursor → Except Failure (α × Cursor)) (t : α → Token) :
    Except Failure Lexer := do
  let s ← s.saveKey
  let (a, c) ← read s.cursor
  return { (s.emit (t a)) with cursor := c, mayKey := false }

/-- A block scalar. -/
def block (s : Lexer) (fold : Bool) : Except Failure Lexer := do
  let s ← dropKey { s with mayKey := true }
  let (text, c) ← orMalformed (blockScalar? fold s.indent s.cursor)
  return { (s.emit (.scalar text false)) with cursor := c }

/-- A plain scalar. -/
def plain (s : Lexer) : Except Failure Lexer := do
  let s ← s.saveKey
  let (text, broken, c) := plainScalar (s.flow != 0) s.indent s.cursor
  return { (s.emit (.scalar text true)) with cursor := c, mayKey := broken }

/-- Whether a plain scalar may start with a character (given the one after it). -/
def startsPlain (s : Lexer) (a b : Char) : Bool :=
  !(isGap a || "-?:,[]\x7b\x7d#&*!|>'\"%@\x60".toList.contains a)
    || (!isGap b && (a == '-' || (s.flow == 0 && (a == '?' || a == ':'))))

/-- Read the next token, or several that come together. -/
def fetch (s : Lexer) : Except Failure Lexer := do
  let s ← (s.toToken (s.cursor.left + 1)).dropStale
  let s := s.unwindTo s.cursor.column
  let c := s.cursor
  let a := c.peek
  let b := c.peekAt 1
  -- The order decides: a mark counts as one before it can start a plain scalar.
  if a == endMark then return { (← s.outermost) with ended := true }
  else if a == '%' && c.column == 0 then
    let s ← s.outermost
    let (d, c) ← directive c
    return { (s.emit (.directive d)) with cursor := c }
  else if c.column == 0 && c.atMark '-' then return (← s.outermost).mark .documentStart 3 false
  else if c.column == 0 && c.atMark '.' then return (← s.outermost).mark .documentEnd 3 false
  else if a == '[' || a == '\x7b' then
    let s ← s.saveKey
    let t := if a == '[' then Token.flowSequenceStart else Token.flowMappingStart
    return { (s.mark t 1 true) with flow := s.flow + 1 }
  else if a == ']' || a == '\x7d' then
    if s.flow == 0 then throw .malformed
    let s ← s.dropKey
    let t := if a == ']' then Token.flowSequenceEnd else Token.flowMappingEnd
    return { (s.mark t 1 false) with flow := s.flow - 1 }
  else if a == ',' then
    let s ← dropKey { s with mayKey := true }
    return s.mark .flowEntry 1 true
  else if a == '-' && isGap b then s.blockEntry
  else if a == '?' && (s.flow != 0 || isGap b) then s.explicitKey
  else if a == ':' && (s.flow != 0 || isGap b) then s.value
  else if a == '*' then s.readBy (fun c => orMalformed (anchorName? c)) .alias
  else if a == '&' then s.readBy (fun c => orMalformed (anchorName? c)) .anchor
  else if a == '!' then s.readBy (fun c => orMalformed (tag? c)) fun t => .tag t.1 t.2
  else if a == '|' && s.flow == 0 then s.block false
  else if a == '>' && s.flow == 0 then s.block true
  else if a == '\'' then s.readBy (quotedScalar false) (.scalar · false)
  else if a == '"' then s.readBy (quotedScalar true) (.scalar · false)
  else if s.startsPlain a b then s.plain
  else throw .malformed

/-- Whether the next token is a possible key, so that it may still change. -/
def isOpen (s : Lexer) : Bool := s.keys.any fun k => k.2.position == s.taken

/-- Read on until the next token is certain; `fuel` bounds the tokens that are read. -/
def readOn : Nat → Lexer → Except Failure Lexer
  | 0, s => .ok s
  | fuel + 1, s => do
    if s.ended then return s
    else if s.tokens.isEmpty then readOn fuel (← s.fetch)
    else
      let s ← s.dropStale
      if s.isOpen then readOn fuel (← s.fetch) else return s

/-- The state in which the next token is certain.  Every reading takes a character at least, so the
    length of the text that is left bounds them. -/
def ready (s : Lexer) : Except Failure Lexer := s.readOn (s.cursor.left + 2)

end Lexer

/-- Characters that may stand in a document. -/
def isAllowed (c : Char) : Bool :=
  let n := c.toNat
  n == 9 || n == 10 || n == 13 || (32 ≤ n && n ≤ 0x7e) || n == 0x85 || (0xa0 ≤ n && n ≤ 0xd7ff)
    || (0xe000 ≤ n && n ≤ 0xfffd) || 0x10000 ≤ n

/-- **The state before the first token** of a text; all its characters have to be allowed.  A
    byte-order mark at the very beginning does not count. -/
def Lexer.start (text : String) : Except Failure Lexer :=
  let cs := text.toList
  if cs.all isAllowed then
    let c := Cursor.ofList cs
    .ok { cursor := if (cs.head?.map (·.toNat)) == some 0xfeff then c.next else c }
  else .error .malformed

end SecureStartup.Yaml
