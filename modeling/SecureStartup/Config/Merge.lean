import SecureStartup.Failure.Basic

/-!
  Laying one mapping over another (`_deep_merge`), and turning values into mappings.

  A key of the overlay replaces the base's value under it, unless both are mappings: then these are
  merged in turn.  Keys keep the place they had in the base; new keys follow in the overlay's order.

  `merge` is the merge of two mappings, and the one that the laws are about.  The loader may be given a
  base of another kind, a list for instance, which can be copied and written to as well; `mergeValues`
  is the merge as far as there is one (`mergeIntoList`), and else the failure.

  The second half holds what the loader does to make mappings of values: `toEntries` takes a mapping or
  a sequence of pairs, as the constructor of a mapping does, `entriesOf` asks a value for its pairs, and
  `stringKeys` is `_stringify_settings`, which makes texts of the keys and leaves what is no mapping.
-/

namespace SecureStartup.Config

mutual

/-- Lay the pairs of an overlay over a base, one after another. -/
def mergeInto : List (Value × Value) → Entries → Entries
  | [], base => base
  | (k, v) :: es, base => mergeInto es (base.insert k (mergeValue v (base.get? k)))

/-- Lay one value over what the base holds in its place. -/
def mergeValue : Value → Option Value → Value
  | .map fs, old => match old with
    | some (.map gs) => .map (mergeInto fs gs)
    | _ => .map fs
  | v, _ => v

end

/-- **The merge** of an overlay into a base. -/
def merge (base overlay : Entries) : Entries := mergeInto overlay base

/-- Laying nothing over a base changes nothing. -/
@[simp] theorem merge_nil (base : Entries) : merge base [] = base := by
  simp [merge, mergeInto]

/-! ## Values of any kind -/

/-- The place of an index in a list of `n` items; negative ones count from the end. -/
def indexIn? (n : Nat) (i : Int) : Option Nat :=
  if 0 ≤ i then (if i < n then some i.toNat else none)
  else if 0 ≤ i + n then some (i + n).toNat else none

/-- Lay pairs over a list: an integer key replaces the item at that index. -/
def mergeIntoList (xs : List Value) : Entries → Except Failure (List Value)
  | [] => .ok xs
  | (k, v) :: es =>
    match k.asInt? with
    | none => .error (.mismatch .wrongType)
    | some i =>
      match indexIn? xs.length i with
      | none => .error (.mismatch .noIndex)
      | some n =>
        -- a key counts as present when the list has it as an ITEM, not as an index
        let old := if xs.any (·.same k) then xs[n]? else none
        mergeIntoList (xs.set n (mergeValue v old)) es

/-- Merge two values: an overlay has to be a mapping, and a base something that can be copied and
    written to. -/
def mergeValues (base overlay : Value) : Except Failure Value :=
  match base, overlay with
  | .map b, .map o => .ok (.map (merge b o))
  | .list xs, .map o => (mergeIntoList xs o).map .list
  | .set xs, .map o => if o.isEmpty then .ok (.set xs) else .error (.mismatch .wrongType)
  | .frozenset xs, .map o => if o.isEmpty then .ok (.frozenset xs) else .error (.mismatch .wrongType)
  | _, _ => .error (.mismatch .noPart)

/-! ## Turning values into mappings -/

/-- Whether a value can be a key. -/
def hashable : Value → Bool
  | .list _ | .set _ | .map _ => false
  | .tuple xs => hashableAll xs
  | _ => true
where
  /-- Whether all items can be keys. -/
  hashableAll : List Value → Bool
    | [] => true
    | x :: xs => hashable x && hashableAll xs

/-- The items of a value that can be gone through. -/
def itemsOf? : Value → Option (List Value)
  | .list xs | .tuple xs | .set xs | .frozenset xs => some xs
  | .str s => some ((Text.letters s.toList).map fun cs => .str (String.ofList cs))
  | .bytes bs => some (bs.map fun b => .int b.toNat)
  | .map es => some (Entries.keys es)
  | _ => none

/-- Pairs from a sequence, the `n`-th item first. -/
def pairsOf (n : Nat) : List Value → Except Failure (List (Value × Value))
  | [] => .ok []
  | x :: xs =>
    match itemsOf? x with
    | none => .error (.mismatch .wrongType)
    | some [k, v] => do
      if !hashable k then throw (.mismatch .wrongType)
      return (k, v) :: (← pairsOf (n + 1) xs)
    | some parts => .error (.invalid (.notPair n parts.length))

/-- A value as a mapping: a mapping is one, and so is a sequence of pairs. -/
def toEntries (v : Value) : Except Failure Entries :=
  match v with
  | .map es => .ok es
  | _ =>
    match itemsOf? v with
    | none => .error (.mismatch .wrongType)
    | some xs => (pairsOf 0 xs).map Entries.ofPairs

/-- A mapping, with nothing and other ungiven values as the empty one. -/
def toEntriesOrEmpty (v : Value) : Except Failure Entries :=
  if v.truthy then toEntries v else .ok []

/-- The pairs of a mapping; nothing else has pairs. -/
def entriesOf (v : Value) : Except Failure Entries :=
  match v with
  | .map es => .ok es
  | _ => .error (.mismatch .noPart)

/-- The value under a name in a mapping; nothing else can be asked. -/
def fieldOf (v : Value) (name : String) : Except Failure Value := do
  return Entries.field (← entriesOf v) name

/-- Settings with texts for keys; nothing is the empty mapping, and what is no mapping stays. -/
def stringKeys (v : Value) : Except Failure Value :=
  match v with
  | .none => .ok (.map [])
  | .map es => do
    return .map (Entries.ofPairs (← es.mapM fun e => do return (.str (← e.1.written), e.2)))
  | v => .ok v

end SecureStartup.Config
