import SecureStartup.Value.Basic

/-!
  The order in which a set lists its items.

  A set of numbers keeps them in slots, and lists them from the first slot to the last.  There are a
  power of two slots, at first eight.  A number's home is its residue modulo the number of slots;
  where that is taken, it looks through the nine slots behind, if so many are left, and else jumps.
  When three fifths of the slots are taken, a table with more slots takes over.  Items that are no
  numbers have no home, and a set with one of them lists its items as they came.
-/

namespace SecureStartup.Value

/-! ## Residues -/

/-- Numbers are counted modulo this prime. -/
def residuePrime : Nat := Nat.pow 2 61 - 1

/-- A residue with a sign as a machine word; minus one is taken for a mark, so it moves by one. -/
def signedResidue (negative : Bool) (n : Nat) : Nat :=
  if !negative || n == 0 then n else Nat.pow 2 64 - (if n == 1 then 2 else n)

/-- The residue of a number; equal numbers of different types have one residue.  A power of two may be
    taken modulo 61, since `2 ^ 61` leaves one. -/
def residue? (v : Value) : Option Nat :=
  match v with
  | float (.infinite negative) => some (signedResidue negative 314159)
  | float (.finite negative m e) =>
    some (signedResidue negative (m * Nat.pow 2 (e % 61).toNat % residuePrime))
  | _ => v.asInt?.map fun i => signedResidue (i < 0) (i.natAbs % residuePrime)

/-! ## The table -/

/-- Slots, each free or holding an item and its residue. -/
abbrev Slots := Array (Option (Nat × Value))

namespace Slots

/-- How many slots behind the first are looked through. -/
def reach : Nat := 9

/-- The least number of slots. -/
def least : Nat := 8

/-- The free slot for an item, looking from slot `i` on; `bits` are the bits of the residue that have
    not had a say. -/
def free? (t : Slots) : Nat → Nat → Nat → Option Nat
  | 0, _, _ => .none
  | fuel + 1, bits, i =>
    let count := if i + reach < t.size then reach + 1 else 1
    match (List.range' i count).find? fun j => (t[j]?.map (·.isNone)).getD false with
    | some j => some j
    | .none => free? t fuel (bits / 32) ((i * 5 + 1 + bits / 32) % t.size)

/-- Put an item into its slot.  A word has no more than thirteen groups of five bits, and after them
    the jumps reach every slot. -/
def put (t : Slots) (item : Nat × Value) : Slots :=
  match t.free? (t.size + 13) item.1 (item.1 % t.size) with
  | some j => t.setIfInBounds j (some item)
  | .none => t

/-- The least table with more than `n` slots. -/
def roomFor (n : Nat) : Slots :=
  Array.replicate (max least (Nat.pow 2 (n.log2 + 1))) .none

/-- The items, from the first slot to the last. -/
def items (t : Slots) : List (Nat × Value) := t.toList.filterMap id

/-- Add an item, and move to a larger table when three fifths of the slots are taken. -/
def add (t : Slots) (item : Nat × Value) : Slots :=
  let t := t.put item
  let taken := t.items.length
  if taken * 5 < (t.size - 1) * 3 then t
  else t.items.foldl put (roomFor (taken * (if 50000 < taken then 2 else 4)))

end Slots

/-! ## Listing -/

/-- Items in the order in which a set lists them when it got them one by one, in a table of some size
    at first. -/
def listedFrom (start : Slots) (xs : List Value) : List Value :=
  match xs.mapM fun x => x.residue?.map (·, x) with
  | some items => (items.foldl Slots.add start).items.map (·.2)
  | .none => xs

/-- The items of a set that got them one by one, the first of equals staying. -/
def listed (xs : List Value) : List Value :=
  let distinct := xs.foldl (fun acc x => if acc.any (·.same x) then acc else x :: acc) []
  listedFrom (Array.replicate Slots.least .none) distinct.reverse

/-- The items of a set that got them together, all different: it makes room for them beforehand. -/
def listedTogether (xs : List Value) : List Value :=
  let n := xs.length
  listedFrom (if n * 5 < (Slots.least - 1) * 3 then Array.replicate Slots.least .none
    else Slots.roomFor (n * 2)) xs

end SecureStartup.Value
