import SecureStartup.Value.Basic
import SecureStartup.Path.Basic
import SecureStartup.Text.Code

/-!
  The order of values, as far as there is one.

  Numbers are ordered by value, texts by code point, dates and times in time, lists and tuples by
  their first difference, paths likewise by their parts, and sets by inclusion.  Values of different
  kinds are NOT ordered, and a list that holds such a pair cannot be sorted (`sort?`).

  Sorting is needed in two places: the items of a set are put in order for JSON (`json_serializer`), and
  the names of components for the log.  Which pairs are compared depends on how one sorts; `sortBy?`
  inserts one after another, from the left.
-/

namespace SecureStartup.Value

open SecureStartup.Text

/-- `a < b` for texts: by the first code points that differ. -/
def lessText (s t : List Char) : Bool := s != t && lexLE s t

/-- `a < b` for paths: by the first parts that differ, the root being the first part. -/
def lessPath (a b : PurePath) : Bool :=
  let parts := fun (p : PurePath) => if p.root.isEmpty then p.parts else p.root :: p.parts
  go (parts a) (parts b)
where
  /-- Part by part; a path comes before those below it. -/
  go : List (List Char) → List (List Char) → Bool
    | [], ys => !ys.isEmpty
    | _ :: _, [] => false
    | x :: xs, y :: ys => if x == y then go xs ys else lessText x y

/-- `a < b` for values that hold no other values; none when they are not ordered. -/
def lessAtom? (a b : Value) : Option Bool :=
  match a, b with
  | str s, str t => some (lessText s.toList t.toList)
  | bytes s, bytes t =>
    let cs := fun (bs : List UInt8) => bs.map fun b => Char.ofNat b.toNat
    some (lessText (cs s) (cs t))
  | date s, date t => some (s.dayNumber < t.dayNumber)
  | datetime s, datetime t =>
    if s.offset.isSome == t.offset.isSome then some (s.instant < t.instant) else Option.none
  | path s, path t => some (lessPath (.ofString s) (.ofString t))
  | float x, float y => some (x.compare? y == some .lt)
  | float x, y => y.asInt?.map fun j => Binary64.compareInt? j x == some .gt
  | x, float y => x.asInt?.map fun i => Binary64.compareInt? i y == some .lt
  | x, y =>
    match x.asInt?, y.asInt? with
    | some i, some j => some (i < j)
    | _, _ => Option.none

mutual

/-- `a < b`, or none when the two are not ordered. -/
def less? : Value → Value → Option Bool
  | list xs, b => match b with
    | list ys => lessList? xs ys
    | _ => Option.none
  | tuple xs, b => match b with
    | tuple ys => lessList? xs ys
    | _ => Option.none
  | set xs, b | frozenset xs, b => match b with
    | set ys | frozenset ys => some (xs.length < ys.length && allIn xs ys)
    | _ => Option.none
  | a, b => lessAtom? a b

/-- The order by the first elements that differ; a shorter list comes before its extensions. -/
def lessList? : List Value → List Value → Option Bool
  | [], ys => some (!ys.isEmpty)
  | x :: xs, ys => match ys with
    | [] => some false
    | y :: ys => if same x y then lessList? xs ys else less? x y

end

/-- Insert into a sorted list, after the elements that are not greater. -/
def insertSorted? {α : Type} (key : α → Value) (x : α) : List α → Option (List α)
  | [] => some [x]
  | y :: ys => do
    if ← less? (key x) (key y) then return x :: y :: ys
    return y :: (← insertSorted? key x ys)

/-- Sort by a key, keeping the order of equals; none when two elements are not ordered. -/
def sortBy? {α : Type} (key : α → Value) (xs : List α) : Option (List α) :=
  xs.foldlM (fun acc x => insertSorted? key x acc) []

/-- Sort values. -/
def sort? (xs : List Value) : Option (List Value) := sortBy? id xs

/-- Texts in order of code points. -/
def sortTexts (xs : List String) : List String :=
  xs.mergeSort fun a b => lexLE a.toList b.toList

end SecureStartup.Value
