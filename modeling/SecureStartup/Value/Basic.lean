import SecureStartup.Number.Binary64
import SecureStartup.Time.Calendar

/-!
  Values of settings.

  A configuration file may hold anything, and most of the rules for settings are rules about values
  of the wrong kind, so there is one dynamic type of values.  A mapping is a list of pairs in the
  order in which its keys first came; a key is looked up by `same`, under which numbers compare by
  value (`1`, `1.0` and `true` are one key) and a not-a-number is found nowhere.

  `truthy` is the notion of "given" that the loader uses: nothing, false, zero and everything empty
  are not given.

  The same values are the fields of log records, the contexts of failures and what is written as JSON.
  `object` is any other thing, known by its text; `category` is one of the words of `ErrorCategory`,
  which a failure can have as a value among the fields that are logged.

  Equality goes through values as it goes through data: a list differs from a tuple, sets and mappings
  have no order.  It is not an equivalence on all values, as not-a-number and objects equal nothing;
  the lemmas about it say of which values they speak.
-/

namespace SecureStartup

/-- Classification of start-up failures. -/
inductive Category where
  | badConfiguration
  | badState
  | staging
  | io
  | unknown
  deriving DecidableEq, Inhabited, Repr

namespace Category

/-- The word a category is reported by. -/
def word : Category → String
  | badConfiguration => "bad_configuration"
  | badState => "bad_state"
  | staging => "staging"
  | io => "io"
  | unknown => "unknown"

/-- The name of a category. -/
def name : Category → String
  | badConfiguration => "BAD_CONFIGURATION"
  | badState => "BAD_STATE"
  | staging => "STAGING"
  | io => "IO"
  | unknown => "UNKNOWN"

/-- All categories. -/
def all : List Category := [badConfiguration, badState, staging, io, unknown]

end Category

/-- A value of any kind that a setting, a log field or a document may hold. -/
inductive Value where
  | none
  | bool (b : Bool)
  | int (i : Int)
  | float (x : Binary64)
  | str (s : String)
  | bytes (bs : List UInt8)
  | date (d : Date)
  | datetime (t : DateTime)
  | path (p : String)
  | category (c : Category)
  | object (text : String)
  | list (xs : List Value)
  | tuple (xs : List Value)
  | set (xs : List Value)
  | frozenset (xs : List Value)
  | map (entries : List (Value × Value))
  deriving Inhabited

/-- The pairs of a mapping, in the order of first insertion. -/
abbrev Entries := List (Value × Value)

namespace Value

/-! ## Equality -/

/-- The whole number a value counts as: integers and truth values do. -/
def asInt? : Value → Option Int
  | int i => some i
  | bool b => some (if b then 1 else 0)
  | _ => Option.none

/-- The whole number that a value is equal to, if it is a number. -/
def wholeNumber? (v : Value) : Option Int :=
  match v with
  | float x => x.truncate?.filter fun i => Binary64.compareInt? i x == some .eq
  | _ => v.asInt?

/-- Equality of values that hold no other values.  Objects are known by their text alone, and two of
    one text are still two, so an object equals nothing. -/
def sameAtom (a b : Value) : Bool :=
  match a, b with
  | none, none => true
  | str s, str t => s == t
  | bytes s, bytes t => s == t
  | date s, date t => s == t
  | datetime s, datetime t => s.same t
  | path s, path t => s == t
  | category s, category t => s == t
  | float x, float y => x.same y
  | float x, y => (y.asInt?.bind (Binary64.compareInt? · x)) == some .eq
  | x, float y => (x.asInt?.bind (Binary64.compareInt? · y)) == some .eq
  | x, y =>
    match x.asInt?, y.asInt? with
    | some i, some j => i == j
    | _, _ => false

mutual

/-- **Equality of values.**  Numbers by value; a list and a tuple differ; sets and mappings without
    regard to order. -/
def same : Value → Value → Bool
  | list xs, b => match b with
    | list ys => sameList xs ys
    | _ => false
  | tuple xs, b => match b with
    | tuple ys => sameList xs ys
    | _ => false
  | set xs, b => match b with
    | set ys => xs.length == ys.length && allIn xs ys
    | frozenset ys => xs.length == ys.length && allIn xs ys
    | _ => false
  | frozenset xs, b => match b with
    | set ys => xs.length == ys.length && allIn xs ys
    | frozenset ys => xs.length == ys.length && allIn xs ys
    | _ => false
  | map es, b => match b with
    | map fs => es.length == fs.length && allEntriesIn es fs
    | _ => false
  | a, b => sameAtom a b

/-- Element by element. -/
def sameList : List Value → List Value → Bool
  | [], ys => ys.isEmpty
  | x :: xs, ys => match ys with
    | y :: ys => same x y && sameList xs ys
    | [] => false

/-- Every element occurs in the other list. -/
def allIn : List Value → List Value → Bool
  | [], _ => true
  | x :: xs, ys => ys.any (same x) && allIn xs ys

/-- Every pair occurs in the other mapping. -/
def allEntriesIn : List (Value × Value) → List (Value × Value) → Bool
  | [], _ => true
  | (k, v) :: es, fs => fs.any (fun e => same k e.1 && same v e.2) && allEntriesIn es fs

end

/-! ## Being given -/

/-- **Given**: not nothing, not false, not zero, not empty. -/
def truthy : Value → Bool
  | none => false
  | bool b => b
  | int i => i != 0
  | float x => !x.isZero
  | str s => s != ""
  | bytes bs => !bs.isEmpty
  | list xs | tuple xs | set xs | frozenset xs => !xs.isEmpty
  | map es => !es.isEmpty
  | date _ | datetime _ | path _ | category _ | object _ => true

/-- The first value that is given, else the second. -/
def orElse (a b : Value) : Value := if a.truthy then a else b

/-- The text of a string value. -/
def asText? : Value → Option String
  | str s => some s
  | _ => Option.none

/-- The pairs of a mapping value. -/
def asEntries? : Value → Option Entries
  | map es => some es
  | _ => Option.none

/-- A mapping from names to values. -/
def ofFields (fields : List (String × Value)) : Value :=
  map (fields.map fun f => (str f.1, f.2))

/-- Whether a value is a mapping. -/
def isMap : Value → Bool
  | map _ => true
  | _ => false

end Value

/-! ## Mappings -/

namespace Entries

/-- The value under a key. -/
def get? (es : Entries) (k : Value) : Option Value :=
  (es.find? fun e => e.1.same k).map (·.2)

/-- The value under a name, or nothing. -/
def field (es : Entries) (name : String) : Value := (get? es (.str name)).getD .none

/-- Whether there is a value under a key. -/
def has (es : Entries) (k : Value) : Bool := (get? es k).isSome

/-- Set the value under a key: in place when the key is there (the key itself stays as it is), else
    at the end. -/
def insert : Entries → Value → Value → Entries
  | [], k, v => [(k, v)]
  | (k', v') :: es, k, v =>
    if k'.same k then (k', v) :: es else (k', v') :: insert es k v

/-- A mapping from pairs, the later of two equal keys winning. -/
def ofPairs (ps : List (Value × Value)) : Entries :=
  ps.foldl (fun es p => insert es p.1 p.2) []

/-- The keys. -/
def keys (es : Entries) : List Value := es.map (·.1)

/-- Reading back what was inserted. -/
theorem get?_insert_self (es : Entries) (k v : Value) (h : k.same k = true) :
    get? (insert es k v) k = some v := by
  induction es with
  | nil => simp [insert, get?, h]
  | cons e es ih =>
    obtain ⟨k', v'⟩ := e
    unfold insert
    by_cases hk : k'.same k = true
    · simp [hk, get?]
    · simp only [hk, Bool.false_eq_true, ↓reduceIte, get?, List.find?_cons]
      simpa [get?] using ih

/-- Inserting under an existing key keeps the list of keys, and under a new one extends it. -/
theorem keys_insert (es : Entries) (k v : Value) :
    keys (insert es k v) = if es.any (fun e => e.1.same k) then keys es else keys es ++ [k] := by
  induction es with
  | nil => rfl
  | cons e es ih =>
    obtain ⟨k', v'⟩ := e
    unfold insert
    by_cases hk : k'.same k = true
    · simp [hk, keys]
    · simp only [keys] at ih ⊢
      simp only [hk, Bool.false_eq_true, ↓reduceIte, List.map_cons, ih, List.any_cons,
        Bool.false_or]
      split <;> simp

end Entries

end SecureStartup
