import SecureStartup.Failure.Basic

/-!
  References to environment variables inside settings (`_expand_env_vars`).

  A reference is written `${NAME}` or `${NAME:-default}`; a name is not empty and holds neither a
  closing brace nor a colon, a default holds no closing brace.  `pieces` cuts a text into references
  and single other characters, from the left, WITHOUT looking at any environment; `expand` then
  replaces every reference by its value.  Values and defaults are inserted as they are and never
  looked at again, and a reference that has neither stays as it was written.

  The program finds references by a pattern, `\$\{([^}:]+)(?::-(([^}]*))?)?\}`, and replaces each match.
  `Reference.read?` is this pattern at one place of a text.  A name stops at the first brace or colon,
  so no match could end earlier or later than the one that it finds, and matching needs no search.

  Through documents (`expandValue`) the expansion goes into the items of lists and the values of
  mappings, and nowhere else: keys stay, and so do tuples and sets with all that is in them.

  An environment can only be asked for names that there are bytes for; a document with a reference to
  any other name is refused as a whole (`trouble?`, `expandDocument`).
-/

namespace SecureStartup.Config

open SecureStartup.Text

/-- A reference to an environment variable. -/
structure Reference where
  name : List Char
  fallback : Option (List Char)
  deriving DecidableEq, Inhabited, Repr

namespace Reference

/-- Characters of a name. -/
def isNameChar (c : Char) : Bool := c != '}' && c != ':'

/-- Characters of a default. -/
def isFallbackChar (c : Char) : Bool := c != '}'

/-- A reference as it is written. -/
def text (r : Reference) : List Char :=
  '$' :: '{' :: (r.name ++ (match r.fallback with
    | none => []
    | some d => ':' :: '-' :: d) ++ ['}'])

/-- What may be written as a reference: a name that is not empty, and no forbidden character. -/
def WellFormed (r : Reference) : Prop :=
  r.name ≠ [] ∧ (∀ c ∈ r.name, isNameChar c = true) ∧
    ∀ d ∈ r.fallback, ∀ c ∈ d, isFallbackChar c = true

/-- A reference at the very beginning of a text, and what follows it. -/
def read? : List Char → Option (Reference × List Char)
  | '$' :: '{' :: r =>
    let name := r.takeWhile isNameChar
    if name.isEmpty then none
    else
      -- a name stops at a brace or a colon, so no shorter one could be followed by either
      match r.dropWhile isNameChar with
      | '}' :: rest => some (⟨name, none⟩, rest)
      | ':' :: '-' :: r' =>
        match r'.dropWhile isFallbackChar with
        | '}' :: rest => some (⟨name, some (r'.takeWhile isFallbackChar)⟩, rest)
        | _ => none
      | _ => none
  | _ => none

/-- A reference that was read is the beginning of the text, as written, and nothing is lost. -/
theorem eq_text_append_of_read? {s rest : List Char} {r : Reference}
    (h : read? s = some (r, rest)) : s = r.text ++ rest := by
  unfold read? at h
  split at h
  · rename_i t
    simp only at h
    split at h
    · cases h
    · have hn := List.takeWhile_append_dropWhile (p := isNameChar) (l := t)
      split at h
      -- the name is closed at once
      · rename_i rest' hd
        simp only [Option.some.injEq, Prod.mk.injEq] at h
        obtain ⟨rfl, rfl⟩ := h
        rw [hd] at hn
        generalize t.takeWhile isNameChar = n at hn
        subst hn
        simp [text]
      -- a default follows: the name and the default are put together again from what was taken of each
      · rename_i t' hd
        have hf := List.takeWhile_append_dropWhile (p := isFallbackChar) (l := t')
        split at h
        · rename_i rest' hd'
          simp only [Option.some.injEq, Prod.mk.injEq] at h
          obtain ⟨rfl, rfl⟩ := h
          rw [hd'] at hf
          rw [hd] at hn
          generalize t.takeWhile isNameChar = n at hn
          generalize t'.takeWhile isFallbackChar = d at hf
          subst hf
          subst hn
          simp [text]
        · cases h
      · cases h
  · cases h

/-- Reading a reference consumes something. -/
theorem read?_rest_lt {s rest : List Char} {r : Reference} (h : read? s = some (r, rest)) :
    rest.length < s.length := by
  rw [eq_text_append_of_read? h]
  simp [text]
  omega

/-- The value of a reference: the variable's when it is defined, else the default, else the
    reference as it was written. -/
def value (env : String → Option String) (r : Reference) : List Char :=
  match env (String.ofList r.name) with
  | some v => v.toList
  | none => r.fallback.getD r.text

end Reference

/-- A piece of a setting. -/
inductive Piece where
  | plain (c : Char)
  | reference (r : Reference)
  deriving DecidableEq, Repr

/-- A piece as it is written. -/
def Piece.text : Piece → List Char
  | plain c => [c]
  | reference r => r.text

/-- A piece after expansion. -/
def Piece.value (env : String → Option String) : Piece → List Char
  | plain c => [c]
  | reference r => r.value env

/-- **The pieces of a text**, leftmost reference first. -/
def pieces (s : List Char) : List Piece :=
  match _h : Reference.read? s with
  | some (r, rest) => .reference r :: pieces rest
  | none =>
    match s with
    | [] => []
    | c :: rest => .plain c :: pieces rest
termination_by s.length
decreasing_by
  · exact Reference.read?_rest_lt _h
  · simp

/-- **Expansion**: every reference replaced by its value, once. -/
def expand (env : String → Option String) (s : List Char) : List Char :=
  (pieces s).flatMap (Piece.value env)

/-! ## Documents -/

mutual

/-- Expand every text in a document: items of lists and values of mappings, keys untouched. -/
def expandValue (env : String → Option String) : Value → Value
  | .str s => .str (String.ofList (expand env s.toList))
  | .list xs => .list (expandItems env xs)
  | .map es => .map (expandEntries env es)
  | v => v

/-- Expand every item. -/
def expandItems (env : String → Option String) : List Value → List Value
  | [] => []
  | x :: xs => expandValue env x :: expandItems env xs

/-- Expand every value. -/
def expandEntries (env : String → Option String) : List (Value × Value) → List (Value × Value)
  | [] => []
  | (k, v) :: es => (k, expandValue env v) :: expandEntries env es

end

/-! ## Names that can be asked for -/

/-- Why the environment cannot be asked for a reference. -/
def Reference.problem? (r : Reference) : Option Invalid := Invalid.forBytes? (String.ofList r.name)

/-- Why the environment cannot be asked for a piece. -/
def Piece.problem? : Piece → Option Invalid
  | plain _ => none
  | reference r => r.problem?

mutual

/-- What is wrong with the first reference of a document that cannot be asked for, if there is one. -/
def trouble? : Value → Option Invalid
  | .str s => (pieces s.toList).findSome? Piece.problem?
  | .list xs => troubleInItems? xs
  | .map es => troubleInEntries? es
  | _ => none

/-- What is wrong in the first such item. -/
def troubleInItems? : List Value → Option Invalid
  | [] => none
  | x :: xs => (trouble? x).or (troubleInItems? xs)

/-- What is wrong in the first such value. -/
def troubleInEntries? : List (Value × Value) → Option Invalid
  | [] => none
  | (_, v) :: es => (trouble? v).or (troubleInEntries? es)

end

/-- **Expand a document**, all of whose references have to be ones that can be asked for. -/
def expandDocument (env : String → Option String) (doc : Value) : Except Failure Value :=
  match trouble? doc with
  | some why => .error (.invalid why)
  | none => .ok (expandValue env doc)

/-- Expansion leaves the keys and their order alone. -/
theorem keys_expandEntries (env : String → Option String) (es : Entries) :
    Entries.keys (expandEntries env es) = Entries.keys es := by
  induction es with
  | nil => rfl
  | cons e es ih =>
    obtain ⟨k, v⟩ := e
    simpa [expandEntries, Entries.keys] using ih

end SecureStartup.Config
