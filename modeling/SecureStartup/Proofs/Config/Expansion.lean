import Mathlib.Data.List.TakeWhile
import SecureStartup.Config.Reference
import SecureStartup.Proofs.Text.Spelled

/-!
  Expansion is substitution, in one pass, over a cut that no environment has a say in.

  Program: `_expand_env_vars` replaces every match of `${NAME}` and `${NAME:-default}` in a text by the
  value of the variable.  A variable that is defined counts even if it is empty; one that is not gives
  way to the default, and without a default the reference stays as it is written.

  A text is CUT at its references: each of them starts where, behind the one before it, a reference
  first starts (`IsCut`).  Every text has exactly one cut.

  1. **It is there**, because the pieces of a text, with neighbouring characters put together, are one
     (`isCut_ofPieces`).

  2. **There is no other**, because at one place no two references can start: a name ends at the first
     brace or colon, and a default at the first brace (`read?_eq_some_iff`, `IsCut.unique`).

  3. **The values have no part in it.**  What expansion does to a text is said on its cut: what stands
     between the references stays, and every reference gives way to its value (`expandDocument_text`).
     What a value brings into the text is not looked at again (`expandDocument_text_once`).

  One thing is not substitution.  A name with half of a surrogate pair has no bytes, and asking the
  environment for it fails, default or not (`expandDocument_refuses_half`).
-/

namespace SecureStartup.Config

/-! ## Where references start -/

/-- A reference starts at the beginning of a text. -/
def StartsReference (s : List Char) : Prop := ∃ r rest, Reference.WellFormed r ∧ s = r.text ++ rest

namespace Reference

/-- Characters of one kind, and then one that is not: this is where taking and dropping meet. -/
theorem takeWhile_dropWhile_append {p : Char → Bool} {w : List Char} {c : Char}
    (hw : ∀ d ∈ w, p d = true) (hc : p c = false) (rest : List Char) :
    (w ++ c :: rest).takeWhile p = w ∧ (w ++ c :: rest).dropWhile p = c :: rest := by
  refine Text.takeWhile_append_of_head? hw fun d hd => ?_
  cases hd
  exact hc

/-- **A reference that is written is read**, whatever follows. -/
theorem read?_text_append {r : Reference} (h : r.WellFormed) (rest : List Char) :
    read? (r.text ++ rest) = some (r, rest) := by
  obtain ⟨name, fallback⟩ := r
  obtain ⟨hne, hname, hfallback⟩ := h
  have hempty : name.isEmpty = false := List.isEmpty_eq_false_iff.mpr hne
  cases fallback with
  | none =>
    have htext : text ⟨name, none⟩ ++ rest = '$' :: '{' :: (name ++ '}' :: rest) := by
      simp [text]
    obtain ⟨ht, hd⟩ := takeWhile_dropWhile_append hname (by decide : isNameChar '}' = false) rest
    rw [htext, read?]
    simp only [ht, hd, hempty, Bool.false_eq_true, if_false]
  | some d =>
    have htext : text ⟨name, some d⟩ ++ rest =
        '$' :: '{' :: (name ++ ':' :: ('-' :: (d ++ '}' :: rest))) := by
      simp [text]
    obtain ⟨ht, hd⟩ := takeWhile_dropWhile_append hname (by decide : isNameChar ':' = false)
      ('-' :: (d ++ '}' :: rest))
    obtain ⟨ht', hd'⟩ := takeWhile_dropWhile_append (hfallback d rfl)
      (by decide : isFallbackChar '}' = false) rest
    rw [htext, read?]
    simp only [ht, hd, ht', hd', hempty, Bool.false_eq_true, if_false]

/-- What is read is well formed. -/
theorem wellFormed_of_read? {s rest : List Char} {r : Reference} (h : read? s = some (r, rest)) :
    r.WellFormed := by
  have hname : ∀ t : List Char, ∀ c ∈ t.takeWhile isNameChar, isNameChar c = true :=
    fun _ _ hc => List.mem_takeWhile_imp hc
  unfold read? at h
  split at h
  · rename_i t
    simp only at h
    split at h
    · exact nomatch h
    · rename_i hne
      have hne : t.takeWhile isNameChar ≠ [] := fun he => hne (List.isEmpty_iff.mpr he)
      split at h
      · cases h
        exact ⟨hne, hname t, nofun⟩
      · rename_i t' _
        split at h
        · cases h
          refine ⟨hne, hname t, fun d hd c hc => ?_⟩
          cases hd
          exact List.mem_takeWhile_imp hc
        · exact nomatch h
      · exact nomatch h
  · exact nomatch h

/-- **What is read at the beginning of a text** is the reference that starts there; there is at most
    one. -/
theorem read?_eq_some_iff {s rest : List Char} {r : Reference} :
    read? s = some (r, rest) ↔ r.WellFormed ∧ s = r.text ++ rest := by
  constructor
  · intro h
    exact ⟨wellFormed_of_read? h, eq_text_append_of_read? h⟩
  · rintro ⟨h, rfl⟩
    exact read?_text_append h rest

/-- Nothing is read where no reference starts. -/
theorem read?_eq_none_iff {s : List Char} : read? s = none ↔ ¬ StartsReference s := by
  constructor
  · rintro h ⟨r, rest, hr, rfl⟩
    rw [read?_text_append hr] at h
    exact nomatch h
  · intro h
    rcases hs : read? s with _ | ⟨r, rest⟩
    · rfl
    · exact absurd ⟨r, rest, read?_eq_some_iff.mp hs⟩ h

end Reference

/-! ## Cuts -/

/-- A text cut at references: what stands before each of them, and what stands behind the last. -/
structure Cut where
  parts : List (List Char × Reference)
  last : List Char

/-- **The cut of a text.**  A reference starts as far to the left as any does, and what is behind it
    is cut in the same way; where none starts any more, nothing is cut. -/
inductive IsCut : List Char → Cut → Prop
  | last {s : List Char} (h : ∀ n, ¬ StartsReference (s.drop n)) : IsCut s ⟨[], s⟩
  | reference {l rest : List Char} {r : Reference} {c : Cut} (hr : r.WellFormed)
      (hl : ∀ n < l.length, ¬ StartsReference ((l ++ (r.text ++ rest)).drop n)) (h : IsCut rest c) :
      IsCut (l ++ (r.text ++ rest)) ⟨(l, r) :: c.parts, c.last⟩

namespace Cut

/-- A cut with another text in place of each reference. -/
def replaced (c : Cut) (v : Reference → List Char) : List Char :=
  c.parts.flatMap (fun p => p.1 ++ v p.2) ++ c.last

/-- One character more in front. -/
def cons (a : Char) (c : Cut) : Cut :=
  match c.parts with
  | [] => ⟨[], a :: c.last⟩
  | (l, r) :: parts => ⟨(a :: l, r) :: parts, c.last⟩

/-- Pieces, neighbouring characters put together. -/
def ofPieces : List Piece → Cut
  | [] => ⟨[], []⟩
  | .plain a :: ps => (ofPieces ps).cons a
  | .reference r :: ps => ⟨([], r) :: (ofPieces ps).parts, (ofPieces ps).last⟩

theorem replaced_cons (a : Char) (c : Cut) (v : Reference → List Char) :
    (c.cons a).replaced v = a :: c.replaced v := by
  obtain ⟨_ | ⟨⟨l, r⟩, parts⟩, last⟩ := c <;> rfl

/-- Replacing piece by piece is replacing in the cut. -/
theorem replaced_ofPieces (env : String → Option String) (ps : List Piece) :
    (ofPieces ps).replaced (Reference.value env) = ps.flatMap (Piece.value env) := by
  induction ps with
  | nil => rfl
  | cons p ps ih =>
    rw [List.flatMap_cons, ← ih]
    cases p with
    | plain a => exact replaced_cons a _ _
    | reference r => exact List.append_assoc ..

/-- What is wrong with the first reference of a cut that cannot be asked for. -/
def problem? (c : Cut) : Option Invalid := c.parts.findSome? fun p => p.2.problem?

theorem problem?_cons (a : Char) (c : Cut) : (c.cons a).problem? = c.problem? := by
  obtain ⟨_ | ⟨⟨l, r⟩, parts⟩, last⟩ := c <;> rfl

theorem problem?_ofPieces (ps : List Piece) :
    (ofPieces ps).problem? = ps.findSome? Piece.problem? := by
  induction ps with
  | nil => rfl
  | cons p ps ih =>
    rw [List.findSome?_cons, ← ih]
    cases p with
    | plain a => exact problem?_cons a _
    | reference r =>
      show List.findSome? _ (_ :: _) = _
      rw [List.findSome?_cons]
      rfl

end Cut

/-! ## Every text has exactly one cut -/

/-- One more character in front, at which no reference starts. -/
theorem IsCut.cons {s : List Char} {c : Cut} (h : IsCut s c) {a : Char}
    (ha : ¬ StartsReference (a :: s)) : IsCut (a :: s) (c.cons a) := by
  cases h with
  | last h =>
    refine .last fun n => ?_
    cases n with
    | zero => exact ha
    | succ n => exact h n
  | @reference l rest r c hr hl h =>
    refine .reference (l := a :: l) hr (fun n hn => ?_) h
    cases n with
    | zero => exact ha
    | succ n => exact hl n (Nat.lt_of_succ_lt_succ hn)

/-- **The pieces of a text make up its cut.**  By the recursion that finds the pieces. -/
theorem isCut_ofPieces (s : List Char) : IsCut s (Cut.ofPieces (pieces s)) := by
  fun_induction pieces s with
  | case1 s r rest h ih =>
    obtain ⟨hr, rfl⟩ := Reference.read?_eq_some_iff.mp h
    exact .reference (l := []) hr (fun n hn => absurd hn (Nat.not_lt_zero n)) ih
  | case2 h =>
    refine .last fun n => ?_
    rw [List.drop_nil]
    exact Reference.read?_eq_none_iff.mp h
  | case3 a rest h ih => exact ih.cons (Reference.read?_eq_none_iff.mp h)

/-- What stands before the first reference cannot be longer in one cut than in another. -/
theorem length_le_of_leftmost {l l' rest rest' : List Char} {r r' : Reference} (hr : r.WellFormed)
    (hl' : ∀ n < l'.length, ¬ StartsReference ((l' ++ (r'.text ++ rest')).drop n))
    (he : l ++ (r.text ++ rest) = l' ++ (r'.text ++ rest')) : l'.length ≤ l.length := by
  refine Nat.not_lt.mp fun hlt => hl' l.length hlt ⟨r, rest, hr, ?_⟩
  rw [← he, List.drop_left]

/-- **No text has two cuts.**  By induction on one of them. -/
theorem IsCut.unique {s : List Char} {c c' : Cut} (h : IsCut s c) (h' : IsCut s c') : c = c' := by
  induction h generalizing c' with
  | @last s hn =>
    generalize hs : s = t at h'
    cases h' with
    | last _ => rfl
    | @reference l rest r c hr _ _ =>
      refine absurd ⟨r, rest, hr, ?_⟩ (hn l.length)
      rw [hs, List.drop_left]
  | @reference l rest r c hr hl _ ih =>
    generalize hs : l ++ (r.text ++ rest) = t at h'
    cases h' with
    | last hn =>
      refine absurd ⟨r, rest, hr, ?_⟩ (hn l.length)
      rw [← hs, List.drop_left]
    | @reference l' rest' r' c' hr' hl' hrest' =>
      have hlen : l.length = l'.length :=
        Nat.le_antisymm (length_le_of_leftmost hr' hl hs.symm) (length_le_of_leftmost hr hl' hs)
      obtain ⟨rfl, htail⟩ := List.append_inj hs hlen
      -- both references start at the same place, so they are one
      have hread := Reference.read?_text_append hr rest
      rw [htail, Reference.read?_text_append hr' rest'] at hread
      cases hread
      rw [ih hrest']

/-! ## Expansion on the cut -/

/-- **What references give way to** in an environment: the value of the variable if it is defined, even
    if that is empty; else the default, if there is one; else nothing changes. -/
structure Replaces (env : String → Option String) (v : Reference → List Char) : Prop where
  defined : ∀ r x, env (String.ofList r.name) = some x → v r = x.toList
  fallback : ∀ r d, env (String.ofList r.name) = none → r.fallback = some d → v r = d
  kept : ∀ r, env (String.ofList r.name) = none → r.fallback = none → v r = r.text

theorem replaces_value (env : String → Option String) : Replaces env (Reference.value env) where
  defined r x hx := by
    unfold Reference.value
    rw [hx]
  fallback r d hn hd := by
    unfold Reference.value
    rw [hn, hd]
    rfl
  kept r hn hd := by
    unfold Reference.value
    rw [hn, hd]
    rfl

/-- **Expansion of a text is one substitution.**  The text has exactly one cut, whatever the
    environment; in every environment all that is not cut out stays, and the references give way to
    their values and defaults, which are not looked at again.  Only when the environment cannot be
    asked for a reference, the text is refused, and the first such reference is why. -/
theorem expandDocument_text (s : String) :
    ∃ c, (IsCut s.toList c ∧ ∀ c', IsCut s.toList c' → c' = c) ∧
      ∀ env, match c.problem? with
        | some why => expandDocument env (.str s) = .error (.invalid why)
        | none => ∃ v, Replaces env v ∧
            expandDocument env (.str s) = .ok (.str (String.ofList (c.replaced v))) := by
  have hcut := isCut_ofPieces s.toList
  refine ⟨_, ⟨hcut, fun c' hc' => hc'.unique hcut⟩, fun env => ?_⟩
  have htrouble : trouble? (.str s) = (Cut.ofPieces (pieces s.toList)).problem? := by
    rw [Cut.problem?_ofPieces]
    rfl
  unfold expandDocument
  rw [htrouble]
  rcases (Cut.ofPieces (pieces s.toList)).problem? with _ | why
  · refine ⟨Reference.value env, replaces_value env, ?_⟩
    rw [Cut.replaced_ofPieces]
    rfl
  · rfl

/-- No reference starts at the end of a text. -/
theorem not_startsReference_nil : ¬ StartsReference [] := Reference.read?_eq_none_iff.mp rfl

/-- A default ends at the first brace, and what it puts into the text is not looked at again, though
    it reads like a reference to a variable that is defined. -/
theorem expandDocument_text_once :
    let r : Reference := ⟨['A'], some ['$', '{', 'B']⟩
    let env := fun name => if name = "B" then some "b" else none
    expandDocument env (.str (String.ofList (r.text ++ ['}']))) =
      .ok (.str (String.ofList ['$', '{', 'B', '}'])) := by
  intro r env
  obtain ⟨c, ⟨_, hunique⟩, hexpand⟩ := expandDocument_text (String.ofList (r.text ++ ['}']))
  have hr : r.WellFormed := by
    refine ⟨nofun, List.all_eq_true.mp rfl, fun d hd => ?_⟩
    cases hd
    exact List.all_eq_true.mp rfl
  -- What the reference leaves behind is a brace, at which nothing starts.
  have hlast : IsCut ['}'] ⟨[], ['}']⟩ := by
    refine .last fun n => ?_
    rcases n with _ | n
    · exact Reference.read?_eq_none_iff.mp rfl
    · rw [List.drop_succ_cons, List.drop_nil]
      exact not_startsReference_nil
  have hcut : IsCut (String.ofList (r.text ++ ['}'])).toList ⟨[([], r)], ['}']⟩ := by
    rw [String.toList_ofList]
    exact .reference (l := []) hr (fun n hn => absurd hn (Nat.not_lt_zero n)) hlast
  obtain rfl := hunique _ hcut
  have hok : Cut.problem? ⟨[([], r)], ['}']⟩ = none := by
    have hname : r.problem? = none := by
      unfold Reference.problem? Invalid.forBytes?
      rw [String.toList_ofList]
      rfl
    unfold Cut.problem?
    rw [List.findSome?_cons, hname]
    rfl
  have h := hexpand env
  rw [hok] at h
  obtain ⟨v, hv, heq⟩ := h
  -- `A` is not defined, so the default takes its place, and `B` is never asked for.
  have hvalue : v r = ['$', '{', 'B'] := hv.fallback r _ (by decide) rfl
  rw [heq]
  show Except.ok (Value.str (String.ofList (([] ++ v r ++ []) ++ ['}']))) = _
  rw [hvalue]
  rfl

/-- **A default is of no use behind a name that cannot be asked for**: half of a surrogate pair has no
    bytes, so no environment has a variable of that name, and yet the text is refused. -/
theorem expandDocument_refuses_half :
    let name := Text.spell 0xd800
    let s := String.ofList (Reference.text ⟨name, some ['x']⟩)
    IsCut s.toList ⟨[([], ⟨name, some ['x']⟩)], []⟩ ∧
      ∀ env, expandDocument env (.str s) = .error (.invalid (.halvesInText 0 [0xd800])) := by
  intro name s
  have hr : Reference.WellFormed ⟨name, some ['x']⟩ := by
    refine ⟨nofun, List.all_eq_true.mp rfl, fun d hd => ?_⟩
    cases hd
    exact List.all_eq_true.mp rfl
  have hnone : ∀ n, ¬ StartsReference (([] : List Char).drop n) := by
    intro n
    rw [List.drop_nil]
    exact not_startsReference_nil
  have hcut : IsCut s.toList ⟨[([], ⟨name, some ['x']⟩)], []⟩ := by
    have hs : s.toList = [] ++ (Reference.text ⟨name, some ['x']⟩ ++ []) := by
      rw [List.nil_append, List.append_nil]
      exact String.toList_ofList
    rw [hs]
    exact .reference (l := []) hr (fun n hn => absurd hn (Nat.not_lt_zero n)) (.last hnone)
  refine ⟨hcut, fun env => ?_⟩
  have hname : Reference.problem? ⟨name, some ['x']⟩ = some (.halvesInText 0 [0xd800]) := by
    have hlost : Text.firstLostHalves? name = some (0, [0xd800]) := by decide +kernel
    unfold Reference.problem? Invalid.forBytes?
    rw [String.toList_ofList, hlost]
    rfl
  -- The text is looked at as a whole, before any variable is.
  have htrouble : trouble? (.str s) = some (.halvesInText 0 [0xd800]) := by
    show (pieces s.toList).findSome? Piece.problem? = _
    rw [← Cut.problem?_ofPieces, (isCut_ofPieces s.toList).unique hcut]
    unfold Cut.problem?
    rw [List.findSome?_cons, hname]
  unfold expandDocument
  rw [htrouble]

end SecureStartup.Config
