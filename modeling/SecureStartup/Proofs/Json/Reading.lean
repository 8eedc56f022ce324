import SecureStartup.Proofs.Json.Escaped
import SecureStartup.Proofs.Json.Numbers

/-!
  What JSON texts are read as.

  `Reads words t o` says what becomes of a text that stands for a value, whatever comes behind it: it
  is read as a value, or cannot be read.  There is a lemma for each form that a value is written in:

  1. words, numbers and strings (`reads_null`, `reads_int`, `reads_finite`, `reads_string`);
  2. arrays, from what their items are read as (`reads_array`);
  3. objects, from what their members are read as (`reads_object`).

  Arrays and objects are taken as any style lays them out, on one line or indented: blanks between the
  parts do not count.  The reader has fuel, one for each character that is left; a lemma about a text asks
  for no more than the length of the text, and so it can be used inside any longer one.

  `decode?_of_reads` leads from there to a whole text.  Writers are not mentioned here: what they write is
  brought into one of these forms elsewhere.
-/

namespace SecureStartup

namespace Json

open SecureStartup.Text

/-- **A text is read as a value**, or as none, whatever comes behind it. -/
structure Reads (words : Bool) (t : List Char) (o : Option Value) : Prop where
  /-- It begins with something else than a blank or the end of an array. -/
  begins : ∃ c r, t = c :: r ∧ isSpace c = false ∧ c ≠ ']'
  reads : ∀ n rest, Stops rest → t.length ≤ n + 1 →
    value? words (n + 1) (t ++ rest) = o.map (·, rest)

theorem skip_cons {c : Char} (hc : isSpace c = false) (r : List Char) : skip (c :: r) = c :: r := by
  unfold skip
  rw [List.dropWhile_cons_of_neg (by rw [hc]; exact Bool.false_ne_true)]

/-- Nothing is skipped in front of a text that stands for a value. -/
theorem Reads.skip_append {words : Bool} {t : List Char} {o : Option Value} (h : Reads words t o)
    (r : List Char) : skip (t ++ r) = t ++ r := by
  obtain ⟨c, r', rfl, hc, -⟩ := h.begins
  exact skip_cons hc _

/-! ## Words, numbers and strings -/

section

variable (words : Bool)

theorem reads_null : Reads words "null".toList (some .none) :=
  ⟨⟨'n', _, rfl, rfl, by decide⟩, fun _ _ _ _ => rfl⟩

theorem reads_true : Reads words "true".toList (some (.bool true)) :=
  ⟨⟨'t', _, rfl, rfl, by decide⟩, fun _ _ _ _ => rfl⟩

theorem reads_false : Reads words "false".toList (some (.bool false)) :=
  ⟨⟨'f', _, rfl, rfl, by decide⟩, fun _ _ _ _ => rfl⟩

theorem reads_nan : Reads words "NaN".toList (if words then some (.float .nan) else none) := by
  refine ⟨⟨'N', _, rfl, rfl, by decide⟩, fun n rest _ _ => ?_⟩
  cases words <;> rfl

/-- What begins with a digit, or like infinity, is read as a number. -/
theorem value?_number {c : Char} (hc : isAsciiDigit c = true ∨ c = 'I') (n : Nat) (s : List Char) :
    value? words (n + 1) (c :: s) = number? words false (c :: s) := by
  have hne : c ≠ '"' ∧ c ≠ '[' ∧ c ≠ '\x7b' ∧ c ≠ '-' ∧ c ≠ 'n' ∧ c ≠ 't' ∧ c ≠ 'f' ∧ c ≠ 'N' := by
    refine ⟨?_, ?_, ?_, ?_, ?_, ?_, ?_, ?_⟩ <;> rintro rfl <;> rcases hc with hc | hc <;>
      exact absurd hc (by decide)
  obtain ⟨hquote, hbracket, hbrace, hminus, hn, ht, hf, hN⟩ := hne
  have hdrop : ∀ {d : Char} (w : List Char), c ≠ d → dropLead (d :: w) (c :: s) = none :=
    fun w h => if_neg (by simpa using fun h' => h h'.symm)
  have hword : word? words (c :: s) = none := by
    unfold word?
    rw [show "null".toList = 'n' :: "ull".toList from rfl, hdrop _ hn,
      show "true".toList = 't' :: "rue".toList from rfl, hdrop _ ht,
      show "false".toList = 'f' :: "alse".toList from rfl, hdrop _ hf,
      show "NaN".toList = 'N' :: "aN".toList from rfl, hdrop _ hN]
  rw [value?.eq_def]
  simp only
  split
  case h_1 heq => exact absurd (List.cons_eq_cons.mp heq).1 hquote
  case h_2 heq => exact absurd (List.cons_eq_cons.mp heq).1 hbracket
  case h_3 heq => exact absurd (List.cons_eq_cons.mp heq).1 hbrace
  case h_4 heq => exact absurd (List.cons_eq_cons.mp heq).1 hminus
  case h_5 =>
    rw [hword]
    rfl

/-- **A number with its sign** is read as what its digits are read as. -/
theorem reads_signed {negative : Bool} {t : List Char} {o : Option Value}
    (hdigit : ∃ c r, t = c :: r ∧ (isAsciiDigit c = true ∨ c = 'I'))
    (h : ∀ rest, Stops rest → number? words negative (t ++ rest) = o.map (·, rest)) :
    Reads words (if negative then '-' :: t else t) o := by
  obtain ⟨c, r, rfl, hc⟩ := hdigit
  cases negative with
  | true => exact ⟨⟨'-', _, rfl, rfl, by decide⟩, fun n rest hrest _ => h rest hrest⟩
  | false =>
    have hplain : isSpace c = false ∧ c ≠ ']' := by
      constructor
      · rw [Bool.eq_false_iff]
        intro hspace
        simp only [isSpace, Bool.or_eq_true, beq_iff_eq] at hspace
        rcases hspace with ((rfl | rfl) | rfl) | rfl <;> rcases hc with hc | hc <;>
          exact absurd hc (by decide)
      · rintro rfl
        rcases hc with hc | hc <;> exact absurd hc (by decide)
    refine ⟨⟨c, r, rfl, hplain⟩, fun n rest hrest _ => ?_⟩
    exact (value?_number words hc n (r ++ rest)).trans (h rest hrest)

theorem toDigits_begins (n : Nat) :
    ∃ c r, Nat.toDigits 10 n = c :: r ∧ (isAsciiDigit c = true ∨ c = 'I') := by
  have hds := toDigits_isDigits n
  rcases h : Nat.toDigits 10 n with _ | ⟨c, r⟩
  · exact absurd h hds.ne_nil
  · exact ⟨c, r, rfl, .inl (hds.digits c (h ▸ List.mem_cons_self))⟩

theorem Writes.begins {t : List Char} {q : ℚ} (h : Writes t q) :
    ∃ c r, t = c :: r ∧ (isAsciiDigit c = true ∨ c = 'I') := by
  obtain ⟨ds, fs, ex, rfl, hparts, -⟩ := h
  rcases ds with _ | ⟨c, r⟩
  · exact absurd rfl hparts.whole.ne_nil
  · exact ⟨c, _, rfl, .inl (hparts.whole.digits c List.mem_cons_self)⟩

/-- A whole number's text: its digits, with the sign in front. -/
theorem toList_toString (i : Int) : (toString i).toList =
    if decide (i < 0) then '-' :: Nat.toDigits 10 i.natAbs else Nat.toDigits 10 i.natAbs := by
  rw [Int.toString_eq_repr, Int.repr_eq_if]
  rcases lt_or_ge i 0 with hi | hi
  · rw [if_neg (by omega), if_pos (decide_eq_true hi), String.toList_append, Nat.toList_repr,
      show (-i).toNat = i.natAbs by omega]
    rfl
  · rw [if_pos hi, if_neg (by simpa using hi), Nat.toList_repr, show i.toNat = i.natAbs by omega]

/-- **A whole number is read back.** -/
theorem reads_int (i : Int) : Reads words (toString i).toList (some (.int i)) := by
  rw [toList_toString]
  refine reads_signed words (toDigits_begins i.natAbs) fun rest hrest => ?_
  rw [number?_whole words _ i.natAbs hrest]
  have hi : (if decide (i < 0) = true then -(i.natAbs : Int) else i.natAbs) = i := by
    split <;> simp only [decide_eq_true_eq] at * <;> omega
  rw [hi]
  rfl

/-- **A finite double is read back**; what has not the form of a double is read as one. -/
theorem reads_finite (negative : Bool) (m : Nat) (e : Int) : ∃ y : Binary64,
    (∀ words, Reads words (floatText (.finite negative m e)).toList (some (.float y))) ∧
      (Binary64.IsDouble m e → y = .finite negative m e) := by
  have htext : (floatText (.finite negative m e)).toList =
      if negative then '-' :: (if m == 0 then ['0', '.', '0'] else (Binary64.shortest m e).text)
      else if m == 0 then ['0', '.', '0'] else (Binary64.shortest m e).text := String.toList_ofList
  rw [htext]
  rcases Nat.eq_zero_or_pos m with rfl | hpos
  · refine ⟨Binary64.zero negative, fun words => ?_, ?_⟩
    · exact reads_signed words ⟨'0', _, rfl, .inl rfl⟩ fun rest hrest =>
        number?_zero words negative hrest
    · intro h
      have he : e = Binary64.minExponent := h.full.resolve_left (by decide)
      rw [he]
      rfl
  · have hne : (m == 0) = false := beq_eq_false_iff_ne.mpr hpos.ne'
    have hwrites := writes_text (Binary64.shortest_digits_pos hpos e)
    obtain ⟨digits, exponent, hdigits, hvalue, hread⟩ := number?_of_writes hwrites
    simp only [hne, Bool.false_eq_true, if_false]
    refine ⟨Binary64.ofDecimal negative digits exponent, fun words => ?_, fun hm => ?_⟩
    · exact reads_signed words hwrites.begins fun rest hrest => hread words negative rest hrest
    · exact Binary64.ofDecimal_shortest negative hm hpos hdigits hvalue

/-- Infinity is read where it is accepted. -/
theorem reads_infinite (negative : Bool) : Reads words (floatText (.infinite negative)).toList
    (if words then some (.float (.infinite negative)) else none) := by
  have htext : (floatText (.infinite negative)).toList =
      if negative then '-' :: "Infinity".toList else "Infinity".toList := by
    cases negative <;> rfl
  rw [htext]
  refine reads_signed words ⟨'I', _, rfl, .inr rfl⟩ fun rest _ => ?_
  cases words <;> rfl

theorem quote_append (ascii : Bool) (s rest : List Char) : quote ascii s ++ rest =
    '"' :: ((codes s).flatMap (letterText ascii) ++ '"' :: rest) := by
  unfold quote
  simp

/-- **A string is read back**, as what its codes spell. -/
theorem reads_string (ascii : Bool) (s : List Char) :
    Reads words (quote ascii s) (some (respelled ascii s)) := by
  refine ⟨⟨'"', _, rfl, rfl, by decide⟩, fun n rest _ _ => ?_⟩
  have hread := stringTail?_quoted ascii s rest
  rw [quote_append, value?.eq_def]
  simp only [hread]
  rfl

end

/-! ## Layout -/

/-- A text of blanks. -/
def Blank (s : List Char) : Prop := ∀ c ∈ s, isSpace c = true

theorem blank_newline (st : Style) (level : Nat) : Blank (st.newline level) := by
  intro c hc
  unfold Style.newline at hc
  split at hc
  · exact nomatch hc
  · rcases List.mem_cons.mp hc with rfl | hspace
    · rfl
    · rw [(List.mem_replicate.mp hspace).2]
      rfl

/-- What separates two parts is a comma, and blanks. -/
theorem separator_eq (st : Style) (level : Nat) :
    ∃ blanks, st.separator level = ',' :: blanks ∧ Blank blanks := by
  unfold Style.separator
  split
  · exact ⟨[' '], rfl, by simp [Blank, isSpace]⟩
  · exact ⟨_, rfl, blank_newline st level⟩

/-- Blanks are skipped. -/
theorem Blank.skip_append {s : List Char} (h : Blank s) (r : List Char) : skip (s ++ r) = skip r :=
  List.dropWhile_append_of_pos h

/-- Blanks do not go on with a value, and neither does what follows them. -/
theorem Blank.stops {s : List Char} (h : Blank s) {r : List Char} (hr : Stops r) : Stops (s ++ r) := by
  rcases s with _ | ⟨d, s⟩
  · exact hr
  · have hspace : isSpace d = true := h d List.mem_cons_self
    rintro c ⟨rfl⟩
    simp only [isSpace, Bool.or_eq_true, beq_iff_eq] at hspace
    rcases hspace with ((rfl | rfl) | rfl) | rfl <;> decide

theorem stops_cons {c : Char} (hc : c ∈ stoppers) (rest : List Char) : Stops (c :: rest) := by
  rintro d ⟨rfl⟩
  exact hc

section

variable (st : Style) (level : Nat)

/-- Texts between brackets. -/
def listed (ts : List (List Char)) : List Char := (st.separator level).intercalate ts

theorem listed_cons (t : List Char) (ts : List (List Char)) : listed st level (t :: ts) =
    if ts = [] then t else t ++ (st.separator level ++ listed st level ts) := by
  unfold listed
  cases ts <;> simp [List.intercalate]

/-- A text in front of others is no longer than all of them. -/
theorem length_le_listed (t : List Char) (ts : List (List Char)) :
    t.length ≤ (listed st level (t :: ts)).length := by
  rw [listed_cons]
  split
  · exact Nat.le_refl _
  · rw [List.length_append]
    exact Nat.le_add_right _ _

theorem bracketed_cons (open_ close : Char) (t : List Char) (ts : List (List Char)) :
    st.bracketed level open_ close (t :: ts) =
      open_ :: (st.newline (level + 1) ++
        (listed st (level + 1) (t :: ts) ++ (st.newline level ++ [close]))) := by
  unfold Style.bracketed listed
  simp

end

/-! ## Arrays -/

section

variable {words : Bool} {st : Style}

theorem items?_blank {s : List Char} (hs : Blank s) (n : Nat) (r : List Char) :
    items? words n (s ++ r) = items? words n r := by
  cases n with
  | zero => rfl
  | succ n =>
    unfold items?
    rw [hs.skip_append]

/-- **Items are read one by one**, up to the end of the array. -/
theorem items?_listed {ts : List (List Char)} {os : List (Option Value)}
    (h : List.Forall₂ (Reads words) ts os) (hne : ts ≠ []) (level n : Nat) {trail : List Char}
    (htrail : Blank trail) (rest : List Char) (hn : (listed st level ts).length < n) :
    items? words n (listed st level ts ++ (trail ++ ']' :: rest)) = (os.mapM id).map (·, rest) := by
  induction h generalizing n with
  | nil => exact absurd rfl hne
  | @cons t o ts os ht hts ih =>
    obtain ⟨c, r, htext, -, -⟩ := ht.begins
    have hlen := length_le_listed st level t ts
    have hpos : 0 < t.length := by simp [htext]
    -- Enough fuel for the item, and for what separates it from the next.
    obtain ⟨n, rfl⟩ : ∃ k, n = k + 1 + 1 := ⟨n - 2, by omega⟩
    have hfirst : t.length ≤ n + 1 := by omega
    rw [listed_cons] at hn ⊢
    rw [List.mapM_cons]
    by_cases hts' : ts = []
    · -- the last item
      subst hts'
      obtain rfl := List.forall₂_nil_left_iff.mp hts
      have hstops : Stops (trail ++ ']' :: rest) := htrail.stops (stops_cons (by decide) rest)
      rw [if_pos rfl, items?, ht.skip_append, ht.reads n _ hstops hfirst]
      cases o with
      | none => rfl
      | some x =>
        have hclose : skip (trail ++ ']' :: rest) = ']' :: rest := by
          rw [htrail.skip_append, skip_cons rfl]
        simp [hclose]
    · obtain ⟨blanks, hsep, hblank⟩ := separator_eq st level
      rw [if_neg hts'] at hn ⊢
      rw [List.append_assoc, items?, ht.skip_append, hsep]
      simp only [List.cons_append, List.append_assoc]
      rw [ht.reads n _ (stops_cons (by decide) _) hfirst]
      have hmore : (listed st level ts).length < n + 1 := by
        rw [List.length_append, List.length_append] at hn
        omega
      have hrest := ih hts' (n + 1) hmore
      cases o with
      | none => rfl
      | some x =>
        show (items? words (n + 1) (blanks ++ (listed st level ts ++ (trail ++ ']' :: rest)))).bind
          (fun p => some (x :: p.1, p.2)) = _
        rw [items?_blank hblank, hrest]
        cases os.mapM id <;> rfl

/-- **An array is read as its items are**, or not if one of them is not. -/
theorem reads_array {ts : List (List Char)} {os : List (Option Value)}
    (h : List.Forall₂ (Reads words) ts os) (level : Nat) :
    Reads words (st.bracketed level '[' ']' ts) ((os.mapM id).map .list) := by
  cases h with
  | nil => exact ⟨⟨'[', _, rfl, rfl, by decide⟩, fun n rest _ _ => rfl⟩
  | @cons t o ts os ht hts =>
    rw [bracketed_cons]
    refine ⟨⟨'[', _, rfl, rfl, by decide⟩, fun n rest hrest hn => ?_⟩
    obtain ⟨c, r, hbegins, hspace, hclose⟩ := ht.begins
    -- The first item begins with what is neither a blank nor the closing bracket, so there is one.
    obtain ⟨r', hr'⟩ : ∃ r', listed st (level + 1) (t :: ts) = c :: r' := by
      rw [listed_cons, hbegins]
      split <;> exact ⟨_, rfl⟩
    have hlen : (listed st (level + 1) (t :: ts)).length < n := by
      simp only [List.length_append, List.length_cons] at hn
      omega
    have hitems := items?_listed (.cons ht hts) (List.cons_ne_nil t ts) (level + 1) n
      (blank_newline st level) rest hlen
    have hskip : skip (st.newline (level + 1) ++
        (listed st (level + 1) (t :: ts) ++ (st.newline level ++ [']'])) ++ rest) =
        c :: (r' ++ (st.newline level ++ ']' :: rest)) := by
      rw [List.append_assoc, (blank_newline st (level + 1)).skip_append, hr']
      simp [skip_cons hspace]
    rw [hr'] at hitems
    rw [List.cons_append, value?.eq_def]
    simp only
    rw [hskip]
    split
    case h_1 heq => exact absurd (List.cons_eq_cons.mp heq).1 hclose
    case h_2 =>
      rw [← List.cons_append, hitems]
      cases (o :: os).mapM id <;> rfl

end

/-! ## Objects -/

/-- A text is read as a member of an object: a name, and what its value is read as. -/
def ReadsMember (ascii words : Bool) (t : List Char) (o : Option (Value × Value)) : Prop :=
  ∃ name value v, t = quote ascii name ++ ':' :: ' ' :: value ∧ Reads words value v ∧
    o = v.map (respelled ascii name, ·)

section

variable {words ascii : Bool} {st : Style}

theorem members?_blank {s : List Char} (hs : Blank s) (n : Nat) (r : List Char) :
    members? words n (s ++ r) = members? words n r := by
  cases n with
  | zero => rfl
  | succ n =>
    unfold members?
    rw [hs.skip_append]

/-- A name and a colon, and the value behind them. -/
theorem members?_quoted (ascii : Bool) (n : Nat) (name s : List Char) :
    members? words (n + 1) (quote ascii name ++ ':' :: ' ' :: s) = (do
      let (v, r) ← value? words n (skip s)
      match skip r with
      | ',' :: r => do
        let (es, r) ← members? words n r
        return ((respelled ascii name, v) :: es, r)
      | '\x7d' :: r => return ([(respelled ascii name, v)], r)
      | _ => none) := by
  have hskip : skip (' ' :: s) = skip s := rfl
  rw [quote_append, members?.eq_def]
  simp only [skip_cons (show isSpace '"' = false from rfl), stringTail?_quoted,
    skip_cons (show isSpace ':' = false from rfl), Option.bind_eq_bind, Option.bind_some, hskip]
  rfl

/-- **Members are read one by one**, up to the end of the object. -/
theorem members?_listed {ts : List (List Char)} {os : List (Option (Value × Value))}
    (h : List.Forall₂ (ReadsMember ascii words) ts os) (hne : ts ≠ []) (level n : Nat)
    {trail : List Char} (htrail : Blank trail) (rest : List Char)
    (hn : (listed st level ts).length < n) :
    members? words n (listed st level ts ++ (trail ++ '\x7d' :: rest)) =
      (os.mapM id).map (·, rest) := by
  induction h generalizing n with
  | nil => exact absurd rfl hne
  | @cons t o ts os ht hts ih =>
    obtain ⟨name, value, v, rfl, hv, rfl⟩ := ht
    have hlen := length_le_listed st level (quote ascii name ++ ':' :: ' ' :: value) ts
    simp only [List.length_append, List.length_cons] at hlen
    -- Enough fuel for the member, and for what separates it from the next.
    obtain ⟨n, rfl⟩ : ∃ k, n = k + 1 + 1 := ⟨n - 2, by omega⟩
    have hvalue : value.length ≤ n + 1 := by omega
    rw [listed_cons] at hn ⊢
    rw [List.mapM_cons]
    by_cases hts' : ts = []
    · -- the last member
      subst hts'
      obtain rfl := List.forall₂_nil_left_iff.mp hts
      have hstops : Stops (trail ++ '\x7d' :: rest) := htrail.stops (stops_cons (by decide) rest)
      rw [if_pos rfl, List.append_assoc, List.cons_append, List.cons_append, members?_quoted,
        hv.skip_append, hv.reads n _ hstops hvalue]
      cases v with
      | none => rfl
      | some x =>
        have hclose : skip (trail ++ '\x7d' :: rest) = '\x7d' :: rest := by
          rw [htrail.skip_append, skip_cons rfl]
        simp [hclose]
    · obtain ⟨blanks, hsep, hblank⟩ := separator_eq st level
      rw [if_neg hts'] at hn ⊢
      rw [List.append_assoc, List.append_assoc, List.cons_append, List.cons_append,
        members?_quoted, hv.skip_append, hsep]
      simp only [List.cons_append, List.append_assoc]
      rw [hv.reads n _ (stops_cons (by decide) _) hvalue]
      have hmore : (listed st level ts).length < n + 1 := by
        simp only [List.length_append, List.length_cons] at hn
        omega
      have hrest := ih hts' (n + 1) hmore
      cases v with
      | none => rfl
      | some x =>
        show (do let (es, r) ← members? words (n + 1)
                   (blanks ++ (listed st level ts ++ (trail ++ '\x7d' :: rest)))
                 return ((respelled ascii name, x) :: es, r)) = _
        rw [members?_blank hblank, hrest]
        cases os.mapM id <;> rfl

/-- **An object is read as its members are**, or not if one of them is not; of two members with one
    name the later one counts. -/
theorem reads_object {ts : List (List Char)} {os : List (Option (Value × Value))}
    (h : List.Forall₂ (ReadsMember ascii words) ts os) (level : Nat) :
    Reads words (st.bracketed level '\x7b' '\x7d' ts)
      ((os.mapM id).map fun es => .map (Entries.ofPairs es)) := by
  cases h with
  | nil => exact ⟨⟨'\x7b', _, rfl, rfl, by decide⟩, fun n rest _ _ => rfl⟩
  | @cons t o ts os ht hts =>
    rw [bracketed_cons]
    refine ⟨⟨'\x7b', _, rfl, rfl, by decide⟩, fun n rest hrest hn => ?_⟩
    obtain ⟨r', hr'⟩ : ∃ r', listed st (level + 1) (t :: ts) = '"' :: r' := by
      obtain ⟨name, value, v, rfl, -⟩ := ht
      rw [listed_cons]
      split <;> exact ⟨_, rfl⟩
    have hlen : (listed st (level + 1) (t :: ts)).length < n := by
      simp only [List.length_append, List.length_cons] at hn
      omega
    have hmembers := members?_listed (.cons ht hts) (List.cons_ne_nil t ts) (level + 1) n
      (blank_newline st level) rest hlen
    have hskip : skip (st.newline (level + 1) ++
        (listed st (level + 1) (t :: ts) ++ (st.newline level ++ ['\x7d'])) ++ rest) =
        '"' :: (r' ++ (st.newline level ++ '\x7d' :: rest)) := by
      rw [List.append_assoc, (blank_newline st (level + 1)).skip_append, hr']
      simp [skip_cons (show isSpace '"' = false from rfl)]
    rw [hr'] at hmembers
    rw [List.cons_append, value?.eq_def]
    simp only
    rw [hskip]
    show (do let (es, r) ← members? words n ('"' :: r' ++ (st.newline level ++ '\x7d' :: rest))
             return (Value.map (Entries.ofPairs es), r)) = _
    rw [hmembers]
    cases (o :: os).mapM id <;> rfl

/-! ## A whole text -/

/-- **A text that is read as a value decodes to it**, with blanks behind it or not. -/
theorem decode?_of_reads {t s : List Char} {o : Option Value} (h : Reads words t o) (hs : Blank s) :
    decode? words (String.ofList (t ++ s)) = o := by
  have hskip : skip (t ++ s) = t ++ s := h.skip_append s
  have hstops : Stops s := by
    rw [← List.append_nil s]
    exact hs.stops nofun
  have hfuel : t.length ≤ (t ++ s).length + 1 := by
    rw [List.length_append]
    omega
  have hrest : skip s = [] := by
    rw [← List.append_nil s]
    exact hs.skip_append []
  unfold decode?
  rw [String.toList_ofList, hskip]
  simp only [h.reads _ s hstops hfuel]
  cases o with
  | none => rfl
  | some v => simp [hrest]

end

end Json

end SecureStartup
