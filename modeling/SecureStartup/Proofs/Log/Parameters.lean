import Mathlib.Data.List.TakeWhile
import SecureStartup.Proofs.Log.Redaction

/-!
  What redaction replaces, and what it leaves.

  1. **Program** — `JSONFormatter._sanitize_url` goes through a text once.  Where a credential starts — a
     delimiter, a sensitive name as it may be written, and `=` — the value up to the next `&` gives way to
     the mark, and the text goes on behind the value.

  2. **Specification** — a text is CUT at its credentials: each starts as far to the left, behind the
     one before, as any does, and its value is as long as it can be (`IsCut`).  Every text has exactly
     one cut, and redaction fills in the mark for the values of the cut and keeps all the rest in its
     place (`redact_eq`).

  3. **The idea** — whether a credential starts somewhere is seen in front of the next delimiter
     (`sensitive?_append_delimiter`), and redaction changes nothing there.  So a redacted text has its
     credentials where the text had them, with the mark as their values already (`redact_redact`).
-/

namespace SecureStartup.Log

/-! ## Credentials in a text -/

/-- A credential as it stands in a text: what it begins with, its name as written, and its value. -/
structure Credential where
  delimiter : Char
  name : List Char
  value : List Char

namespace Credential

/-- A credential with some value. -/
def filled (c : Credential) (value : List Char) : List Char :=
  c.delimiter :: (c.name ++ '=' :: value)

structure WellFormed (c : Credential) : Prop where
  delimits : c.delimiter = '?' ∨ c.delimiter = '&'
  sensitive : IsSensitive c.name
  value : '&' ∉ c.value

end Credential

/-- A credential starts at the beginning of a text. -/
def StartsCredential (s : List Char) : Prop :=
  ∃ delimiter name rest, (delimiter = '?' ∨ delimiter = '&') ∧ IsSensitive name ∧
    s = delimiter :: (name ++ '=' :: rest)

/-- What a value can be followed by. -/
def EndsValue (rest : List Char) : Prop := rest = [] ∨ ∃ more, rest = '&' :: more

theorem Credential.WellFormed.starts {c : Credential} (h : c.WellFormed) (rest : List Char) :
    StartsCredential (c.filled c.value ++ rest) :=
  ⟨c.delimiter, c.name, c.value ++ rest, h.delimits, h.sensitive, by simp [filled]⟩

/-- **Behind a delimiter** a credential starts where a sensitive name is found. -/
theorem startsCredential_cons_iff {c : Char} {r : List Char} :
    StartsCredential (c :: r) ↔ (c = '?' ∨ c = '&') ∧ (sensitive? r).isSome = true := by
  constructor
  · rintro ⟨d, name, rest, hd, hname, hs⟩
    obtain ⟨rfl, rfl⟩ := List.cons.inj hs
    rw [sensitive?_eq_some_iff.mpr ⟨rfl, hname⟩]
    exact ⟨hd, rfl⟩
  · rintro ⟨hc, hsome⟩
    obtain ⟨⟨name, rest⟩, hr⟩ := Option.isSome_iff_exists.mp hsome
    obtain ⟨rfl, hname⟩ := sensitive?_eq_some_iff.mp hr
    exact ⟨c, name, rest, hc, hname, rfl⟩

theorem not_startsCredential_nil : ¬ StartsCredential [] := nofun

/-- **Where no credential starts** a character stays as it is. -/
theorem redact_cons_of_not_starts {c : Char} {r : List Char} (h : ¬ StartsCredential (c :: r)) :
    redact (c :: r) = c :: redact r := by
  rw [startsCredential_cons_iff] at h
  by_cases hc : c = '?' ∨ c = '&'
  · exact redact_cons_none hc (Option.not_isSome_iff_eq_none.mp fun hr => h ⟨hc, hr⟩)
  · exact redact_cons_plain hc r

/-- **A credential** keeps all but its value. -/
theorem redact_filled {c : Credential} (h : c.WellFormed) {rest : List Char} (hend : EndsValue rest) :
    redact (c.filled c.value ++ rest) = c.filled mark ++ redact rest := by
  have hp := redact_tail ⟨[], c.delimiter, c.name, rest, h.delimits, h.sensitive, hend⟩ h.value
  simpa [Parameter.tail, Credential.filled] using hp

/-! ## Cuts -/

/-- A text cut at its credentials: what stands in front of each, and what stands behind the last. -/
structure Cut where
  parts : List (List Char × Credential)
  last : List Char

namespace Cut

/-- The text of a cut, with some text filled in for each value. -/
def filled (k : Cut) (fill : Credential → List Char) : List Char :=
  k.parts.flatMap (fun p => p.1 ++ p.2.filled (fill p.2)) ++ k.last

/-- One character more in front. -/
def cons (a : Char) (k : Cut) : Cut :=
  match k.parts with
  | [] => ⟨[], a :: k.last⟩
  | (l, c) :: parts => ⟨(a :: l, c) :: parts, k.last⟩

end Cut

/-- **The cut of a text.**  A credential starts as far to the left as any does, its value reaches up to
    the next `&`, and what is behind it is cut in the same way; where none starts any more, nothing is
    cut. -/
inductive IsCut : List Char → Cut → Prop
  | last {s : List Char} (h : ∀ n, ¬ StartsCredential (s.drop n)) : IsCut s ⟨[], s⟩
  | credential {l rest : List Char} {c : Credential} {k : Cut} (hc : c.WellFormed)
      (hend : EndsValue rest)
      (hl : ∀ n < l.length, ¬ StartsCredential ((l ++ (c.filled c.value ++ rest)).drop n))
      (h : IsCut rest k) : IsCut (l ++ (c.filled c.value ++ rest)) ⟨(l, c) :: k.parts, k.last⟩

/-- One more character in front, at which no credential starts. -/
theorem IsCut.cons {s : List Char} {k : Cut} (h : IsCut s k) {a : Char}
    (ha : ¬ StartsCredential (a :: s)) : IsCut (a :: s) (k.cons a) := by
  cases h with
  | last h =>
    refine .last fun n => ?_
    cases n with
    | zero => exact ha
    | succ n => exact h n
  | @credential l rest c k hc hend hl h =>
    refine .credential (l := a :: l) hc hend (fun n hn => ?_) h
    cases n with
    | zero => exact ha
    | succ n => exact hl n (Nat.lt_of_succ_lt_succ hn)

/-- What is left behind a value ends it. -/
theorem endsValue_dropWhile (rest : List Char) : EndsValue (rest.dropWhile (· != '&')) := by
  rcases hd : rest.dropWhile (· != '&') with _ | ⟨c, more⟩
  · exact .inl rfl
  · have hc := List.head?_dropWhile_not (· != '&') rest
    rw [hd] at hc
    have heq : c = '&' := by simpa using hc
    exact .inr ⟨more, by rw [heq]⟩

/-- **Every text has a cut.**  By the recursion of redaction. -/
theorem exists_isCut (s : List Char) : ∃ k, IsCut s k := by
  fun_induction redact s with
  | case1 =>
    refine ⟨_, .last fun n => ?_⟩
    rw [List.drop_nil]
    exact not_startsCredential_nil
  | case2 d r hd name rest h ih =>
    obtain ⟨k, hk⟩ := ih
    obtain ⟨rfl, hname⟩ := sensitive?_eq_some_iff.mp h
    let c : Credential := ⟨d, name, rest.takeWhile (· != '&')⟩
    -- a credential: the value ends in front of the next `&`
    have hc : c.WellFormed := by
      refine ⟨by simpa using hd, hname, fun (hmem : '&' ∈ rest.takeWhile (· != '&')) => ?_⟩
      exact nomatch List.mem_takeWhile_imp hmem
    have htext : d :: (name ++ '=' :: rest) =
        [] ++ (c.filled c.value ++ rest.dropWhile (· != '&')) := by
      simp [c, Credential.filled]
    rw [htext]
    exact ⟨_, .credential hc (endsValue_dropWhile rest) (fun n hn => absurd hn (Nat.not_lt_zero n)) hk⟩
  | case3 d r hd h ih =>
    obtain ⟨k, hk⟩ := ih
    refine ⟨_, hk.cons fun hs => ?_⟩
    rw [startsCredential_cons_iff, h] at hs
    exact nomatch hs.2
  | case4 d r hd ih =>
    obtain ⟨k, hk⟩ := ih
    refine ⟨_, hk.cons fun hs => hd ?_⟩
    simpa using (startsCredential_cons_iff.mp hs).1

/-- A value and what follows it are given by their text. -/
theorem value_inj {v v' rest rest' : List Char} (hv : '&' ∉ v) (hv' : '&' ∉ v')
    (hend : EndsValue rest) (hend' : EndsValue rest') (h : v ++ rest = v' ++ rest') :
    v = v' ∧ rest = rest' := by
  have htake : ∀ {v rest : List Char}, '&' ∉ v → EndsValue rest →
      (v ++ rest).dropWhile (· != '&') = rest := by
    intro v rest hv hend
    have hall : ∀ c ∈ v, (c != '&') = true := fun c hc => bne_iff_ne.mpr fun heq => hv (heq ▸ hc)
    rw [List.dropWhile_append_of_pos hall]
    rcases hend with rfl | ⟨more, rfl⟩
    · rfl
    · rw [List.dropWhile_cons]
      rfl
  have hrest : rest = rest' := by rw [← htake hv hend, h, htake hv' hend']
  subst hrest
  exact ⟨List.append_cancel_right h, rfl⟩

/-- Two credentials that start at one place are one. -/
theorem filled_inj {c c' : Credential} (hc : c.WellFormed) (hc' : c'.WellFormed)
    {rest rest' : List Char} (hend : EndsValue rest) (hend' : EndsValue rest')
    (h : c.filled c.value ++ rest = c'.filled c'.value ++ rest') : c = c' ∧ rest = rest' := by
  obtain ⟨delimiter, name, value⟩ := c
  obtain ⟨delimiter', name', value'⟩ := c'
  have heq : IsMark '=' := .inr (.inr rfl)
  simp only [Credential.filled, List.cons_append, List.append_assoc] at h
  obtain ⟨hd, htail⟩ := List.cons.inj h
  obtain ⟨hn, hvalue⟩ :=
    append_cons_inj (hc.sensitive.not_mem heq) (hc'.sensitive.not_mem heq) htail
  obtain ⟨hv, hr⟩ := value_inj hc.value hc'.value hend hend' hvalue
  cases hd
  cases hn
  cases hv
  exact ⟨rfl, hr⟩

/-- What stands in front of the first credential cannot be longer in one cut than in another. -/
theorem length_le_of_leftmost {l l' rest rest' : List Char} {c c' : Credential} (hc : c.WellFormed)
    (hl' : ∀ n < l'.length, ¬ StartsCredential ((l' ++ (c'.filled c'.value ++ rest')).drop n))
    (he : l ++ (c.filled c.value ++ rest) = l' ++ (c'.filled c'.value ++ rest')) :
    l'.length ≤ l.length := by
  refine Nat.not_lt.mp fun hlt => hl' l.length hlt ?_
  rw [← he, List.drop_left]
  exact hc.starts rest

/-- **No text has two cuts.**  By induction on one of them. -/
theorem IsCut.unique {s : List Char} {k k' : Cut} (h : IsCut s k) (h' : IsCut s k') : k = k' := by
  induction h generalizing k' with
  | @last s hn =>
    generalize hs : s = t at h'
    cases h' with
    | last _ => rfl
    | @credential l rest c k hc _ _ _ =>
      -- the other cut has a credential where none starts
      refine absurd ?_ (hn l.length)
      rw [hs, List.drop_left]
      exact hc.starts rest
  | @credential l rest c k hc hend hl _ ih =>
    generalize hs : l ++ (c.filled c.value ++ rest) = t at h'
    cases h' with
    | last hn =>
      refine absurd ?_ (hn l.length)
      rw [← hs, List.drop_left]
      exact hc.starts rest
    | @credential l' rest' c' k' hc' hend' hl' hrest' =>
      have hlen : l.length = l'.length :=
        Nat.le_antisymm (length_le_of_leftmost hc' hl hs.symm) (length_le_of_leftmost hc hl' hs)
      obtain ⟨rfl, htail⟩ := List.append_inj hs hlen
      obtain ⟨rfl, rfl⟩ := filled_inj hc hc' hend hend' htail
      rw [ih hrest']

/-! ## Redaction on the cut -/

/-- A cut with its own values is the text. -/
theorem IsCut.filled_value {s : List Char} {k : Cut} (h : IsCut s k) :
    k.filled (·.value) = s := by
  induction h with
  | last _ => rfl
  | @credential l rest c k _ _ _ _ ih =>
    rw [← ih]
    simp [Cut.filled]

/-- Up to where the first credential starts, nothing is changed. -/
theorem redact_append {l t : List Char} (h : ∀ n < l.length, ¬ StartsCredential ((l ++ t).drop n)) :
    redact (l ++ t) = l ++ redact t := by
  induction l with
  | nil => rfl
  | cons a l ih =>
    have hfirst : ¬ StartsCredential (a :: (l ++ t)) := h 0 (Nat.zero_lt_succ _)
    rw [List.cons_append, redact_cons_of_not_starts hfirst,
      ih fun n hn => h (n + 1) (Nat.succ_lt_succ hn)]
    rfl

/-- A text without credentials stays as it is. -/
theorem redact_of_no_credential {s : List Char} (h : ∀ n, ¬ StartsCredential (s.drop n)) :
    redact s = s := by
  have hr := redact_append (l := s) (t := []) fun n _ => by
    rw [List.append_nil]
    exact h n
  rwa [List.append_nil, redact, List.append_nil] at hr

/-- **Redaction fills in the mark.** -/
theorem redact_eq {s : List Char} {k : Cut} (h : IsCut s k) :
    redact s = k.filled fun _ => mark := by
  induction h with
  | last hn => exact redact_of_no_credential hn
  | @credential l rest c k hc hend hl _ ih =>
    rw [redact_append hl, redact_filled hc hend, ih]
    simp [Cut.filled]

/-! ## Redacting again -/

theorem redact_nil : redact [] = [] := by rw [redact]

/-- Redaction keeps what ends a value. -/
theorem endsValue_redact {rest : List Char} (h : EndsValue rest) : EndsValue (redact rest) := by
  rcases h with rfl | ⟨more, rfl⟩
  · exact .inl redact_nil
  · rcases hs : sensitive? more with _ | ⟨name, value⟩
    · exact .inr ⟨_, redact_cons_none (.inr rfl) hs⟩
    · exact .inr ⟨_, redact_cons_some (.inr rfl) hs⟩

/-- **Whether a credential starts** in front of a delimiter does not depend on what follows it. -/
theorem startsCredential_append {a : List Char} (ha : a ≠ []) {d : Char} (hd : d = '?' ∨ d = '&')
    (b : List Char) : StartsCredential (a ++ d :: b) ↔ StartsCredential a := by
  obtain ⟨c, r, rfl⟩ := List.exists_cons_of_ne_nil ha
  rw [List.cons_append, startsCredential_cons_iff, startsCredential_cons_iff,
    sensitive?_append_delimiter hd, Option.isSome_map]

/-- A cut with the mark for all values. -/
def Cut.marked (k : Cut) : Cut :=
  ⟨k.parts.map fun p => (p.1, { p.2 with value := mark }), k.last⟩

theorem Cut.filled_marked (k : Cut) (v : List Char) :
    (k.marked.filled fun _ => v) = k.filled fun _ => v := by
  unfold Cut.filled Cut.marked
  rw [List.flatMap_map]
  rfl

/-- **A redacted text is cut at the same places.** -/
theorem IsCut.redact {s : List Char} {k : Cut} (h : IsCut s k) : IsCut (redact s) k.marked := by
  induction h with
  | @last s hn =>
    rw [redact_of_no_credential hn]
    exact .last hn
  | @credential l rest c k hc hend hl _ ih =>
    rw [redact_append hl, redact_filled hc hend]
    have hfree : '&' ∉ mark := by decide
    have hmark : ({ c with value := mark } : Credential).WellFormed :=
      ⟨hc.delimits, hc.sensitive, hfree⟩
    refine .credential hmark (endsValue_redact hend) (fun n hn => ?_) ih
    -- both texts go on with the delimiter behind what stands in front
    have hne : l.drop n ≠ [] := fun he => absurd (List.drop_eq_nil_iff.mp he) (Nat.not_le.mpr hn)
    have hbefore := hl n hn
    rw [List.drop_append_of_le_length (Nat.le_of_lt hn)] at hbefore ⊢
    rw [show c.filled c.value ++ rest = c.delimiter :: (c.name ++ '=' :: c.value ++ rest) from rfl,
      startsCredential_append hne hc.delimits] at hbefore
    rwa [show Credential.filled { c with value := mark } mark ++ Log.redact rest =
        c.delimiter :: (c.name ++ '=' :: mark ++ Log.redact rest) from rfl,
      startsCredential_append hne hc.delimits]

/-- **Redacting again changes nothing.** -/
theorem redact_redact (s : List Char) : redact (redact s) = redact s := by
  obtain ⟨k, hk⟩ := exists_isCut s
  rw [redact_eq hk.redact, redact_eq hk, Cut.filled_marked]

/-! ## Redacted URLs -/

/-- **Redaction erases the values of sensitive parameters and nothing else.**  Whatever stands in front
    of such a parameter and behind it, the redacted URL is the same for all its values.  A URL has
    exactly one cut, and the redacted URL is that cut with the mark for every value, all the rest being
    where it was.  So a URL in which no credential starts stays as it is, and so does a redacted one. -/
theorem redactUrl_erases :
    (∀ (p : Parameter) (v w : List Char), '&' ∉ v → '&' ∉ w →
      redactUrl (p.url v) = redactUrl (p.url w)) ∧
    ∀ url : String,
      (∃ k, (IsCut url.toList k ∧ ∀ k', IsCut url.toList k' → k' = k) ∧
        url = String.ofList (k.filled (·.value)) ∧
        redactUrl url = String.ofList (k.filled fun _ => mark)) ∧
      ((∀ n, ¬ StartsCredential (url.toList.drop n)) → redactUrl url = url) ∧
      redactUrl (redactUrl url) = redactUrl url := by
  refine ⟨fun p v w hv hw => redactUrl_url p hv hw, fun url => ⟨?_, fun hno => ?_, ?_⟩⟩
  · obtain ⟨k, hk⟩ := exists_isCut url.toList
    refine ⟨k, ⟨hk, fun k' hk' => hk'.unique hk⟩, ?_, ?_⟩
    · rw [hk.filled_value, String.ofList_toList]
    · unfold redactUrl
      rw [redact_eq hk]
  · unfold redactUrl
    rw [redact_of_no_credential hno, String.ofList_toList]
  · unfold redactUrl
    rw [String.toList_ofList, redact_redact]

/-- A value that reads like other parameters, behind a name in capitals and in front of a parameter that
    is not sensitive. -/
theorem redactUrl_erases_token :
    let p : Parameter := ⟨"/r".toList, '?', "ToKeN".toList, "&op=OPEN".toList, .inl rfl,
      ⟨"token".toList, by decide, by decide⟩, .inr ⟨"op=OPEN".toList, rfl⟩⟩
    '&' ∉ "a?auth=b".toList ∧ '&' ∉ ([] : List Char) ∧
      redactUrl (p.url "a?auth=b".toList) = redactUrl (p.url []) ∧
      redactUrl (redactUrl (p.url [])) = redactUrl (p.url []) := by
  intro p
  have hv : '&' ∉ "a?auth=b".toList := by decide
  have hw : '&' ∉ ([] : List Char) := List.not_mem_nil
  exact ⟨hv, hw, redactUrl_erases.1 p _ _ hv hw, (redactUrl_erases.2 (p.url [])).2.2⟩

end SecureStartup.Log
