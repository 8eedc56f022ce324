import SecureStartup.Log.Redact

/-!
  What a redacted URL can still tell.

  Program: `JSONFormatter._sanitize_url`, which replaces the values of parameters whose names are among
  the sensitive ones, in whatever case they are written.

  A parameter of a URL is split into the text in front of its value and the text that follows it.
  `redactUrl_url` says that the value is gone: the redacted URL is the same for every value without
  `&`.  It rests on three facts:

  1. `sensitive?_eq_some_iff`: a sensitive name stands in front of `=`, and nowhere else.
  2. `sensitive?_append_delimiter`: a delimiter ends every name, so what stands behind it does not
     change what is found in front of it.
  3. `dropWhile_value`: leaving out an earlier value ends in front of the parameter, or takes the
     whole parameter with it.

  The second is why the text in front of the parameter may be anything, a half-written parameter included.
-/

namespace SecureStartup.Log

open SecureStartup.Text

/-! ## Sensitive names -/

/-- A sensitive name as it may be written. -/
def IsSensitive (name : List Char) : Prop := ∃ n ∈ sensitiveNames, isWord n name = true

/-- A character that can stand in no sensitive name: what ends names and what separates
    parameters. -/
def IsMark (c : Char) : Prop := c = '?' ∨ c = '&' ∨ c = '='

theorem dropWord_append {n v : List Char} (h : isWord n v = true) (r : List Char) :
    dropWord n (v ++ r) = some r := by
  induction n generalizing v with
  | nil =>
    cases v with
    | nil => rfl
    | cons c cs => simp [isWord] at h
  | cons l ls ih =>
    cases v with
    | nil => simp [isWord] at h
    | cons c cs =>
      obtain ⟨hc, hcs⟩ : isLetter l c = true ∧ isWord ls cs = true := by simpa [isWord] using h
      show (if isLetter l c then dropWord ls (cs ++ r) else none) = some r
      rw [if_pos hc]
      exact ih hcs

theorem length_of_isWord {n v : List Char} (h : isWord n v = true) : v.length = n.length := by
  induction n generalizing v with
  | nil =>
    cases v with
    | nil => rfl
    | cons c cs => simp [isWord] at h
  | cons l ls ih =>
    cases v with
    | nil => simp [isWord] at h
    | cons c cs =>
      obtain ⟨-, hcs⟩ : isLetter l c = true ∧ isWord ls cs = true := by simpa [isWord] using h
      rw [List.length_cons, List.length_cons, ih hcs]

/-- A character that matches no letter of a word is not in what matches the word. -/
theorem not_mem_of_isWord {n v : List Char} {c : Char} (h : isWord n v = true)
    (hc : ∀ l ∈ n, isLetter l c = false) : c ∉ v := by
  induction n generalizing v with
  | nil =>
    cases v with
    | nil => exact List.not_mem_nil
    | cons d ds => simp [isWord] at h
  | cons l ls ih =>
    cases v with
    | nil => simp [isWord] at h
    | cons d ds =>
      obtain ⟨hd, hds⟩ : isLetter l d = true ∧ isWord ls ds = true := by simpa [isWord] using h
      rintro (_ | hmem)
      · rw [hc l List.mem_cons_self] at hd
        cases hd
      · exact ih hds (fun l' hl' => hc l' (List.mem_cons_of_mem l hl')) ‹_›

/-- **No sensitive name holds a mark.** -/
theorem IsSensitive.not_mem {name : List Char} (h : IsSensitive name) {c : Char} (hc : IsMark c) :
    c ∉ name := by
  obtain ⟨n, hn, hw⟩ := h
  have hmarks : (sensitiveNames.all fun n => n.all fun l =>
      !isLetter l '?' && !isLetter l '&' && !isLetter l '=') = true := by decide
  simp only [List.all_eq_true, Bool.and_eq_true, Bool.not_eq_true'] at hmarks
  apply not_mem_of_isWord hw
  intro l hl
  obtain ⟨⟨h1, h2⟩, h3⟩ := hmarks n hn l hl
  rcases hc with rfl | rfl | rfl
  · exact h1
  · exact h2
  · exact h3

/-- A text is split in one way only at the first of some character. -/
theorem append_cons_inj {c : Char} {v w r s : List Char} (hv : c ∉ v) (hw : c ∉ w)
    (h : v ++ c :: r = w ++ c :: s) : v = w ∧ r = s := by
  induction v generalizing w with
  | nil =>
    cases w with
    | nil => exact ⟨rfl, by simpa using h⟩
    | cons d ds =>
      obtain ⟨rfl, -⟩ : c = d ∧ _ := by simpa using h
      exact absurd List.mem_cons_self hw
  | cons a as ih =>
    cases w with
    | nil =>
      obtain ⟨rfl, -⟩ : a = c ∧ _ := by simpa using h
      exact absurd List.mem_cons_self hv
    | cons d ds =>
      obtain ⟨rfl, htail⟩ : a = d ∧ as ++ c :: r = ds ++ c :: s := by simpa using h
      obtain ⟨rfl, rfl⟩ := ih (fun hm => hv (List.mem_cons_of_mem a hm))
        (fun hm => hw (List.mem_cons_of_mem a hm)) htail
      exact ⟨rfl, rfl⟩

/-- **A sensitive name is found** exactly where one is written in front of `=`. -/
theorem sensitive?_eq_some_iff {s name rest : List Char} :
    sensitive? s = some (name, rest) ↔ s = name ++ '=' :: rest ∧ IsSensitive name := by
  -- one name that is found, whichever it is, is what stands in front of the first `=`
  have hfound : ∀ {name rest : List Char}, sensitive? s = some (name, rest) →
      s = name ++ '=' :: rest ∧ IsSensitive name := by
    intro name rest h
    obtain ⟨n, hn, hsome⟩ := List.exists_of_findSome?_eq_some h
    split at hsome
    · rename_i r hr
      obtain ⟨v, hv, hw⟩ := dropWord_eq_some hr
      obtain ⟨rfl, rfl⟩ : s.take n.length = name ∧ r = rest := by simpa using hsome
      have htake : s.take n.length = v := by
        rw [hv, ← length_of_isWord hw, List.take_left]
      rw [htake]
      exact ⟨hv, n, hn, hw⟩
    · cases hsome
  constructor
  · exact hfound
  · rintro ⟨hs, hname⟩
    obtain ⟨n, hn, hw⟩ := hname
    have hsome : (sensitive? s).isSome = true := by
      apply List.findSome?_isSome_iff.mpr
      refine ⟨n, hn, ?_⟩
      rw [hs, dropWord_append hw]
      rfl
    obtain ⟨⟨name', rest'⟩, h'⟩ := Option.isSome_iff_exists.mp hsome
    obtain ⟨hs', hname'⟩ := hfound h'
    have heq : IsMark '=' := .inr (.inr rfl)
    obtain ⟨rfl, rfl⟩ := append_cons_inj (hname'.not_mem heq)
      (IsSensitive.not_mem ⟨n, hn, hw⟩ heq) (hs'.symm.trans hs)
    exact h'

/-- **A delimiter ends every name**: what is found in front of it is found without it. -/
theorem sensitive?_append_delimiter {d : Char} (hd : d = '?' ∨ d = '&') (a b : List Char) :
    sensitive? (a ++ d :: b) = (sensitive? a).map fun p => (p.1, p.2 ++ d :: b) := by
  have hmark : IsMark d := hd.imp_right .inl
  have hne : d ≠ '=' := by rcases hd with rfl | rfl <;> decide
  cases h : sensitive? a with
  | some p =>
    obtain ⟨name, rest⟩ := p
    obtain ⟨rfl, hname⟩ := sensitive?_eq_some_iff.mp h
    rw [Option.map_some]
    exact sensitive?_eq_some_iff.mpr ⟨by simp, hname⟩
  | none =>
    rw [Option.map_none]
    cases hall : sensitive? (a ++ d :: b) with
    | none => rfl
    | some p =>
      obtain ⟨name, rest⟩ := p
      obtain ⟨hs, hname⟩ := sensitive?_eq_some_iff.mp hall
      -- either the name and its `=` lie in `a`, or the delimiter lies in the name
      obtain ⟨as, ha, hrest⟩ | ⟨bs, hn, hrest⟩ := List.append_eq_append_iff.mp hs.symm
      · cases as with
        | nil => exact absurd (List.cons.inj hrest).1.symm hne
        | cons c cs =>
          obtain ⟨rfl, -⟩ : '=' = c ∧ _ := by simpa using hrest
          rw [sensitive?_eq_some_iff.mpr ⟨ha, hname⟩] at h
          cases h
      · cases bs with
        | nil => exact absurd (List.cons.inj hrest).1 hne
        | cons c cs =>
          obtain ⟨rfl, -⟩ : d = c ∧ _ := by simpa using hrest
          exact absurd (by simp [hn]) (hname.not_mem hmark)

/-! ## Parameters -/

/-- A sensitive parameter of a URL but for its value. -/
structure Parameter where
  before : List Char
  /-- What the parameter begins with. -/
  delimiter : Char
  name : List Char
  after : List Char
  delimits : delimiter = '?' ∨ delimiter = '&'
  sensitive : IsSensitive name
  ends : after = [] ∨ ∃ more, after = '&' :: more

namespace Parameter

variable (p : Parameter) {v w : List Char}

/-- The parameter with a value, and what follows it. -/
def tail (value : List Char) : List Char :=
  p.delimiter :: (p.name ++ '=' :: (value ++ p.after))

/-- **The URL** with a value of the parameter. -/
def url (value : List Char) : String := String.ofList (p.before ++ p.tail value)

theorem url_inj : p.url v = p.url w ↔ v = w := by
  constructor
  · intro h
    have hlist : p.before ++ p.tail v = p.before ++ p.tail w := by
      simpa [url] using congrArg String.toList h
    simpa [tail] using hlist
  · rintro rfl
    rfl

theorem dropWhile_after : p.after.dropWhile (· != '&') = p.after := by
  rcases p.ends with hnil | ⟨more, hmore⟩
  · rw [hnil]
    rfl
  · rw [hmore, List.dropWhile_cons]
    rfl

/-- A value reaches to what follows the parameter. -/
theorem dropWhile_append_after (hv : '&' ∉ v) :
    (v ++ p.after).dropWhile (· != '&') = p.after := by
  have hall : ∀ c ∈ v, (c != '&') = true := by
    intro c hc
    exact bne_iff_ne.mpr fun heq => hv (heq ▸ hc)
  rw [List.dropWhile_append_of_pos hall, p.dropWhile_after]

/-- **Leaving out an earlier value** ends in front of the parameter, or takes it along. -/
theorem dropWhile_value (rest : List Char) (hv : '&' ∉ v) :
    (rest ++ p.tail v).dropWhile (· != '&') =
      if '&' ∈ rest ∨ p.delimiter = '&' then rest.dropWhile (· != '&') ++ p.tail v
      else p.after := by
  induction rest with
  | nil =>
    show (p.tail v).dropWhile (· != '&') = _
    rcases p.delimits with hd | hd
    -- behind `?` the name and the value are left out, too: neither of them holds `&`
    · have hname : ∀ c ∈ p.name ++ '=' :: v, (c != '&') = true := by
        intro c hc
        apply bne_iff_ne.mpr
        rintro rfl
        rcases List.mem_append.mp hc with hn | hn
        · exact p.sensitive.not_mem (.inr (.inl rfl)) hn
        · rcases List.mem_cons.mp hn with heq | hmem
          · exact absurd heq (by decide)
          · exact hv hmem
      have hsplit : p.tail v = '?' :: ((p.name ++ '=' :: v) ++ p.after) := by simp [tail, hd]
      rw [hsplit, List.dropWhile_cons, if_pos (by decide), List.dropWhile_append_of_pos hname,
        p.dropWhile_after]
      simp [hd]
    · simp [tail, hd]
  | cons c cs ih =>
    by_cases hc : c = '&'
    · simp [hc]
    · have hbne : (c != '&') = true := bne_iff_ne.mpr hc
      have hmem : ('&' ∈ c :: cs) ↔ '&' ∈ cs := by simp [Ne.symm hc]
      rw [List.cons_append, List.dropWhile_cons, if_pos hbne, ih, List.dropWhile_cons, if_pos hbne]
      simp only [hmem]

end Parameter

/-! ## Redaction -/

/-- A character that separates no parameters stays as it is. -/
theorem redact_cons_plain {c : Char} (hc : ¬(c = '?' ∨ c = '&')) (r : List Char) :
    redact (c :: r) = c :: redact r := by
  have hne : (c == '?' || c == '&') = false := by simpa using hc
  rw [redact]
  simp [hne]

theorem redact_cons_none {c : Char} (hc : c = '?' ∨ c = '&') {r : List Char}
    (h : sensitive? r = none) : redact (c :: r) = c :: redact r := by
  have hd : (c == '?' || c == '&') = true := by simpa using hc
  rw [redact, if_pos hd]
  split
  · rename_i hsome
    rw [h] at hsome
    cases hsome
  · rfl

/-- **Behind a delimiter a sensitive value is replaced**, up to the next `&`. -/
theorem redact_cons_some {c : Char} (hc : c = '?' ∨ c = '&') {r name rest : List Char}
    (h : sensitive? r = some (name, rest)) :
    redact (c :: r) = c :: (name ++ '=' :: mark ++ redact (rest.dropWhile (· != '&'))) := by
  have hd : (c == '?' || c == '&') = true := by simpa using hc
  rw [redact, if_pos hd]
  split
  · rename_i hsome
    rw [h] at hsome
    obtain ⟨rfl, rfl⟩ : name = _ ∧ rest = _ := by simpa using hsome
    rfl
  · rename_i hnone
    rw [h] at hnone
    cases hnone

/-- The parameter itself. -/
theorem redact_tail (p : Parameter) {v : List Char} (hv : '&' ∉ v) :
    redact (p.tail v) = p.delimiter :: (p.name ++ '=' :: mark ++ redact p.after) := by
  have h : sensitive? (p.name ++ '=' :: (v ++ p.after)) = some (p.name, v ++ p.after) :=
    sensitive?_eq_some_iff.mpr ⟨rfl, p.sensitive⟩
  unfold Parameter.tail
  rw [redact_cons_some p.delimits h, p.dropWhile_append_after hv]

/-- **The value is gone**: whatever stands in front of a sensitive parameter, the redacted text is
    the same for all of its values.  By induction on the length of the text in front, since an
    earlier value is left out in one step. -/
theorem redact_append_tail (p : Parameter) {v w : List Char} (hv : '&' ∉ v) (hw : '&' ∉ w)
    (before : List Char) : redact (before ++ p.tail v) = redact (before ++ p.tail w) := by
  induction hlen : before.length using Nat.strongRecOn generalizing before with
  | ind n ih =>
    cases before with
    | nil => exact (redact_tail p hv).trans (redact_tail p hw).symm
    | cons c r =>
      have hr : redact (r ++ p.tail v) = redact (r ++ p.tail w) := ih r.length (by simp [← hlen]) r rfl
      rw [List.cons_append, List.cons_append]
      -- Whether something is found here does not depend on the value further on.
      by_cases hc : c = '?' ∨ c = '&'
      · have hfind : ∀ value, sensitive? (r ++ p.tail value) =
            (sensitive? r).map fun f => (f.1, f.2 ++ p.tail value) := fun value =>
          sensitive?_append_delimiter p.delimits r _
        cases h : sensitive? r with
        | none =>
          rw [redact_cons_none hc (by rw [hfind, h]; rfl), redact_cons_none hc (by rw [hfind, h]; rfl),
            hr]
        | some f =>
          obtain ⟨name, rest⟩ := f
          rw [redact_cons_some hc (by rw [hfind, h]; rfl), redact_cons_some hc (by rw [hfind, h]; rfl),
            p.dropWhile_value rest hv, p.dropWhile_value rest hw]
          split
          · have hlt := sensitive?_rest_lt h
            have hle := (List.dropWhile_sublist (l := rest) (· != '&')).length_le
            have hshort : (rest.dropWhile (· != '&')).length < n := by
              rw [← hlen, List.length_cons]
              omega
            rw [ih _ hshort _ rfl]
          · rfl
      · rw [redact_cons_plain hc, redact_cons_plain hc, hr]

/-- **The redacted URL is the same for all values** of a sensitive parameter. -/
theorem redactUrl_url (p : Parameter) {v w : List Char} (hv : '&' ∉ v) (hw : '&' ∉ w) :
    redactUrl (p.url v) = redactUrl (p.url w) := by
  unfold redactUrl Parameter.url
  rw [String.toList_ofList, String.toList_ofList, redact_append_tail p hv hw]

end SecureStartup.Log
