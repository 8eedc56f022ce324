import SecureStartup.Log.Call
import SecureStartup.Proofs.Text.Spelled
import SecureStartup.Proofs.Value.Fields

/-!
  The fields of a call that reports a failure.

  1. **Program** — `log_exception(logger, message, exc, **kwargs)`: the fields of the record come from
     three places, the caller's keywords, the failure's context, and what the failure says about itself.
     Names that a record has of its own are left out, since a logger would refuse them.

  2. **Specification** — `Reports` says, key by key, whose value counts:

     * no key is one of a record's own (`Overwrites`), so no logger refuses the call;
     * text and kind are the failure's, whoever else gives something under these names;
     * the category is the caller's unless that is nothing, and then the failure's own;
     * every other key is the caller's first and the context's second.

  3. **No call at all** — a call needs the failure's text, and asking for it may fail (`Answers`,
     `Refuses`); then what the question fails with is all that is left, and nothing is logged.  Nor is
     there a call when a keyword has the name of an argument.

  4. **The proof** — `ofKeywords_reports` proves it of every failure and all keywords.  What is under a key
     is followed through the steps that make the fields: `get?_permitted`, `get?_addMissing`, and
     `get?_insert` for what is set.
-/

namespace SecureStartup

open SecureStartup.Text

namespace Entries

open Value (IsKey Settled)

/-- No key is equal to one that is not equal to itself. -/
theorem not_same_of_odd {k q : Value} (hk : IsKey k) (hq : IsKey q) (hodd : q.same q = false) :
    k.same q = false := by
  rw [Bool.eq_false_iff]
  intro h
  rw [Value.same_trans hq (Value.same_symm hk hq h) h] at hodd
  exact nomatch hodd

/-- Setting a pair leaves pairs with odd keys alone, and adds one if its own key is odd. -/
theorem mem_insert_odd {es : Entries} (hes : Keyed IsKey es) {k : Value} (hk : IsKey k) (v : Value)
    {e : Value × Value} (hodd : e.1.same e.1 = false) : e ∈ insert es k v ↔ e ∈ es ∨ e = (k, v) := by
  induction es with
  | nil => simp [insert]
  | cons f es ih =>
    obtain ⟨k', v'⟩ := f
    obtain ⟨hk', hes⟩ := List.forall_mem_cons.mp hes
    unfold insert
    by_cases hsame : k'.same k = true
    · -- both keys are equal to another one, so neither is odd
      have heven : ∀ w, e ≠ (k', w) := by
        rintro w rfl
        rw [Value.same_trans hk' hsame (Value.same_symm hk' hk hsame)] at hodd
        exact absurd hodd (by decide)
      have heven' : e ≠ (k, v) := by
        rintro rfl
        rw [Value.same_trans hk (Value.same_symm hk' hk hsame) hsame] at hodd
        exact absurd hodd (by decide)
      rw [if_pos hsame]
      simp [heven, heven']
    · rw [if_neg hsame, List.mem_cons, List.mem_cons, ih hes, or_assoc]

end Entries

/-- A failure of another part of a program has the text of its arguments, unless it is about a key. -/
theorem Failure.text_foreign {words : Failure → String} {name : String} (h : name ≠ "KeyError")
    (args : List Value) (category context : Option Value) :
    (Failure.foreign name args category context).text words = argsText args := by
  rw [text]
  intro a hname
  exact fun _ => h hname

namespace Log

namespace Call

open Entries (Keyed get?_cons get?_nil get?_insert get?_insert_str get?_congr)
open Value (IsKey settled_isKey)

/-! ## Names of a record's own -/

/-- What every record has when it is made. -/
def recordAttributes : List String :=
  ["name", "msg", "args", "levelname", "levelno", "pathname", "filename", "module", "exc_info",
   "exc_text", "stack_info", "lineno", "funcName", "created", "msecs", "relativeCreated", "thread",
   "threadName", "processName", "process"]

/-- What a record gets when it is written. -/
def writtenAttributes : List String := ["message", "asctime"]

/-- **Fields that a logger refuses**: one of them has the name of an attribute. -/
def Overwrites (extra : Entries) : Prop :=
  ∃ e ∈ extra, ∃ n ∈ writtenAttributes ++ recordAttributes, e.1.same (.str n) = true

/-- Every attribute is a reserved name. -/
theorem attributes_reserved : ∀ n ∈ writtenAttributes ++ recordAttributes, n ∈ reservedNames := by
  decide

theorem isReserved_eq_true_iff {k : Value} :
    isReserved k = true ↔ ∃ n ∈ reservedNames, k.same (.str n) = true := List.any_eq_true

/-- Equal keys are reserved alike. -/
theorem isReserved_congr {k k' : Value} (h : k'.same k = true) : isReserved k' = isReserved k := by
  unfold isReserved
  refine congrArg (List.any reservedNames) (funext fun n => ?_)
  exact Value.same_str_congr h n

theorem not_overwrites_permitted (fields : Entries) : ¬ Overwrites (permitted fields) := by
  rintro ⟨e, he, n, hn, hsame⟩
  have hres : isReserved e.1 = true := isReserved_eq_true_iff.mpr ⟨n, attributes_reserved n hn, hsame⟩
  rw [not_isReserved_of_mem_permitted he] at hres
  exact nomatch hres

/-- **What is under a key among the permitted fields**: what was there, if the key is not reserved. -/
theorem get?_permitted (fields : Entries) {q : Value} (hq : isReserved q = false) :
    (permitted fields).get? q = fields.get? q := by
  induction fields with
  | nil => rfl
  | cons e fields ih =>
    unfold permitted
    rw [List.filter_cons, get?_cons]
    by_cases hres : isReserved e.1 = true
    · have hother : e.1.same q = false := by
        rw [Bool.eq_false_iff]
        intro h
        rw [← isReserved_congr h, hres] at hq
        exact nomatch hq
      rw [hres, hother]
      exact ih
    · rw [Bool.eq_false_iff.mpr hres]
      show Entries.get? (e :: permitted fields) q = _
      rw [get?_cons, ih]

/-! ## Fields added where there are none -/

theorem addMissing_cons (fields more : Entries) (e : Value × Value) :
    addMissing fields (e :: more) =
      addMissing (if fields.has e.1 then fields else fields.insert e.1 e.2) more := rfl

theorem keyed_addMissing {fields more : Entries} (hf : Keyed IsKey fields) (hm : Keyed IsKey more) :
    Keyed IsKey (addMissing fields more) := by
  induction more generalizing fields with
  | nil => exact hf
  | cons e more ih =>
    obtain ⟨he, hm⟩ := List.forall_mem_cons.mp hm
    rw [addMissing_cons]
    refine ih ?_ hm
    split
    · exact hf
    · exact hf.insert he _

/-- **What is under a key when missing fields were added**: what was there, or else what was added. -/
theorem get?_addMissing {fields more : Entries} (hf : Keyed IsKey fields) (hm : Keyed IsKey more)
    {q : Value} (hq : IsKey q) :
    (addMissing fields more).get? q = (fields.get? q).or (more.get? q) := by
  induction more generalizing fields with
  | nil => exact Option.or_none.symm
  | cons e more ih =>
    obtain ⟨he, hm⟩ := List.forall_mem_cons.mp hm
    have hsame : e.1.same q = true → fields.get? e.1 = fields.get? q :=
      get?_congr (settled_isKey hq) hf he
    rw [addMissing_cons, get?_cons]
    by_cases hthere : fields.has e.1 = true
    · rw [if_pos hthere, ih hf hm]
      cases hk : e.1.same q with
      | false => rfl
      | true =>
        obtain ⟨v, hv⟩ := Option.isSome_iff_exists.mp hthere
        rw [← hsame hk, hv]
        rfl
    · rw [if_neg hthere, ih (hf.insert he _) hm, get?_insert (settled_isKey hq) hf he]
      cases hk : e.1.same q with
      | false => rfl
      | true =>
        have hnone : fields.get? e.1 = none := by simpa [Entries.has] using hthere
        rw [← hsame hk, hnone]
        rfl

/-- Pairs with odd keys are all added. -/
theorem mem_addMissing_odd {fields more : Entries} (hf : Keyed IsKey fields) (hm : Keyed IsKey more)
    {e : Value × Value} (hodd : e.1.same e.1 = false) :
    e ∈ addMissing fields more ↔ e ∈ fields ∨ e ∈ more := by
  induction more generalizing fields with
  | nil => simp [addMissing]
  | cons f more ih =>
    obtain ⟨hk, hm⟩ := List.forall_mem_cons.mp hm
    rw [addMissing_cons]
    by_cases hthere : fields.has f.1 = true
    · have hne : e ≠ f := by
        rintro rfl
        obtain ⟨v, hv⟩ := Option.isSome_iff_exists.mp hthere
        obtain ⟨p, hp, -⟩ := Option.map_eq_some_iff.mp hv
        have hsame := List.find?_some hp
        rw [Entries.not_same_of_odd (hf p (List.mem_of_find?_eq_some hp)) hk hodd] at hsame
        exact nomatch hsame
      rw [if_pos hthere, ih hf hm, List.mem_cons]
      simp [hne]
    · rw [if_neg hthere, ih (hf.insert hk _) hm, Entries.mem_insert_odd hf hk _ hodd, List.mem_cons,
        or_assoc]

/-! ## The text -/

/-- The codes of a text that is cut when it is too long. -/
def cutCodes (ns : List Nat) : List Nat :=
  if ns.length ≤ longestText then ns else ns.take longestText ++ codes "...".toList

/-- **A text is cut after its first codes**, and three dots say so. -/
theorem spells_cutText {ns : List Nat} {s : String} (h : Spells ns s.toList) :
    Spells (cutCodes ns) (cutText s).toList := by
  have hdots : Spells (codes "...".toList) "...".toList := ⟨by decide, by decide⟩
  unfold cutCodes cutText
  simp only [h.letterCount_eq]
  rcases Nat.lt_or_ge longestText ns.length with hlong | hshort
  · rw [if_pos hlong, if_neg (Nat.not_le.mpr hlong)]
    simp only [String.toList_ofList]
    exact (h.takeLetters longestText).append hdots
  · rw [if_neg (Nat.not_lt.mpr hshort), if_pos hshort]
    exact h

/-! ## What a call reports -/

/-- The pairs of a failure's context, if that is a mapping. -/
def contextOf (f : Failure) : Entries :=
  match f.context? with
  | some (.map context) => context
  | _ => []

/-- **A call's fields report a failure**, key by key. -/
structure Reports (f : Failure) (text : String) (fields extra : Entries) : Prop where
  /-- No key is a reserved name. -/
  unreserved : ∀ e ∈ extra, isReserved e.1 = false
  /-- A logger takes them. -/
  accepted : ¬ Overwrites extra
  /-- The failure's text, cut. -/
  text : ∃ t, extra.get? (.str "error_message") = some (.str t) ∧
    ∀ ns, Spells ns text.toList → Spells (cutCodes ns) t.toList
  /-- The failure's kind. -/
  kind : extra.get? (.str "error_type") = some (.str f.name)
  /-- The caller's category, if it is one. -/
  givenCategory : ∀ v, v ≠ .none → fields.get? (.str "error_category") = some v →
    extra.get? (.str "error_category") = some v
  /-- Else the failure's, if it has one. -/
  ownCategory : ∀ word, fields.field "error_category" = .none → f.categoryWord? = .ok (some word) →
    extra.get? (.str "error_category") = some (.str word)
  /-- Every other key: the caller's value, or else the context's. -/
  other : ∀ q, IsKey q → isReserved q = false → q ≠ .str "error_message" → q ≠ .str "error_type" →
    (q = .str "error_category" → f.categoryWord? = .ok none) →
    extra.get? q = (fields.get? q).or ((contextOf f).get? q)
  /-- Pairs whose keys are equal to nothing, not even to themselves, are kept as they are. -/
  odd : ∀ e : Value × Value, e.1.same e.1 = false → (e ∈ extra ↔ e ∈ fields ∨ e ∈ contextOf f)

/-- **A failure answers** what a call asks of it: its text, and the word for its category where the
    caller gives none. -/
structure Answers (words : Failure → String) (f : Failure) (fields : Entries) (text : String) :
    Prop where
  text : f.text words = .ok text
  category : fields.field "error_category" = .none → ∃ word, f.categoryWord? = .ok word

/-- **A failure refuses** what a call asks of it: the category comes first. -/
inductive Refuses (words : Failure → String) (f : Failure) (fields : Entries) (e : Failure) : Prop where
  | category (hnone : fields.field "error_category" = .none) (hword : f.categoryWord? = .error e)
  | text (hword : fields.field "error_category" = .none → ∃ word, f.categoryWord? = .ok word)
    (htext : f.text words = .error e)

/-- The fields with the category set. -/
def categorized (f : Failure) (fields : Entries) : Entries :=
  match fields.field "error_category", f.categoryWord?.toOption.join with
  | .none, some word => fields.insert (.str "error_category") (.str word)
  | _, _ => fields

theorem withCategory_eq (f : Failure) {fields : Entries}
    (h : fields.field "error_category" = .none → ∃ word, f.categoryWord? = .ok word) :
    withCategory f fields = .ok (categorized f fields) := by
  unfold withCategory categorized
  cases hfield : fields.field "error_category" with
  | none =>
    obtain ⟨word, hword⟩ := h hfield
    simp only [hword]
    cases word <;> rfl
  | _ => rfl

theorem withCategory_error {f e : Failure} {fields : Entries}
    (hnone : fields.field "error_category" = .none) (hword : f.categoryWord? = .error e) :
    withCategory f fields = .error e := by
  unfold withCategory
  rw [hnone, hword]
  rfl

theorem withContext_eq (f : Failure) (fields : Entries) :
    withContext f fields = addMissing fields (contextOf f) := by
  unfold withContext contextOf
  rcases f.context? with _ | v
  · rfl
  · cases v <;> rfl

/-- The fields of a failure with this text. -/
def reportFields (f : Failure) (text : String) (fields : Entries) : Entries :=
  permitted (withText f text (withContext f (categorized f fields)))

theorem keyed_categorized (f : Failure) {fields : Entries} (hf : Keyed IsKey fields) :
    Keyed IsKey (categorized f fields) := by
  unfold categorized
  split
  · exact hf.insert (.atom rfl) _
  · exact hf

/-- A category of the caller's stays. -/
theorem categorized_of_given (f : Failure) {fields : Entries}
    (h : fields.field "error_category" ≠ .none) : categorized f fields = fields := by
  unfold categorized
  split
  · exact absurd ‹_› h
  · rfl

theorem categorized_of_own {f : Failure} {fields : Entries} {word : String}
    (h : fields.field "error_category" = .none) (hown : f.categoryWord? = .ok (some word)) :
    categorized f fields = fields.insert (.str "error_category") (.str word) := by
  unfold categorized
  rw [h, hown]
  rfl

/-- Setting the category does not change what is under other keys. -/
theorem get?_categorized (f : Failure) {fields : Entries} (hf : Keyed IsKey fields) {q : Value}
    (hq : IsKey q) (hcategory : q = .str "error_category" → f.categoryWord? = .ok none) :
    (categorized f fields).get? q = fields.get? q := by
  unfold categorized
  split
  case h_1 word hgiven hown =>
    have hother : (Value.str "error_category").same q = false := by
      rw [Bool.eq_false_iff, Ne, Value.str_same_iff]
      intro h
      rw [hcategory h] at hown
      exact nomatch hown
    rw [get?_insert (settled_isKey hq) hf (.atom rfl), hother]
    rfl
  case h_2 => rfl

theorem isReserved_str (name : String) : isReserved (.str name) = reservedNames.contains name := by
  unfold isReserved
  rw [← List.any_beq]
  exact congrArg (List.any reservedNames) (funext fun n => Value.same_str name n)

section

variable (f : Failure) (text : String) {fields : Entries}

/-- **What is under a key in a call that reports a failure**, before it is asked where the category and
    the context come in. -/
theorem get?_reportFields (hfields : Keyed IsKey fields) (hcontext : Keyed IsKey (contextOf f))
    {q : Value} (hq : IsKey q) (hunreserved : isReserved q = false) :
    (reportFields f text fields).get? q =
      if (Value.str "error_type").same q then some (.str f.name)
      else if (Value.str "error_message").same q then some (.str (cutText text))
      else ((categorized f fields).get? q).or ((contextOf f).get? q) := by
  have hcat := keyed_categorized f hfields
  have hadded := keyed_addMissing hcat hcontext
  unfold reportFields withText
  rw [get?_permitted _ hunreserved, withContext_eq,
    get?_insert (settled_isKey hq) (hadded.insert (.atom rfl) _) (.atom rfl),
    get?_insert (settled_isKey hq) hadded (.atom rfl), get?_addMissing hcat hcontext hq]

/-- Pairs with odd keys come from the caller and from the context. -/
theorem mem_reportFields_odd (hfields : Keyed IsKey fields) (hcontext : Keyed IsKey (contextOf f))
    {e : Value × Value} (hodd : e.1.same e.1 = false) :
    e ∈ reportFields f text fields ↔ e ∈ fields ∨ e ∈ contextOf f := by
  have hcat := keyed_categorized f hfields
  have hadded := keyed_addMissing hcat hcontext
  have hname : ∀ name v, e ≠ (.str name, v) := by
    rintro name v rfl
    rw [Value.same_str, beq_self_eq_true] at hodd
    exact nomatch hodd
  have hunreserved : isReserved e.1 = false := by
    rw [Bool.eq_false_iff]
    intro h
    obtain ⟨n, -, hn⟩ := isReserved_eq_true_iff.mp h
    exact hname n e.2 (by rw [← (Value.same_str_iff e.1 n).mp hn])
  have hcategorized : e ∈ categorized f fields ↔ e ∈ fields := by
    unfold categorized
    split
    · rw [Entries.mem_insert_odd hfields (.atom rfl) _ hodd]
      simp [hname]
    · rfl
  unfold reportFields withText
  rw [permitted, List.mem_filter, hunreserved, withContext_eq,
    Entries.mem_insert_odd (hadded.insert (.atom rfl) _) (.atom rfl) _ hodd,
    Entries.mem_insert_odd hadded (.atom rfl) _ hodd, mem_addMissing_odd hcat hcontext hodd,
    hcategorized]
  simp [hname]

/-- **The fields made of a failure and its text report it.** -/
theorem reportFields_reports (hfields : Keyed IsKey fields) (hcontext : Keyed IsKey (contextOf f)) :
    Reports f text fields (reportFields f text fields) := by
  have hget := fun {q} => get?_reportFields f text hfields hcontext (q := q)
  have hcategory : isReserved (.str "error_category") = false := by
    rw [isReserved_str]
    decide
  constructor
  case unreserved => exact fun e he => not_isReserved_of_mem_permitted he
  case accepted => exact not_overwrites_permitted _
  case text =>
    refine ⟨cutText text, ?_, fun ns => spells_cutText⟩
    rw [hget (.atom rfl) (by rw [isReserved_str]; decide), Value.same_str, Value.same_str]
    rfl
  case kind =>
    rw [hget (.atom rfl) (by rw [isReserved_str]; decide), Value.same_str]
    rfl
  case givenCategory =>
    intro v hv hgiven
    have hsome : fields.field "error_category" ≠ .none := by
      unfold Entries.field
      rw [hgiven]
      exact hv
    rw [hget (.atom rfl) hcategory, categorized_of_given f hsome, hgiven, Value.same_str, Value.same_str]
    rfl
  -- the category of the failure is set only where the caller has none
  case ownCategory =>
    intro word hnone hown
    rw [hget (.atom rfl) hcategory, categorized_of_own hnone hown, get?_insert_str, Value.same_str,
      Value.same_str, Value.same_str]
    rfl
  case other =>
    intro q hq hunreserved hmessage hkind hcat
    have hne : ∀ name, q ≠ .str name → (Value.str name).same q = false := by
      intro name h
      rw [Bool.eq_false_iff, Ne, Value.str_same_iff]
      exact h
    rw [hget hq hunreserved, hne _ hmessage, hne _ hkind, get?_categorized f hfields hq hcat]
    rfl
  case odd => exact fun e => mem_reportFields_odd f text hfields hcontext

end

/-! ## The call -/

section

variable {words : Failure → String} {f : Failure} {fields : Entries}

/-- A failure that answers is reported. -/
theorem ofFailure_answered {text : String} (h : Answers words f fields text) (message level : Value)
    (traced : Bool) : ofFailure words f message level traced fields =
      .ok ⟨level, message, reportFields f text fields,
        if traced then .failure f text else .unasked⟩ := by
  unfold ofFailure
  rw [withCategory_eq f h.category, h.text]
  rfl

/-- A failure that refuses is not. -/
theorem ofFailure_refused {e : Failure} (h : Refuses words f fields e) (message level : Value)
    (traced : Bool) : ofFailure words f message level traced fields = .error e := by
  unfold ofFailure
  cases h with
  | category hnone hword =>
    rw [withCategory_error hnone hword]
    rfl
  | text hword htext =>
    rw [withCategory_eq f hword, htext]
    rfl

theorem keyed_without {es : Entries} (h : Keyed IsKey es) (name : String) :
    Keyed IsKey (without es name) := fun e he => h e (List.mem_filter.mp he).1

theorem clashes_eq_false {arguments : List String} {es : Entries} :
    clashes arguments es = false ↔ ∀ name ∈ arguments, es.has (.str name) = false := by
  unfold clashes
  rw [List.any_eq_false]
  simp

/-- **The fields of a call report its failure**, whatever the failure is and whatever the caller gives.
    There is such a call when no keyword is named like an argument and the failure answers; else it is
    a mistake in the call, or what the failure refuses with, that comes of it. -/
theorem ofKeywords_reports {keywords : Entries} (message : Value) (hkeys : Keyed IsKey keywords)
    (hcontext : Keyed IsKey (contextOf f)) :
    let call := ofKeywords words f message keywords
    let fields := failureKeywords.foldl without keywords
    ((∃ name ∈ failureArguments, keywords.has (.str name) = true) →
      call = .error (.mismatch .wrongType)) ∧
    ((∀ name ∈ failureArguments, keywords.has (.str name) = false) →
      (∀ text, Answers words f fields text →
        ∃ c, call = .ok c ∧ c.message = message ∧
          c.level = (keywords.get? (.str "level")).getD (.int error) ∧
          Reports f text fields c.extra) ∧
      (∀ e, Refuses words f fields e → call = .error e)) := by
  intro call fields
  have hfields : Keyed IsKey fields := keyed_without (keyed_without hkeys _) _
  constructor
  · rintro ⟨name, hname, hhas⟩
    -- an argument would be given twice
    have hclash : clashes failureArguments keywords = true := List.any_eq_true.mpr ⟨name, hname, hhas⟩
    exact if_pos hclash
  · intro hnone
    have hcall : call = ofFailure words f message _ _ fields :=
      if_neg (Bool.eq_false_iff.mp (clashes_eq_false.mpr hnone))
    constructor
    · intro text hanswers
      exact ⟨_, hcall.trans (ofFailure_answered hanswers _ _ _), rfl, rfl,
        reportFields_reports f text hfields hcontext⟩
    · intro e hrefuses
      exact hcall.trans (ofFailure_refused hrefuses _ _ _)

end

/-- A failure whose context has names that are taken: by the record, by the failure, by the caller. -/
def crowded : Failure :=
  .setup (.reported .badConfiguration (.str "no principal") (.map [(.str "name", .str "c"),
    (.str "error_type", .str "other"), (.str "principal", .str "p"), (.str "config_key", .str "k")])
    none) none

/-- What a caller gives beside it, the level of the record among it. -/
def crowdedKeywords : Entries :=
  [(.str "error_category", .none), (.str "module", .int 1), (.str "principal", .str "q"),
    (.str "level", .int 30)]

/-- The fields among them: all but the level. -/
theorem crowdedKeywords_fields : failureKeywords.foldl without crowdedKeywords =
    [(.str "error_category", .none), (.str "module", .int 1), (.str "principal", .str "q")] := by
  simp [failureKeywords, without, crowdedKeywords, Value.same_str]

theorem crowded_answers : Answers Failure.name crowded
    (failureKeywords.foldl without crowdedKeywords) "no principal" where
  text := rfl
  category _ := ⟨some "bad_configuration", rfl⟩

/-- The caller's principal and the context's key are kept, and the rest comes from the failure. -/
theorem ofKeywords_reports_crowded :
    Keyed IsKey crowdedKeywords ∧ Keyed IsKey (contextOf crowded) ∧
      (∀ name ∈ failureArguments, crowdedKeywords.has (.str name) = false) ∧
      ∃ c, ofKeywords Failure.name crowded (.str "m") crowdedKeywords = .ok c ∧
        c.level = .int 30 ∧
        c.extra.get? (.str "error_type") = some (.str "BadConfigurationError") ∧
        c.extra.get? (.str "error_category") = some (.str "bad_configuration") ∧
        c.extra.get? (.str "principal") = some (.str "q") ∧
        c.extra.get? (.str "config_key") = some (.str "k") := by
  have hkeys : Keyed IsKey crowdedKeywords := by
    simp only [Keyed, crowdedKeywords, List.forall_mem_cons]
    exact ⟨.atom rfl, .atom rfl, .atom rfl, .atom rfl, nofun⟩
  have hcontext : Keyed IsKey (contextOf crowded) := by
    simp only [Keyed, contextOf, crowded, Failure.context?, SetupIssue.context, List.forall_mem_cons]
    exact ⟨.atom rfl, .atom rfl, .atom rfl, .atom rfl, nofun⟩
  have hnames : ∀ name ∈ failureArguments, crowdedKeywords.has (.str name) = false := by
    unfold failureArguments
    simp [crowdedKeywords, Entries.has, get?_cons, get?_nil, Value.same_str]
  obtain ⟨-, hcall⟩ := @ofKeywords_reports Failure.name crowded crowdedKeywords (.str "m") hkeys hcontext
  obtain ⟨c, hc, -, hlevel, h⟩ := (hcall hnames).1 _ crowded_answers
  rw [crowdedKeywords_fields] at h
  refine ⟨hkeys, hcontext, hnames, c, hc, ?_, h.kind, h.ownCategory _ ?_ rfl, ?_, ?_⟩
  · rw [hlevel]
    simp [crowdedKeywords, get?_cons, Value.same_str]
  · simp [Entries.field, get?_cons, Value.same_str]
  · rw [h.other _ (.atom rfl) (by rw [isReserved_str]; decide) (by simp) (by simp) (by simp)]
    simp [get?_cons, Value.same_str]
  · rw [h.other _ (.atom rfl) (by rw [isReserved_str]; decide) (by simp) (by simp) (by simp)]
    simp [contextOf, crowded, Failure.context?, SetupIssue.context, get?_cons, get?_nil,
      Value.same_str]

/-- **Not every failure is reported, and not with every field**: a keyword may have the name of an
    argument, a number may be too long for the failure's text, and a message may be no text. -/
theorem ofKeywords_reports_limits :
    ofKeywords Failure.name crowded (.str "m") [(.str "exc", .str "y")] =
        .error (.mismatch .wrongType) ∧
      ofKeywords Failure.name (.foreign "ValueError" [.int Value.numberBound] none none) (.str "m") [] =
        .error (.invalid .numberTooLong) ∧
      ofKeywords Failure.name (.setup (.reported .badConfiguration (.int 5) (.map []) none) none)
        (.str "m") [] = .error (.mismatch .wrongType) := by
  refine ⟨?_, ?_, rfl⟩
  · have hclash : clashes failureArguments [(.str "exc", .str "y")] = true := by
      simp [clashes, failureArguments, Entries.has, get?_cons, Value.same_str]
    exact if_pos hclash
  · have hlong : (Value.int Value.numberBound).isWritable = false :=
      Value.isWritable_of_le (Nat.le_refl _)
    have htext : (Failure.foreign "ValueError" [.int Value.numberBound] none none).text Failure.name =
        .error (.invalid .numberTooLong) := by
      rw [Failure.text_foreign (by decide)]
      simp only [Failure.argsText, Value.written, hlong, Bool.false_eq_true, if_false]
    exact ofFailure_refused (.text (fun _ => ⟨none, rfl⟩) htext) _ _ _

end Call

end Log

end SecureStartup
