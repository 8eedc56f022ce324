import SecureStartup.Proofs.Log.Conversion
import SecureStartup.Proofs.Log.Members
import SecureStartup.Proofs.Value.Nested

/-!
  Which records have a line of JSON, and which lines are JSON.

  1. **Program** — `JSONFormatter.format` converts the numeric fields (`_ensure_type`), takes credentials
     out of URLs (`_sanitize_value`), and writes the line (`json.dumps` with `json_serializer`).

  2. **A line is missing** when a numeric field is beyond the range of its kind, a member has no form in
     JSON, or the failure of the record has no text: then formatting fails (`Formattable`).  A numeric
     field that is no number at all is null.

  3. **Every line is one line**, and is read back where infinite numbers are accepted.  It is JSON if all
     numbers are finite (`FiniteMembers`): the others are written as words that JSON does not have.

  `jsonLine_formats` says so of every record.  What is asked of the members of a line is asked of the
  context and the fields of the record, one by one (`membersHold_iff`), and what their values are
  written as is known from `Json.write_outcome`.
-/

namespace SecureStartup

namespace Log

open Text (OneLine)
open Value (throughout_of_isAtom)
open Json (HasForm AllFinite IsPlain IsShort IsRefusal Outcome WrittenLine)
open Entries (lastUnder)

/-! ## Members -/

/-- The members of a line are what is under its names. -/
theorem forall_mem_iff {es : Entries} (hd : es.Distinct) (hnamed : es.Named) {P : Value → Prop} :
    (∀ e ∈ es, P e.2) ↔ ∀ name v, es.get? (.str name) = some v → P v := by
  constructor
  · intro h name v hv
    obtain ⟨k, hmem, -⟩ := Entries.mem_of_get? hv
    exact h (k, v) hmem
  · intro h e he
    obtain ⟨name, hname⟩ := hnamed e he
    exact h name e.2 (Entries.get?_str_of_mem hd (hname ▸ he))

/-- What a failure is written as. -/
theorem troubleMember_plainForm (t : Trouble) (v : Value) (h : troubleMember t = some v) :
    HasForm v ∧ AllFinite v := by
  have hatom : ∀ w : Value, w = .none ∨ (∃ s, w = .str s) → HasForm w ∧ AllFinite w := by
    rintro w (rfl | ⟨s, rfl⟩)
    · exact ⟨Json.hasForm_none, Json.allFinite_none⟩
    · exact ⟨Json.hasForm_str s, Json.allFinite_str s⟩
  have hfields : ∀ fields : List (String × Value),
      (∀ f ∈ fields, f.2 = .none ∨ ∃ s, f.2 = .str s) →
        HasForm (.ofFields fields) ∧ AllFinite (.ofFields fields) := by
    intro fields hall
    constructor
    · refine Json.hasForm_map.mpr (List.forall_mem_map.mpr fun f hf => ?_)
      exact ⟨.str f.1, (hatom f.2 (hall f hf)).1⟩
    · exact Json.allFinite_map.mpr (List.forall_mem_map.mpr fun f hf => (hatom f.2 (hall f hf)).2)
  cases t with
  | absent => exact nomatch h
  | empty =>
    obtain rfl := Option.some.inj h
    exact hfields _ (by simp)
  | failure f text =>
    cases text with
    | error e => exact nomatch h
    | ok s =>
      obtain rfl := Option.some.inj h
      exact hfields _ (by simp)

/-! ## Fields -/

/-- Every other field is written as it is, but for what is taken out of a URL. -/
theorem fieldValue_other {name : String} (hduration : name ≠ "duration_ms") (hcode : name ≠ "exit_code")
    (v : Value) : fieldValue name v = .ok v ∨
      ∃ s, v = .str s ∧ fieldValue name v = .ok (.str (redactUrl s)) := by
  unfold fieldValue
  rw [if_neg (by simpa using hduration), if_neg (by simpa using hcode)]
  split
  · split
    · exact .inr ⟨_, rfl, rfl⟩
    · exact .inl rfl
  · exact .inl rfl

theorem fieldValue_duration (v : Value) : fieldValue "duration_ms" v = toDouble v := if_pos rfl

theorem fieldValue_exitCode (v : Value) : fieldValue "exit_code" v = toInteger v := rfl

/-- **The fields of a record are converted** unless one of the numbers is out of range. -/
theorem converts_iff (r : Record) : Converts r ↔
    (∀ negative, r.extras.field "exit_code" ≠ .float (.infinite negative)) ∧
    ∀ i, r.extras.field "duration_ms" = .int i → i.natAbs < 2 ^ 1024 - 2 ^ 970 := by
  rw [← toInteger_isOk_iff, ← toDouble_isOk_iff]
  constructor
  · intro h
    exact ⟨h "exit_code" (by decide), h "duration_ms" (by decide)⟩
  · rintro ⟨hcode, hduration⟩ name -
    by_cases hd : name = "duration_ms"
    · exact hd ▸ hduration
    · by_cases hc : name = "exit_code"
      · exact hc ▸ hcode
      · rcases fieldValue_other hd hc (r.extras.field name) with h | ⟨s, -, h⟩ <;> exact ⟨_, h⟩

theorem fieldValue_error {name : String} {v : Value} {e : Failure} (h : fieldValue name v = .error e) :
    e = .mismatch .outOfRange := by
  by_cases hd : name = "duration_ms"
  · subst hd
    exact toDouble_error h
  · by_cases hc : name = "exit_code"
    · subst hc
      exact toInteger_error h
    · rcases fieldValue_other hd hc v with h' | ⟨s, -, h'⟩ <;> rw [h'] at h <;> exact nomatch h

/-- A field of a line is one that is there and was converted. -/
theorem fieldMember_eq_some_iff {r : Record} {name : String} {v : Value} :
    fieldMember r name = some v ↔
      r.extras.field name ≠ .none ∧ fieldValue name (r.extras.field name) = .ok v := by
  constructor
  · intro h
    have hne : r.extras.field name ≠ .none := by
      intro hnone
      rw [fieldMember_of_none hnone] at h
      exact nomatch h
    cases hvalue : fieldValue name (r.extras.field name) with
    | ok w =>
      rw [fieldMember_of_ok hne hvalue] at h
      obtain rfl := Option.some.inj h
      exact ⟨hne, rfl⟩
    | error e =>
      unfold fieldMember at h
      split at h
      · exact nomatch h
      · rw [hvalue] at h
        exact nomatch h
  · rintro ⟨hne, hvalue⟩
    exact fieldMember_of_ok hne hvalue

/-- **What is asked of the context and of the fields that are not numeric.** -/
structure OthersHold (P : Value → Prop) (c : Context) (r : Record) : Prop where
  field : ∀ name ∈ fieldNames, name ≠ "duration_ms" → name ≠ "exit_code" → P (r.extras.field name)
  cluster : c.cluster.truthy = true → P c.cluster
  component : c.component.truthy = true → P c.component
  /-- The trace of the context counts when the record has none. -/
  trace : c.trace.truthy = true → r.extras.field "trace_id" = .none → P c.trace

section

variable {c : Context} {r : Record} {P : Value → Prop}

/-- What is asked of what the fields are converted to is asked of the others as they are. -/
theorem MembersHold.others (h : MembersHold P c r) (hnone : P .none) (hstr : ∀ s, P (.str s)) :
    (∀ w, toDouble (r.extras.field "duration_ms") = .ok w → P w) ∧
      (∀ w, toInteger (r.extras.field "exit_code") = .ok w → P w) ∧ OthersHold P c r := by
  have hnumber : ∀ name ∈ fieldNames, ∀ w, fieldValue name (r.extras.field name) = .ok w → P w := by
    intro name hname w hw
    by_cases hne : r.extras.field name = .none
    · rw [hne, fieldValue_none] at hw
      exact Except.ok.inj hw ▸ hnone
    · exact h.field name hname w (fieldMember_of_ok hne hw)
  refine ⟨hnumber "duration_ms" (by decide), hnumber "exit_code" (by decide),
    fun name hname hd hc => ?_, h.cluster, h.component, h.trace⟩
  rcases fieldValue_other hd hc (r.extras.field name) with hw | ⟨s, hs, -⟩
  · exact hnumber name hname _ hw
  · rw [hs]
    exact hstr s

/-- **Members have what their values have before**, if redaction keeps it. -/
theorem OthersHold.members (h : OthersHold P c r)
    (hduration : ∀ w, toDouble (r.extras.field "duration_ms") = .ok w → P w)
    (hcode : ∀ w, toInteger (r.extras.field "exit_code") = .ok w → P w)
    (hredact : ∀ s, P (.str s) → P (.str (redactUrl s))) : MembersHold P c r := by
  refine ⟨fun name hname v hv => ?_, h.cluster, h.component, h.trace⟩
  obtain ⟨-, hvalue⟩ := fieldMember_eq_some_iff.mp hv
  by_cases hd : name = "duration_ms"
  · subst hd
    exact hduration v hvalue
  · by_cases hc : name = "exit_code"
    · subst hc
      exact hcode v hvalue
    · have hfield := h.field name hname hd hc
      rcases fieldValue_other hd hc (r.extras.field name) with hw | ⟨s, hs, hw⟩
      · rw [hw] at hvalue
        exact Except.ok.inj hvalue ▸ hfield
      · rw [hs] at hfield
        rw [hw] at hvalue
        exact Except.ok.inj hvalue ▸ hredact s hfield

end

/-! ## Lines -/

/-- **Records with a line.**  The numeric fields are in range; everything else has a form in JSON, and an
    exit code that is a whole number too; a failure can say what it is. -/
structure Formattable (c : Context) (r : Record) : Prop where
  told : r.trouble.IsTold
  exitCode_finite : ∀ negative, r.extras.field "exit_code" ≠ .float (.infinite negative)
  exitCode_short : ∀ i, r.extras.field "exit_code" = .int i → IsShort i
  duration_inRange : ∀ i, r.extras.field "duration_ms" = .int i → i.natAbs < 2 ^ 1024 - 2 ^ 970
  others : OthersHold HasForm c r

/-- **Records of finite numbers.**  A duration may be another one, or become one when it is read. -/
structure FiniteMembers (c : Context) (r : Record) : Prop where
  duration : ∀ x, toDouble (r.extras.field "duration_ms") = .ok (.float x) → x.IsFinite
  others : OthersHold AllFinite c r

section

variable {c : Context} {r : Record}

theorem formattable_iff (hcanonical : ∀ x, r.extras.field "exit_code" = .float x → x.IsCanonical) :
    Formattable c r ↔ (Converts r ∧ r.trouble.IsTold) ∧ MembersHold HasForm c r := by
  rw [converts_iff]
  constructor
  · intro h
    refine ⟨⟨⟨h.exitCode_finite, h.duration_inRange⟩, h.told⟩, h.others.members (fun w hw => toDouble_hasForm hw)
      (fun w hw => ?_) fun s _ => Json.hasForm_str _⟩
    exact (toInteger_hasForm_iff hw hcanonical).mpr h.exitCode_short
  · rintro ⟨⟨⟨hfinite, hrange⟩, htold⟩, hmembers⟩
    obtain ⟨-, hcode, hothers⟩ := hmembers.others Json.hasForm_none Json.hasForm_str
    refine ⟨htold, hfinite, fun i hi => ?_, hrange, hothers⟩
    have hw : toInteger (r.extras.field "exit_code") = .ok (.int i) := by
      rw [hi]
      rfl
    exact (toInteger_hasForm_iff hw hcanonical).mp (hcode _ hw) i hi

theorem finiteMembers_iff (hcanonical : ∀ x, r.extras.field "exit_code" = .float x → x.IsCanonical) :
    FiniteMembers c r ↔ MembersHold AllFinite c r := by
  constructor
  · intro h
    refine h.others.members (fun w hw => ?_) (fun w hw => toInteger_allFinite hw hcanonical)
      fun s _ => Json.allFinite_str _
    rcases toDouble_cases hw with rfl | ⟨x, rfl, -⟩
    · exact Json.allFinite_none
    · exact (throughout_of_isAtom rfl).mpr (h.duration x hw)
  · intro hmembers
    obtain ⟨hduration, -, hothers⟩ := hmembers.others Json.allFinite_none Json.allFinite_str
    exact ⟨fun x hx => (hduration _ hx).own, hothers⟩

end

/-- The names of a line are texts that can be read back. -/
theorem isText_of_lastUnder {now : DateTime} {c : Context} {r : Record} {name : String} {v : Value}
    (h : lastUnder name (lineFields now c r) = some v) : Json.IsText (.str name) := by
  have husual : ∀ n ∈ startNames ++ fieldNames ++ ["exception"],
      (n.toList.all fun c => decide (Text.IsUsual c)) = true := by
    decide
  have hnames : (lineFields now c r).map (·.1) = startNames ++ fieldNames ++ ["exception"] := rfl
  have hmem : name ∈ startNames ++ fieldNames ++ ["exception"] := by
    rw [← hnames]
    exact List.mem_map_of_mem (f := (·.1)) (Entries.mem_of_lastUnder h)
  exact ⟨name, rfl, Text.isSpelled_of_all (husual name hmem)⟩

/-- What is known of the members of a line. -/
structure LineOf (now : DateTime) (c : Context) (r : Record) (es : Entries) : Prop where
  distinct : es.Distinct
  texts : es.Keyed Json.IsText
  get? : ∀ name, es.get? (.str name) = lastUnder name (lineFields now c r)
  /-- What is asked of the members is asked of the record. -/
  forall_iff : ∀ P : Value → Prop, (∀ s ∈ startTexts now r, P (.str s)) →
    (∀ v, troubleMember r.trouble = some v → P v) → ((∀ e ∈ es, P e.2) ↔ MembersHold P c r)

/-- Why a record has no line: a number is out of range, a member is refused, or the failure has no
    text, and then it is what asking for the text fails with. -/
def IsFormatFailure (r : Record) (e : Failure) : Prop :=
  e = .mismatch .outOfRange ∨ IsRefusal e ∨ ∃ f, r.trouble = .failure f (.error e)

/-- **A record has a line**, or formatting fails. -/
theorem jsonLine_cases (now : DateTime) (c : Context) (r : Record) :
    (((Converts r ∧ r.trouble.IsTold) ∧ MembersHold HasForm c r) ∧ ∃ es line, LineOf now c r es ∧
      jsonLine now c r = .ok line ∧ WrittenLine es line) ∨
    (¬ ((Converts r ∧ r.trouble.IsTold) ∧ MembersHold HasForm c r) ∧
      ∃ e, jsonLine now c r = .error e ∧ IsFormatFailure r e) := by
  -- The entry is built, or a field cannot be converted, or the failure has no text.
  rcases entry_cases now c r with
    ⟨hconverts, es, hentry, hd, hnamed, hget⟩ | ⟨name, hname, e, hfailed, hentry⟩ |
      ⟨f, e, huntold, hentry⟩
  · have hline : LineOf now c r es := by
      refine ⟨hd, fun e he => ?_, hget, fun P hstart htrouble => ?_⟩
      · obtain ⟨name, hkey⟩ := hnamed e he
        have hunder : es.get? (.str name) = some e.2 := Entries.get?_str_of_mem hd (hkey ▸ he)
        rw [hget] at hunder
        exact hkey ▸ isText_of_lastUnder hunder
      · rw [forall_mem_iff hd hnamed, ← membersHold_iff now c r hstart htrouble]
        simp only [hget]
    have hform : HasForm (.map es) ↔ MembersHold HasForm c r := by
      rw [← hline.forall_iff HasForm (fun s _ => Json.hasForm_str s) fun v hv =>
        (troubleMember_plainForm _ v hv).1, Json.hasForm_map]
      refine ⟨fun h e he => (h e he).2, fun h e he => ⟨?_, h e he⟩⟩
      obtain ⟨name, hkey⟩ := hnamed e he
      rw [hkey]
      exact .str name
    have hjson : jsonLine now c r = Json.write Json.logLine (.map es) := by
      show (entry now c r >>= _) = _
      rw [hentry]
      rfl
    rw [hjson]
    have hwrite := Json.write_outcome es
    revert hwrite
    generalize Json.write Json.logLine (.map es) = written
    rintro (⟨hf, hwritten⟩ | ⟨hf, he⟩)
    · exact .inl ⟨⟨hconverts, hform.mp hf⟩, es, _, hline, rfl, hwritten⟩
    · exact .inr ⟨fun h => hf (hform.mpr h.2), _, rfl, .inr (.inl he)⟩
  · refine .inr ⟨fun h => ?_, e, ?_, .inl (fieldValue_error hfailed)⟩
    · obtain ⟨w, hw⟩ := h.1.1 name hname
      rw [hw] at hfailed
      exact nomatch hfailed
    · show (entry now c r >>= _) = _
      rw [hentry]
      rfl
  · refine .inr ⟨fun h => ?_, e, ?_, .inr (.inr ⟨f, huntold⟩)⟩
    · obtain ⟨s, hs⟩ : ∃ s, Except.error e = .ok s := by
        have htold := h.1.2
        rwa [huntold] at htold
      exact nomatch hs
    · show (entry now c r >>= _) = _
      rw [hentry]
      rfl

/-- What is read under a name is read from what was written there. -/
theorem get?_of_forall₂ {words : Bool} {es fs : Entries}
    (h : List.Forall₂ (fun e f => f.1 = e.1 ∧ Json.ReadAs words e.2 (some f.2)) es fs) {k v : Value}
    (hv : es.get? k = some v) : ∃ w, fs.get? k = some w ∧ Json.ReadAs words v (some w) := by
  induction h with
  | nil => exact nomatch hv
  | @cons e f es fs hef _ ih =>
    rw [Entries.get?_cons] at hv ⊢
    rw [hef.1]
    split at hv
    · next hsame =>
      obtain rfl := Option.some.inj hv
      exact ⟨f.2, if_pos hsame, hef.2⟩
    · next hsame =>
      rw [if_neg hsame]
      exact ih hv

/-- **Formatting.**  A record has a line of JSON exactly if it is formattable, and else formatting fails
    in one of three ways, or as asking the record's failure for its text does.  A line is one line; it is an object where infinite numbers are
    accepted, in which a numeric field that is no number is null, and JSON exactly if all its numbers
    are finite. -/
theorem jsonLine_formats (now : DateTime) (c : Context) (r : Record)
    (hcanonical : ∀ x, r.extras.field "exit_code" = .float x → x.IsCanonical) :
    ((∃ line, jsonLine now c r = .ok line) ↔ Formattable c r) ∧
    (∀ e, jsonLine now c r = .error e → IsFormatFailure r e) ∧
    ∀ line, jsonLine now c r = .ok line → OneLine line.toList ∧
      (∃ ms : Entries, Json.decode? true line = some (.map ms) ∧
        ∀ name, name = "duration_ms" ∨ name = "exit_code" → r.extras.field name ≠ .none →
          fieldValue name (r.extras.field name) = .ok .none → ms.get? (.str name) = some .none) ∧
      ((Json.decode? false line).isSome = true ↔ FiniteMembers c r) := by
  rw [formattable_iff hcanonical, finiteMembers_iff hcanonical]
  rcases jsonLine_cases now c r with ⟨hform, es, line, hline, hjson, hwritten⟩ | ⟨hform, e, hjson, he⟩
  · rw [hjson]
    refine ⟨⟨fun _ => hform, fun _ => ⟨line, rfl⟩⟩, nofun, ?_⟩
    rintro line ⟨rfl⟩
    have hfinite : AllFinite (.map es) ↔ MembersHold AllFinite c r := by
      rw [← hline.forall_iff AllFinite (fun s _ => Json.allFinite_str s) fun v hv =>
        (troubleMember_plainForm _ v hv).2, Json.allFinite_map]
    refine ⟨hwritten.oneLine, ?_, ?_⟩
    · have hsome : (Json.decode? true line).isSome = true := (hwritten.isSome true).mpr (.inl rfl)
      obtain ⟨ms, hms, hall⟩ := hwritten.members true hline.texts hline.distinct hsome
      refine ⟨ms, hms, fun name hname hne hnull => ?_⟩
      have hmem : name ∈ fieldNames := by
        rcases hname with rfl | rfl <;> decide
      -- what gives null is there as null, and null is read as null
      have hunder : es.get? (.str name) = some .none := by
        rw [hline.get?, lastUnder_field now c r hmem, fieldMember_of_ok hne hnull]
        rfl
      obtain ⟨w, hw, has⟩ := get?_of_forall₂ hall hunder
      rw [hw, has.plain Json.isPlain_none]
    · rw [hwritten.isSome false, hfinite]
      simp
  · rw [hjson]
    refine ⟨⟨nofun, fun h => absurd h hform⟩, ?_, nofun⟩
    rintro e ⟨rfl⟩
    exact he

/-- A record of a process that ended, it says, with infinity. -/
def endless : Record :=
  { logger := "test.logger", level := info, message := "m",
    extras := [(.str "exit_code", .float (.infinite false))] }

/-- A day in January. -/
def january : DateTime := ⟨⟨2026, 1, 5⟩, 14, 30, 7, 123456, none⟩

/-- It has no line, though a field that is no number is null elsewhere. -/
theorem jsonLine_endless :
    (∀ x, endless.extras.field "exit_code" = .float x → x.IsCanonical) ∧
    (¬ ∃ line, jsonLine january {} endless = .ok line) ∧
    jsonLine january {} endless = .error (.mismatch .outOfRange) := by
  have hfield : endless.extras.field "exit_code" = .float (.infinite false) := by
    unfold endless
    rw [Entries.field_cons_str, if_pos rfl]
  have hcanonical : ∀ x, endless.extras.field "exit_code" = .float x → x.IsCanonical := by
    intro x hx
    rw [hfield] at hx
    obtain rfl := Value.float.inj hx
    trivial
  have hformats := jsonLine_formats january {} endless hcanonical
  refine ⟨hcanonical, fun hline => (hformats.1.mp hline).exitCode_finite false hfield, ?_⟩
  rcases entry_cases january {} endless with
    ⟨hconverts, -⟩ | ⟨name, -, e, hfailed, hentry⟩ | ⟨f, e, huntold, -⟩
  · exact absurd hfield (((converts_iff endless).mp hconverts.1).1 false)
  · show (entry january {} endless >>= _) = _
    rw [hentry, fieldValue_error hfailed]
    rfl
  · exact nomatch huntold

end Log

end SecureStartup
