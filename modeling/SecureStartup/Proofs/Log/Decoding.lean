import SecureStartup.Proofs.Log.Formatting
import SecureStartup.Proofs.Log.Redaction

/-!
  What a log line decodes to.

  1. **Program** — `JSONFormatter.format`: what every record has (`_base_log_entry`), the context
     (`_inject_context`), the place in the source for some levels, the known fields of the record
     (`_inject_extra_fields`), and its failure (`_inject_exception`), written on one line.

  2. **Specification** — a record whose fields are values that JSON has itself is written on a line that
     says all of it: the line is read as an object with exactly the members that the record calls for
     (`LineMembers`).

  3. **Texts** — everything that comes into a line is spelled like what comes into the program: the time,
     the level, the place in the source, and URLs without their credentials (`isSpelled_redact`).

  4. **Values** — a field that is plain stays so when it is converted, as long as the conversion gives a
     finite number or null, and so the members of the line are read as they were written.

  5. **Names** — what is under a name is the last thing that was set there, and nothing but the known
     fields is ever set (`jsonLine_congr`).

  `jsonLine_decodes` puts these together.  That numbers are not too long is part of "plain": JSON has such
  numbers, and the program cannot write them (`jsonLine_decodes_limits`).
-/

namespace SecureStartup

namespace Log

open Text (IsSpelled IsUsual OneLine isSpelled_nil isSpelled_of_usual isSpelled_of_all)
open Json (AllFinite IsPlain IsShort)
open Entries (lastUnder)

/-! ## Texts -/

/-- **A text without sensitive values** spells codes as the text did.  By induction on its length, code
    by code. -/
theorem isSpelled_redact {s : List Char} (h : IsSpelled s) : IsSpelled (redact s) := by
  induction hn : s.length using Nat.strongRecOn generalizing s with
  | ind n ih =>
    have hrest : ∀ r : List Char, r.length < s.length → IsSpelled r → IsSpelled (redact r) :=
      fun r hlt hr => ih r.length (hn ▸ hlt) hr rfl
    rcases h.cases with rfl | ⟨k, r, hk, rfl, hr⟩
    · rw [redact]
      exact isSpelled_nil
    -- A code is one character, which may be a delimiter, or the mark and one that is not.
    · rcases Text.spell_cases hk with ⟨c, hc, -⟩ | ⟨c, hc, hfar⟩
      · rw [hc] at hrest ⊢
        by_cases hd : c = '?' ∨ c = '&'
        · have hdelimiter : IsUsual c := by
            rcases hd with rfl | rfl <;> decide
          rcases hsensitive : sensitive? r with _ | ⟨name, rest⟩
          · show IsSpelled (redact (c :: r))
            rw [redact_cons_none hd hsensitive]
            exact (hrest r (by simp) hr).cons hdelimiter
          · -- the value is cut out between the sign in front of it and the next delimiter
            obtain ⟨rfl, -⟩ := sensitive?_eq_some_iff.mp hsensitive
            obtain ⟨hname, hvalue⟩ := hr.cut (c := '=') (by decide)
            have hbehind : IsSpelled (rest.dropWhile (· != '&')) := by
              refine hvalue.dropWhile fun c hc => ?_
              rw [show c = '&' by simpa using hc]
              decide
            have hlt : (rest.dropWhile (· != '&')).length < ([c] ++ (name ++ '=' :: rest)).length := by
              have hle := (List.dropWhile_sublist (l := rest) (· != '&')).length_le
              simp only [List.length_append, List.length_cons]
              omega
            show IsSpelled (redact (c :: (name ++ '=' :: rest)))
            rw [redact_cons_some hd hsensitive, List.append_assoc]
            have hmark : IsSpelled mark := isSpelled_of_all (by decide)
            exact (hname.append ((hmark.append (hrest _ hlt hbehind)).cons (by decide))).cons hdelimiter
        · show IsSpelled (redact (c :: r))
          rw [redact_cons_plain hd]
          have hone := Text.isSpelled_spell hk
          rw [hc] at hone
          exact hone.append (hrest r (by simp) hr)
      · -- neither of the two characters of a code is a delimiter
        have hone := Text.isSpelled_spell hk
        rw [hc] at hrest hone ⊢
        have hplain : ¬ (c = '?' ∨ c = '&') := by
          rintro (rfl | rfl) <;> exact absurd hfar (by decide)
        show IsSpelled (redact (Text.mark :: c :: r))
        rw [redact_cons_plain (by decide), redact_cons_plain hplain]
        have hlt : r.length < ([Text.mark, c] ++ r).length := by
          rw [List.length_append]
          exact Nat.lt_add_of_pos_left Nat.two_pos
        exact hone.append (hrest r hlt hr)

theorem isSpelled_digits {ds : List Char} (h : ∀ c ∈ ds, Text.isAsciiDigit c = true) : IsSpelled ds := by
  refine isSpelled_of_usual fun c hc => ?_
  have hdigit := h c hc
  simp only [Text.isAsciiDigit, Bool.and_eq_true, decide_eq_true_eq, Char.le_def,
    UInt32.le_iff_toNat_le] at hdigit
  exact Nat.lt_of_le_of_lt hdigit.2 (by decide)

theorem isSpelled_padded (width n : Nat) : IsSpelled (Text.padded width n) := by
  refine isSpelled_digits fun c hc => ?_
  rcases List.mem_append.mp hc with h | h
  · exact Text.isAsciiDigit_of_mem_zeros h
  · exact (Text.toDigits_isDigits n).digits c h

theorem isSpelled_millisUtc (now : DateTime) : IsSpelled now.millisUtc.toList := by
  have hdate : IsSpelled now.date.logText :=
    (isSpelled_padded _ _).append (((isSpelled_padded _ _).append
      ((isSpelled_padded _ _).cons (by decide))).cons (by decide))
  have hseconds : IsSpelled now.seconds :=
    (isSpelled_padded _ _).append (((isSpelled_padded _ _).append
      ((isSpelled_padded _ _).cons (by decide))).cons (by decide))
  have hend : IsSpelled (Text.padded 3 (now.micro / 1000) ++ ['Z']) :=
    (isSpelled_padded _ _).append (isSpelled_of_all (by decide))
  unfold DateTime.millisUtc
  rw [String.toList_ofList, List.append_assoc, List.append_assoc]
  exact hdate.append ((hseconds.append (hend.cons (by decide))).cons (by decide))

theorem isSpelled_toString (i : Int) : IsSpelled (toString i).toList := by
  have hdigits : IsSpelled (Nat.toDigits 10 i.natAbs) :=
    isSpelled_digits (Text.toDigits_isDigits i.natAbs).digits
  rw [Json.toList_toString]
  split
  · exact hdigits.cons (by decide)
  · exact hdigits

theorem isSpelled_levelName (level : Int) : IsSpelled (levelName level).toList := by
  unfold levelName
  split_ifs
  · exact isSpelled_of_all (by decide)
  · exact isSpelled_of_all (by decide)
  · exact isSpelled_of_all (by decide)
  · exact isSpelled_of_all (by decide)
  · exact isSpelled_of_all (by decide)
  · exact isSpelled_of_all (by decide)
  · have hword : IsSpelled "Level ".toList := isSpelled_of_all (by decide)
    rw [String.toList_append]
    exact hword.append (isSpelled_toString level)

/-- The place in the source: the name of a file, and a line. -/
theorem isSpelled_place {file : String} (h : IsSpelled file.toList) (line : Int) :
    IsSpelled (s!"{baseName file}:{line}").toList := by
  have hname : IsSpelled (baseName file).toList := by
    unfold baseName
    rw [String.toList_ofList]
    cases hlast : (Text.splitOn '/' file.toList).getLast? with
    | none => exact isSpelled_nil
    | some piece => exact h.of_mem_splitOn (by decide) piece (List.mem_of_getLast? hlast)
  rw [String.toList_append, String.toList_append]
  exact (hname.append (isSpelled_of_all (by decide))).append (isSpelled_toString line)

/-! ## Values -/

/-- **Records of plain values.**  There is no failure to report, and each numeric field is converted to a
    finite number, or to null. -/
structure PlainRecord (c : Context) (r : Record) : Prop where
  untroubled : r.trouble = .absent
  logger : IsSpelled r.logger.toList
  message : IsSpelled r.message.toList
  file : IsSpelled r.file.toList
  field : ∀ name ∈ fieldNames, IsPlain (r.extras.field name)
  duration : ∃ w, toDouble (r.extras.field "duration_ms") = .ok w ∧ AllFinite w
  exitCode : ∃ w, toInteger (r.extras.field "exit_code") = .ok w
  cluster : c.cluster.truthy = true → IsPlain c.cluster
  component : c.component.truthy = true → IsPlain c.component
  trace : c.trace.truthy = true → IsPlain c.trace

section

variable {c : Context} {r : Record} (h : PlainRecord c r)
include h

theorem PlainRecord.converts : Converts r := by
  obtain ⟨w, hw, -⟩ := h.duration
  exact (converts_iff r).mpr ⟨toInteger_isOk_iff.mp h.exitCode, toDouble_isOk_iff.mp ⟨w, hw⟩⟩

theorem PlainRecord.told : r.trouble.IsTold := by
  rw [h.untroubled]
  trivial

/-- A double in a plain field has the form of one. -/
theorem PlainRecord.canonical {name : String} (hname : name ∈ fieldNames) (x : Binary64)
    (hx : r.extras.field name = .float x) : x.IsCanonical := by
  have hplain := h.field name hname
  rw [hx] at hplain
  exact hplain.own.2

/-- **All members of its line are plain.** -/
theorem PlainRecord.membersHold : MembersHold IsPlain c r := by
  have hothers : OthersHold IsPlain c r :=
    ⟨fun name hname _ _ => h.field name hname, h.cluster, h.component, fun htrace _ => h.trace htrace⟩
  refine hothers.members (fun w hw => ?_) (fun w hw => ?_) fun s hs => ?_
  · obtain ⟨w', hw', hfinite⟩ := h.duration
    obtain rfl := Except.ok.inj (hw'.symm.trans hw)
    exact toDouble_plain hw (h.canonical (by decide)) hfinite
  · refine toInteger_plain hw (h.canonical (by decide)) fun i hi => ?_
    have hplain := h.field "exit_code" (by decide)
    rw [hi] at hplain
    exact hplain.own
  · refine Json.isPlain_str ?_
    unfold redactUrl
    rw [String.toList_ofList]
    exact isSpelled_redact hs.own

theorem PlainRecord.startTexts (now : DateTime) : ∀ s ∈ startTexts now r, IsPlain (.str s) := by
  intro s hs
  simp only [Log.startTexts, List.mem_cons, List.not_mem_nil, or_false] at hs
  refine Json.isPlain_str ?_
  rcases hs with rfl | rfl | rfl | rfl | rfl
  · exact isSpelled_millisUtc now
  · exact isSpelled_levelName r.level
  · exact h.logger
  · exact h.message
  · exact isSpelled_place h.file r.line

end

/-! ## Names -/

/-- What is there. -/
def known : Value → Option Value
  | .none => none
  | v => some v

/-- What is there, converted. -/
def converted (f : Value → Except Failure Value) : Value → Option Value
  | .none => none
  | v => (f v).toOption

/-- What is there, without credentials. -/
def redacted : Value → Option Value
  | .none => none
  | .str s => some (.str (redactUrl s))
  | v => some v

/-- **The members of a line**, name by name. -/
structure LineMembers (now : DateTime) (c : Context) (r : Record) (ms : Entries) : Prop where
  distinct : ms.Distinct
  named : ms.Named
  time : ms.get? (.str "ts") = some (.str now.millisUtc)
  level : ms.get? (.str "level") = some (.str (levelName r.level))
  logger : ms.get? (.str "logger") = some (.str r.logger)
  message : ms.get? (.str "message") = some (.str r.message)
  cluster : ms.get? (.str "cluster_name") = given c.cluster
  component : ms.get? (.str "component") = given c.component
  /-- The record's trace counts before the context's. -/
  trace : ms.get? (.str "trace_id") = (known (r.extras.field "trace_id")).or (given c.trace)
  place : ms.get? (.str "file") =
    if r.level = debug ∨ r.level = error ∨ r.level = critical then
      some (.str s!"{baseName r.file}:{r.line}")
    else none
  duration : ms.get? (.str "duration_ms") = converted toDouble (r.extras.field "duration_ms")
  exitCode : ms.get? (.str "exit_code") = converted toInteger (r.extras.field "exit_code")
  url : ∀ name, name = "shared_fs_url" ∨ name = "remote_path" →
    ms.get? (.str name) = redacted (r.extras.field name)
  field : ∀ name ∈ fieldNames,
    name ∉ ["trace_id", "duration_ms", "exit_code", "shared_fs_url", "remote_path"] →
    ms.get? (.str name) = known (r.extras.field name)
  /-- Nothing else is there. -/
  other : ∀ name, name ∉ startNames → name ∉ fieldNames → ms.get? (.str name) = none

/-- A field as it is converted. -/
theorem fieldMember_converted {r : Record} {name : String} {f : Value → Except Failure Value}
    (h : ∀ v, fieldValue name v = f v) : fieldMember r name = converted f (r.extras.field name) := by
  unfold fieldMember converted
  generalize r.extras.field name = v
  cases v with
  | none => rfl
  | _ => exact congrArg Except.toOption (h _)

theorem fieldMember_url {r : Record} {name : String}
    (h : name = "shared_fs_url" ∨ name = "remote_path") :
    fieldMember r name = redacted (r.extras.field name) := by
  rcases h with rfl | rfl <;>
  · unfold fieldMember redacted
    cases r.extras.field _ <;> rfl

/-- The names of fields that are written as they are. -/
theorem fieldValue_known {name : String}
    (h : name ∉ ["duration_ms", "exit_code", "shared_fs_url", "remote_path"]) (v : Value) :
    fieldValue name v = .ok v := by
  simp only [List.mem_cons, List.not_mem_nil, or_false, not_or] at h
  obtain ⟨hd, hc, hu, hp⟩ := h
  unfold fieldValue
  rw [if_neg (by simpa using hd), if_neg (by simpa using hc), if_neg (by simp [hu, hp])]

theorem fieldMember_known {r : Record} {name : String}
    (h : name ∉ ["duration_ms", "exit_code", "shared_fs_url", "remote_path"]) :
    fieldMember r name = known (r.extras.field name) := by
  unfold fieldMember known
  generalize r.extras.field name = v
  cases v with
  | none => rfl
  | _ => exact congrArg Except.toOption (fieldValue_known h _)

/-- **A line has its members.** -/
theorem LineOf.members {now : DateTime} {c : Context} {r : Record} {es : Entries}
    (h : LineOf now c r es) (htrouble : r.trouble = .absent) : LineMembers now c r es := by
  -- What every record has is under its own name, the trace apart, which a field may set as well.
  have hstart : ∀ name o, (name, o) ∈ startFields now c r → name ≠ "trace_id" →
      es.get? (.str name) = o :=
    fun name o hmem hne => (h.get? name).trans (lastUnder_start (f := (name, o)) hmem hne)
  have hfield : ∀ name ∈ fieldNames, name ≠ "trace_id" → es.get? (.str name) = fieldMember r name := by
    intro name hname hne
    rw [h.get?, lastUnder_field now c r hname, lastUnder_startFields now c r hname, if_neg hne,
      Option.or_none]
  refine ⟨h.distinct, fun e he => ?_, ?_, ?_, ?_, ?_, ?_, ?_, ?_, ?_, ?_, ?_, fun name hname => ?_,
    fun name hname hplain => ?_, fun name hs hf => ?_⟩
  · obtain ⟨s, hs, -⟩ := h.texts e he
    exact ⟨s, hs⟩
  · exact hstart _ _ (by simp [startFields]) (by decide)
  · exact hstart _ _ (by simp [startFields]) (by decide)
  · exact hstart _ _ (by simp [startFields]) (by decide)
  · exact hstart _ _ (by simp [startFields]) (by decide)
  · exact hstart _ _ (by simp [startFields]) (by decide)
  · exact hstart _ _ (by simp [startFields]) (by decide)
  · rw [h.get?, lastUnder_field now c r (by decide), lastUnder_startFields now c r (by decide),
      if_pos rfl, fieldMember_known (by decide)]
  · have hshows : showsPlace r.level = true ↔
        r.level = debug ∨ r.level = error ∨ r.level = critical := by
      simp [showsPlace, or_assoc]
    have hmem : ("file", if showsPlace r.level then some (Value.str s!"{baseName r.file}:{r.line}")
        else none) ∈ startFields now c r := by
      unfold startFields
      exact List.mem_of_getLast? rfl
    rw [hstart _ _ hmem (by decide)]
    simp only [hshows]
  · rw [hfield "duration_ms" (by decide) (by decide)]
    exact fieldMember_converted fieldValue_duration
  · rw [hfield "exit_code" (by decide) (by decide)]
    exact fieldMember_converted fieldValue_exitCode
  · have hmem : name ∈ fieldNames ∧ name ≠ "trace_id" := by
      rcases hname with rfl | rfl <;> decide
    rw [hfield name hmem.1 hmem.2, fieldMember_url hname]
  · obtain ⟨htrace, hrest⟩ := List.ne_and_not_mem_of_not_mem_cons hplain
    rw [hfield name hname htrace, fieldMember_known hrest]
  · have hnone : lastUnder name (startFields now c r) = none := by
      refine Entries.lastUnder_eq_none fun f hf heq => hs ?_
      exact heq ▸ List.mem_map_of_mem (f := (·.1)) hf
    rw [h.get?, lastUnder_lineFields, if_neg hf, hnone, htrouble]
    split <;> rfl

/-- **Only the known fields count.** -/
theorem jsonLine_congr (now : DateTime) (c : Context) {r : Record} {extras : Entries}
    (h : ∀ name ∈ fieldNames, extras.field name = r.extras.field name) :
    jsonLine now c { r with extras := extras } = jsonLine now c r := by
  have hfields : ({ r with extras := extras } : Record).fields = r.fields := by
    refine List.filterMap_congr fun name hname => ?_
    have hext : ({ r with extras := extras } : Record).extras.field name = r.extras.field name :=
      h name hname
    show there { r with extras := extras } name = there r name
    unfold there
    rw [hext]
  unfold jsonLine entry
  rw [hfields]

/-! ## The line -/

/-- A plain record has a line, which is read as an object with its members. -/
theorem PlainRecord.line (now : DateTime) {c : Context} {r : Record} (h : PlainRecord c r) :
    ∃ line ms, jsonLine now c r = .ok line ∧ OneLine line.toList ∧
      (∀ words, Json.decode? words line = some (.map ms)) ∧ LineMembers now c r ms := by
  have hplain := h.membersHold
  rcases jsonLine_cases now c r with ⟨-, es, line, hline, hjson, hwritten⟩ | ⟨hform, -⟩
  · have htrouble : ∀ v, troubleMember r.trouble = some v → IsPlain v := by
      rw [h.untroubled]
      exact nofun
    have hmembers := (hline.forall_iff IsPlain (h.startTexts now) htrouble).mpr hplain
    have hes : IsPlain (.map es) :=
      .intro ⟨hline.texts, hline.distinct⟩ (List.forall_mem_map.mpr hmembers)
    exact ⟨line, es, hjson, hwritten.oneLine, fun words => hwritten.plain words hes,
      hline.members h.untroubled⟩
  · exact absurd ⟨⟨h.converts, h.told⟩, hplain.imp fun v hv => hv.hasForm⟩ hform

/-- **A line decodes to its entry.**  It is one line, and is read as an object with the members of the
    record and no others, whether infinite numbers are accepted or not.  No other field makes a
    difference. -/
theorem jsonLine_decodes (now : DateTime) {c : Context} {r : Record} (h : PlainRecord c r) :
    ∃ line ms, jsonLine now c r = .ok line ∧ OneLine line.toList ∧
      (∀ words, Json.decode? words line = some (.map ms)) ∧ LineMembers now c r ms ∧
      ∀ extras : Entries, (∀ name ∈ fieldNames, extras.field name = r.extras.field name) →
        jsonLine now c { r with extras := extras } = .ok line := by
  obtain ⟨line, ms, hjson, hone, hread, hmembers⟩ := h.line now
  exact ⟨line, ms, hjson, hone, hread, hmembers,
    fun extras hextras => (jsonLine_congr now c hextras).trans hjson⟩

/-- A record with a trace of its own, a message of two lines, and a field that is not known. -/
def twoLines : Record :=
  { logger := "test.logger", level := error, message := "a\n\"b\"",
    extras := [(.str "trace_id", .str "own"), (.str "exit_code", .str " 7 "),
      (.str "duration_ms", .float (.finite false 4503599627370496 (-52))), (.str "stray", .int 3)],
    file := "src/test.py", line := 42 }

theorem twoLines_fields :
    twoLines.extras.field "trace_id" = .str "own" ∧ twoLines.extras.field "exit_code" = .str " 7 " ∧
    twoLines.extras.field "duration_ms" = .float (.finite false 4503599627370496 (-52)) := by
  unfold twoLines
  simp [Entries.field_cons_str]

theorem twoLines_plain : PlainRecord { trace := .str "given" } twoLines := by
  obtain ⟨-, hcode, hduration⟩ := twoLines_fields
  have hascii : ∀ s : String, (s.toList.all fun c => decide (IsUsual c)) = true → IsPlain (.str s) :=
    fun s hs => Json.isPlain_str (isSpelled_of_all hs)
  have hfloat : IsPlain (.float (.finite false 4503599627370496 (-52))) :=
    (Value.throughout_of_isAtom rfl).mpr ⟨trivial, by decide, by decide, by decide, .inl (by decide)⟩
  refine ⟨rfl, isSpelled_of_all (by decide), isSpelled_of_all (by decide),
    isSpelled_of_all (by decide), fun name hname => ?_, ?_, ?_, nofun, nofun,
    fun _ => hascii "given" (by decide)⟩
  · unfold twoLines
    simp only [Entries.field_cons_str, Entries.field_nil]
    split_ifs with htrace hexit hdur hstray
    · exact hascii "own" (by decide)
    · exact hascii " 7 " (by decide)
    · exact hfloat
    · rw [← hstray] at hname
      exact absurd hname (by decide)
    · exact Json.isPlain_none
  · rw [hduration]
    exact ⟨_, rfl, hfloat.allFinite⟩
  · rw [hcode]
    exact ⟨_, rfl⟩

/-- **Its line says all of it**, and nothing of the field that is not known. -/
theorem jsonLine_twoLines :
    PlainRecord { trace := .str "given" } twoLines ∧
    ∃ (line : String) (ms : Entries),
      jsonLine january { trace := .str "given" } twoLines = .ok line ∧
      Json.decode? false line = some (.map ms) ∧
      Entries.get? ms (.str "message") = some (.str "a\n\"b\"") ∧
      Entries.get? ms (.str "trace_id") = some (.str "own") ∧
      Entries.get? ms (.str "exit_code") = some (.int 7) ∧
      Entries.get? ms (.str "stray") = none := by
  obtain ⟨line, ms, hjson, -, hread, hmembers, -⟩ := jsonLine_decodes january twoLines_plain
  refine ⟨twoLines_plain, line, ms, hjson, hread false, hmembers.message, ?_, ?_, ?_⟩
  · rw [hmembers.trace, twoLines_fields.1]
    rfl
  · rw [hmembers.exitCode, twoLines_fields.2.1]
    rfl
  · exact hmembers.other "stray" (by decide) (by decide)

/-- A record with one field. -/
def single (name : String) (v : Value) : Record :=
  { logger := "test.logger", level := info, message := "m", extras := [(.str name, v)] }

theorem single_field (name other : String) (v : Value) :
    (single name v).extras.field other = if name = other then v else .none := by
  unfold single
  rw [Entries.field_cons_str]
  rfl

/-- The address of a service, with a token. -/
def addressWithToken : Value := .str "http://nn/?token=abc"

theorem single_plain : PlainRecord {} (single "remote_path" (.list [addressWithToken])) := by
  have haddress : IsPlain addressWithToken := Json.isPlain_str (isSpelled_of_all (by decide))
  have hlist : IsPlain (.list [addressWithToken]) :=
    .intro trivial fun v hv => List.mem_singleton.mp hv ▸ haddress
  refine ⟨rfl, isSpelled_of_all (by decide), isSpelled_of_all (by decide),
    isSpelled_of_all (by decide), fun name _ => ?_, ?_, ?_, nofun, nofun, nofun⟩
  · rw [single_field]
    split
    · exact hlist
    · exact Json.isPlain_none
  · rw [single_field, if_neg (by decide)]
    exact ⟨_, rfl, Json.allFinite_none⟩
  · rw [single_field, if_neg (by decide)]
    exact ⟨_, rfl⟩

/-- **Not every value that JSON has itself is written as it should be.**  A whole number can be too long
    to be written; and a list in the place of a URL is written with the credentials in it. -/
theorem jsonLine_decodes_limits :
    (¬ ∃ line, jsonLine january {} (single "exit_code" (.int Value.numberBound)) = .ok line) ∧
    ∃ (line : String) (ms : Entries),
      jsonLine january {} (single "remote_path" (.list [addressWithToken])) = .ok line ∧
      Json.decode? false line = some (.map ms) ∧
      Entries.get? ms (.str "remote_path") = some (.list [addressWithToken]) := by
  constructor
  · have hcode : (single "exit_code" (.int Value.numberBound)).extras.field "exit_code" =
        .int Value.numberBound := (single_field _ _ _).trans (if_pos rfl)
    rintro ⟨line, hline⟩
    rcases jsonLine_cases january {} (single "exit_code" (.int Value.numberBound)) with
      ⟨⟨-, hmembers⟩, -⟩ | ⟨-, e, herror, -⟩
    · have hthere : fieldMember (single "exit_code" (.int Value.numberBound)) "exit_code" =
          some (.int Value.numberBound) := by
        rw [fieldMember_eq_some_iff, hcode]
        exact ⟨nofun, rfl⟩
      have hshort : IsShort Value.numberBound := (hmembers.field _ (by decide) _ hthere).own
      unfold IsShort at hshort
      rw [Int.natAbs_natCast] at hshort
      exact absurd hshort (Nat.lt_irrefl _)
    · rw [hline] at herror
      exact nomatch herror
  · obtain ⟨line, ms, hjson, -, hread, hmembers⟩ := single_plain.line january
    refine ⟨line, ms, hjson, hread false, ?_⟩
    rw [hmembers.url _ (.inr rfl), single_field, if_pos rfl]
    rfl

end Log

end SecureStartup
