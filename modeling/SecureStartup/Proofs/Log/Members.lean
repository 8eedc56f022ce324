import SecureStartup.Proofs.Log.Line

/-!
  What a log line has under its names.

  1. **Program** — `JSONFormatter.format` sets members of one mapping, one after another: what every
     record has, what the context has, the record's own fields, and its failure (`lineFields`).  Most of
     them are left out when there is nothing to set.

  2. **Under each name** — so a line has no name twice, and under each name the last field that is there
     (`entry_cases`).  The trace is the one name that both the context and a record may set, and then the
     record's counts.

  3. **All members at once** — what holds of every member of a line is asked of the context, of the fields
     as they are written, and of a few texts (`membersHold_iff`).
-/

namespace SecureStartup

namespace Entries

/-- The fields that are there. -/
def present (fields : List (String × Option Value)) : List (String × Value) :=
  fields.filterMap fun f => f.2.map (f.1, ·)

/-- What fields have under a name: the last one that is there. -/
def lastUnder (name : String) : List (String × Option Value) → Option Value
  | [] => none
  | f :: fields => (lastUnder name fields).or (if f.1 = name then f.2 else none)

theorem lastUnder_append (name : String) (fields more : List (String × Option Value)) :
    lastUnder name (fields ++ more) = (lastUnder name more).or (lastUnder name fields) := by
  induction fields with
  | nil => rw [List.nil_append, lastUnder, Option.or_none]
  | cons f fields ih => rw [List.cons_append, lastUnder, ih, lastUnder, Option.or_assoc]

/-- No field has the name. -/
theorem lastUnder_eq_none {name : String} {fields : List (String × Option Value)}
    (h : ∀ f ∈ fields, f.1 ≠ name) : lastUnder name fields = none := by
  induction fields with
  | nil => rfl
  | cons f fields ih =>
    obtain ⟨hf, hfields⟩ := List.forall_mem_cons.mp h
    rw [lastUnder, ih hfields, if_neg hf]
    rfl

/-- A field with a name of its own. -/
theorem lastUnder_of_mem {fields : List (String × Option Value)} (h : (fields.map (·.1)).Nodup)
    {f : String × Option Value} (hf : f ∈ fields) : lastUnder f.1 fields = f.2 := by
  induction fields with
  | nil => exact nomatch hf
  | cons g fields ih =>
    rw [List.map_cons, List.nodup_cons, List.mem_map] at h
    obtain ⟨hg, hfields⟩ := h
    rw [lastUnder]
    rcases List.mem_cons.mp hf with rfl | hf
    · rw [lastUnder_eq_none fun f' hf' heq => hg ⟨f', hf', heq⟩, if_pos rfl]
      rfl
    · rw [ih hfields hf, if_neg fun heq => hg ⟨f, hf, heq.symm⟩, Option.or_none]

/-- What is under a name is a field with that name. -/
theorem mem_of_lastUnder {fields : List (String × Option Value)} {name : String} {v : Value}
    (h : lastUnder name fields = some v) : (name, some v) ∈ fields := by
  induction fields with
  | nil => exact nomatch h
  | cons f fields ih =>
    rw [lastUnder, Option.or_eq_some_iff] at h
    rcases h with h | ⟨-, h⟩
    · exact List.mem_cons_of_mem f (ih h)
    · split at h
      · next heq => exact List.mem_cons.mpr (.inl (Prod.ext heq.symm h.symm))
      · exact nomatch h

/-- Named fields, each with a name of its own. -/
theorem lastUnder_map {names : List String} (h : names.Nodup) (f : String → Option Value)
    (name : String) : lastUnder name (names.map fun n => (n, f n)) =
      if name ∈ names then f name else none := by
  split
  · next hname =>
    have hnodup : ((names.map fun n => (n, f n)).map (·.1)).Nodup := by
      rw [List.map_map]
      exact (List.map_id names).symm ▸ h
    exact lastUnder_of_mem hnodup (List.mem_map_of_mem (f := fun n => (n, f n)) hname)
  · next hname =>
    refine lastUnder_eq_none fun g hg heq => hname ?_
    obtain ⟨n, hn, rfl⟩ := List.mem_map.mp hg
    exact heq ▸ hn

/-- Setting the value of a name leaves no key twice. -/
theorem Distinct.insert_str {es : Entries} (h : Distinct es) (name : String) (v : Value) :
    Distinct (Entries.insert es (.str name) v) := by
  have hkeys : (keys (Entries.insert es (.str name) v)).Pairwise fun k k' => k.same k' = false := by
    have hold : (keys es).Pairwise fun k k' => k.same k' = false := List.pairwise_map.mpr h
    rw [keys_insert]
    split
    · exact hold
    · next hnew =>
      refine List.pairwise_append.mpr ⟨hold, List.pairwise_singleton _ _, ?_⟩
      intro k hk k' hk'
      obtain ⟨e, he, rfl⟩ := List.mem_map.mp hk
      rw [List.mem_singleton.mp hk', Bool.eq_false_iff]
      exact fun hsame => hnew (List.any_eq_true.mpr ⟨e, he, hsame⟩)
  exact List.pairwise_map.mp hkeys

/-- Keys that are names. -/
def Named (es : Entries) : Prop := es.Keyed fun k => ∃ s, k = .str s

/-- A pair of named values is what is under its name. -/
theorem get?_str_of_mem {es : Entries} (h : Distinct es) {name : String} {v : Value}
    (hmem : (.str name, v) ∈ es) : get? es (.str name) = some v := by
  have hself : (Value.str name).same (.str name) = true := by
    rw [Value.same_str]
    exact beq_self_eq_true name
  exact get?_of_mem h hself hmem

/-- **Fields set one after another**: none is there twice, and under a name is the last one that is there,
    or what was there before. -/
theorem foldl_insert_present (fields : List (String × Option Value)) {es : Entries} (h : es.Distinct)
    (hnamed : es.Named) :
    ((present fields).foldl (fun es f => Entries.insert es (.str f.1) f.2) es).Distinct ∧
    ((present fields).foldl (fun es f => Entries.insert es (.str f.1) f.2) es).Named ∧
    ∀ name,
      get? ((present fields).foldl (fun es f => Entries.insert es (.str f.1) f.2) es) (.str name) =
        (lastUnder name fields).or (get? es (.str name)) := by
  induction fields generalizing es with
  | nil => exact ⟨h, hnamed, fun _ => rfl⟩
  | cons f fields ih =>
    obtain ⟨n, o⟩ := f
    cases o with
    | none =>
      obtain ⟨hd, hk, hget⟩ := ih h hnamed
      refine ⟨hd, hk, fun name => (hget name).trans ?_⟩
      rw [lastUnder, Option.or_assoc]
      split <;> rfl
    | some v =>
      obtain ⟨hd, hk, hget⟩ := ih (h.insert_str n v) (hnamed.insert ⟨n, rfl⟩ v)
      refine ⟨hd, hk, fun name => (hget name).trans ?_⟩
      rw [get?_insert_str, Value.same_str, lastUnder, Option.or_assoc]
      by_cases hn : n = name
      · rw [if_pos hn, if_pos (beq_iff_eq.mpr hn)]
        rfl
      · rw [if_neg hn, if_neg (mt beq_iff_eq.mp hn)]
        rfl

end Entries

namespace Log

open Entries (present lastUnder lastUnder_append lastUnder_eq_none lastUnder_of_mem mem_of_lastUnder
  lastUnder_map)

/-- What is given. -/
def given (v : Value) : Option Value := if v.truthy then some v else none

/-- What a line begins with, as far as it is there. -/
def startFields (now : DateTime) (c : Context) (r : Record) : List (String × Option Value) :=
  [("ts", some (.str now.millisUtc)), ("level", some (.str (levelName r.level))),
    ("logger", some (.str r.logger)), ("message", some (.str r.message)),
    ("cluster_name", given c.cluster), ("component", given c.component), ("trace_id", given c.trace),
    ("file", if showsPlace r.level then some (.str s!"{baseName r.file}:{r.line}") else none)]

/-- What a line has of a record's field: nothing, or the value it is written with. -/
def fieldMember (r : Record) (name : String) : Option Value :=
  match r.extras.field name with
  | .none => none
  | v => (fieldValue name v).toOption

/-- **The fields of a line**, in the order in which they are set. -/
def lineFields (now : DateTime) (c : Context) (r : Record) : List (String × Option Value) :=
  startFields now c r ++ (fieldNames.map fun name => (name, fieldMember r name)) ++
    [("exception", troubleMember r.trouble)]

theorem present_append (fields more : List (String × Option Value)) :
    present (fields ++ more) = present fields ++ present more := List.filterMap_append

theorem present_given (fields : List (String × Value)) :
    present (fields.map fun f => (f.1, given f.2)) = fields.filter fun f => f.2.truthy := by
  unfold present
  rw [List.filterMap_map, ← List.filterMap_eq_filter]
  refine List.filterMap_congr fun f _ => ?_
  unfold given
  by_cases hf : f.2.truthy = true <;> simp [hf, Option.guard]

theorem lineStart_eq (now : DateTime) (c : Context) (r : Record) :
    lineStart now c r = (present (startFields now c r)).map fun f => (.str f.1, f.2) := by
  have hparts : startFields now c r =
      [("ts", some (.str now.millisUtc)), ("level", some (.str (levelName r.level))),
        ("logger", some (.str r.logger)), ("message", some (.str r.message))] ++
      ([("cluster_name", c.cluster), ("component", c.component), ("trace_id", c.trace)].map
        fun f => (f.1, given f.2)) ++
      [("file", if showsPlace r.level then some (.str s!"{baseName r.file}:{r.line}") else none)] := rfl
  rw [hparts, present_append, present_append, present_given, List.map_append, List.map_append]
  unfold lineStart
  cases showsPlace r.level <;> rfl

/-- Every field of a record is converted without failure. -/
def Converts (r : Record) : Prop :=
  ∀ name ∈ fieldNames, ∃ w, fieldValue name (r.extras.field name) = .ok w

/-- Nothing stays nothing. -/
theorem fieldValue_none (name : String) : fieldValue name .none = .ok .none := by
  unfold fieldValue
  split_ifs <;> rfl

/-- A field that is there. -/
def there (r : Record) (name : String) : Option (String × Value) :=
  match r.extras.field name with
  | .none => none
  | v => some (name, v)

theorem there_cases (r : Record) (name : String) :
    (r.extras.field name = .none ∧ there r name = none) ∨
    (r.extras.field name ≠ .none ∧ there r name = some (name, r.extras.field name)) := by
  unfold there
  split
  case h_1 h => exact .inl ⟨h, rfl⟩
  case h_2 h => exact .inr ⟨h, rfl⟩

theorem fieldMember_of_none {r : Record} {name : String} (h : r.extras.field name = .none) :
    fieldMember r name = none := by
  unfold fieldMember
  rw [h]

theorem fieldMember_of_ok {r : Record} {name : String} {w : Value} (hne : r.extras.field name ≠ .none)
    (h : fieldValue name (r.extras.field name) = .ok w) : fieldMember r name = some w := by
  unfold fieldMember
  split
  case h_1 hnone => exact absurd hnone hne
  case h_2 => rw [h]; rfl

/-- **The fields of a record as they are written**, if all are converted; else the failure of one. -/
theorem writtenFields_cases (r : Record) :
    (Converts r ∧ writtenFields r =
      .ok (present (fieldNames.map fun name => (name, fieldMember r name)))) ∨
    (∃ name ∈ fieldNames, ∃ e, fieldValue name (r.extras.field name) = .error e ∧
      writtenFields r = .error e) := by
  have hfields : writtenFields r = (fieldNames.filterMap (there r)).mapM
      fun f => do return (f.1, ← fieldValue f.1 f.2) := rfl
  rw [hfields]
  unfold Converts present
  generalize fieldNames = names
  induction names with
  | nil => exact .inl ⟨nofun, rfl⟩
  | cons name names ih =>
    rw [List.map_cons]
    rcases there_cases r name with ⟨hnone, hthere⟩ | ⟨hne, hthere⟩
    · -- what is not there is neither converted nor written
      rw [List.filterMap_cons_none hthere,
        List.filterMap_cons_none (by rw [fieldMember_of_none hnone]; rfl)]
      rcases ih with ⟨hall, hwritten⟩ | ⟨n, hn, hfailed⟩
      · exact .inl ⟨List.forall_mem_cons.mpr ⟨⟨_, hnone ▸ fieldValue_none name⟩, hall⟩, hwritten⟩
      · exact .inr ⟨n, List.mem_cons_of_mem name hn, hfailed⟩
    · rw [List.filterMap_cons_some hthere, List.mapM_cons]
      cases hvalue : fieldValue name (r.extras.field name) with
      | error e => exact .inr ⟨name, List.mem_cons_self, e, hvalue, rfl⟩
      | ok w =>
        have hmember := fieldMember_of_ok hne hvalue
        rw [List.filterMap_cons_some (b := (name, w)) (by rw [hmember]; rfl)]
        rcases ih with ⟨hall, hwritten⟩ | ⟨n, hn, e, hfailed, hwritten⟩
        · refine .inl ⟨List.forall_mem_cons.mpr ⟨⟨w, hvalue⟩, hall⟩, ?_⟩
          rw [hwritten]
          rfl
        · refine .inr ⟨n, List.mem_cons_of_mem name hn, e, hfailed, ?_⟩
          rw [hwritten]
          rfl

/-- What is there has names among those of all. -/
theorem present_names_sublist (fields : List (String × Option Value)) :
    ((present fields).map (·.1)).Sublist (fields.map (·.1)) := by
  induction fields with
  | nil => exact .refl _
  | cons f fields ih =>
    obtain ⟨n, o⟩ := f
    cases o with
    | none => exact .cons n ih
    | some v => exact ih.cons_cons n

theorem startFields_nodup (now : DateTime) (c : Context) (r : Record) :
    ((startFields now c r).map (·.1)).Nodup := by
  have hnames : (startFields now c r).map (·.1) = startNames := rfl
  rw [hnames]
  decide

/-- What a line begins with is set on an empty one. -/
theorem lineStart_eq_foldl (now : DateTime) (c : Context) (r : Record) :
    lineStart now c r =
      (present (startFields now c r)).foldl (fun es f => Entries.insert es (.str f.1) f.2) [] := by
  have hnodup : ((present (startFields now c r)).map (·.1)).Nodup :=
    (present_names_sublist _).nodup (startFields_nodup now c r)
  have hempty : Entries.Within [] ([] : Entries) := nofun
  rw [hempty.foldl_insert _ (fun _ _ => List.not_mem_nil) hnodup, List.nil_append, lineStart_eq]

/-- **What is under the names of a line**: it has no name twice, and under each of them the last of the
    fields that are there.  There is a line unless one field cannot be converted, or the failure cannot
    say what it is. -/
theorem entry_cases (now : DateTime) (c : Context) (r : Record) :
    ((Converts r ∧ r.trouble.IsTold) ∧ ∃ es, entry now c r = .ok es ∧ es.Distinct ∧ es.Named ∧
      ∀ name, es.get? (.str name) = lastUnder name (lineFields now c r)) ∨
    (∃ name ∈ fieldNames, ∃ e, fieldValue name (r.extras.field name) = .error e ∧
      entry now c r = .error e) ∨
    (∃ f e, r.trouble = .failure f (.error e) ∧ entry now c r = .error e) := by
  rcases writtenFields_cases r with ⟨hall, hwritten⟩ | ⟨name, hname, e, hfailed, hwritten⟩
  · rcases troubleValue_cases r.trouble with ⟨htold, -⟩ | ⟨f, e, hf, he⟩
    swap
    · exact .inr (.inr ⟨f, e, hf, entry_untold now c hwritten he⟩)
    refine .inl ⟨⟨hall, htold⟩, _, entry_eq now c hwritten htold, ?_⟩
    have htrouble : troubleField r.trouble = present [("exception", troubleMember r.trouble)] := by
      unfold troubleField present
      cases troubleMember r.trouble <;> rfl
    rw [htrouble, ← present_append, lineStart_eq_foldl, ← List.foldl_append, ← present_append]
    have hset := Entries.foldl_insert_present (lineFields now c r) (.nil : Entries.Distinct []) nofun
    rw [lineFields, List.append_assoc] at hset ⊢
    refine ⟨hset.1, hset.2.1, fun name => (hset.2.2 name).trans ?_⟩
    rw [Entries.get?_nil, Option.or_none]
  · refine .inr (.inl ⟨name, hname, e, hfailed, ?_⟩)
    show (writtenFields r >>= _) = _
    rw [hwritten]
    rfl

/-! ## Name by name -/

theorem fieldNames_nodup : fieldNames.Nodup := by decide

/-- The failure counts before the fields, and these before what a line begins with. -/
theorem lastUnder_lineFields (now : DateTime) (c : Context) (r : Record) (name : String) :
    lastUnder name (lineFields now c r) =
      (if "exception" = name then troubleMember r.trouble else none).or
        ((if name ∈ fieldNames then fieldMember r name else none).or
          (lastUnder name (startFields now c r))) := by
  unfold lineFields
  rw [lastUnder_append, lastUnder_append, lastUnder_map fieldNames_nodup]
  rfl

/-- Under the name of a field is the field, or what the line began with. -/
theorem lastUnder_field (now : DateTime) (c : Context) (r : Record) {name : String}
    (hname : name ∈ fieldNames) : lastUnder name (lineFields now c r) =
      (fieldMember r name).or (lastUnder name (startFields now c r)) := by
  have hexception : "exception" ≠ name := by
    rintro rfl
    exact absurd hname (by decide)
  rw [lastUnder_lineFields, if_neg hexception, if_pos hname, Option.none_or]

/-- The only name that is a field's and that a line begins with is that of the trace. -/
theorem eq_trace_of_mem : ∀ n ∈ startNames, n ∈ fieldNames → n = "trace_id" := by decide

/-- What a line begins with under the name of a field. -/
theorem lastUnder_startFields (now : DateTime) (c : Context) (r : Record) {name : String}
    (hname : name ∈ fieldNames) : lastUnder name (startFields now c r) =
      if name = "trace_id" then given c.trace else none := by
  split
  · next h =>
    have hmem : ("trace_id", given c.trace) ∈ startFields now c r := by simp [startFields]
    have hlast := lastUnder_of_mem (startFields_nodup now c r) hmem
    rw [h]
    exact hlast
  · next h =>
    refine lastUnder_eq_none fun f hf heq => h ?_
    have hstart : f.1 ∈ startNames := List.mem_map_of_mem (f := (·.1)) hf
    rw [heq] at hstart
    exact eq_trace_of_mem name hstart hname

/-- **What is under the names that are no field's.** -/
theorem lastUnder_start {now : DateTime} {c : Context} {r : Record} {f : String × Option Value}
    (hf : f ∈ startFields now c r) (hne : f.1 ≠ "trace_id") :
    lastUnder f.1 (lineFields now c r) = f.2 := by
  have hstart : f.1 ∈ startNames := List.mem_map_of_mem (f := (·.1)) hf
  have hexception : "exception" ≠ f.1 := by
    intro h
    rw [← h] at hstart
    exact absurd hstart (by decide)
  rw [lastUnder_lineFields, if_neg hexception,
    if_neg fun h => hne (eq_trace_of_mem f.1 hstart h), Option.none_or, Option.none_or]
  exact lastUnder_of_mem (startFields_nodup now c r) hf

/-- **What is asked of all members of a line.** -/
structure MembersHold (P : Value → Prop) (c : Context) (r : Record) : Prop where
  field : ∀ name ∈ fieldNames, ∀ v, fieldMember r name = some v → P v
  cluster : c.cluster.truthy = true → P c.cluster
  component : c.component.truthy = true → P c.component
  /-- The trace of the context counts when the record has none. -/
  trace : c.trace.truthy = true → r.extras.field "trace_id" = .none → P c.trace

theorem MembersHold.imp {P Q : Value → Prop} {c : Context} {r : Record} (h : MembersHold P c r)
    (hPQ : ∀ v, P v → Q v) : MembersHold Q c r :=
  ⟨fun name hname v hv => hPQ v (h.field name hname v hv), fun hc => hPQ _ (h.cluster hc),
    fun hc => hPQ _ (h.component hc), fun hc hnone => hPQ _ (h.trace hc hnone)⟩

/-- The texts that every line has, or may have. -/
def startTexts (now : DateTime) (r : Record) : List String :=
  [now.millisUtc, levelName r.level, r.logger, r.message, s!"{baseName r.file}:{r.line}"]

theorem given_eq_some_iff {v w : Value} : given v = some w ↔ v.truthy = true ∧ v = w := by
  unfold given
  split
  · next hv => rw [Option.some.injEq, and_iff_right hv]
  · next hv => exact iff_of_false (Option.some_ne_none w).symm fun h => hv h.1

/-- What a line begins with is one of its texts, or something that the context has. -/
theorem start_cases {now : DateTime} {c : Context} {r : Record} {name : String} {v : Value}
    (h : (name, some v) ∈ startFields now c r) :
    (∃ s ∈ startTexts now r, v = .str s) ∨ (c.cluster.truthy = true ∧ c.cluster = v) ∨
      (c.component.truthy = true ∧ c.component = v) ∨
      (name = "trace_id" ∧ c.trace.truthy = true ∧ c.trace = v) := by
  have htext : ∀ s ∈ startTexts now r, some v = some (Value.str s) →
      ∃ s ∈ startTexts now r, v = .str s := fun s hs hv => ⟨s, hs, Option.some.inj hv⟩
  simp only [startFields, List.mem_cons, List.not_mem_nil, or_false, Prod.mk.injEq] at h
  rcases h with ⟨-, hv⟩ | ⟨-, hv⟩ | ⟨-, hv⟩ | ⟨-, hv⟩ | ⟨-, hv⟩ | ⟨-, hv⟩ | ⟨hname, hv⟩ | ⟨-, hv⟩
  · exact .inl (htext _ (by simp [startTexts]) hv)
  · exact .inl (htext _ (by simp [startTexts]) hv)
  · exact .inl (htext _ (by simp [startTexts]) hv)
  · exact .inl (htext _ (by simp [startTexts]) hv)
  · exact .inr (.inl (given_eq_some_iff.mp hv.symm))
  · exact .inr (.inr (.inl (given_eq_some_iff.mp hv.symm)))
  · exact .inr (.inr (.inr ⟨hname, given_eq_some_iff.mp hv.symm⟩))
  · split at hv
    · exact .inl (htext _ (by simp [startTexts]) hv)
    · exact nomatch hv

/-- What is under a name is what a failure is written as, a field, or what the line began with if
    there is no such field. -/
theorem cases_of_lastUnder {now : DateTime} {c : Context} {r : Record} {name : String} {v : Value}
    (h : lastUnder name (lineFields now c r) = some v) :
    troubleMember r.trouble = some v ∨ (name ∈ fieldNames ∧ fieldMember r name = some v) ∨
      ((name, some v) ∈ startFields now c r ∧ (name ∈ fieldNames → fieldMember r name = none)) := by
  rw [lastUnder_lineFields, Option.or_eq_some_iff] at h
  rcases h with h | ⟨-, h⟩
  · split at h
    · exact .inl h
    · exact nomatch h
  · rw [Option.or_eq_some_iff] at h
    rcases h with h | ⟨hnone, h⟩
    · split at h
      · next hname => exact .inr (.inl ⟨hname, h⟩)
      · exact nomatch h
    · refine .inr (.inr ⟨mem_of_lastUnder h, fun hname => ?_⟩)
      rwa [if_pos hname] at hnone

/-- **It is asked of nothing else**, if these texts have it, and what a failure is written as. -/
theorem membersHold_iff (now : DateTime) (c : Context) (r : Record) {P : Value → Prop}
    (hstart : ∀ s ∈ startTexts now r, P (.str s))
    (htrouble : ∀ v, troubleMember r.trouble = some v → P v) :
    (∀ name v, lastUnder name (lineFields now c r) = some v → P v) ↔ MembersHold P c r := by
  constructor
  · intro hall
    have hcontext : ∀ n v, (n, given v) ∈ startFields now c r → n ≠ "trace_id" →
        v.truthy = true → P v :=
      fun n v hmem hne hv => hall n v ((lastUnder_start hmem hne).trans (if_pos hv))
    refine ⟨fun name hname v hv => hall name v ?_, ?_, ?_, fun htrace hnone => ?_⟩
    · rw [lastUnder_field now c r hname, hv]
      rfl
    · exact hcontext "cluster_name" c.cluster (by simp [startFields]) (by decide)
    · exact hcontext "component" c.component (by simp [startFields]) (by decide)
    · refine hall "trace_id" c.trace ?_
      have hgiven : given c.trace = some c.trace := if_pos htrace
      rw [lastUnder_field now c r (by decide), fieldMember_of_none hnone,
        lastUnder_startFields now c r (by decide), if_pos rfl, hgiven]
      rfl
  · intro h name v hv
    rcases cases_of_lastUnder hv with hv | ⟨hname, hv⟩ | ⟨hmem, hnone⟩
    · exact htrouble v hv
    · exact h.field name hname v hv
    · rcases start_cases hmem with ⟨s, hs, rfl⟩ | ⟨hc, rfl⟩ | ⟨hc, rfl⟩ | ⟨rfl, hc, rfl⟩
      · exact hstart s hs
      · exact h.cluster hc
      · exact h.component hc
      -- the context's trace is under its name only if the record has none of its own
      · refine h.trace hc ?_
        by_contra hne
        have hmember := fieldMember_of_ok hne rfl
        rw [hnone (by decide)] at hmember
        exact nomatch hmember

end Log

end SecureStartup
