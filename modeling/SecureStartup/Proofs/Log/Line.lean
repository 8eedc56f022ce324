import SecureStartup.Log.JsonLine
import SecureStartup.Proofs.Value.Fields

/-!
  The members of a log line, in order.

  Program: the entry that `JSONFormatter.format` builds before it is written.

  A line begins with what every record has (`lineStart`), goes on with the record's fields as they
  are written, and ends with the failure.  `entry_eq` says this of every record whose fields can be
  written and whose failure, if there is one, can say what it is (`Trouble.IsTold`).  A failure that cannot
  has no entry (`entry_untold`): its text is asked for while the entry is built.
-/

namespace SecureStartup

namespace Log

/-- What every line begins with: all but the fields and the failure. -/
def lineStart (now : DateTime) (c : Context) (r : Record) : Entries :=
  [(.str "ts", .str now.millisUtc), (.str "level", .str (levelName r.level)),
    (.str "logger", .str r.logger), (.str "message", .str r.message)]
  ++ (([("cluster_name", c.cluster), ("component", c.component), ("trace_id", c.trace)]
      |>.filter fun f => f.2.truthy).map fun f => (Value.str f.1, f.2))
  ++ if showsPlace r.level then [(.str "file", .str s!"{baseName r.file}:{r.line}")] else []

/-- The names that a line begins with. -/
def startNames : List String :=
  ["ts", "level", "logger", "message", "cluster_name", "component", "trace_id", "file"]

theorem lineStart_within (now : DateTime) (c : Context) (r : Record) :
    Entries.Within startNames (lineStart now c r) := by
  refine .append (.append ?_ ?_) ?_
  · simp [Entries.Within, startNames]
  · intro e he
    obtain ⟨f, hf, rfl⟩ := List.mem_map.mp he
    have hmem : f ∈ [("cluster_name", c.cluster), ("component", c.component), ("trace_id", c.trace)] :=
      (List.mem_filter.mp hf).1
    simp only [List.mem_cons, List.not_mem_nil, or_false] at hmem
    rcases hmem with rfl | rfl | rfl <;> simp [startNames]
  · split <;> simp [Entries.Within, startNames]

/-- The fields of a record as they are written. -/
def writtenFields (r : Record) : Except Failure (List (String × Value)) :=
  r.fields.mapM fun f => do return (f.1, ← fieldValue f.1 f.2)

/-- The failure of a record, if it has one, can say what it is. -/
def Trouble.IsTold : Trouble → Prop
  | .failure _ text => ∃ s, text = .ok s
  | _ => True

/-- What a failure is written as, when it can say what it is. -/
def troubleMember (t : Trouble) : Option Value := (troubleValue t).toOption.join

/-- **A failure is written**, unless asking for its text fails. -/
theorem troubleValue_cases (t : Trouble) :
    (t.IsTold ∧ troubleValue t = .ok (troubleMember t)) ∨
      ∃ f e, t = .failure f (.error e) ∧ troubleValue t = .error e := by
  cases t with
  | absent => exact .inl ⟨trivial, rfl⟩
  | empty => exact .inl ⟨trivial, rfl⟩
  | failure f text =>
    cases text with
    | ok s => exact .inl ⟨⟨s, rfl⟩, rfl⟩
    | error e => exact .inr ⟨f, e, rfl, rfl⟩

theorem troubleValue_of_told {t : Trouble} (h : t.IsTold) : troubleValue t = .ok (troubleMember t) := by
  rcases troubleValue_cases t with ⟨-, ht⟩ | ⟨f, e, rfl, -⟩
  · exact ht
  · obtain ⟨s, hs⟩ := h
    exact nomatch hs

/-- The failure of a record as a field. -/
def troubleField (t : Trouble) : List (String × Value) :=
  (troubleMember t).toList.map fun v => ("exception", v)

/-- **A line** is its start, the written fields and the failure. -/
theorem entry_eq (now : DateTime) (c : Context) {r : Record} {fields : List (String × Value)}
    (h : writtenFields r = .ok fields) (ht : r.trouble.IsTold) :
    entry now c r = .ok ((fields ++ troubleField r.trouble).foldl
      (fun es f => es.insert (.str f.1) f.2) (lineStart now c r)) := by
  show (writtenFields r >>= _) = _
  rw [h, List.foldl_append]
  show (troubleValue r.trouble >>= _) = _
  rw [troubleValue_of_told ht]
  unfold troubleField
  cases troubleMember r.trouble <;> rfl

/-- A failure that cannot say what it is has no line. -/
theorem entry_untold (now : DateTime) (c : Context) {r : Record} {fields : List (String × Value)}
    (h : writtenFields r = .ok fields) {e : Failure} (ht : troubleValue r.trouble = .error e) :
    entry now c r = .error e := by
  show (writtenFields r >>= _) = _
  rw [h]
  show (troubleValue r.trouble >>= _) = _
  rw [ht]
  rfl

end Log

end SecureStartup
