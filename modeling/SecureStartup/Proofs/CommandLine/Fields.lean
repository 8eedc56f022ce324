import SecureStartup.CommandLine.Options

/-!
  What a command line can set.

  1. **Program** — `parse_args` and `_build_cli_parser` declare the options of the two programs, and
     the parser turns the words of a command line into the fields of a request.  Options may be
     abbreviated, put together behind one dash, and given their value behind `=`, in the same word, or in
     the next one.

  2. **Specification** — however the words are written, a field is set by an option of the program, and
     to a value of the kind that this option takes (`SetBy`): a path where it takes a path, one of the
     choices where it has choices, and a truth value where it takes nothing.

  3. **The idea** — the words are read in two passes, and each is followed.  The first finds the option
     that a word names (`wordsOf_isFrom`): only the program's own are ever looked through.  The second
     takes the values (`readWords_setBy`), and there the only thing that sets a field is a `Use`, which
     checks its value before (`Use.value_allows`).

  So `read_setBy` holds of every command line that is read, and no later step has to look at the kind of
  a field again.
-/

namespace SecureStartup.CommandLine

/-- The values that an option may set its field to, by what it takes. -/
def Takes.Allows (t : Takes) (v : Value) : Prop :=
  match t with
  | .nothing => v = .bool true
  | .help => False
  | .path => ∃ p, v = .path p
  | .text => ∃ s, v = .str s
  | .oneOf words => ∃ s ∈ words, v = .str s

/-- **Fields that the options of a program have set.** -/
def SetBy (specs : List Spec) (fields : List (String × Value)) : Prop :=
  ∀ f ∈ fields, ∃ spec ∈ specs, spec.field = f.1 ∧ spec.takes.Allows f.2

/-- A word that is an option is one of the program's. -/
def Word.IsFrom (specs : List Spec) : Word → Prop
  | .option (some spec) _ _ _ => spec ∈ specs
  | _ => True

variable {specs : List Spec}

theorem Use.value_allows {u : Use} {v : Value} (h : u.value = .ok v) : u.1.takes.Allows v := by
  obtain ⟨⟨names, field, takes⟩, text⟩ := u
  unfold Use.value at h
  unfold Takes.Allows
  cases takes with
  | nothing => exact (Except.ok.inj h).symm
  | help => exact nomatch h
  | path => exact ⟨_, (Except.ok.inj h).symm⟩
  | text => exact ⟨_, (Except.ok.inj h).symm⟩
  | oneOf words =>
    by_cases hword : words.contains (String.ofList (text.getD [])) = true
    · have hmem : String.ofList (text.getD []) ∈ words := by simpa using hword
      simp only [if_pos hword] at h
      exact ⟨_, hmem, (Except.ok.inj h).symm⟩
    · simp only [if_neg hword] at h
      exact nomatch h

/-! ## Options of the program -/

theorem mem_of_mem_namesOf {n : List Char × Spec} (h : n ∈ namesOf specs) : n.2 ∈ specs := by
  obtain ⟨spec, hspec, hn⟩ := List.mem_flatMap.mp h
  obtain ⟨_, _, rfl⟩ := List.mem_map.mp hn
  exact hspec

theorem named?_mem {name : List Char} {spec : Spec} (h : named? specs name = some spec) :
    spec ∈ specs := by
  obtain ⟨n, hn, rfl⟩ := Option.map_eq_some_iff.mp h
  exact mem_of_mem_namesOf (List.mem_of_find?_eq_some hn)

theorem candidates_isFrom {s : List Char} {w : Word} (h : w ∈ candidates specs s) :
    w.IsFrom specs := by
  unfold candidates at h
  split at h
  · obtain ⟨n, hn, rfl⟩ := List.mem_map.mp h
    exact mem_of_mem_namesOf (List.mem_filter.mp hn).1
  · obtain ⟨n, hn, hw⟩ := List.mem_filterMap.mp h
    have hmem := mem_of_mem_namesOf hn
    split at hw
    · cases hw
      exact hmem
    · split at hw
      · cases hw
        exact hmem
      · exact nomatch hw
  · exact nomatch h

theorem classify_isFrom {word : String} {w : Word} (h : classify specs word = .ok w) :
    w.IsFrom specs := by
  unfold classify at h
  simp only at h
  split at h
  · split at h
    -- the whole word is the name of an option
    · rename_i spec hspec
      cases h
      exact named?_mem hspec
    · split at h
      -- the part of the word in front of `=` is
      · rename_i exact_ hexact
        cases h
        split at hexact
        · obtain ⟨_, hsome, rfl⟩ := Option.map_eq_some_iff.mp hexact
          obtain ⟨spec, hspec, hpure⟩ := Option.bind_eq_some_iff.mp hsome
          cases hpure
          exact named?_mem hspec
        · exact nomatch hexact
      · split at h
        -- the word is short for exactly one
        · rename_i w' hcand
          cases h
          exact candidates_isFrom (hcand ▸ List.mem_singleton.mpr rfl)
        · exact nomatch h
        · split at h <;>
          · cases h
            exact trivial
  · cases h
    exact trivial

theorem wordsOf_isFrom {argv : List String} {ws : List Word} (h : wordsOf specs argv = .ok ws) :
    ∀ w ∈ ws, w.IsFrom specs := by
  induction argv generalizing ws with
  | nil =>
    cases h
    exact fun w hw => absurd hw List.not_mem_nil
  | cons a argv ih =>
    unfold wordsOf at h
    split at h
    · cases h
      intro w hw
      rcases List.mem_cons.mp hw with rfl | hw
      · exact trivial
      · obtain ⟨_, _, rfl⟩ := List.mem_map.mp hw
        exact trivial
    · rcases hclass : classify specs a with _ | w <;> rw [hclass] at h
      · exact nomatch h
      rcases hrest : wordsOf specs argv with _ | ws' <;> rw [hrest] at h
      · exact nomatch h
      cases h
      intro w' hw'
      rcases List.mem_cons.mp hw' with rfl | hw'
      · exact classify_isFrom hclass
      · exact ih hrest w' hw'

/-! ## Uses of options -/

theorem bareReading_from {spec : Spec} (hspec : spec ∈ specs) {next : Option Word} {r : Reading}
    (h : bareReading spec next = .ok r) : ∀ u ∈ r.uses, u.1 ∈ specs := by
  unfold bareReading at h
  split at h
  · split at h
    · cases h
      exact fun u hu => List.mem_singleton.mp hu ▸ hspec
    · exact nomatch h
  · cases h
    exact fun u hu => List.mem_singleton.mp hu ▸ hspec

theorem clustered_from {spec : Spec} (hspec : spec ∈ specs) {short equals : Bool} {c : Char}
    {more : Spec → Except Stop Reading}
    (hmore : ∀ spec' ∈ specs, ∀ r, more spec' = .ok r → ∀ u ∈ r.uses, u.1 ∈ specs) {r : Reading}
    (h : clustered specs spec short equals c more = .ok r) : ∀ u ∈ r.uses, u.1 ∈ specs := by
  unfold clustered at h
  split at h
  · exact nomatch h
  · split at h
    · cases h
      exact fun u hu => List.mem_singleton.mp hu ▸ hspec
    · rename_i spec' hnamed
      rcases hm : more spec' with _ | r' <;> rw [hm] at h
      · exact nomatch h
      cases h
      intro u hu
      rcases List.mem_cons.mp hu with rfl | hu
      · exact hspec
      · exact hmore spec' (named?_mem hnamed) r' hm u hu

theorem attachedReading_from {next : Option Word} {attached : List Char} :
    ∀ {short equals : Bool} {spec : Spec}, spec ∈ specs → ∀ {r : Reading},
      attachedReading specs next short equals attached spec = .ok r → ∀ u ∈ r.uses, u.1 ∈ specs := by
  -- By the length of what is attached: short options behind one dash are read off one by one.
  induction hlen : attached.length using Nat.strongRecOn generalizing attached with
  | ind n ih =>
    intro short equals spec hspec r h
    unfold attachedReading at h
    split at h
    · cases h
      exact fun u hu => List.mem_singleton.mp hu ▸ hspec
    · split at h
      · cases h
      · exact clustered_from hspec (fun _ hs _ hr => bareReading_from hs hr) h
      · rename_i c value
        refine clustered_from hspec (fun _ hs _ hr => ?_) h
        exact ih value.length (by simp at hlen; omega) rfl hs hr
      · rename_i c c' more hne
        refine clustered_from hspec (fun _ hs _ hr => ?_) h
        exact ih (c' :: more).length (by simp at hlen ⊢; omega) rfl hs hr

theorem readingOf_from {spec : Spec} (hspec : spec ∈ specs) {next : Option Word} {name : List Char}
    {attached : Option (List Char)} {equals : Bool} {r : Reading}
    (h : readingOf specs next spec name attached equals = .ok r) : ∀ u ∈ r.uses, u.1 ∈ specs := by
  cases attached with
  | none => exact bareReading_from hspec h
  | some a => exact attachedReading_from hspec h

/-! ## Fields -/

theorem SetBy.nil : SetBy specs [] := fun _ hf => absurd hf List.not_mem_nil

theorem SetBy.set {fields fields' : List (String × Value)} (a : SetBy specs fields) {u : Use}
    (hu : u.1 ∈ specs) (h : Use.set fields u = .ok fields') : SetBy specs fields' := by
  unfold Use.set at h
  rcases hv : u.value with _ | v <;> rw [hv] at h
  · exact nomatch h
  cases h
  intro f hf
  rcases List.mem_cons.mp hf with rfl | hf
  · exact ⟨u.1, hu, rfl, Use.value_allows hv⟩
  · exact a f (List.mem_filter.mp hf).1

theorem SetBy.uses {us : List Use} {fields fields' : List (String × Value)}
    (a : SetBy specs fields) (hus : ∀ u ∈ us, u.1 ∈ specs)
    (h : us.foldlM Use.set fields = .ok fields') : SetBy specs fields' := by
  induction us generalizing fields with
  | nil =>
    cases h
    exact a
  | cons u us ih =>
    rw [List.foldlM_cons] at h
    rcases hset : Use.set fields u with _ | fields₁ <;> rw [hset] at h
    · exact nomatch h
    · have hfirst := a.set (hus u (List.mem_cons_self ..)) hset
      exact ih hfirst (fun u' hu' => hus u' (List.mem_cons_of_mem _ hu')) h

theorem readWords_setBy {ws : List Word} {taken extra : Bool}
    {fields fields' : List (String × Value)} (hws : ∀ w ∈ ws, w.IsFrom specs)
    (a : SetBy specs fields) (h : readWords specs ws taken extra fields = .ok fields') :
    SetBy specs fields' := by
  -- By induction on the words; a word that was taken as a value is passed over, and the rest stays.
  induction ws generalizing taken extra fields with
  | nil =>
    unfold readWords at h
    split at h
    · exact nomatch h
    · cases h
      exact a
  | cons w rest ih =>
    have hrest : ∀ w ∈ rest, w.IsFrom specs := fun w hw => hws w (List.mem_cons_of_mem _ hw)
    cases taken with
    | true => exact ih hrest a h
    | false =>
      match w with
      | .plain text => exact ih hrest a h
      | .dashes => exact ih hrest a h
      | .option none _ _ _ => exact ih hrest a h
      | .option (some spec) name attached equals =>
        have hspec : spec ∈ specs := hws _ (List.mem_cons_self ..)
        unfold readWords at h
        rcases hr : readingOf specs rest.head? spec name attached equals with _ | r <;> rw [hr] at h
        · exact nomatch h
        change (r.uses.foldlM Use.set fields >>= fun fields => readWords specs rest r.takesNext
          (extra || r.extra) fields) = _ at h
        rcases hset : r.uses.foldlM Use.set fields with _ | fields₁ <;> rw [hset] at h
        · exact nomatch h
        exact ih hrest (a.uses (readingOf_from hspec hr) hset) h

/-- **A command line that is read** sets fields of the program's options only, each to a value that the
    option takes. -/
theorem read_setBy {argv : List String} {fields : List (String × Value)}
    (h : read specs argv = .ok fields) : SetBy specs fields := by
  unfold read at h
  rcases hws : wordsOf specs argv with _ | ws <;> rw [hws] at h
  · exact nomatch h
  · exact readWords_setBy (wordsOf_isFrom hws) SetBy.nil h

/-- **A field that only one option sets** is not set, or has a value that this option takes. -/
theorem SetBy.field {fields : List (String × Value)} (a : SetBy specs fields) {name : String} {t : Takes}
    (hone : (specs.filter (·.field == name)).map (·.takes) = [t]) :
    field fields name = .none ∨ t.Allows (field fields name) := by
  unfold CommandLine.field
  rcases hfind : fields.find? fun f => f.1 == name with _ | f <;> rw [hfind]
  · exact .inl rfl
  · have hname : f.1 = name := by simpa using List.find?_some hfind
    obtain ⟨spec, hspec, hfield, hallows⟩ := a f (List.mem_of_find?_eq_some hfind)
    have hsets : spec ∈ specs.filter (·.field == name) :=
      List.mem_filter.mpr ⟨hspec, beq_iff_eq.mpr (hfield.trans hname)⟩
    have htakes : spec.takes ∈ (specs.filter (·.field == name)).map (·.takes) :=
      List.mem_map_of_mem hsets
    rw [hone] at htakes
    -- It is the only option that sets the field, so what it takes is the kind in question.
    obtain rfl := List.mem_singleton.mp htakes
    exact .inr hallows

end SecureStartup.CommandLine
