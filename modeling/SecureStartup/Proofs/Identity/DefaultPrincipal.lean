import SecureStartup.Identity.Basic
import SecureStartup.Proofs.Host.Running
import SecureStartup.Proofs.Text.Spelled

/-!
  The default principal in the output of a cache's lister.

  1. **Program** — `TicketCacheIdentityProvider.get_login_identity` runs the lister, and if it ends with
     status 0, searches its output for a label on a line of its own, some blanks, and a word at the end of
     its line (`^\s*Default principal:\s*(\S+)\s*$`, line by line).

  2. **What is asked for** — the label has to be the first thing on its line, and the word behind it the
     last thing on its line.  Nothing says that these are the same line, for the blanks between label and
     word may hold line breaks.

  3. **The word behind a label** is the first one, and only blanks follow it up to a line break or the
     end (`labelledWord?_eq_some_iff`).

  4. **The answer** is the word of the first label that has one (`FirstNamed`).  A label with nothing
     behind it takes a word from the lines below (`defaultPrincipal?_eq_some_iff`).

  5. **Line by line** — with no such label the lines can be looked at one by one, and the answer is the
     word on the first line that consists of label and word (`OnFirstLine`, `defaultPrincipal?_of_lines`).

  `lookUp_ticketCache` says what an identity provider makes of this.
-/

namespace SecureStartup

open SecureStartup.Text

/-! ## Blanks and words -/

/-- Nothing but blanks. -/
def AllBlank (s : List Char) : Prop := ∀ c ∈ s, isBlank c = true

/-- A word: something, and no blanks. -/
structure IsSolid (w : List Char) : Prop where
  ne_nil : w ≠ []
  solid : ∀ c ∈ w, isBlank c = false

/-- A place where a line begins, by what is before it. -/
def BeginsLine (before : List Char) : Prop := before = [] ∨ ∃ p, before = p ++ ['\n']

/-- A place where a line ends, by what is behind it. -/
def EndsLine (rest : List Char) : Prop := rest = [] ∨ ∃ r, rest = '\n' :: r

theorem AllBlank.append {s t : List Char} (hs : AllBlank s) (ht : AllBlank t) : AllBlank (s ++ t) := by
  intro c hc
  rcases List.mem_append.mp hc with h | h
  · exact hs c h
  · exact ht c h

theorem allBlank_nil : AllBlank [] := nofun

/-- What ends a word: a line's end, possibly behind blanks. -/
theorem head?_blank_of_endsLine {trail rest : List Char} (ht : AllBlank trail) (hr : EndsLine rest) :
    ∀ c ∈ (trail ++ rest).head?, isBlank c = true := by
  intro c hc
  rcases trail with _ | ⟨d, trail⟩
  · rcases hr with rfl | ⟨r, rfl⟩
    · exact nomatch hc
    · cases hc
      decide
  · cases hc
    exact ht c List.mem_cons_self

/-! ## The word behind a label -/

/-- **What follows a label names a word**: it is the first one, and the last one on its line. -/
def Labels (s w : List Char) : Prop :=
  ∃ gap trail rest, s = gap ++ (w ++ (trail ++ rest)) ∧ AllBlank gap ∧ IsSolid w ∧ AllBlank trail ∧
    EndsLine rest

theorem labelledWord?_of_labels {s w : List Char} (h : Labels s w) : labelledWord? s = some w := by
  obtain ⟨gap, trail, rest, rfl, hgap, hw, htrail, hrest⟩ := h
  have hstart : trimStart (gap ++ (w ++ (trail ++ rest))) = w ++ (trail ++ rest) := by
    refine (takeWhile_append_of_head? hgap fun c hc => ?_).2
    rw [List.head?_append, Option.or_of_isSome (List.isSome_head?.mpr hw.ne_nil)] at hc
    exact hw.solid c (List.mem_of_mem_head? hc)
  obtain ⟨hword, htail⟩ := takeWhile_append_of_head? (p := fun c => !isBlank c) (s := w)
    (t := trail ++ rest) (fun c hc => by rw [hw.solid c hc]; rfl)
    (fun c hc => by rw [head?_blank_of_endsLine htrail hrest c hc]; rfl)
  have hends : (((trail ++ rest).takeWhile isBlank).contains '\n' ||
      ((trail ++ rest).takeWhile isBlank).length + w.length == (w ++ (trail ++ rest)).length) = true := by
    rw [List.takeWhile_append_of_pos htrail, Bool.or_eq_true, List.contains_iff_mem, beq_iff_eq]
    rcases hrest with rfl | ⟨r, rfl⟩
    · right
      rw [List.takeWhile_nil, List.append_nil, List.length_append, Nat.add_comm]
    · left
      rw [List.takeWhile_cons_of_pos (by decide)]
      exact List.mem_append_right _ List.mem_cons_self
  unfold labelledWord?
  rw [hstart]
  simp only [hword, htail]
  rw [hends, List.isEmpty_eq_false_iff.mpr hw.ne_nil]
  rfl

theorem labels_of_labelledWord? {s w : List Char} (h : labelledWord? s = some w) : Labels s w := by
  unfold labelledWord? at h
  extract_lets s' word gap ends at h
  -- The text is cut into blanks, word, blanks and the rest, in this order.
  obtain ⟨more, hmore⟩ : ∃ more, s' = word ++ (gap ++ more) := by
    refine ⟨(s'.dropWhile fun c => !isBlank c).dropWhile isBlank, ?_⟩
    rw [List.takeWhile_append_dropWhile, List.takeWhile_append_dropWhile]
  have hwhole : s = s.takeWhile isBlank ++ (word ++ (gap ++ more)) := by
    rw [← hmore]
    exact List.takeWhile_append_dropWhile.symm
  have hlead : AllBlank (s.takeWhile isBlank) := fun c hc => List.mem_takeWhile_imp hc
  have hgap : AllBlank gap := fun c hc => List.mem_takeWhile_imp hc
  by_cases hno : (word.isEmpty || !ends) = true
  · rw [if_pos hno] at h
    exact nomatch h
  · rw [if_neg hno] at h
    rw [← Option.some.inj h]
    obtain ⟨hword, hends⟩ : word.isEmpty = false ∧ ends = true := by simpa using hno
    have hsolid : IsSolid word := by
      refine ⟨List.isEmpty_eq_false_iff.mp hword, fun c hc => ?_⟩
      simpa using List.mem_takeWhile_imp hc
    -- What ends the word: a break among the blanks behind it, or the end of the text.
    rcases (Bool.or_eq_true _ _).mp hends with hbreak | hend
    · obtain ⟨trail, below, hcut⟩ := List.append_of_mem (List.contains_iff_mem.mp hbreak)
      refine ⟨_, trail, '\n' :: (below ++ more), ?_, hlead, hsolid, fun c hc => hgap c ?_, .inr ⟨_, rfl⟩⟩
      · rw [hcut, List.append_assoc] at hwhole
        exact hwhole
      · rw [hcut]
        exact List.mem_append_left _ hc
    · refine ⟨_, gap, [], ?_, hlead, hsolid, hgap, .inl rfl⟩
      have hlen := congrArg List.length hmore
      rw [List.length_append, List.length_append] at hlen
      have hnil : more = [] := by
        have hsum := beq_iff_eq.mp hend
        exact List.length_eq_zero_iff.mp (by omega)
      rw [hnil] at hwhole
      exact hwhole

/-- **The word behind a label.** -/
theorem labelledWord?_eq_some_iff {s w : List Char} : labelledWord? s = some w ↔ Labels s w :=
  ⟨labels_of_labelledWord?, labelledWord?_of_labels⟩

/-! ## The label -/

theorem afterLabel?_eq_some_iff {s tail : List Char} :
    afterLabel? s = some tail ↔ s = principalLabel ++ tail := by
  constructor
  · exact eq_append_of_dropLead
  · rintro rfl
    exact dropLead_append principalLabel tail

/-- **A place where a label may stand**, by what is before it: only blanks since the line began. -/
def Fresh (before : List Char) : Prop :=
  ∃ lines lead, before = lines ++ lead ∧ BeginsLine lines ∧ AllBlank lead

theorem fresh_nil : Fresh [] := ⟨[], [], rfl, .inl rfl, allBlank_nil⟩

/-- One more character: a line break, or a blank where a label might have stood. -/
theorem fresh_concat (before : List Char) (c : Char) :
    Fresh (before ++ [c]) ↔ c = '\n' ∨ (Fresh before ∧ isBlank c = true) := by
  constructor
  · rintro ⟨lines, lead, hcut, hlines, hlead⟩
    rcases List.eq_nil_or_concat lead with rfl | ⟨lead, d, rfl⟩
    · rw [List.append_nil] at hcut
      rcases hlines with rfl | ⟨p, rfl⟩
      · exact absurd hcut (by simp)
      · exact .inl (List.append_singleton_inj.mp hcut).2
    · rw [List.concat_eq_append] at hcut hlead
      rw [← List.append_assoc] at hcut
      obtain ⟨rfl, rfl⟩ := List.append_singleton_inj.mp hcut
      exact .inr ⟨⟨lines, lead, rfl, hlines, fun e he => hlead e (List.mem_append_left _ he)⟩,
        hlead c (List.mem_append_right _ List.mem_cons_self)⟩
  · rintro (rfl | ⟨⟨lines, lead, rfl, hlines, hlead⟩, hc⟩)
    · exact ⟨before ++ ['\n'], [], (List.append_nil _).symm, .inr ⟨before, rfl⟩, allBlank_nil⟩
    · refine ⟨lines, lead ++ [c], (List.append_assoc _ _ _), hlines, hlead.append fun d hd => ?_⟩
      rw [List.mem_singleton.mp hd]
      exact hc

/-- **A label that names a word**, by what is before the label and by what begins with it. -/
def LabelAt (before s w : List Char) : Prop :=
  Fresh before ∧ ∃ tail, s = principalLabel ++ tail ∧ Labels tail w

/-- What is looked for at a place. -/
theorem here_eq_some_iff {fresh : Bool} {before s w : List Char} (hf : fresh = true ↔ Fresh before) :
    (if fresh then (afterLabel? s).bind labelledWord? else none) = some w ↔ LabelAt before s w := by
  cases fresh with
  | false => exact ⟨nofun, fun h => nomatch hf.mpr h.1⟩
  | true =>
    show (afterLabel? s).bind labelledWord? = some w ↔ _
    rw [Option.bind_eq_some_iff]
    constructor
    · rintro ⟨tail, hs, hw⟩
      exact ⟨hf.mp rfl, tail, afterLabel?_eq_some_iff.mp hs, labelledWord?_eq_some_iff.mp hw⟩
    · rintro ⟨_, tail, hs, hw⟩
      exact ⟨tail, afterLabel?_eq_some_iff.mpr hs, labelledWord?_eq_some_iff.mpr hw⟩

/-- **The first label that names a word**, and its word: no label further ahead names one. -/
def FirstNamed (s w : List Char) : Prop :=
  ∃ before tail, s = before ++ tail ∧ LabelAt before tail w ∧
    ∀ n < before.length, ∀ w', ¬ LabelAt (s.take n) (s.drop n) w'

/-- The search looks at one place after the other. -/
theorem defaultPrincipal?_cons (fresh : Bool) (c : Char) (r : List Char) :
    defaultPrincipal? fresh (c :: r) =
      (if fresh then (afterLabel? (c :: r)).bind labelledWord? else none).or
        (defaultPrincipal? (c == '\n' || (fresh && isBlank c)) r) := by
  rw [defaultPrincipal?]
  cases (if fresh then (afterLabel? (c :: r)).bind labelledWord? else none) <;> rfl

/-- The first label that names a word from some place on, the text before it known. -/
def NamedFrom (before s w : List Char) : Prop :=
  ∃ u v, s = u ++ v ∧ LabelAt (before ++ u) v w ∧
    ∀ n < u.length, ∀ w', ¬ LabelAt (before ++ s.take n) (s.drop n) w'

theorem not_namedFrom_nil (before w : List Char) : ¬ NamedFrom before [] w := by
  rintro ⟨u, v, hs, ⟨_, tail, hv, _⟩, _⟩
  obtain ⟨-, rfl⟩ := List.append_eq_nil_iff.mp hs.symm
  exact nomatch hv

/-- It is here, or further on if there is none here. -/
theorem namedFrom_cons {before : List Char} {c : Char} {r w : List Char} :
    NamedFrom before (c :: r) w ↔ LabelAt before (c :: r) w ∨
      ((∀ w', ¬ LabelAt before (c :: r) w') ∧ NamedFrom (before ++ [c]) r w) := by
  have hstep : ∀ u, before ++ [c] ++ u = before ++ c :: u := fun u => by
    rw [List.append_assoc]
    rfl
  constructor
  · rintro ⟨u, v, hcut, hat, hfirst⟩
    cases u with
    | nil =>
      rw [List.append_nil] at hat
      exact .inl (hcut ▸ hat)
    -- no label at the first place, and it is the first one of the rest
    | cons d u =>
      obtain ⟨rfl, rfl⟩ := List.cons_eq_cons.mp hcut
      refine .inr ⟨fun w' => ?_, u, v, rfl, ?_, fun n hn w' => ?_⟩
      · have hno := hfirst 0 (Nat.succ_pos _) w'
        rwa [List.take_zero, List.append_nil] at hno
      · rwa [hstep]
      · rw [hstep]
        exact hfirst (n + 1) (Nat.succ_lt_succ hn) w'
  · rintro (hat | ⟨hno, u, v, rfl, hat, hfirst⟩)
    · refine ⟨[], c :: r, rfl, ?_, fun n hn => nomatch hn⟩
      rwa [List.append_nil]
    · refine ⟨c :: u, v, rfl, ?_, fun n hn w' => ?_⟩
      · rwa [← hstep]
      · cases n with
        | zero =>
          rw [List.take_zero, List.append_nil]
          exact hno w'
        | succ n =>
          show ¬ LabelAt (before ++ c :: List.take n (u ++ v)) (List.drop n (u ++ v)) w'
          rw [← hstep]
          exact hfirst n (Nat.lt_of_succ_lt_succ hn) w'

/-- The search from any place on, the text before it known. -/
theorem defaultPrincipal?_from {fresh : Bool} {before s w : List Char}
    (hf : fresh = true ↔ Fresh before) :
    defaultPrincipal? fresh s = some w ↔ NamedFrom before s w := by
  induction s generalizing fresh before with
  | nil => exact iff_of_false (Option.some_ne_none w).symm (not_namedFrom_nil before w)
  | cons c r ih =>
    have hnext : (c == '\n' || (fresh && isBlank c)) = true ↔ Fresh (before ++ [c]) := by
      rw [fresh_concat, Bool.or_eq_true, beq_iff_eq, Bool.and_eq_true, hf]
    rw [defaultPrincipal?_cons, namedFrom_cons, Option.or_eq_some_iff, ih hnext,
      Option.eq_none_iff_forall_ne_some]
    simp only [ne_eq, here_eq_some_iff hf]

/-- **The default principal** is the word of the first label that has one. -/
theorem defaultPrincipal?_eq_some_iff {s w : List Char} :
    defaultPrincipal? true s = some w ↔ FirstNamed s w :=
  defaultPrincipal?_from ⟨fun _ => fresh_nil, fun _ => rfl⟩

/-! ## Line by line -/

/-- **A line that names a word**: label and word, with only blanks around them. -/
def NamesOn (line w : List Char) : Prop :=
  ∃ lead gap trail, line = lead ++ (principalLabel ++ (gap ++ (w ++ trail))) ∧ AllBlank lead ∧
    AllBlank gap ∧ IsSolid w ∧ AllBlank trail

/-- A line with a label and nothing else. -/
def IsBareLabel (line : List Char) : Prop :=
  ∃ lead trail, line = lead ++ (principalLabel ++ trail) ∧ AllBlank lead ∧ AllBlank trail

/-- **The first line that names a word**, and its word. -/
def OnFirstLine (lines : List (List Char)) (w : List Char) : Prop :=
  ∃ earlier line later, lines = earlier ++ line :: later ∧ NamesOn line w ∧
    ∀ other ∈ earlier, ∀ w', ¬ NamesOn other w'

theorem onFirstLine_cons {line : List Char} {more : List (List Char)} {w : List Char} :
    OnFirstLine (line :: more) w ↔
      NamesOn line w ∨ ((∀ w', ¬ NamesOn line w') ∧ OnFirstLine more w) := by
  constructor
  · rintro ⟨earlier, named, later, hcut, hnamed, hfirst⟩
    cases earlier with
    | nil =>
      obtain ⟨rfl, rfl⟩ := List.cons_eq_cons.mp hcut
      exact .inl hnamed
    | cons first earlier =>
      obtain ⟨rfl, rfl⟩ := List.cons_eq_cons.mp hcut
      exact .inr ⟨hfirst line List.mem_cons_self, earlier, named, later, rfl, hnamed,
        fun other ho => hfirst other (List.mem_cons_of_mem _ ho)⟩
  · rintro (hnamed | ⟨hno, earlier, named, later, rfl, hnamed, hfirst⟩)
    · exact ⟨[], line, more, rfl, hnamed, nofun⟩
    · refine ⟨line :: earlier, named, later, rfl, hnamed, fun other ho => ?_⟩
      rcases List.mem_cons.mp ho with rfl | ho
      · exact hno
      · exact hfirst other ho

/-- The label begins with no blank and holds no line break. -/
theorem principalLabel_eq : ∃ c label, principalLabel = c :: label ∧ isBlank c = false ∧
    '\n' ∉ principalLabel := ⟨'D', "efault principal:".toList, by decide, by decide, by decide⟩

theorem defaultPrincipal?_blank {c : Char} (hc : isBlank c = true) (r : List Char) :
    defaultPrincipal? true (c :: r) = defaultPrincipal? true r := by
  have hno : afterLabel? (c :: r) = none := by
    rcases h : afterLabel? (c :: r) with _ | tail
    · rfl
    · obtain ⟨d, label, hlabel, hd, -⟩ := principalLabel_eq
      have hcut := afterLabel?_eq_some_iff.mp h
      rw [hlabel, List.cons_append] at hcut
      rw [(List.cons_eq_cons.mp hcut).1, hd] at hc
      exact nomatch hc
  rw [defaultPrincipal?]
  simp [hno, hc]

/-- What is left to search when a line is done with. -/
def nextLine : List Char → Option (List Char)
  | [] => none
  | _ :: below => defaultPrincipal? true below

/-- The rest of a line, after something else has stood on it, is passed over. -/
theorem defaultPrincipal?_stale {u rest : List Char} (hu : '\n' ∉ u) (hrest : EndsLine rest) :
    defaultPrincipal? false (u ++ rest) = nextLine rest := by
  induction u with
  | nil =>
    rcases hrest with rfl | ⟨below, rfl⟩ <;> rfl
  | cons c u ih =>
    have hc : (c == '\n') = false := beq_eq_false_iff_ne.mpr fun h => hu (h ▸ List.mem_cons_self)
    rw [List.cons_append, defaultPrincipal?]
    simp only [Bool.false_eq_true, if_false, hc, Bool.false_and, Bool.or_self]
    exact ih fun h => hu (List.mem_cons_of_mem _ h)

/-- What holds no line break and begins a line's rest is part of that line. -/
theorem cut_line {a b rest tail : List Char} (hb : '\n' ∉ b) (hrest : EndsLine rest)
    (h : a ++ rest = b ++ tail) : ∃ x, a = b ++ x ∧ tail = x ++ rest := by
  rcases List.append_eq_append_iff.mp h with ⟨x, hx, hr⟩ | ⟨x, hx, ht⟩
  · rcases x with _ | ⟨c, x⟩
    · exact ⟨[], by rw [hx, List.append_nil, List.append_nil], hr.symm⟩
    · rcases hrest with rfl | ⟨below, rfl⟩
      · exact nomatch hr
      · -- the line's end would be inside the part
        obtain ⟨rfl, -⟩ := List.cons_eq_cons.mp hr
        exact absurd (hx ▸ List.mem_append_right a List.mem_cons_self) hb
  · exact ⟨x, hx, ht⟩

/-- On a line, only blanks follow the word. -/
theorem allBlank_of_cut {x rest trail below : List Char} (hx : '\n' ∉ x) (htrail : AllBlank trail)
    (hbelow : EndsLine below) (h : x ++ rest = trail ++ below) : AllBlank x := by
  rcases List.append_eq_append_iff.mp h with ⟨y, rfl, -⟩ | ⟨y, rfl, hy⟩
  · exact fun c hc => htrail c (List.mem_append_left _ hc)
  · rcases y with _ | ⟨c, y⟩
    · rwa [List.append_nil]
    · rcases hbelow with rfl | ⟨r, rfl⟩
      · exact nomatch hy
      · obtain ⟨rfl, -⟩ := List.cons_eq_cons.mp hy
        exact absurd (List.mem_append_right trail List.mem_cons_self) hx

/-- Blanks that reach past the end of a line fill the line. -/
theorem allBlank_of_break {u rest gap tail : List Char} (hu : '\n' ∉ u) (hrest : EndsLine rest)
    (hgap : AllBlank gap) (hmem : '\n' ∈ gap) (h : u ++ rest = gap ++ tail) : AllBlank u := by
  obtain ⟨g, below, rfl, hg⟩ := List.eq_append_cons_of_mem hmem
  rw [List.append_assoc] at h
  obtain ⟨x, rfl, hx⟩ := cut_line hg hrest h
  -- what is left of the line begins with its end
  rcases x with _ | ⟨c, x⟩
  · rw [List.append_nil]
    exact fun c hc => hgap c (List.mem_append_left _ hc)
  · obtain ⟨rfl, -⟩ := List.cons_eq_cons.mp hx
    exact absurd (List.mem_append_right g List.mem_cons_self) hu

/-- **What follows a label that is not alone on its line** names a word of that line. -/
theorem labels_append_iff {u rest w : List Char} (hu : '\n' ∉ u) (hrest : EndsLine rest)
    (hbare : ¬ AllBlank u) :
    Labels (u ++ rest) w ↔
      ∃ gap trail, u = gap ++ (w ++ trail) ∧ AllBlank gap ∧ IsSolid w ∧ AllBlank trail := by
  constructor
  · rintro ⟨gap, trail, below, hcut, hgap, hw, htrail, hbelow⟩
    have hgapLine : '\n' ∉ gap := fun hmem => hbare (allBlank_of_break hu hrest hgap hmem hcut)
    have hwordLine : '\n' ∉ w := fun h => nomatch hw.solid _ h
    obtain ⟨x, rfl, hx⟩ := cut_line hgapLine hrest hcut
    obtain ⟨y, rfl, hy⟩ := cut_line hwordLine hrest hx.symm
    have hy' : '\n' ∉ y := fun h => hu (List.mem_append_right _ (List.mem_append_right _ h))
    exact ⟨gap, y, rfl, hgap, hw, allBlank_of_cut hy' htrail hbelow hy.symm⟩
  · rintro ⟨gap, trail, rfl, hgap, hw, htrail⟩
    refine ⟨gap, trail, rest, ?_, hgap, hw, htrail, hrest⟩
    simp only [List.append_assoc]

/-- A blank in front of a line makes no difference to what the line says. -/
theorem namesOn_blank {c : Char} (hc : isBlank c = true) {line w : List Char} :
    NamesOn (c :: line) w ↔ NamesOn line w := by
  constructor
  · rintro ⟨lead, gap, trail, hcut, hlead, hrest⟩
    cases lead with
    | nil =>
      obtain ⟨d, label, hlabel, hd, -⟩ := principalLabel_eq
      rw [hlabel] at hcut
      rw [(List.cons_eq_cons.mp hcut).1, hd] at hc
      exact nomatch hc
    | cons d lead =>
      obtain ⟨rfl, rfl⟩ := List.cons_eq_cons.mp hcut
      exact ⟨lead, gap, trail, rfl, fun e he => hlead e (List.mem_cons_of_mem _ he), hrest⟩
  · rintro ⟨lead, gap, trail, rfl, hlead, hrest⟩
    exact ⟨c :: lead, gap, trail, rfl, List.forall_mem_cons.mpr ⟨hc, hlead⟩, hrest⟩

/-- On a line that begins with something else than a blank, the label has to come first. -/
theorem namesOn_iff {c : Char} (hc : isBlank c = false) {line w : List Char} :
    NamesOn (c :: line) w ↔ ∃ u, c :: line = principalLabel ++ u ∧
      ∃ gap trail, u = gap ++ (w ++ trail) ∧ AllBlank gap ∧ IsSolid w ∧ AllBlank trail := by
  constructor
  · rintro ⟨lead, gap, trail, hcut, hlead, hgap, hw, htrail⟩
    cases lead with
    | nil => exact ⟨_, hcut, gap, trail, rfl, hgap, hw, htrail⟩
    | cons d lead =>
      rw [(List.cons_eq_cons.mp hcut).1, hlead d List.mem_cons_self] at hc
      exact nomatch hc
  · rintro ⟨u, hcut, gap, trail, rfl, hgap, hw, htrail⟩
    exact ⟨[], gap, trail, hcut, allBlank_nil, hgap, hw, htrail⟩

/-- The word that a line names, found on the line itself. -/
theorem word_of_namesOn {line w : List Char} (h : NamesOn line w) :
    (afterLabel? (trimStart line)).bind labelledWord? = some w := by
  obtain ⟨lead, gap, trail, rfl, hlead, hgap, hw, htrail⟩ := h
  have hstart : trimStart (lead ++ (principalLabel ++ (gap ++ (w ++ trail)))) =
      principalLabel ++ (gap ++ (w ++ trail)) := by
    refine (takeWhile_append_of_head? hlead fun c hc => ?_).2
    obtain ⟨d, label, hlabel, hd, -⟩ := principalLabel_eq
    rw [hlabel] at hc
    cases hc
    exact hd
  rw [hstart, afterLabel?_eq_some_iff.mpr rfl]
  refine labelledWord?_eq_some_iff.mpr ⟨gap, trail, [], ?_, hgap, hw, htrail, .inl rfl⟩
  rw [List.append_nil]

/-- A label that begins a line and does not stand there alone takes its word from the line. -/
theorem labelledWord?_line {c : Char} {line rest w : List Char} (hc : isBlank c = false)
    (hl : '\n' ∉ c :: line) (hrest : EndsLine rest) (hbare : ¬ IsBareLabel (c :: line)) :
    (afterLabel? (c :: (line ++ rest))).bind labelledWord? = some w ↔ NamesOn (c :: line) w := by
  rw [Option.bind_eq_some_iff, namesOn_iff hc]
  constructor
  · rintro ⟨tail, hs, hw⟩
    obtain ⟨-, -, -, -, hlabel⟩ := principalLabel_eq
    obtain ⟨u, hu, rfl⟩ := cut_line (a := c :: line) hlabel hrest (afterLabel?_eq_some_iff.mp hs)
    have hfull : ¬ AllBlank u := fun h => hbare ⟨[], u, hu, allBlank_nil, h⟩
    have hu' : '\n' ∉ u := fun h => hl (hu ▸ List.mem_append_right _ h)
    exact ⟨u, hu, (labels_append_iff hu' hrest hfull).mp (labelledWord?_eq_some_iff.mp hw)⟩
  · rintro ⟨u, hu, gap, trail, rfl, hgap, hw, htrail⟩
    refine ⟨(gap ++ (w ++ trail)) ++ rest, afterLabel?_eq_some_iff.mpr ?_,
      labelledWord?_eq_some_iff.mpr ⟨gap, trail, rest, ?_, hgap, hw, htrail, hrest⟩⟩
    · rw [← List.append_assoc, ← hu, List.cons_append]
    · simp only [List.append_assoc]

theorem not_namesOn_nil (w : List Char) : ¬ NamesOn [] w := by
  rintro ⟨lead, gap, trail, hcut, -⟩
  obtain ⟨-, hrest⟩ := List.append_eq_nil_iff.mp hcut.symm
  exact nomatch hrest

/-- **The search over one line** that is not a bare label: the line's own word, or else what the next
    line brings.  By induction on the blanks in front. -/
theorem defaultPrincipal?_line {line rest w : List Char} (hl : '\n' ∉ line) (hrest : EndsLine rest)
    (hbare : ¬ IsBareLabel line) :
    defaultPrincipal? true (line ++ rest) = some w ↔
      NamesOn line w ∨ ((∀ w', ¬ NamesOn line w') ∧ nextLine rest = some w) := by
  induction line with
  | nil =>
    have hgo : defaultPrincipal? true rest = nextLine rest := by
      rcases hrest with rfl | ⟨below, rfl⟩
      · rfl
      · exact defaultPrincipal?_blank (by decide) below
    rw [List.nil_append, hgo, or_iff_right (not_namesOn_nil w), and_iff_right not_namesOn_nil]
  | cons c line ih =>
    have hc' : '\n' ∉ line := fun h => hl (List.mem_cons_of_mem _ h)
    rcases hblank : isBlank c with _ | _
    · -- the label stands here or nowhere on this line
      have hne : (c == '\n') = false := beq_eq_false_iff_ne.mpr fun h => hl (h ▸ List.mem_cons_self)
      rw [List.cons_append, defaultPrincipal?_cons, if_pos rfl, hne, hblank, Bool.and_false,
        Bool.or_false, defaultPrincipal?_stale hc' hrest, Option.or_eq_some_iff,
        Option.eq_none_iff_forall_ne_some]
      simp only [ne_eq, labelledWord?_line hblank hl hrest hbare]
    · have hbare' : ¬ IsBareLabel line := by
        rintro ⟨lead, trail, rfl, hlead, htrail⟩
        exact hbare ⟨c :: lead, trail, rfl, List.forall_mem_cons.mpr ⟨hblank, hlead⟩, htrail⟩
      rw [List.cons_append, defaultPrincipal?_blank hblank, ih hc' hbare']
      simp only [namesOn_blank hblank]

/-- The search over all lines, none of them a bare label. -/
theorem defaultPrincipal?_joinWith {lines : List (List Char)} {w : List Char} (hne : lines ≠ [])
    (hlines : ∀ line ∈ lines, '\n' ∉ line) (hbare : ∀ line ∈ lines, ¬ IsBareLabel line) :
    defaultPrincipal? true (joinWith ['\n'] lines) = some w ↔ OnFirstLine lines w := by
  have hnone : ¬ OnFirstLine [] w := by
    rintro ⟨earlier, line, later, hcut, -⟩
    exact absurd hcut.symm (by simp)
  induction lines with
  | nil => exact absurd rfl hne
  | cons line more ih =>
    obtain ⟨hl, hmore⟩ := List.forall_mem_cons.mp hlines
    obtain ⟨hb, hbares⟩ := List.forall_mem_cons.mp hbare
    rw [onFirstLine_cons]
    cases more with
    | nil =>
      have h := defaultPrincipal?_line (w := w) hl (.inl rfl) hb
      rw [List.append_nil] at h
      rw [joinWith, h]
      refine or_congr_right (and_congr_right fun _ => iff_of_false ?_ hnone)
      exact (Option.some_ne_none w).symm
    | cons next more =>
      have hend : EndsLine ('\n' :: joinWith ['\n'] (next :: more)) := .inr ⟨_, rfl⟩
      have h := defaultPrincipal?_line (w := w) hl hend hb
      rw [joinWith, List.append_assoc]
      exact h.trans (or_congr_right (and_congr_right fun _ =>
        ih (List.cons_ne_nil _ _) hmore hbares))

/-- **The default principal, line by line**, in a text without bare labels. -/
theorem defaultPrincipal?_of_lines {s w : List Char}
    (hbare : ∀ line ∈ splitOn '\n' s, ¬ IsBareLabel line) :
    defaultPrincipal? true s = some w ↔ OnFirstLine (splitOn '\n' s) w := by
  have hlines : ∀ line ∈ splitOn '\n' s, '\n' ∉ line := by
    intro line hline hmem
    simpa using not_of_mem_splitWhere _ s line hline _ hmem
  have hne : splitOn '\n' s ≠ [] := splitWhere_ne_nil _ s
  have h := defaultPrincipal?_joinWith (w := w) hne hlines hbare
  rwa [joinWith_splitOn] at h

/-! ## What a provider reports -/

/-- What a lister prints decides the identity, if it has run with exit status 0. -/
theorem on_cachedIdentity {h : Host} {place : String} {r : RunResult}
    (hplace : h.lister.place = some place) (hrun : h.lister.outcome = .ok r) (lister : String)
    (cache : Value) :
    ((cachedIdentity lister cache).on h).1 = .ok (if r.status = 0 then
      (defaultPrincipal? true r.out.toList).map fun w => ⟨String.ofList w⟩ else none) := by
  have hlist : ∃ argv h', (listCommand lister cache).on h = (.ok argv, h') ∧ h'.lister = h.lister := by
    unfold listCommand
    have hnote : (Act.note (.which lister)).on h = (.ok (), h.note (.which lister)) := rfl
    have hplace' : (h.note (.which lister)).lister.place = some place := hplace
    rw [Act.on_bind_ok hnote, Act.on_bind_ok (Act.on_get _)]
    simp only [hplace']
    exact ⟨_, _, rfl, rfl⟩
  obtain ⟨argv, h', hargv, hsame⟩ := hlist
  have hnote : (Act.note (.run argv)).on h' = (.ok (), h'.note (.run argv)) := rfl
  have hrun' : (Act.ofExcept (h'.note (.run argv)).lister.outcome).on (h'.note (.run argv)) =
      (.ok r, h'.note (.run argv)) := by
    rw [Act.on_ofExcept, show (h'.note (.run argv)).lister = h.lister from hsame, hrun]
  unfold cachedIdentity
  rw [Act.on_bind_ok hargv, Act.on_bind_ok hnote, Act.on_bind_ok (Act.on_get _), Act.on_bind_ok hrun']
  by_cases hs : r.status = 0
  · rw [if_neg (by simp [hs]), if_pos hs]
    rfl
  · rw [if_pos (by simp [hs]), if_neg hs]
    rfl

/-- **The identity that a credential cache gives.**  A lister that fails gives none.  One that succeeds
    gives the word of the first label that has one, which is the word on the first line that consists
    of label and word unless a label stands alone on its line. -/
theorem lookUp_ticketCache {h : Host} {place : String} {r : RunResult}
    (hplace : h.lister.place = some place) (hrun : h.lister.outcome = .ok r) (lister : String)
    (cache : Value) :
    ∃ found, ((IdentityProvider.ticketCache lister cache).lookUp.on h).1 = .ok found ∧
      (r.status ≠ 0 → found = none) ∧
      (r.status = 0 →
        (∀ i, found = some i ↔ FirstNamed r.out.toList i.userName.toList) ∧
        ((∀ line ∈ splitOn '\n' r.out.toList, ¬ IsBareLabel line) →
          ∀ i, found = some i ↔ OnFirstLine (splitOn '\n' r.out.toList) i.userName.toList)) := by
  refine ⟨_, on_cachedIdentity hplace hrun lister cache, fun hs => if_neg hs, fun hs => ?_⟩
  have hfound : ∀ i : LoginIdentity, (if r.status = 0 then
      (defaultPrincipal? true r.out.toList).map fun w => LoginIdentity.mk (String.ofList w) else none) =
      some i ↔ defaultPrincipal? true r.out.toList = some i.userName.toList := by
    intro i
    rw [if_pos hs, Option.map_eq_some_iff]
    constructor
    · rintro ⟨w, hw, rfl⟩
      rwa [String.toList_ofList]
    · intro hw
      exact ⟨_, hw, by rw [String.ofList_toList]⟩
  refine ⟨fun i => ?_, fun hbare i => ?_⟩
  · rw [hfound, defaultPrincipal?_eq_some_iff]
  · rw [hfound, defaultPrincipal?_of_lines hbare]

/-- A host whose lister prints a label with nothing behind it, and a ticket below. -/
def bareLabelHost : Host :=
  { lister := { place := some "/usr/bin/klist",
                outcome := .ok ⟨0, "Default principal:\n\nkrbtgt/R@R\n", ""⟩ } }

/-- The ticket's name is taken for the user's: no line names it. -/
theorem lookUp_bareLabel :
    ((IdentityProvider.ticketCache "klist" .none).lookUp.on bareLabelHost).1 =
        .ok (some ⟨"krbtgt/R@R"⟩) ∧
      ∀ w, ¬ OnFirstLine (splitOn '\n' "Default principal:\n\nkrbtgt/R@R\n".toList) w := by
  obtain ⟨found, hanswer, -, hzero⟩ := lookUp_ticketCache (h := bareLabelHost) rfl rfl "klist" .none
  obtain ⟨hfirst, -⟩ := hzero rfl
  have hword : FirstNamed "Default principal:\n\nkrbtgt/R@R\n".toList "krbtgt/R@R".toList :=
    defaultPrincipal?_eq_some_iff.mp (by decide +kernel)
  refine ⟨by rw [hanswer, (hfirst ⟨"krbtgt/R@R"⟩).mpr hword], ?_⟩
  rintro w ⟨earlier, line, later, hcut, hnamed, -⟩
  have hlines : splitOn '\n' "Default principal:\n\nkrbtgt/R@R\n".toList =
      [principalLabel, [], "krbtgt/R@R".toList, []] := by decide +kernel
  have hmem : line ∈ [principalLabel, [], "krbtgt/R@R".toList, []] := by
    rw [← hlines, hcut]
    exact List.mem_append_right _ List.mem_cons_self
  have hnone : ∀ l ∈ [principalLabel, [], "krbtgt/R@R".toList, []],
      (afterLabel? (trimStart l)).bind labelledWord? = none := by
    decide +kernel
  exact nomatch (hnone line hmem).symm.trans (word_of_namesOn hnamed)

end SecureStartup
