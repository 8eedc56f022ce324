import SecureStartup.Proofs.Json.Forms

/-!
  What a text has of the value that it was written of.

  Program: `json.dumps` with `json_serializer` as its `default`, for the lines of a log, and without one,
  for the documents of the tool and the answers of start-up.

  1. **Taken or refused** — a value is written if the style takes it and everything in it
     (`Style.Takes`), and else refused (`Outcome`).

  2. **Read again** — what is written is read again where infinite numbers are accepted; elsewhere it is
     read as long as there are none (`AllFinite`).

  3. **What comes back** — of JSON's own types that is known exactly: their `image`.

  `writeAt_outcome` says all of this, by induction over the parts of a value, and for every style but
  the one that writes texts in place of values.  Two cases are spelled out at the end: the line of a log
  (`write_outcome`), and a text in a style that refuses what JSON has no type for (`write_refusing`).
-/

namespace SecureStartup

theorem Text.IsDigits.oneLine {ds : List Char} (h : Text.IsDigits ds) : Text.OneLine ds := by
  intro c hc
  have hdigit := h.digits c hc
  constructor <;> rintro rfl <;> exact nomatch hdigit

namespace Json

open SecureStartup.Text
open Value (Throughout throughout_iff throughout_of_isAtom parts_induction)

/-! ## Outcomes -/

/-- The failures of writing. -/
def IsRefusal (e : Failure) : Prop := e = .invalid .numberTooLong ∨ e = .mismatch .wrongType

/-- **Writing gives a good result** exactly when it can, and else refuses. -/
inductive Outcome {β : Type} (can : Prop) (good : β → Prop) : Except Failure β → Prop where
  | ok {b : β} (h : can) (hb : good b) : Outcome can good (.ok b)
  | error {e : Failure} (h : ¬ can) (he : IsRefusal e) : Outcome can good (.error e)

section

variable {α β γ : Type} {can can' : Prop} {good : β → Prop} {good' : γ → Prop}

theorem Outcome.map {r : Except Failure β} (h : Outcome can good r) {f : β → γ} (hcan : can ↔ can')
    (hgood : can' → ∀ b, good b → good' (f b)) : Outcome can' good' (r.map f) := by
  cases h with
  | ok h hb => exact .ok (hcan.mp h) (hgood (hcan.mp h) _ hb)
  | error h he => exact .error (fun hc => h (hcan.mpr hc)) he

theorem Outcome.imp {good' : β → Prop} {r : Except Failure β} (h : Outcome can good r)
    (hcan : can ↔ can') (hgood : can' → ∀ b, good b → good' b) : Outcome can' good' r := by
  cases h with
  | ok h hb => exact .ok (hcan.mp h) (hgood (hcan.mp h) _ hb)
  | error h he => exact .error (fun hc => h (hcan.mpr hc)) he

/-- All of several results are good, if all can be. -/
theorem outcome_joined {cans : α → Prop} {goods : α → List Char → Prop} {xs : List α}
    {rs : List (Except Failure (List Char))}
    (h : List.Forall₂ (fun x r => Outcome (cans x) (goods x) r) xs rs) :
    Outcome (∀ x ∈ xs, cans x) (List.Forall₂ goods xs) (joined rs) := by
  unfold joined
  induction h with
  | nil => exact .ok nofun .nil
  | @cons x r xs rs hr _ ih =>
    rw [List.mapM_cons]
    cases hr with
    | error hx he => exact .error (fun hall => hx (hall x List.mem_cons_self)) he
    | @ok t hx ht =>
      show Outcome _ _ (do let ts ← rs.mapM id; return t :: ts)
      revert ih
      generalize rs.mapM id = r
      rintro (⟨hxs, hts⟩ | ⟨hxs, he⟩)
      · exact .ok (List.forall_mem_cons.mpr ⟨hx, hxs⟩) (.cons ht hts)
      · exact .error (fun hall => hxs fun y hy => hall y (List.mem_cons_of_mem x hy)) he

end

/-- All of several results, if there are all. -/
theorem isSome_mapM {α β : Type} {P : α → Prop} {xs : List α} {os : List (Option β)}
    (h : List.Forall₂ (fun x o => o.isSome = true ↔ P x) xs os) :
    (os.mapM id).isSome = true ↔ ∀ x ∈ xs, P x := by
  induction h with
  | nil => exact ⟨fun _ => nofun, fun _ => rfl⟩
  | @cons x o xs os ho _ ih =>
    rw [List.mapM_cons, List.forall_mem_cons, ← ih, ← ho]
    cases o with
    | none => simp
    | some b => cases os.mapM id <;> simp

/-- Several results that are known from what they come from. -/
theorem mapM_eq_map {α β : Type} {P : α → Prop} {f : α → β} {xs : List α} {os : List (Option β)}
    (h : List.Forall₂ (fun x o => P x → ∀ y, o = some y → y = f x) xs os) (hP : ∀ x ∈ xs, P x)
    {ys : List β} (hys : os.mapM id = some ys) : ys = xs.map f := by
  induction h generalizing ys with
  | nil => exact (Option.some.inj hys).symm
  | @cons x o xs os ho _ ih =>
    obtain ⟨hx, hxs⟩ := List.forall_mem_cons.mp hP
    rw [List.mapM_cons] at hys
    obtain ⟨y, hy, hys⟩ := Option.bind_eq_some_iff.mp hys
    obtain ⟨ys', hys', hcons⟩ := Option.bind_eq_some_iff.mp hys
    rw [← Option.some.inj hcons, ho hx y hy, ih hxs hys', List.map_cons]

/-! ## What is written of a value -/

/-- What a value may be read as, if it is finite or other numbers are accepted: as its image, if it has a
    form of its own. -/
structure ReadIn (ascii words : Bool) (v : Value) (o : Option Value) : Prop where
  isSome : o.isSome = true ↔ words = true ∨ AllFinite v
  image : HasOwnForm v → ∀ w, o = some w → w = image ascii v

/-- **A value's text**: on one line if the style says so, and read as it should be. -/
structure Written (st : Style) (v : Value) (t : List Char) : Prop where
  oneLine : st.indent = none → OneLine t
  reads : ∀ words, ∃ o, Reads words t o ∧ ReadIn st.ascii words v o

theorem ReadIn.of_some {ascii words : Bool} {v w : Value} (hfinite : AllFinite v)
    (h : HasOwnForm v → w = Json.image ascii v) : ReadIn ascii words v (some w) := by
  refine ⟨⟨fun _ => .inr hfinite, fun _ => rfl⟩, fun hv w' hw => ?_⟩
  rw [← Option.some.inj hw]
  exact h hv

section

variable {st : Style}

/-! ### Values that hold no others -/

theorem NumberText.oneLine {ds : List Char} {fs : Option (List Char)} {ex : Option (Bool × List Char)}
    (h : NumberText ds fs ex) : OneLine (ds ++ (fractionText fs ++ exponentText ex)) := by
  have hfraction : OneLine (fractionText fs) := by
    rcases fs with _ | fs
    · exact oneLine_nil
    · exact .cons (by decide) (h.fraction fs rfl).oneLine
  have hexponent : OneLine (exponentText ex) := by
    rcases ex with _ | ⟨negative, es⟩
    · exact oneLine_nil
    · have hsign : ∀ b : Bool, (if b then '-' else '+') ≠ '\n' ∧ (if b then '-' else '+') ≠ '\r' := by
        decide
      exact .cons (by decide) (.cons (hsign negative) (h.exponent _ rfl).oneLine)
  exact h.whole.oneLine.append (hfraction.append hexponent)

/-- A number's text with its sign. -/
theorem oneLine_signed {t : List Char} (h : OneLine t) (negative : Bool) :
    OneLine (if negative then '-' :: t else t) := by
  cases negative with
  | true => exact .cons (by decide) h
  | false => exact h

theorem oneLine_floatText (x : Binary64) : OneLine (floatText x).toList := by
  cases x with
  | nan => exact oneLine_of_all rfl
  | infinite negative => cases negative <;> exact oneLine_of_all rfl
  | finite negative m e =>
    have htext : (floatText (.finite negative m e)).toList =
        if negative then '-' :: (if m == 0 then ['0', '.', '0'] else (Binary64.shortest m e).text)
        else if m == 0 then ['0', '.', '0'] else (Binary64.shortest m e).text := String.toList_ofList
    rw [htext]
    refine oneLine_signed ?_ negative
    split
    · exact oneLine_of_all rfl
    · next hne =>
      have hpos : 0 < m := Nat.pos_of_ne_zero fun h => hne (beq_iff_eq.mpr h)
      obtain ⟨ds, fs, ex, hwrites, hparts, -⟩ := writes_text (Binary64.shortest_digits_pos hpos e)
      rw [hwrites]
      exact hparts.oneLine

theorem written_float (x : Binary64) : Written st (.float x) (floatText x).toList := by
  have hfinite : AllFinite (.float x) ↔ x.IsFinite := throughout_of_isAtom rfl
  refine ⟨fun _ => oneLine_floatText x, fun words => ?_⟩
  cases x with
  | nan =>
    refine ⟨_, reads_nan words, ?_, fun _ w hw => ?_⟩
    · rw [hfinite]
      cases words <;> simp [Binary64.IsFinite]
    · cases words with
      | false => exact nomatch hw
      | true =>
        have himage : imageDouble .nan = .float .nan := imageDouble_eq trivial
        exact (Option.some.inj hw).symm.trans himage.symm
  | infinite negative =>
    refine ⟨_, reads_infinite words negative, ?_, fun _ w hw => ?_⟩
    · rw [hfinite]
      cases words <;> simp [Binary64.IsFinite]
    · cases words with
      | false => exact nomatch hw
      | true =>
        have himage : imageDouble (.infinite negative) = .float (.infinite negative) :=
          imageDouble_eq trivial
        exact (Option.some.inj hw).symm.trans himage.symm
  | finite negative m e =>
    obtain ⟨y, hreads, -⟩ := reads_finite negative m e
    exact ⟨_, hreads words, .of_some (hfinite.mpr trivial) fun _ =>
      (imageDouble_of_reads (hreads true)).symm⟩

/-- A text that stands for some value. -/
theorem written_string {v : Value} (s : String) (hfinite : AllFinite v)
    (h : HasOwnForm v → v = .str s) : Written st v (quote st.ascii s.toList) := by
  refine ⟨fun _ => quote_oneLine _ _, fun words =>
    ⟨_, reads_string words st.ascii s.toList, .of_some hfinite fun hv => ?_⟩⟩
  rw [h hv]
  rfl

theorem intText_outcome (i : Int) :
    Outcome (IsShort i) (· = toString i) (intText i) := by
  unfold intText IsShort
  split
  case isTrue h => exact .ok h rfl
  case isFalse h => exact .error h (.inl rfl)

/-- What is written of a value that holds no others. -/
theorem atomText_outcome (hst : st.fallback ≠ .asText) {v : Value} (hv : v.isAtom = true) :
    Outcome (Throughout st.Takes v) (Written st v) (atomText st v) := by
  have htakes : Throughout st.Takes v ↔ st.Takes v := throughout_of_isAtom hv
  have hfinite : AllFinite v ↔ _ := throughout_of_isAtom hv
  have hown : HasOwnForm v ↔ _ := throughout_of_isAtom hv
  cases v with
  | none =>
    exact .ok (htakes.mpr trivial) ⟨fun _ => oneLine_of_all rfl, fun words =>
      ⟨_, reads_null words, .of_some (hfinite.mpr trivial) fun _ => rfl⟩⟩
  | bool b =>
    refine .ok (htakes.mpr trivial) ?_
    cases b with
    | true =>
      exact ⟨fun _ => oneLine_of_all rfl, fun words =>
        ⟨_, reads_true words, .of_some (hfinite.mpr trivial) fun _ => rfl⟩⟩
    | false =>
      exact ⟨fun _ => oneLine_of_all rfl, fun words =>
        ⟨_, reads_false words, .of_some (hfinite.mpr trivial) fun _ => rfl⟩⟩
  | int i =>
    refine (intText_outcome i).map (f := String.toList) htakes.symm ?_
    rintro - t rfl
    refine ⟨fun _ => ?_, fun words =>
      ⟨_, reads_int words i, .of_some (hfinite.mpr trivial) fun _ => rfl⟩⟩
    rw [toList_toString]
    have hsigned := oneLine_signed (toDigits_isDigits i.natAbs).oneLine (decide (i < 0))
    exact hsigned
  | float x => exact .ok (htakes.mpr trivial) (written_float x)
  | str s => exact .ok (htakes.mpr trivial) (written_string s (hfinite.mpr trivial) fun _ => rfl)
  | bytes | date | datetime | path | category | object =>
    unfold atomText
    simp only
    cases hfallback : st.fallback with
    | asText => exact absurd hfallback hst
    | refuse => exact .error (fun h => nomatch hfallback.symm.trans (htakes.mp h)) (.inr rfl)
    | converted =>
      exact .ok (htakes.mpr hfallback)
        (written_string _ (hfinite.mpr trivial) fun h => (hown.mp h).elim)
  | list | tuple | set | frozenset | map => exact nomatch hv

/-! ### Arrays -/

theorem writeItems_eq_map (st : Style) (level : Nat) (xs : List Value) :
    writeItems st level xs = xs.map (writeAt st level) := by
  induction xs with
  | nil => rfl
  | cons x xs ih => rw [writeItems, ih, List.map_cons]

theorem writeMembers_eq_map (st : Style) (level : Nat) (es : Entries) :
    writeMembers st level es = es.map fun e => memberText st e.1 (writeAt st level e.2) := by
  induction es with
  | nil => rfl
  | cons e es ih => rw [writeMembers, ih, List.map_cons]

theorem oneLine_listed (hst : st.indent = none) (level : Nat) {ts : List (List Char)}
    (h : ∀ t ∈ ts, OneLine t) : OneLine (listed st level ts) := by
  have hsep : st.separator level = [',', ' '] := by
    unfold Style.separator
    rw [hst]
  induction ts with
  | nil => exact oneLine_nil
  | cons t ts ih =>
    obtain ⟨ht, hts⟩ := List.forall_mem_cons.mp h
    rw [listed_cons, hsep]
    split
    · exact ht
    · exact ht.append (.cons (by decide) (.cons (by decide) (ih hts)))

theorem oneLine_bracketed (hst : st.indent = none) (level : Nat) {ts : List (List Char)}
    (h : ∀ t ∈ ts, OneLine t) {open_ close : Char} (hopen : open_ ≠ '\n' ∧ open_ ≠ '\r')
    (hclose : close ≠ '\n' ∧ close ≠ '\r') : OneLine (st.bracketed level open_ close ts) := by
  have hnewline : ∀ level, st.newline level = [] := by
    intro level
    unfold Style.newline
    rw [hst]
  cases ts with
  | nil => exact .cons hopen (.cons hclose oneLine_nil)
  | cons t ts =>
    rw [bracketed_cons, hnewline, hnewline]
    exact .cons hopen ((oneLine_listed hst _ h).append (.cons hclose oneLine_nil))

/-- What is true of all items, or accepted anyway. -/
theorem forall_or {α : Type} (words : Bool) {P : α → Prop} {xs : List α} :
    (∀ x ∈ xs, words = true ∨ P x) ↔ words = true ∨ ∀ x ∈ xs, P x := by
  cases words <;> simp

/-- What is known of all texts, when it is known of the text of each item. -/
theorem forall_mem_of_forall₂ {α : Type} {R : α → List Char → Prop} {P : List Char → Prop} {xs : List α}
    {ts : List (List Char)} (h : List.Forall₂ R xs ts) (hR : ∀ x t, R x t → P t) : ∀ t ∈ ts, P t := by
  induction h with
  | nil => exact nofun
  | cons hxt _ ih => exact List.forall_mem_cons.mpr ⟨hR _ _ hxt, ih⟩

/-- Items read one by one. -/
theorem exists_forall₂_reads {α : Type} {R : List Char → Option α → Prop} {S : α → Option α → Prop}
    {xs : List α} {ts : List (List Char)}
    (h : List.Forall₂ (fun x t => ∃ o, R t o ∧ S x o) xs ts) :
    ∃ os, List.Forall₂ R ts os ∧ List.Forall₂ S xs os := by
  induction h with
  | nil => exact ⟨[], .nil, .nil⟩
  | cons ho _ ih =>
    obtain ⟨o, hr, hs⟩ := ho
    obtain ⟨os, hrs, hss⟩ := ih
    exact ⟨o :: os, .cons hr hrs, .cons hs hss⟩

/-- **The text of an array.** -/
theorem written_list (level : Nat) {xs : List Value} {ts : List (List Char)}
    (h : List.Forall₂ (Written st) xs ts) :
    Written st (.list xs) (st.bracketed level '[' ']' ts) := by
  constructor
  · intro hst
    have hlines : ∀ t ∈ ts, OneLine t := forall_mem_of_forall₂ h fun _ _ hxt => hxt.oneLine hst
    exact oneLine_bracketed hst level hlines (by decide) (by decide)
  · intro words
    obtain ⟨os, hreads, has⟩ := exists_forall₂_reads (h.imp fun x t hxt => hxt.reads words)
    have hfinite : AllFinite (.list xs) ↔ ∀ x ∈ xs, AllFinite x := allFinite_iff (.list xs) rfl
    refine ⟨_, reads_array hreads level, ?_, fun hown w hw => ?_⟩
    · rw [Option.isSome_map, isSome_mapM (has.imp fun x o hxo => hxo.isSome), forall_or, hfinite]
    · obtain ⟨ys, hys, rfl⟩ := Option.map_eq_some_iff.mp hw
      rw [image, imageItems_eq_map,
        mapM_eq_map (has.imp fun x o hxo => hxo.image) (fun x hx => hown.of_mem hx) hys]

/-- What is no list itself but is written as one. -/
theorem Written.of_list {v : Value} {xs : List Value} {t : List Char} (h : Written st (.list xs) t)
    (hfinite : AllFinite (.list xs) ↔ AllFinite v)
    (himage : HasOwnForm v → HasOwnForm (.list xs) ∧ image st.ascii (.list xs) = image st.ascii v) :
    Written st v t := by
  refine ⟨h.oneLine, fun words => ?_⟩
  obtain ⟨o, hread, has⟩ := h.reads words
  refine ⟨o, hread, by rw [← hfinite]; exact has.isSome, fun hv w hw => ?_⟩
  obtain ⟨hown, hsame⟩ := himage hv
  rw [has.image hown w hw, hsame]

/-- The texts of items in brackets. -/
theorem outcome_items {xs : List Value} {rs : List (Except Failure (List Char))}
    (h : List.Forall₂ (fun x r => Outcome (Throughout st.Takes x) (Written st x) r) xs rs)
    (level : Nat) :
    Outcome (∀ x ∈ xs, Throughout st.Takes x) (Written st (.list xs))
      ((joined rs).map (st.bracketed level '[' ']')) :=
  (outcome_joined h).map Iff.rfl fun _ _ hts => written_list level hts

/-! ### Sets -/

/-- The items of a set in order, each with its result. -/
theorem sortBy?_zip {β : Type} {xs : List Value} {rs : List β} (h : xs.length = rs.length) :
    (Value.sortBy? (fun p : Value × β => p.1) (xs.zip rs)).map (List.map Prod.fst) =
      Value.sort? xs := by
  have hmap := Value.sortBy?_map id Prod.fst (xs.zip rs)
  rw [List.map_fst_zip h.le] at hmap
  exact hmap

/-- A set that is converted is refused, or written as its items in order are. -/
theorem setText_converted (hst : st.fallback = .converted) (level : Nat) (whole : Value)
    (xs : List Value) (rs : List (Except Failure (List Char))) :
    setText st level whole xs rs =
      (Value.sortBy? (fun p : Value × Except Failure (List Char) => p.1) (xs.zip rs)).elim
        (.error (.mismatch .wrongType))
        fun sorted => (joined (sorted.map (·.2))).map (st.bracketed level '[' ']') := by
  unfold setText
  simp only [hst]
  cases Value.sortBy? (fun p : Value × Except Failure (List Char) => p.1) (xs.zip rs) <;> rfl

/-- **The text of a set**, which is that of its items in order. -/
theorem outcome_set (hst : st.fallback ≠ .asText) {v : Value} {xs : List Value}
    {rs : List (Except Failure (List Char))}
    (h : List.Forall₂ (fun x r => Outcome (Throughout st.Takes x) (Written st x) r) xs rs)
    (level : Nat) (hv : v = .set xs ∨ v = .frozenset xs) :
    Outcome (Throughout st.Takes v) (Written st v) (setText st level v xs rs) := by
  have htakes : Throughout st.Takes v ↔
      (st.fallback = .converted ∧ (Value.sort? xs).isSome = true) ∧
        ∀ x ∈ xs, Throughout st.Takes x := by
    rcases hv with rfl | rfl <;> exact throughout_iff
  have hfinite : AllFinite v ↔ ∀ x ∈ xs, AllFinite x := by
    rcases hv with rfl | rfl <;> exact allFinite_iff _ rfl
  have hown : ¬ HasOwnForm v := by
    rcases hv with rfl | rfl <;> exact fun h => h.own
  have hzip := sortBy?_zip h.length_eq
  cases hfallback : st.fallback with
  | asText => exact absurd hfallback hst
  | refuse =>
    have hnot : ¬ st.fallback = .converted := by
      rw [hfallback]
      exact nofun
    unfold setText
    rw [hfallback]
    exact .error (fun h => hnot (htakes.mp h).1.1) (.inr rfl)
  | converted =>
    rw [setText_converted hfallback]
    cases hsorted : Value.sortBy? (fun p : Value × Except Failure (List Char) => p.1) (xs.zip rs) with
    | none =>
      rw [hsorted] at hzip
      refine .error (fun hf => ?_) (.inr rfl)
      rw [← hzip] at htakes
      exact nomatch (htakes.mp hf).1.2
    | some sorted =>
      -- Sorted, the items are the same, each with what was written of it.
      have hperm := Value.sortBy?_perm hsorted
      have hitems : ∀ x, x ∈ sorted.map Prod.fst ↔ x ∈ xs := by
        intro x
        rw [(hperm.map Prod.fst).mem_iff, List.map_fst_zip h.length_eq.le]
      have hall : List.Forall₂ (fun x r => Outcome (Throughout st.Takes x) (Written st x) r)
          (sorted.map Prod.fst) (sorted.map (·.2)) := by
        rw [List.forall₂_map_left_iff, List.forall₂_map_right_iff, List.forall₂_same]
        intro p hp
        exact (List.forall₂_iff_zip.mp h).2 (hperm.mem_iff.mp hp)
      have hsome : st.fallback = .converted ∧ (Value.sort? xs).isSome = true := by
        rw [← hzip, hsorted]
        exact ⟨hfallback, rfl⟩
      refine (outcome_items hall level).imp ?_ fun _ t ht =>
        ht.of_list ?_ fun hv => absurd hv hown
      · rw [htakes, and_iff_right hsome]
        exact forall_congr' fun x => imp_congr_left (hitems x)
      · rw [hfinite]
        exact (allFinite_iff (.list (sorted.map Prod.fst)) rfl).trans
          (forall_congr' fun x => imp_congr_left (hitems x))

/-! ### Objects -/

/-- The name of a member, if the key is one. -/
theorem keyText_outcome (k : Value) : Outcome (IsName k) (fun _ => True) (keyText k) := by
  cases k with
  | none => exact .ok .none trivial
  | bool b => exact .ok (.bool b) trivial
  | int i =>
    have hname : IsShort i ↔ IsName (.int i) := ⟨.int, fun h => by cases h; assumption⟩
    exact (intText_outcome i).imp hname fun _ _ _ => trivial
  | float x => exact .ok (.float x) trivial
  | str s => exact .ok (.str s) trivial
  | _ => exact .error nofun (.inr rfl)

/-- What a member may be read as: its value as one may be read, under the name that its key comes back
    as. -/
def MemberReadIn (ascii words : Bool) (e : Value × Value) (o : Option (Value × Value)) : Prop :=
  ∃ v, o = v.map (imageName ascii e.1, ·) ∧ ReadIn ascii words e.2 v

theorem MemberReadIn.isSome {ascii words : Bool} {e : Value × Value} {o : Option (Value × Value)}
    (h : MemberReadIn ascii words e o) : o.isSome = true ↔ words = true ∨ AllFinite e.2 := by
  obtain ⟨v, rfl, has⟩ := h
  rw [Option.isSome_map]
  exact has.isSome

theorem MemberReadIn.image {ascii words : Bool} {e : Value × Value} {o : Option (Value × Value)}
    (h : MemberReadIn ascii words e o) (hown : HasOwnForm e.2) :
    ∀ f, o = some f → f = (imageName ascii e.1, Json.image ascii e.2) := by
  obtain ⟨v, rfl, has⟩ := h
  intro f hf
  obtain ⟨w, hw, rfl⟩ := Option.map_eq_some_iff.mp hf
  rw [has.image hown w hw]

/-- What is written of a member. -/
structure WrittenMember (st : Style) (e : Value × Value) (t : List Char) : Prop where
  oneLine : st.indent = none → OneLine t
  reads : ∀ words, ∃ o, ReadsMember st.ascii words t o ∧ MemberReadIn st.ascii words e o

theorem memberText_outcome {e : Value × Value} {r : Except Failure (List Char)}
    (h : Outcome (Throughout st.Takes e.2) (Written st e.2) r) :
    Outcome (IsName e.1 ∧ Throughout st.Takes e.2) (WrittenMember st e) (memberText st e.1 r) := by
  have hname := keyText_outcome e.1
  unfold memberText
  rcases hkey : keyText e.1 with f | name <;> rw [hkey] at hname
  · cases hname with
    | error hnot he => exact .error (fun hboth => hnot hboth.1) he
  · have himage : imageName st.ascii e.1 = respelled st.ascii name.toList := by
      unfold imageName
      rw [hkey]
    cases hname with
    | ok hname _ =>
      refine h.map (and_iff_right hname).symm fun _ t ht => ⟨fun hst => ?_, fun words => ?_⟩
      · exact (quote_oneLine _ _).append (.cons (by decide) (.cons (by decide) (ht.oneLine hst)))
      · obtain ⟨o, hread, has⟩ := ht.reads words
        refine ⟨_, ⟨_, t, o, rfl, hread, rfl⟩, o, ?_, has⟩
        rw [himage]

theorem takes_map {es : Entries} : Throughout st.Takes (.map es) ↔
    ∀ e ∈ es, IsName e.1 ∧ Throughout st.Takes e.2 := by
  refine throughout_iff.trans ((and_congr_right fun _ => List.forall_mem_map).trans ?_)
  exact ⟨fun h e he => ⟨h.1 e he, h.2 e he⟩, fun h => ⟨fun e he => (h e he).1, fun e he => (h e he).2⟩⟩

/-- The texts of members in braces. -/
def IsObject (st : Style) (level : Nat) (es : Entries) (t : List Char) : Prop :=
  ∃ ts, List.Forall₂ (WrittenMember st) es ts ∧ t = st.bracketed level '\x7b' '\x7d' ts

theorem outcome_object {es : Entries} (level : Nat)
    (h : ∀ e ∈ es, Outcome (Throughout st.Takes e.2) (Written st e.2) (writeAt st (level + 1) e.2)) :
    Outcome (Throughout st.Takes (.map es)) (IsObject st level es) (writeAt st level (.map es)) := by
  have hmembers : List.Forall₂
      (fun e r => Outcome (IsName e.1 ∧ Throughout st.Takes e.2) (WrittenMember st e) r) es
      (writeMembers st (level + 1) es) := by
    rw [writeMembers_eq_map, List.forall₂_map_right_iff, List.forall₂_same]
    exact fun e he => memberText_outcome (h e he)
  exact (outcome_joined hmembers).map takes_map.symm fun _ ts hts => ⟨ts, hts, rfl⟩

/-- What the members of an object are read as. -/
theorem IsObject.reads {level : Nat} {es : Entries} {t : List Char} (h : IsObject st level es t)
    (words : Bool) :
    ∃ os, Reads words t ((os.mapM id).map fun fs => .map (Entries.ofPairs fs)) ∧
      List.Forall₂ (MemberReadIn st.ascii words) es os := by
  obtain ⟨ts, hts, rfl⟩ := h
  obtain ⟨os, hreads, has⟩ := exists_forall₂_reads (hts.imp fun e t het => het.reads words)
  exact ⟨os, reads_object hreads level, has⟩

/-- **The text of an object.** -/
theorem IsObject.written {level : Nat} {es : Entries} {t : List Char} (h : IsObject st level es t) :
    Written st (.map es) t := by
  constructor
  · intro hst
    obtain ⟨ts, hts, rfl⟩ := h
    have hlines : ∀ t ∈ ts, OneLine t := forall_mem_of_forall₂ hts fun _ _ het => het.oneLine hst
    exact oneLine_bracketed hst level hlines (by decide) (by decide)
  · intro words
    obtain ⟨os, hread, has⟩ := h.reads words
    refine ⟨_, hread, ?_, fun hown w hw => ?_⟩
    · rw [Option.isSome_map, isSome_mapM (has.imp fun e o heo => heo.isSome), forall_or, allFinite_map]
    · obtain ⟨fs, hfs, rfl⟩ := Option.map_eq_some_iff.mp hw
      have hparts : ∀ e ∈ es, HasOwnForm e.2 := fun e he => hown.of_mem (List.mem_map_of_mem he)
      rw [image, imageMembers_eq_map, mapM_eq_map (has.imp fun e o heo => heo.image) hparts hfs]

/-! ## Any value -/

/-- **What is written of a value**, by induction over its parts. -/
theorem writeAt_outcome (hst : st.fallback ≠ .asText) (v : Value) (level : Nat) :
    Outcome (Throughout st.Takes v) (Written st v) (writeAt st level v) := by
  induction v using parts_induction generalizing level with
  | h v ih =>
    have hitems : ∀ xs, v.parts = xs →
        List.Forall₂ (fun x r => Outcome (Throughout st.Takes x) (Written st x) r) xs
          (writeItems st (level + 1) xs) := by
      rintro xs rfl
      rw [writeItems_eq_map, List.forall₂_map_right_iff, List.forall₂_same]
      exact fun x hx => ih x hx (level + 1)
    cases v with
    | list xs =>
      have htakes : Throughout st.Takes (.list xs) ↔ ∀ x ∈ xs, Throughout st.Takes x :=
        throughout_iff.trans (and_iff_right trivial)
      exact (outcome_items (hitems xs rfl) level).imp htakes.symm fun _ t ht => ht
    | tuple xs =>
      have htakes : Throughout st.Takes (.tuple xs) ↔ ∀ x ∈ xs, Throughout st.Takes x :=
        throughout_iff.trans (and_iff_right trivial)
      have hfinite : AllFinite (.list xs) ↔ AllFinite (.tuple xs) :=
        (allFinite_iff (.list xs) rfl).trans (allFinite_iff (.tuple xs) rfl).symm
      exact (outcome_items (hitems xs rfl) level).imp htakes.symm fun _ t ht =>
        ht.of_list hfinite fun hown => ⟨.intro trivial (throughout_iff.mp hown).2, rfl⟩
    | set xs => exact outcome_set hst (hitems xs rfl) level (.inl rfl)
    | frozenset xs => exact outcome_set hst (hitems xs rfl) level (.inr rfl)
    | map es =>
      have hmembers := outcome_object level fun e he =>
        ih e.2 (List.mem_map_of_mem he) (level + 1)
      exact hmembers.imp Iff.rfl fun _ t ht => ht.written
    | _ => exact atomText_outcome hst rfl

/-- **What a text is decoded to** that was written of a value, with blanks behind it or not. -/
theorem Written.decode? {v : Value} {t s : List Char} (h : Written st v t) (hs : Blank s)
    (words : Bool) : ReadIn st.ascii words v (decode? words (String.ofList (t ++ s))) := by
  obtain ⟨o, hread, has⟩ := h.reads words
  rw [decode?_of_reads hread hs]
  exact has

/-- **A text in a style that refuses** what JSON has no type for: there is one exactly if everything has
    a form of its own, and it is read as that. -/
theorem write_refusing (hst : st.fallback = .refuse) (v : Value) :
    Outcome (HasOwnForm v) (fun text => Written st v text.toList) (write st v) := by
  have hnot : st.fallback ≠ .asText := by
    rw [hst]
    exact nofun
  refine (writeAt_outcome hnot v 0).map (takes_of_refuse hst) fun _ t ht => ?_
  rwa [String.toList_ofList]

end

/-! ## The line of a log -/

/-- What a value in a line may be read as, if it is finite or other numbers are accepted: as itself if it
    is plain. -/
structure ReadAs (words : Bool) (v : Value) (o : Option Value) : Prop where
  isSome : o.isSome = true ↔ words = true ∨ AllFinite v
  plain : IsPlain v → o = some v

theorem ReadIn.readAs {words : Bool} {v : Value} {o : Option Value} (h : ReadIn false words v o) :
    ReadAs words v o := by
  refine ⟨h.isSome, fun hplain => ?_⟩
  obtain ⟨w, rfl⟩ := Option.isSome_iff_exists.mp (h.isSome.mpr (.inr hplain.allFinite))
  have hsame : Json.image false v = v := hplain.image_eq nofun
  rw [h.image hplain.hasOwnForm w rfl, hsame]

theorem MemberReadIn.of_some {words : Bool} {e f : Value × Value}
    (h : MemberReadIn false words e (some f)) (hkey : IsText e.1) :
    f.1 = e.1 ∧ ReadAs words e.2 (some f.2) := by
  obtain ⟨v, hf, has⟩ := h
  cases v with
  | none => exact nomatch hf
  | some w =>
    cases hf
    refine ⟨?_, has.readAs⟩
    obtain ⟨s, hkey, hspelled⟩ := hkey
    rw [hkey]
    exact respelled_eq hspelled nofun

/-- What a line of JSON has of the members of an object. -/
structure WrittenLine (es : Entries) (line : String) : Prop where
  oneLine : OneLine line.toList
  isSome : ∀ words, (decode? words line).isSome = true ↔ words = true ∨ AllFinite (.map es)
  plain : ∀ words, IsPlain (.map es) → decode? words line = some (.map es)
  members : ∀ words, Entries.Keyed IsText es → Entries.Distinct es →
    (decode? words line).isSome = true → ∃ fs, decode? words line = some (.map fs) ∧
      List.Forall₂ (fun e f => f.1 = e.1 ∧ ReadAs words e.2 (some f.2)) es fs

/-- Results that are there. -/
theorem exists_of_mapM {α β : Type} {R : α → Option β → Prop} {xs : List α} {os : List (Option β)}
    (h : List.Forall₂ R xs os) {ys : List β} (hys : os.mapM id = some ys) :
    List.Forall₂ (fun x y => R x (some y)) xs ys := by
  induction h generalizing ys with
  | nil =>
    cases hys
    exact .nil
  | @cons x o xs os ho _ ih =>
    rw [List.mapM_cons] at hys
    obtain ⟨y, hy, hys⟩ := Option.bind_eq_some_iff.mp hys
    obtain ⟨ys', hys', hcons⟩ := Option.bind_eq_some_iff.mp hys
    cases hcons
    obtain rfl : o = some y := hy
    exact .cons ho (ih hys')

theorem hasForm_map {es : Entries} : HasForm (.map es) ↔ ∀ e ∈ es, IsName e.1 ∧ HasForm e.2 := by
  rw [← takes_logLine, takes_map]
  exact forall_congr' fun e => imp_congr_right fun _ => and_congr_right fun _ => takes_logLine

/-- **A line of JSON**: there is one exactly if the members have a form.  It is one line, and read by
    a reader that accepts infinite numbers, and by others if there are none; every member is read. -/
theorem write_outcome (es : Entries) :
    Outcome (HasForm (.map es)) (WrittenLine es) (write logLine (.map es)) := by
  have hst : logLine.fallback ≠ .asText := nofun
  refine (outcome_object 0 fun e _ => writeAt_outcome hst e.2 1).map takes_logLine fun _ t ht => ?_
  have hdecode : ∀ {words o}, Reads words t o → decode? words (String.ofList t) = o := by
    intro words o h
    have hd := decode?_of_reads h (s := []) nofun
    rwa [List.append_nil] at hd
  have hwritten := ht.written
  refine ⟨?_, fun words => ?_, fun words hplain => ?_, fun words hkeyed hdistinct hsome => ?_⟩
  · rw [String.toList_ofList]
    exact hwritten.oneLine rfl
  · obtain ⟨o, hread, has⟩ := hwritten.reads words
    rw [hdecode hread]
    exact has.isSome
  · obtain ⟨o, hread, has⟩ := hwritten.reads words
    rw [hdecode hread]
    exact has.readAs.plain hplain
  · obtain ⟨os, hread, has⟩ := ht.reads words
    rw [hdecode hread] at hsome ⊢
    obtain ⟨fs, hfs⟩ := Option.isSome_iff_exists.mp (Option.isSome_map ▸ hsome)
    -- Each pair has come back with its own key, and so the keys are apart again.
    have hall : List.Forall₂ (fun e f => f.1 = e.1 ∧ ReadAs words e.2 (some f.2)) es fs := by
      have hboth := (List.forall₂_and_left es fs).mpr ⟨hkeyed, exists_of_mapM has hfs⟩
      exact hboth.imp fun e f h => h.2.of_some h.1
    have hkeys : fs.map Prod.fst = es.map Prod.fst := by
      rw [← List.forall₂_eq_eq_eq, List.forall₂_map_left_iff, List.forall₂_map_right_iff]
      exact (hall.imp fun e f h => h.1).flip
    have hfsdistinct : Entries.Distinct fs := by
      have hpairs : (es.map Prod.fst).Pairwise fun k k' => k.same k' = false :=
        List.pairwise_map.mpr hdistinct
      rw [← hkeys] at hpairs
      exact List.pairwise_map.mp hpairs
    refine ⟨fs, ?_, hall⟩
    rw [hfs, Option.map_some, ofPairs_of_distinct hfsdistinct]

end Json

end SecureStartup
