import SecureStartup.Proofs.Json.Reading
import SecureStartup.Proofs.Number.Nearest
import SecureStartup.Proofs.Value.Fields
import SecureStartup.Proofs.Value.Parts

/-!
  Values and their forms in JSON.

  1. **What can be written** — a value has a form in JSON unless a number in it is too long, a key in it
     is no name, or a set in it has no order (`HasForm`).  That is for the lines of a log, whose writer
     converts what JSON has no type for (`json_serializer`): a set to a sorted list, a path or an object to
     its text.  JSON's own types do without any conversion (`HasOwnForm`).

  2. **What comes back** — of these types, an `image`: tuples as lists, and keys as texts.

  3. **What comes back unchanged** — values that JSON has itself are their own images (`IsPlain.image_eq`),
     but for texts that take two halves apart (`Unpaired`).
-/

namespace SecureStartup.Json

open SecureStartup.Text
open Value (Throughout throughout_iff throughout_congr throughout_of_isAtom throughout_ofFields
  parts_induction)

/-! ## What is asked of values -/

/-- A whole number with no more digits than are written. -/
def IsShort (i : Int) : Prop := i.natAbs < Value.numberBound

/-- The name of a member can be a text, a word or a number that is not too long. -/
inductive IsName : Value → Prop where
  | none : IsName .none
  | bool (b : Bool) : IsName (.bool b)
  | int {i : Int} (h : IsShort i) : IsName (.int i)
  | float (x : Binary64) : IsName (.float x)
  | str (s : String) : IsName (.str s)

/-- **Values with a form**: numbers are not too long, sets can be sorted and keys be names. -/
def HasForm : Value → Prop := Throughout fun
  | .int i => IsShort i
  | .set xs | .frozenset xs => (Value.sort? xs).isSome = true
  | .map es => Entries.Keyed IsName es
  | _ => True

/-- **Values with finite numbers only**, except where they are keys. -/
def AllFinite : Value → Prop := Throughout fun
  | .float x => x.IsFinite
  | _ => True

/-- A text that spells codes. -/
def IsText (v : Value) : Prop := ∃ s, v = .str s ∧ IsSpelled s.toList

/-- **Values that JSON has itself**: nothing, truth values, finite numbers that are not too long, texts,
    and lists and mappings of such values, keyed by texts. -/
def IsPlain : Value → Prop := Throughout fun
  | .none | .bool _ | .list _ => True
  | .int i => IsShort i
  | .float x => x.IsFinite ∧ x.IsCanonical
  | .str s => IsSpelled s.toList
  | .map es => Entries.Keyed IsText es ∧ Entries.Distinct es
  | _ => False

theorem hasForm_none : HasForm .none := (throughout_of_isAtom rfl).mpr trivial

theorem hasForm_str (s : String) : HasForm (.str s) := (throughout_of_isAtom rfl).mpr trivial

theorem allFinite_none : AllFinite .none := (throughout_of_isAtom rfl).mpr trivial

theorem allFinite_str (s : String) : AllFinite (.str s) := (throughout_of_isAtom rfl).mpr trivial

theorem isPlain_none : IsPlain .none := (throughout_of_isAtom rfl).mpr trivial

theorem isPlain_str {s : String} (h : IsSpelled s.toList) : IsPlain (.str s) :=
  (throughout_of_isAtom rfl).mpr h

theorem IsPlain.hasForm {v : Value} (h : IsPlain v) : HasForm v := by
  refine h.mono fun w hw => ?_
  cases w with
  | int i => exact hw
  | set | frozenset => exact hw.elim
  | map es =>
    intro e he
    obtain ⟨s, hs, -⟩ := hw.1 e he
    rw [hs]
    exact .str s
  | _ => trivial

theorem IsPlain.allFinite {v : Value} (h : IsPlain v) : AllFinite v := by
  refine h.mono fun w hw => ?_
  cases w with
  | float x => exact hw.1
  | _ => trivial

/-- The numbers in what holds other values are those in its parts. -/
theorem allFinite_iff (v : Value) (hv : v.isAtom = false) :
    AllFinite v ↔ ∀ w ∈ v.parts, AllFinite w := by
  refine throughout_iff.trans (and_iff_right ?_)
  cases v with
  | float x => exact nomatch hv
  | _ => trivial

/-! ## Values that JSON has types for -/

/-- **Values with a form of their own**: JSON's types and tuples.  Numbers are not too long, and keys can
    be names. -/
def HasOwnForm : Value → Prop := Throughout fun
  | .none | .bool _ | .float _ | .str _ | .list _ | .tuple _ => True
  | .int i => IsShort i
  | .map es => Entries.Keyed IsName es
  | _ => False

/-- A text in which no two halves stand together that form a pair. -/
def IsUnpaired (s : String) : Prop := paired (codes s.toList) = codes s.toList

/-- **No text takes a pair apart**, as a value or as a key. -/
def Unpaired : Value → Prop := Throughout fun
  | .str s => IsUnpaired s
  | .map es => ∀ e ∈ es, ∀ s, e.1 = .str s → IsUnpaired s
  | _ => True

theorem IsPlain.hasOwnForm {v : Value} (h : IsPlain v) : HasOwnForm v := by
  refine h.mono fun w hw => ?_
  cases w with
  | none | bool | float | str | list => trivial
  | int i => exact hw
  | map es =>
    intro e he
    obtain ⟨s, hs, -⟩ := hw.1 e he
    rw [hs]
    exact .str s
  | _ => exact hw.elim

/-- What a style that refuses values, or converts them, asks of a value itself. -/
def Style.Takes (st : Style) : Value → Prop
  | .none | .bool _ | .float _ | .str _ | .list _ | .tuple _ => True
  | .int i => IsShort i
  | .map es => Entries.Keyed IsName es
  | .set xs | .frozenset xs => st.fallback = .converted ∧ (Value.sort? xs).isSome = true
  | _ => st.fallback = .converted

/-- A line of a log takes what has a form. -/
theorem takes_logLine {v : Value} : Throughout logLine.Takes v ↔ HasForm v := by
  refine throughout_congr fun w => ?_
  cases w with
  | set | frozenset => exact and_iff_right rfl
  | _ => first | exact Iff.rfl | exact iff_of_true rfl trivial

/-- A style that refuses takes what has a form of its own. -/
theorem takes_of_refuse {st : Style} (h : st.fallback = .refuse) {v : Value} :
    Throughout st.Takes v ↔ HasOwnForm v := by
  have hnot : ¬ st.fallback = .converted := by
    rw [h]
    exact nofun
  refine throughout_congr fun w => ?_
  cases w with
  | set | frozenset => exact iff_of_false (fun hw => hnot hw.1) id
  | bytes | date | datetime | path | category | object => exact iff_of_false hnot id
  | _ => exact Iff.rfl

/-! ### Images -/

/-- The name that a key comes back as. -/
def imageName (ascii : Bool) (k : Value) : Value :=
  match keyText k with
  | .ok name => respelled ascii name.toList
  | .error _ => k

/-- What a double comes back as: itself, if it is one (`imageDouble_eq`). -/
def imageDouble (x : Binary64) : Value := (decode? true (floatText x)).getD (.float x)

mutual

/-- **What comes back of a value** with a form of its own. -/
def image (ascii : Bool) : Value → Value
  | .float x => imageDouble x
  | .str s => respelled ascii s.toList
  | .list xs | .tuple xs => .list (imageItems ascii xs)
  | .map es => .map (Entries.ofPairs (imageMembers ascii es))
  | v => v

/-- What comes back of items. -/
def imageItems (ascii : Bool) : List Value → List Value
  | [] => []
  | x :: xs => image ascii x :: imageItems ascii xs

/-- What comes back of members; of two with one name the later one wins. -/
def imageMembers (ascii : Bool) : List (Value × Value) → List (Value × Value)
  | [] => []
  | (k, v) :: es => (imageName ascii k, image ascii v) :: imageMembers ascii es

end

theorem imageItems_eq_map (ascii : Bool) (xs : List Value) :
    imageItems ascii xs = xs.map (image ascii) := by
  induction xs with
  | nil => rfl
  | cons x xs ih => rw [imageItems, ih, List.map_cons]

theorem imageMembers_eq_map (ascii : Bool) (es : List (Value × Value)) :
    imageMembers ascii es = es.map fun e => (imageName ascii e.1, image ascii e.2) := by
  induction es with
  | nil => rfl
  | cons e es ih => rw [imageMembers, ih, List.map_cons]

theorem imageDouble_of_reads {x : Binary64} {v : Value}
    (h : Reads true (floatText x).toList (some v)) : imageDouble x = v := by
  have hdecode := decode?_of_reads h (s := []) nofun
  rw [List.append_nil, String.ofList_toList] at hdecode
  unfold imageDouble
  rw [hdecode, Option.getD_some]

theorem imageDouble_eq {x : Binary64} (h : x.IsCanonical) : imageDouble x = .float x := by
  refine imageDouble_of_reads ?_
  cases x with
  | nan => exact reads_nan true
  | infinite negative => exact reads_infinite true negative
  | finite negative m e =>
    obtain ⟨y, hreads, hy⟩ := reads_finite negative m e
    rw [hy h] at hreads
    exact hreads true

/-- A text that spells codes comes back as it is, unless a pair was taken apart in it. -/
theorem respelled_eq {ascii : Bool} {s : String} (h : IsSpelled s.toList)
    (hpairs : ascii = true → IsUnpaired s) : respelled ascii s.toList = .str s := by
  have hcodes : returned ascii (codes s.toList) = codes s.toList := by
    cases ascii with
    | true => exact hpairs rfl
    | false => rfl
  obtain ⟨ns, hns⟩ := h
  unfold respelled
  rw [hcodes, hns.codes_eq, ← hns.2, String.ofList_toList]

/-- Usual characters come back as they are. -/
theorem respelled_of_usual (ascii : Bool) {s : String} (h : ∀ c ∈ s.toList, IsUsual c) :
    respelled ascii s.toList = .str s := by
  refine respelled_eq (isSpelled_of_usual h) fun _ => ?_
  unfold IsUnpaired
  rw [codes_of_usual h]
  refine paired_of_lt fun n hn => ?_
  obtain ⟨c, hc, rfl⟩ := List.mem_map.mp hn
  exact h c hc

/-- A mapping with no key twice is put together from its pairs. -/
theorem ofPairs_of_distinct {es : Entries} (h : Entries.Distinct es) : Entries.ofPairs es = es := by
  have hfold : ∀ fs acc : Entries, Entries.Distinct (acc ++ fs) →
      fs.foldl (fun es p => Entries.insert es p.1 p.2) acc = acc ++ fs := by
    intro fs
    induction fs with
    | nil => exact fun acc _ => (List.append_nil acc).symm
    | cons f fs ih =>
      intro acc hd
      have hnew : ∀ e ∈ acc, e.1.same f.1 = false := fun e he =>
        (List.pairwise_append.mp hd).2.2 e he f List.mem_cons_self
      rw [List.foldl_cons, Entries.insert_of_new f.2 hnew, ih, List.append_assoc]
      · rfl
      · rw [List.append_assoc]
        exact hd
  exact hfold es [] h

/-- **Values that JSON has itself are their own images.**  By induction over the parts. -/
theorem IsPlain.image_eq {ascii : Bool} {v : Value} (h : IsPlain v)
    (hpairs : ascii = true → Unpaired v) : image ascii v = v := by
  induction v using parts_induction with
  | h v ih =>
    have hparts : ∀ w ∈ v.parts, image ascii w = w := fun w hw =>
      ih w hw (h.of_mem hw) fun ha => (hpairs ha).of_mem hw
    have hown := h.own
    cases v with
    | none | bool | int => rfl
    | float x => exact imageDouble_eq hown.2
    | str s => exact respelled_eq hown fun ha => (hpairs ha).own
    | list xs =>
      have hitems : xs.map (image ascii) = xs.map id := List.map_congr_left hparts
      rw [image, imageItems_eq_map, hitems, List.map_id]
    | map es =>
      obtain ⟨hkeyed, hdistinct⟩ := hown
      have hmembers : ∀ e ∈ es, (imageName ascii e.1, image ascii e.2) = e := by
        intro e he
        obtain ⟨s, hkey, hspelled⟩ := hkeyed e he
        have hname : imageName ascii e.1 = e.1 := by
          rw [hkey]
          exact respelled_eq hspelled fun ha => (hpairs ha).own e he s hkey
        rw [hname, hparts e.2 (List.mem_map_of_mem he)]
      rw [image, imageMembers_eq_map, List.map_congr_left hmembers, List.map_id',
        ofPairs_of_distinct hdistinct]
    | _ => exact hown.elim

/-! ### Fields -/

theorem allFinite_map {es : Entries} : AllFinite (.map es) ↔ ∀ e ∈ es, AllFinite e.2 :=
  (allFinite_iff (.map es) rfl).trans List.forall_mem_map

section Fields

variable {fields : List (String × Value)}

theorem hasOwnForm_ofFields : HasOwnForm (.ofFields fields) ↔ ∀ f ∈ fields, HasOwnForm f.2 :=
  throughout_ofFields (List.forall_mem_map.mpr fun f _ => .str f.1)

theorem allFinite_ofFields : AllFinite (.ofFields fields) ↔ ∀ f ∈ fields, AllFinite f.2 :=
  throughout_ofFields trivial

/-- **Fields come back under their names**, if these have usual characters and no two are the same. -/
theorem image_ofFields (ascii : Bool) (husual : ∀ f ∈ fields, ∀ c ∈ f.1.toList, IsUsual c)
    (hnodup : (fields.map (·.1)).Nodup) :
    image ascii (.ofFields fields) = .ofFields (fields.map fun f => (f.1, image ascii f.2)) := by
  have hmembers : imageMembers ascii (fields.map fun f => (.str f.1, f.2)) =
      (fields.map fun f => (f.1, image ascii f.2)).map fun f => (.str f.1, f.2) := by
    rw [imageMembers_eq_map, List.map_map, List.map_map]
    refine List.map_congr_left fun f hf => ?_
    have hname : imageName ascii (.str f.1) = .str f.1 := respelled_of_usual ascii (husual f hf)
    show (imageName ascii (.str f.1), image ascii f.2) = _
    rw [hname]
    rfl
  have hdistinct : Entries.Distinct
      ((fields.map fun f => (f.1, image ascii f.2)).map fun f => (.str f.1, f.2)) := by
    rw [Entries.Distinct, List.map_map, List.pairwise_map]
    refine (List.pairwise_map.mp hnodup).imp fun hne => ?_
    show (Value.str _).same (.str _) = false
    rw [Value.same_str]
    exact beq_eq_false_iff_ne.mpr hne
  unfold Value.ofFields
  rw [image, hmembers, ofPairs_of_distinct hdistinct]

end Fields

end SecureStartup.Json
