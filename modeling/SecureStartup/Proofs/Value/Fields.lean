import SecureStartup.Config.Merge
import SecureStartup.Proofs.Value.Equality

/-!
  Reading fields of mappings.

  Program: `mapping.get(key)`, `mapping[key]` and `mapping[key] = value`.

  1. **Reading** — the first pair with the key decides; so the fields of a mapping that is written out can
     be read off it one pair at a time.

  2. **Setting** a pair only changes what is under its own key (`get?_insert`).  That takes keys for which
     equality is what it should be, as seen from the one that is looked up (`Settled`): any keys do when
     that is a text, and else those that `IsKey` lists.

  3. **No key twice** — mappings are `Distinct`, and all that is done to them keeps that.
-/

namespace SecureStartup

namespace Value

theorem same_str (s t : String) : (str s).same (str t) = (s == t) := by
  unfold same
  rfl

/-- Only a text equals a text. -/
theorem same_str_iff (k : Value) (t : String) : k.same (str t) = true ↔ k = str t := by
  cases k with
  | str s => rw [same_str, beq_iff_eq, str.injEq]
  | list | tuple | set | frozenset | map =>
    unfold same
    exact ⟨nofun, nofun⟩
  | _ =>
    unfold same sameAtom
    exact ⟨nofun, nofun⟩

/-- A text is equal to that text only. -/
theorem str_same_iff (s : String) (k : Value) : (str s).same k = true ↔ k = str s := by
  cases k with
  | str t => rw [same_str, beq_iff_eq, str.injEq, eq_comm]
  | _ =>
    unfold same sameAtom
    exact ⟨nofun, nofun⟩

/-- Equal keys are equal to the same texts. -/
theorem same_str_congr {k k' : Value} (h : k'.same k = true) (t : String) :
    k'.same (str t) = k.same (str t) := by
  rw [Bool.eq_iff_iff, same_str_iff, same_str_iff]
  constructor
  · rintro rfl
    exact (str_same_iff t k).mp h
  · rintro rfl
    exact (same_str_iff k' t).mp h

theorem eq_map_of_isMap {v : Value} (h : ¬ v.isMap = false) : ∃ es, v = map es := by
  cases v with
  | map es => exact ⟨es, rfl⟩
  | _ => exact absurd rfl h

/-- **Keys that a key `q` is looked up among**: two that are equal are both `q` or both not, and two that
    are `q` are equal. -/
def Settled (S : Value → Prop) (q : Value) : Prop :=
  ∀ k k', S k → S k' → (k.same k' = true → k.same q = k'.same q) ∧
    (k.same q = true → k'.same q = true → k.same k' = true)

/-- A text can be looked up among all values. -/
theorem settled_str (name : String) : Settled (fun _ => True) (str name) := by
  intro k k' _ _
  refine ⟨fun h => same_str_congr h name, fun hk hk' => ?_⟩
  rw [(same_str_iff k' name).mp hk']
  exact hk

/-- A key can be looked up among keys. -/
theorem settled_isKey {q : Value} (hq : IsKey q) : Settled IsKey q := by
  intro k k' hk hk'
  refine ⟨fun h => ?_, fun h h' => same_trans hk h (same_symm hk' hq h')⟩
  rw [Bool.eq_iff_iff]
  exact ⟨same_trans hk' (same_symm hk hk' h), same_trans hk h⟩

end Value

namespace Entries

/-! ## Reading -/

/-- All keys are of one kind. -/
def Keyed (S : Value → Prop) (es : Entries) : Prop := ∀ e ∈ es, S e.1

theorem Keyed.insert {S : Value → Prop} {es : Entries} (hes : Keyed S es) {k : Value} (hk : S k)
    (v : Value) : Keyed S (Entries.insert es k v) := by
  intro e he
  have hkey : e.1 ∈ keys (Entries.insert es k v) := List.mem_map_of_mem he
  rw [keys_insert] at hkey
  have hold : e.1 ∈ keys es → S e.1 := by
    intro hmem
    obtain ⟨e', he', heq⟩ := List.mem_map.mp hmem
    exact heq ▸ hes e' he'
  split at hkey
  · exact hold hkey
  · rcases List.mem_append.mp hkey with hmem | hmem
    · exact hold hmem
    · rw [List.mem_singleton.mp hmem]
      exact hk

theorem field_nil (name : String) : field [] name = .none := rfl

theorem get?_nil (k : Value) : get? [] k = none := rfl

/-- The pair in front decides, if its key is the one. -/
theorem get?_cons (e : Value × Value) (es : Entries) (k : Value) :
    get? (e :: es) k = if e.1.same k then some e.2 else get? es k := by
  unfold get?
  rw [List.find?_cons]
  cases e.1.same k <;> rfl

/-- Equal keys have one value under them. -/
theorem get?_congr {S : Value → Prop} {q : Value} (hS : Value.Settled S q) {es : Entries}
    (hes : Keyed S es) {k : Value} (hk : S k) (hq : k.same q = true) : get? es k = get? es q := by
  induction es with
  | nil => rfl
  | cons e es ih =>
    obtain ⟨hcongr, hjoin⟩ := hS e.1 k (hes e List.mem_cons_self) hk
    have hkeys : e.1.same k = e.1.same q := by
      rw [Bool.eq_iff_iff]
      exact ⟨fun h => (hcongr h).trans hq, fun h => hjoin h hq⟩
    rw [get?_cons, get?_cons, hkeys, ih fun e he => hes e (List.mem_cons_of_mem _ he)]

/-- **What is under a key after a pair was set**: the pair's value, if its key is that one, and else what
    was there. -/
theorem get?_insert {S : Value → Prop} {q : Value} (hS : Value.Settled S q) {es : Entries}
    (hes : Keyed S es) {k : Value} (hk : S k) (v : Value) :
    get? (insert es k v) q = if k.same q then some v else get? es q := by
  induction es with
  | nil => exact get?_cons (k, v) [] q
  | cons e es ih =>
    obtain ⟨k', v'⟩ := e
    obtain ⟨hcongr, hjoin⟩ := hS k' k (hes _ List.mem_cons_self) hk
    unfold insert
    by_cases hsame : k'.same k = true
    · rw [if_pos hsame, get?_cons, get?_cons, hcongr hsame]
      cases k.same q <;> rfl
    · rw [if_neg hsame, get?_cons, get?_cons, ih fun e he => hes e (List.mem_cons_of_mem _ he)]
      cases hq : k'.same q with
      | false => rfl
      | true =>
        -- the two keys are not equal, so the other one is not looked up
        rw [Bool.eq_false_iff.mpr fun hq' => hsame (hjoin hq hq')]
        rfl

/-- What is under a name after a pair was set. -/
theorem get?_insert_str (es : Entries) (k v : Value) (name : String) :
    get? (insert es k v) (.str name) =
      if k.same (.str name) then some v else get? es (.str name) :=
  get?_insert (Value.settled_str name) (fun _ _ => trivial) trivial v

/-- The pair in front decides, if its key is the name. -/
theorem field_cons_str (k name : String) (v : Value) (es : Entries) :
    field ((.str k, v) :: es) name = if k = name then v else field es name := by
  unfold field
  rw [get?_cons, Value.same_str]
  by_cases hk : k = name
  · rw [if_pos hk, if_pos (beq_iff_eq.mpr hk)]
    rfl
  · rw [if_neg hk, if_neg (mt beq_iff_eq.mp hk)]

/-- **A field after one was set**: the same name reads what was set, and the others what they did. -/
theorem field_insert (es : Entries) (k name : String) (v : Value) :
    field (insert es (.str k) v) name = if k = name then v else field es name := by
  unfold field
  rw [get?_insert_str, Value.same_str]
  by_cases hk : k = name
  · rw [if_pos hk, if_pos (beq_iff_eq.mpr hk)]
    rfl
  · rw [if_neg hk, if_neg (mt beq_iff_eq.mp hk)]

/-! ## Keys -/

/-- **No key twice.** -/
def Distinct (es : Entries) : Prop := es.Pairwise fun e f => e.1.same f.1 = false

/-- A pair of a mapping is what is under its key. -/
theorem get?_of_mem {es : Entries} (hd : es.Distinct) {k v : Value} (hk : k.same k = true)
    (hmem : (k, v) ∈ es) : get? es k = some v := by
  induction es with
  | nil => exact nomatch hmem
  | cons e es ih =>
    obtain ⟨hnew, hd⟩ := List.pairwise_cons.mp hd
    rw [get?_cons]
    rcases List.mem_cons.mp hmem with rfl | hmem
    · exact if_pos hk
    · rw [if_neg (Bool.eq_false_iff.mp (hnew _ hmem)), ih hd hmem]

/-- A key that is not there goes to the end. -/
theorem insert_of_new {es : Entries} {k : Value} (v : Value)
    (h : ∀ e ∈ es, e.1.same k = false) : insert es k v = es ++ [(k, v)] := by
  induction es with
  | nil => rfl
  | cons e es ih =>
    have hhead : e.1.same k = false := h e List.mem_cons_self
    show (if e.1.same k then (e.1, v) :: es else e :: insert es k v) = _
    rw [hhead, ih fun e' he' => h e' (List.mem_cons_of_mem e he')]
    rfl

/-- All keys are among these names. -/
def Within (names : List String) (es : Entries) : Prop := ∀ e ∈ es, ∃ n ∈ names, e.1 = .str n

theorem Within.append {names : List String} {es fs : Entries} (a : Within names es)
    (b : Within names fs) : Within names (es ++ fs) := by
  intro e he
  rcases List.mem_append.mp he with hl | hr
  · exact a e hl
  · exact b e hr

/-- **Fields with new names go to the end**, in their order. -/
theorem Within.foldl_insert {names : List String} {es : Entries} (a : Within names es)
    (fields : List (String × Value)) (hnew : ∀ f ∈ fields, f.1 ∉ names)
    (hdistinct : (fields.map (·.1)).Nodup) :
    fields.foldl (fun es f => Entries.insert es (.str f.1) f.2) es =
      es ++ fields.map fun f => (.str f.1, f.2) := by
  induction fields generalizing es names with
  | nil => exact (List.append_nil es).symm
  | cons f fs ih =>
    obtain ⟨hf, hfs⟩ := List.nodup_cons.mp hdistinct
    -- A new name equals no key that is there, so its entry goes to the end.
    have habsent : ∀ e ∈ es, e.1.same (.str f.1) = false := by
      intro e he
      obtain ⟨n, hn, hk⟩ := a e he
      rw [hk, Value.same_str]
      exact beq_eq_false_iff_ne.mpr fun heq => hnew f List.mem_cons_self (heq ▸ hn)
    have hwithin : Within (f.1 :: names) (es ++ [(.str f.1, f.2)]) := by
      intro e he
      rcases List.mem_append.mp he with hl | hr
      · obtain ⟨n, hn, hk⟩ := a e hl
        exact ⟨n, List.mem_cons_of_mem f.1 hn, hk⟩
      · rw [List.mem_singleton.mp hr]
        exact ⟨f.1, List.mem_cons_self, rfl⟩
    have hrest : ∀ f' ∈ fs, f'.1 ∉ f.1 :: names := by
      intro f' hf' hmem
      rcases List.mem_cons.mp hmem with heq | hn
      · exact hf (List.mem_map.mpr ⟨f', hf', heq⟩)
      · exact hnew f' (List.mem_cons_of_mem f hf') hn
    rw [List.foldl_cons, insert_of_new f.2 habsent, ih hwithin hrest hfs, List.append_assoc]
    rfl

end Entries

namespace Config

/-- A mapping can be asked for any of its fields. -/
theorem fieldOf_map (es : Entries) (name : String) : fieldOf (.map es) name = .ok (es.field name) :=
  rfl

theorem fieldOf_map_bind {α : Type} (es : Entries) (name : String) (k : Value → Except Failure α) :
    fieldOf (.map es) name >>= k = k (es.field name) := rfl

theorem entriesOf_map_bind {α : Type} (es : Entries) (k : Entries → Except Failure α) :
    entriesOf (.map es) >>= k = k es := rfl

end Config

end SecureStartup
