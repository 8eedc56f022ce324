import SecureStartup.Proofs.Json.Written

/-!
  Why writing is refused.

  1. **Program** — the documents of the tool and the answers of start-up are written by `json.dumps`
     without a `default`, so a value that JSON has no type for is a `TypeError`, and a number with too many
     digits is a `ValueError`.  The two are handled differently further up.

  2. **The cause** — each has a cause of its own somewhere in the value: a number that is too long
     (`IsBrief`), or a value or key of another type (`IsTyped`).  The first part that is refused decides,
     so a value with both may fail in either way (`refused_of_write`).
-/

namespace SecureStartup.Json

open Value (Throughout throughout_ofFields parts_induction)

/-- Neither the value nor a key of it is a number that is too long. -/
def IsBrief : Value → Prop
  | .int i => IsShort i
  | .map es => ∀ e ∈ es, ∀ i, e.1 = .int i → IsShort i
  | _ => True

/-- A key of a type that names are written of. -/
def CanName : Value → Prop
  | .none | .bool _ | .int _ | .float _ | .str _ => True
  | _ => False

/-- The value is of a type that JSON has, and its keys can be names. -/
def IsTyped : Value → Prop
  | .none | .bool _ | .int _ | .float _ | .str _ | .list _ | .tuple _ => True
  | .map es => Entries.Keyed CanName es
  | _ => False

theorem HasOwnForm.isBrief {v : Value} (h : HasOwnForm v) : Throughout IsBrief v := by
  refine h.mono fun w hw => ?_
  cases w with
  | int i => exact hw
  | map es =>
    intro e he i hi
    have hname := hw e he
    rw [hi] at hname
    cases hname
    assumption
  | _ => trivial

theorem HasOwnForm.isTyped {v : Value} (h : HasOwnForm v) : Throughout IsTyped v := by
  refine h.mono fun w hw => ?_
  cases w with
  | none | bool | int | float | str | list | tuple => trivial
  | map es =>
    rintro ⟨k, w⟩ he
    have hname : IsName k := hw _ he
    clear he
    cases hname <;> trivial
  | _ => exact hw.elim

theorem isBrief_ofFields {fields : List (String × Value)} :
    Throughout IsBrief (.ofFields fields) ↔ ∀ f ∈ fields, Throughout IsBrief f.2 :=
  throughout_ofFields (List.forall_mem_map.mpr fun _ _ => nofun)

theorem isTyped_ofFields {fields : List (String × Value)} :
    Throughout IsTyped (.ofFields fields) ↔ ∀ f ∈ fields, Throughout IsTyped f.2 :=
  throughout_ofFields (List.forall_mem_map.mpr fun _ _ => trivial)

/-- **A failure with its cause in a value.** -/
inductive Refused (v : Value) : Failure → Prop where
  | tooLong (h : ¬ Throughout IsBrief v) : Refused v (.invalid .numberTooLong)
  | untyped (h : ¬ Throughout IsTyped v) : Refused v (.mismatch .wrongType)

/-- A cause in a part is one in the whole. -/
theorem Refused.of_mem {v w : Value} {e : Failure} (h : Refused w e) (hw : w ∈ v.parts) :
    Refused v e := by
  cases h with
  | tooLong h => exact .tooLong fun hv => h (hv.of_mem hw)
  | untyped h => exact .untyped fun hv => h (hv.of_mem hw)

/-- The first failure is one of all. -/
theorem mem_of_joined {rs : List (Except Failure (List Char))} {e : Failure}
    (h : joined rs = .error e) : .error e ∈ rs := by
  unfold joined at h
  induction rs with
  | nil => exact nomatch h
  | cons r rs ih =>
    rw [List.mapM_cons] at h
    cases r with
    | error f =>
      obtain rfl : f = e := Except.error.inj h
      exact List.mem_cons_self
    | ok t =>
      refine List.mem_cons_of_mem _ (ih ?_)
      cases hrs : rs.mapM id with
      | error f =>
        rw [hrs] at h
        exact h
      | ok ts =>
        rw [hrs] at h
        exact nomatch h

theorem map_eq_error {α β : Type} {r : Except Failure α} {f : α → β} {e : Failure}
    (h : r.map f = .error e) : r = .error e := by
  cases r with
  | error f => exact congrArg Except.error (Except.error.inj h)
  | ok a => exact nomatch h

theorem intText_error {i : Int} {e : Failure} (h : intText i = .error e) :
    ¬ IsShort i ∧ e = .invalid .numberTooLong := by
  unfold intText at h
  split at h
  · exact nomatch h
  · exact ⟨‹_›, (Except.error.inj h).symm⟩

/-- A key that is no name is the cause of a failure of the mapping. -/
theorem refused_of_keyText {es : Entries} {k v : Value} (hmem : (k, v) ∈ es) {e : Failure}
    (h : keyText k = .error e) : Refused (.map es) e := by
  cases k with
  | int i =>
    obtain ⟨hlong, rfl⟩ := intText_error h
    exact .tooLong fun hes => hlong (hes.own _ hmem i rfl)
  | none | bool | float | str => exact nomatch h
  | _ =>
    cases h
    exact .untyped fun hes => hes.own _ hmem

variable {st : Style}

theorem refused_of_atomText (hst : st.fallback = .refuse) {v : Value} (hv : v.isAtom = true)
    {e : Failure} (h : atomText st v = .error e) : Refused v e := by
  cases v with
  | none | bool | float | str => exact nomatch h
  | int i =>
    have hmap : (intText i).map String.toList = .error e := h
    obtain ⟨hlong, rfl⟩ := intText_error (map_eq_error hmap)
    exact .tooLong fun hi => hlong hi.own
  | list | tuple | set | frozenset | map => exact nomatch hv
  | _ =>
    unfold atomText at h
    simp only [hst] at h
    cases h
    exact .untyped fun hw => hw.own

/-- A member fails through its key or its value. -/
theorem memberText_error {k : Value} {r : Except Failure (List Char)} {e : Failure}
    (h : memberText st k r = .error e) : keyText k = .error e ∨ r = .error e := by
  unfold memberText at h
  cases hkey : keyText k with
  | error f =>
    rw [hkey] at h
    exact .inl (congrArg Except.error (Except.error.inj h))
  | ok name =>
    rw [hkey] at h
    cases r with
    | error f => exact .inr (congrArg Except.error (Except.error.inj h))
    | ok t => exact nomatch h

/-- **A failure to write has its cause in the value**, by induction over its parts. -/
theorem refused_of_writeAt (hst : st.fallback = .refuse) {v : Value} {level : Nat} {e : Failure}
    (h : writeAt st level v = .error e) : Refused v e := by
  induction v using parts_induction generalizing level with
  | h v ih =>
    have hitems : ∀ xs, v.parts = xs → joined (writeItems st (level + 1) xs) = .error e →
        Refused v e := by
      rintro xs rfl hjoined
      rw [writeItems_eq_map] at hjoined
      obtain ⟨x, hx, hfailed⟩ := List.mem_map.mp (mem_of_joined hjoined)
      exact (ih x hx hfailed).of_mem hx
    cases v with
    | list xs | tuple xs => exact hitems xs rfl (map_eq_error h)
    | set xs | frozenset xs =>
      unfold writeAt setText at h
      simp only [hst] at h
      cases h
      exact .untyped fun hw => hw.own
    | map es =>
      have hjoined : joined (writeMembers st (level + 1) es) = .error e := map_eq_error h
      rw [writeMembers_eq_map] at hjoined
      obtain ⟨⟨k, w⟩, hmem, hfailed⟩ := List.mem_map.mp (mem_of_joined hjoined)
      rcases memberText_error hfailed with hkey | hvalue
      · exact refused_of_keyText hmem hkey
      · have hw : w ∈ (Value.map es).parts := List.mem_map_of_mem (f := Prod.snd) hmem
        exact (ih w hw hvalue).of_mem hw
    | _ => exact refused_of_atomText hst rfl h

theorem refused_of_write (hst : st.fallback = .refuse) {v : Value} {e : Failure}
    (h : write st v = .error e) : Refused v e :=
  refused_of_writeAt hst (map_eq_error h)

end SecureStartup.Json
