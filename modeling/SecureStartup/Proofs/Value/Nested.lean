import SecureStartup.Proofs.Value.Fields

/-!
  Values deep in nested mappings.

  A path of keys leads from a value through mappings to the value that it holds there (`at?`).  What is
  asked of the keys of a mapping is asked of those of the mappings in it too, as deep as they go
  (`Nested`); lists are not gone through, since `_deep_merge` replaces them as a whole.
-/

namespace SecureStartup

namespace Value

/-- **What a value holds at a path of keys**; the empty path leads to the value itself. -/
def at? : List Value → Value → Option Value
  | [], v => some v
  | k :: p, map es => (Entries.get? es k).bind (at? p)
  | _ :: _, _ => Option.none

theorem at?_map_cons (es : Entries) (k : Value) (p : List Value) :
    (map es).at? (k :: p) = (Entries.get? es k).bind (at? p) := rfl

/-- No path goes on from what is no mapping. -/
theorem at?_cons_of_not_map {v : Value} (h : v.isMap = false) (k : Value) (p : List Value) :
    v.at? (k :: p) = Option.none := by
  cases v with
  | map es => exact nomatch h
  | _ => rfl

theorem at?_map_singleton (es : Entries) (k : Value) : (map es).at? [k] = Entries.get? es k := by
  rw [at?_map_cons]
  cases Entries.get? es k <;> rfl

/-- Nothing goes on from what is no mapping. -/
theorem bind_at?_cons_eq_none {x : Option Value} (h : ∀ gs, x ≠ some (map gs)) (k : Value)
    (p : List Value) : x.bind (at? (k :: p)) = Option.none := by
  rcases x with _ | v
  · rfl
  · cases v with
    | map gs => exact absurd rfl (h gs)
    | _ => rfl

/-- A path in two parts. -/
theorem at?_append (v : Value) (p q : List Value) : v.at? (p ++ q) = (v.at? p).bind (at? q) := by
  induction p generalizing v with
  | nil => rfl
  | cons k p ih =>
    cases v with
    | map es =>
      rw [List.cons_append, at?_map_cons, at?_map_cons, Option.bind_assoc]
      exact Option.bind_congr fun w _ => ih w
    | _ => rfl

/-- **A value cuts a path off**, when there is no mapping where the path would have to go on. -/
def CutsOff (v : Value) (p : List Value) : Prop :=
  ∃ q w, q <+: p ∧ q ≠ p ∧ v.at? q = some w ∧ w.isMap = false

/-- What is no mapping cuts every path off. -/
theorem cutsOff_of_not_map {v : Value} (h : v.isMap = false) (k : Value) (p : List Value) :
    v.CutsOff (k :: p) :=
  ⟨[], v, List.nil_prefix, nofun, rfl, h⟩

theorem cutsOff_map_cons (es : Entries) (k : Value) (p : List Value) :
    (map es).CutsOff (k :: p) ↔ ∃ w, Entries.get? es k = some w ∧ w.CutsOff p := by
  constructor
  · rintro ⟨q, u, hq, hne, hat, hu⟩
    cases q with
    | nil =>
      cases hat
      exact nomatch hu
    | cons k' q =>
      obtain ⟨rfl, hrest⟩ := List.cons_prefix_cons.mp hq
      obtain ⟨w, hw, hat⟩ := Option.bind_eq_some_iff.mp hat
      exact ⟨w, hw, q, u, hrest, fun h => hne (h ▸ rfl), hat, hu⟩
  · rintro ⟨w, hw, q, u, hq, hne, hat, hu⟩
    refine ⟨k :: q, u, List.cons_prefix_cons.mpr ⟨rfl, hq⟩, fun h => hne (List.cons.inj h).2, ?_, hu⟩
    rw [at?_map_cons, hw]
    exact hat

/-- Two keys that are not equal. -/
def Differ (k k' : Value) : Prop := k.same k' = false

/-- Keys that are found again.  They equal themselves, which a not-a-number does not, nor an opaque
    object. -/
structure Findable (k : Value) : Prop where
  isKey : IsKey k
  self : k.same k = true

theorem findable_str (s : String) : Findable (str s) := by
  refine ⟨.atom rfl, ?_⟩
  rw [same_str]
  exact beq_self_eq_true s

end Value

/-- **Nested mappings**: the keys are of one kind and any two of them are apart, here and in every mapping
    that is under a key. -/
inductive Nested (S : Value → Prop) (Apart : Value → Value → Prop) : Entries → Prop where
  | intro {es : Entries} (keyed : es.Keyed S) (apart : es.Pairwise fun e f => Apart e.1 f.1)
      (inner : ∀ e ∈ es, ∀ fs, e.2 = .map fs → Nested S Apart fs) : Nested S Apart es

namespace Entries

/-- What is under a key is in one of the pairs. -/
theorem mem_of_get? {es : Entries} {k v : Value} (h : es.get? k = some v) :
    ∃ k', (k', v) ∈ es ∧ k'.same k = true := by
  obtain ⟨⟨k', v'⟩, hfind, rfl⟩ := Option.map_eq_some_iff.mp h
  exact ⟨k', List.mem_of_find?_eq_some hfind, by simpa using List.find?_some hfind⟩

end Entries

namespace Nested

variable {S : Value → Prop} {Apart : Value → Value → Prop} {es fs : Entries}

theorem keyed (hes : Nested S Apart es) : es.Keyed S := by
  cases hes
  assumption

theorem apart (hes : Nested S Apart es) : es.Pairwise fun e f => Apart e.1 f.1 := by
  cases hes
  assumption

theorem inner (hes : Nested S Apart es) {e : Value × Value} (he : e ∈ es) (hfs : e.2 = .map fs) :
    Nested S Apart fs := by
  cases hes with
  | intro _ _ hinner => exact hinner e he fs hfs

theorem get? (hes : Nested S Apart es) {k : Value} (hk : es.get? k = some (.map fs)) :
    Nested S Apart fs := by
  obtain ⟨_, hmem, _⟩ := Entries.mem_of_get? hk
  exact hes.inner hmem rfl

theorem distinct (hes : Nested S Value.Differ es) : es.Distinct := hes.apart

/-- What is asked of keys may be less. -/
theorem mono {S' : Value → Prop} {Apart' : Value → Value → Prop} (hes : Nested S Apart es)
    (hS : ∀ k, S k → S' k) (hApart : ∀ k k', Apart k k' → Apart' k k') : Nested S' Apart' es := by
  induction hes with
  | intro hkeyed hapart _ ih =>
    exact .intro (fun e he => hS e.1 (hkeyed e he)) (hapart.imp (hApart _ _)) ih

theorem nil : Nested S Apart [] := .intro nofun List.Pairwise.nil nofun

/-- Mappings with one key, and with one more in front. -/
theorem singleton {k v : Value} (hk : S k) (hv : ∀ fs, v = .map fs → Nested S Apart fs) :
    Nested S Apart [(k, v)] := by
  refine .intro (List.forall_mem_singleton.mpr hk) (List.pairwise_singleton _ _) ?_
  exact List.forall_mem_singleton.mpr hv

theorem cons {k v : Value} (hk : S k) (hnew : ∀ e ∈ es, Apart k e.1)
    (hv : ∀ fs, v = .map fs → Nested S Apart fs) (hes : Nested S Apart es) :
    Nested S Apart ((k, v) :: es) := by
  refine .intro ?_ (List.pairwise_cons.mpr ⟨hnew, hes.apart⟩) ?_
  · exact List.forall_mem_cons.mpr ⟨hk, hes.keyed⟩
  · exact List.forall_mem_cons.mpr ⟨hv, fun e he fs hfs => hes.inner he hfs⟩

end Nested

/-! ## What is there -/

/-- The pairs of what is there, if it is a mapping. -/
def pairsIn (v : Option Value) : Entries := (v.bind Value.asEntries?).getD []

theorem pairsIn_eq_nil {v : Option Value} (h : ∀ gs, v ≠ some (.map gs)) : pairsIn v = [] := by
  rcases v with _ | w
  · rfl
  · by_cases hw : w.isMap = false
    · cases w with
      | map gs => exact nomatch hw
      | _ => rfl
    · obtain ⟨gs, rfl⟩ := Value.eq_map_of_isMap hw
      exact absurd rfl (h gs)

theorem Nested.pairsIn {S : Value → Prop} {R : Value → Value → Prop} {es : Entries}
    (hes : Nested S R es) (k : Value) : Nested S R (pairsIn (es.get? k)) := by
  by_cases hmap : ∃ gs, es.get? k = some (.map gs)
  · obtain ⟨gs, hgs⟩ := hmap
    rw [hgs]
    exact hes.get? hgs
  · rw [pairsIn_eq_nil fun gs hgs => hmap ⟨gs, hgs⟩]
    exact .nil

/-- What a mapping has in one of its mappings. -/
theorem at?_map_cons_cons (es : Entries) (k k' : Value) (p : List Value) :
    (Value.map es).at? (k :: k' :: p) = (Value.map (pairsIn (es.get? k))).at? (k' :: p) := by
  rw [Value.at?_map_cons]
  by_cases hmap : ∃ gs, es.get? k = some (.map gs)
  · obtain ⟨gs, hgs⟩ := hmap
    rw [hgs]
    rfl
  · have hnot : ∀ gs, es.get? k ≠ some (.map gs) := fun gs hgs => hmap ⟨gs, hgs⟩
    rw [Value.bind_at?_cons_eq_none hnot, pairsIn_eq_nil hnot]
    rfl

/-- Only a mapping has pairs. -/
theorem eq_map_of_get?_pairsIn {x : Option Value} {k v : Value} (h : (pairsIn x).get? k = some v) :
    ∃ fs, x = some (.map fs) := by
  by_contra hnot
  rw [pairsIn_eq_nil fun fs hfs => hnot ⟨fs, hfs⟩] at h
  exact nomatch h

end SecureStartup
