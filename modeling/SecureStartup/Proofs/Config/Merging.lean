import SecureStartup.Proofs.Value.Fields

/-!
  What a merge of two mappings has under a key.

  Program: one level of `_deep_merge`.

  A merge lays the overlay's pairs over the base one after another, and each changes what is under its
  own key only.  So under a key there is the overlay's value laid over the base's, and the base's where
  the overlay has none (`get?_merge`).  Overlays have no key twice; with two pairs under one key the
  later would win.

  The laws of merging, and what is at the end of a path, are both read off this one lemma: the former by
  comparing merges key by key, the latter by taking the steps of the path.
-/

namespace SecureStartup.Config

/-- What is no mapping replaces what was there. -/
theorem mergeValue_of_not_map {v : Value} (h : v.isMap = false) (old : Option Value) :
    mergeValue v old = v := by
  cases v with
  | map es => exact nomatch h
  | _ =>
    rw [mergeValue]
    exact nofun

/-- What is laid over anything but a mapping is there as it is. -/
theorem mergeValue_over {old : Option Value} (h : ∀ gs, old ≠ some (.map gs)) (v : Value) :
    mergeValue v old = v := by
  cases v with
  | map fs =>
    rw [mergeValue]
    exact h
  | _ => exact mergeValue_of_not_map rfl old

theorem mergeValue_none (v : Value) : mergeValue v none = v :=
  mergeValue_over (fun gs => (Option.some_ne_none (Value.map gs)).symm) v

theorem mergeValue_map (fs gs : Entries) : mergeValue (.map fs) (some (.map gs)) = .map (merge gs fs) := by
  rw [mergeValue, merge]

/-- One mapping was laid over another, or the new value is there as it is. -/
theorem mergeValue_cases (v : Value) (old : Option Value) :
    (∃ fs gs, v = .map fs ∧ old = some (.map gs) ∧ mergeValue v old = .map (merge gs fs)) ∨
      ((∀ fs gs, v = .map fs → old ≠ some (.map gs)) ∧ mergeValue v old = v) := by
  by_cases hboth : ∃ fs gs, v = .map fs ∧ old = some (.map gs)
  · obtain ⟨fs, gs, rfl, rfl⟩ := hboth
    exact .inl ⟨fs, gs, rfl, rfl, mergeValue_map fs gs⟩
  · refine .inr ⟨fun fs gs hv hold => hboth ⟨fs, gs, hv, hold⟩, ?_⟩
    by_cases hv : v.isMap = false
    · exact mergeValue_of_not_map hv old
    · obtain ⟨fs, rfl⟩ := Value.eq_map_of_isMap hv
      exact mergeValue_over (fun gs hold => hboth ⟨fs, gs, rfl, hold⟩) _

/-- Nothing else is under the key of the first pair. -/
theorem get?_eq_none_of_distinct {S : Value → Prop} {q k v : Value} {es : Entries}
    (hS : Value.Settled S q) (hes : Entries.Keyed S ((k, v) :: es))
    (hd : Entries.Distinct ((k, v) :: es)) (hk : k.same q = true) : Entries.get? es q = none := by
  obtain ⟨hnew, _⟩ := List.pairwise_cons.mp hd
  unfold Entries.get?
  rw [Option.map_eq_none_iff, List.find?_eq_none]
  intro e he hsame
  have hdiffer : k.same e.1 = false := hnew e he
  obtain ⟨_, hjoin⟩ := hS k e.1 (hes _ List.mem_cons_self) (hes e (List.mem_cons_of_mem _ he))
  rw [hjoin hk hsame] at hdiffer
  exact nomatch hdiffer

/-- One value laid over another, where either may be missing. -/
def lay (new old : Option Value) : Option Value :=
  match new with
  | some v => some (mergeValue v old)
  | none => old

/-- **What a merge has under a key.**  By induction on the overlay, over any base. -/
theorem get?_merge {S : Value → Prop} {q : Value} (hS : Value.Settled S q) {base overlay : Entries}
    (hbase : base.Keyed S) (hoverlay : overlay.Keyed S) (hd : overlay.Distinct) :
    Entries.get? (merge base overlay) q = lay (Entries.get? overlay q) (Entries.get? base q) := by
  unfold merge
  induction overlay generalizing base with
  | nil =>
    rw [mergeInto]
    rfl
  | cons e overlay ih =>
    obtain ⟨k, v⟩ := e
    have hk : S k := hoverlay _ List.mem_cons_self
    have hrest : Entries.Keyed S overlay := fun e he => hoverlay e (List.mem_cons_of_mem _ he)
    rw [mergeInto, ih (hbase.insert hk _) hrest (List.pairwise_cons.mp hd).2,
      Entries.get?_insert hS hbase hk, Entries.get?_cons]
    cases hq : k.same q with
    | false => rfl
    | true =>
      rw [get?_eq_none_of_distinct hS hoverlay hd hq, Entries.get?_congr hS hbase hk hq]
      rfl

/-- What a merge has under a name. -/
theorem get?_merge_str {overlay : Entries} (hd : overlay.Distinct) (base : Entries) (name : String) :
    Entries.get? (merge base overlay) (.str name) =
      match Entries.get? overlay (.str name) with
      | some v => some (mergeValue v (Entries.get? base (.str name)))
      | none => Entries.get? base (.str name) :=
  get?_merge (Value.settled_str name) (fun _ _ => trivial) (fun _ _ => trivial) hd

/-- Only a mapping can be laid over a mapping to give a mapping. -/
theorem mergeValues_eq_map {base overlay : Value} {es : Entries}
    (h : mergeValues base overlay = .ok (.map es)) :
    ∃ b o, base = .map b ∧ overlay = .map o ∧ es = merge b o := by
  unfold mergeValues at h
  split at h
  · rename_i b o
    cases h
    exact ⟨b, o, rfl, rfl, rfl⟩
  · -- a list stays a list
    rename_i xs o
    rcases hl : mergeIntoList xs o with f | ys <;> rw [hl] at h <;> cases h
  · split at h <;> cases h
  · split at h <;> cases h
  · cases h

end SecureStartup.Config
