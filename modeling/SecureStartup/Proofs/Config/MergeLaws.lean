import SecureStartup.Proofs.Config.MergedPaths

/-!
  The laws of merging, the order of keys included.

  Program: `_deep_merge` copies the base and sets the overlay's keys in it one after another, with a merge
  of its own where both sides have a mapping.  The result is a new mapping; neither side is changed.

  1. **How merges are compared** — a mapping is known by its keys, in their order, and by what is under
     each of them (`eq_of_keys`).  Both can be said of a merge: the base's keys come first and the
     overlay's new ones follow (`keys_merge`), and under a key is one value laid over the other
     (`get?_merge`).

  2. **The laws** — so each law of merging is one of putting keys together and one of laying values over
     each other, and where these values are mappings, it is the same law for what is nested: the empty
     mapping is neutral, merging twice is merging once, and three are merged in either order.

  3. **The exception** — laying over is not associative by itself.  Where the second of three has
     something that is no mapping, it hides the first from the third; merging the third into the second
     beforehand would lose it (`Parted`).
-/

namespace SecureStartup

namespace Entries

/-- The keys that are not among some others. -/
def fresh (among ks : List Value) : List Value := ks.filter fun k => !among.any (·.same k)

theorem mem_fresh {among ks : List Value} {k : Value} :
    k ∈ fresh among ks ↔ k ∈ ks ∧ ∀ k' ∈ among, k'.same k = false := by
  unfold fresh
  simp

/-- **A mapping is known by its keys and what is under them.** -/
theorem eq_of_keys {es fs : Entries} (hkeys : keys es = keys fs) (hd : es.Distinct)
    (hself : es.Keyed fun k => k.same k = true) (hget : ∀ k ∈ keys es, get? es k = get? fs k) :
    es = fs := by
  induction es generalizing fs with
  | nil => exact (List.map_eq_nil_iff.mp hkeys.symm).symm
  | cons e es ih =>
    obtain ⟨k, v⟩ := e
    cases fs with
    | nil => exact nomatch hkeys
    | cons f fs =>
      obtain ⟨k', w⟩ := f
      obtain ⟨rfl, hrest⟩ : k = k' ∧ keys es = keys fs := List.cons.inj hkeys
      obtain ⟨hnew, hd⟩ := List.pairwise_cons.mp hd
      have hkk : k.same k = true := hself _ List.mem_cons_self
      have hv : v = w := by
        have hfirst := hget k List.mem_cons_self
        rw [get?_cons, get?_cons, if_pos hkk, if_pos hkk] at hfirst
        exact Option.some.inj hfirst
      have htail : es = fs := by
        -- under the other keys both sides pass over their first pair
        refine ih hrest hd (fun e he => hself e (List.mem_cons_of_mem _ he)) fun q hq => ?_
        have hunder := hget q (List.mem_cons_of_mem _ hq)
        obtain ⟨e, he, rfl⟩ := List.mem_map.mp hq
        have hother : ¬ k.same e.1 = true := Bool.eq_false_iff.mp (hnew e he)
        rwa [get?_cons, get?_cons, if_neg hother, if_neg hother] at hunder
      rw [hv, htail]

/-- Keys that are all among the others leave none. -/
theorem fresh_eq_nil {among ks : List Value} (h : ∀ k ∈ ks, ∃ k' ∈ among, k'.same k = true) :
    fresh among ks = [] := by
  unfold fresh
  rw [List.filter_eq_nil_iff]
  simpa using h

end Entries

namespace Config

open SecureStartup.Value (at? IsKey Differ Findable settled_isKey)
open SecureStartup.Entries (fresh mem_fresh)

/-! ## Keys -/

/-- **The keys of a merge**: those of the base, and then the new ones of the overlay.  By induction on
    the overlay, over any base. -/
theorem keys_merge {overlay : Entries} (hd : overlay.Distinct) (base : Entries) :
    (merge base overlay).keys = base.keys ++ fresh base.keys overlay.keys := by
  unfold merge
  induction overlay generalizing base with
  | nil =>
    rw [mergeInto]
    exact (List.append_nil _).symm
  | cons e overlay ih =>
    obtain ⟨k, v⟩ := e
    obtain ⟨hnew, hd⟩ := List.pairwise_cons.mp hd
    have hany : base.any (fun e => e.1.same k) = base.keys.any (·.same k) := by
      rw [Entries.keys, List.any_map]
      rfl
    rw [mergeInto, ih hd, Entries.keys_insert, hany]
    show _ = base.keys ++ List.filter _ (k :: Entries.keys overlay)
    by_cases hthere : base.keys.any (·.same k) = true
    · rw [if_pos hthere, List.filter_cons_of_neg (by simp [hthere])]
      rfl
    · rw [if_neg hthere, List.filter_cons_of_pos (by simpa using hthere), List.append_assoc]
      refine congrArg (base.keys ++ k :: ·) (List.filter_congr fun q hq => ?_)
      -- the first key of the overlay makes none of its others less new
      obtain ⟨e, he, rfl⟩ := List.mem_map.mp hq
      simp [show k.same e.1 = false from hnew e he]

/-- A merge into a merge brings no keys but those that neither has. -/
theorem fresh_append_fresh {ka kb kc : List Value} (ha : ∀ k ∈ ka, IsKey k) :
    fresh (ka ++ fresh ka kb) kc = fresh ka (fresh kb kc) := by
  unfold fresh
  rw [List.filter_filter]
  refine List.filter_congr fun k _ => ?_
  rw [List.any_append, Bool.not_or]
  by_cases hk : ka.any (·.same k) = true
  · simp [hk]
  · rw [Bool.eq_false_iff.mpr hk, Bool.not_false, Bool.true_and, Bool.true_and, Bool.not_eq_eq_eq_not,
      Bool.not_not]
    rw [Bool.eq_iff_iff, List.any_eq_true, List.any_eq_true]
    constructor
    · rintro ⟨y, hy, hyk⟩
      exact ⟨y, (List.mem_filter.mp hy).1, hyk⟩
    · rintro ⟨y, hy, hyk⟩
      refine ⟨y, mem_fresh.mpr ⟨hy, fun x hx => Bool.eq_false_iff.mpr fun hxy => hk ?_⟩, hyk⟩
      exact List.any_eq_true.mpr ⟨x, hx, Value.same_trans (ha x hx) hxy hyk⟩

/-! ## Merges of nested mappings -/

section Laws

variable {a b c : Entries}

theorem get?_merge_of_nested (ha : Nested Findable Differ a) (hb : Nested Findable Differ b) {k : Value}
    (hk : IsKey k) : (merge a b).get? k = lay (b.get? k) (a.get? k) :=
  get?_merge (settled_isKey hk) (fun e he => (ha.keyed e he).isKey)
    (fun e he => (hb.keyed e he).isKey) hb.distinct

/-- **A merge of nested mappings is one.** -/
theorem nested_merge (ha : Nested Findable Differ a) (hb : Nested Findable Differ b) :
    Nested Findable Differ (merge a b) := by
  induction hb generalizing a with
  | @intro b hkeyed hapart hinner ih =>
    have hb : Nested Findable Differ b := .intro hkeyed hapart hinner
    have hkeys := keys_merge hb.distinct a
    have hfindable : (merge a b).Keyed Findable := by
      intro e he
      have hkey : e.1 ∈ (merge a b).keys := List.mem_map_of_mem he
      rw [hkeys, List.mem_append] at hkey
      rcases hkey with hold | hnew
      · obtain ⟨e', he', heq⟩ := List.mem_map.mp hold
        exact heq ▸ ha.keyed e' he'
      · obtain ⟨e', he', heq⟩ := List.mem_map.mp (mem_fresh.mp hnew).1
        exact heq ▸ hb.keyed e' he'
    have hdistinct : (merge a b).Distinct := by
      have hpairwise : (merge a b).keys.Pairwise Differ := by
        rw [hkeys, List.pairwise_append]
        exact ⟨List.pairwise_map.mpr ha.apart, (List.pairwise_map.mpr hb.apart).filter _,
          fun k hk k' hk' => (mem_fresh.mp hk').2 k hk⟩
      exact List.pairwise_map.mp hpairwise
    refine .intro hfindable hdistinct fun e he fs hfs => ?_
    have hk := hfindable e he
    have hunder := Entries.get?_of_mem hdistinct hk.self he
    rw [get?_merge_of_nested ha hb hk.isKey, hfs] at hunder
    -- a mapping in the merge is one of the base or of the overlay, or a merge itself
    rcases hv : b.get? e.1 with _ | v <;> rw [hv] at hunder
    · exact ha.get? hunder
    · have hlaid : mergeValue v (a.get? e.1) = .map fs := Option.some.inj hunder
      rcases mergeValue_cases v (a.get? e.1) with ⟨fs', gs, rfl, hold, hmerged⟩ | ⟨_, hsame⟩
      · cases hmerged.symm.trans hlaid
        obtain ⟨k', hmem, _⟩ := Entries.mem_of_get? hv
        exact ih _ hmem _ rfl (ha.get? hold)
      · cases hsame.symm.trans hlaid
        exact hb.get? hv

/-- **How merges are compared**: by keys, and by what is laid over what under each of them. -/
theorem merge_eq (ha : Nested Findable Differ a) (hb : Nested Findable Differ b)
    (hkeys : a.keys ++ fresh a.keys b.keys = c.keys)
    (hlay : ∀ k, Findable k → lay (b.get? k) (a.get? k) = c.get? k) : merge a b = c := by
  have hmerged := nested_merge ha hb
  refine Entries.eq_of_keys ((keys_merge hb.distinct a).trans hkeys) hmerged.distinct
    (fun e he => (hmerged.keyed e he).self) fun k hk => ?_
  obtain ⟨e, he, rfl⟩ := List.mem_map.mp hk
  have hfindable := hmerged.keyed e he
  rw [get?_merge_of_nested ha hb hfindable.isKey, hlay e.1 hfindable]

/-! ## The laws -/

/-- Merging into the empty mapping. -/
theorem nil_merge (ha : Nested Findable Differ a) : merge [] a = a := by
  refine merge_eq .nil ha ?_ fun k _ => ?_
  · simp [fresh, Entries.keys]
  · rw [Entries.get?_nil]
    rcases a.get? k with _ | v
    · rfl
    · exact congrArg some (mergeValue_none v)

/-- Merging with itself. -/
theorem merge_self (ha : Nested Findable Differ a) : merge a a = a := by
  induction ha with
  | @intro a hkeyed hapart hinner ih =>
    have ha : Nested Findable Differ a := .intro hkeyed hapart hinner
    refine merge_eq ha ha ?_ fun k _ => ?_
    · rw [Entries.fresh_eq_nil, List.append_nil]
      intro k hk
      obtain ⟨e, he, rfl⟩ := List.mem_map.mp hk
      exact ⟨e.1, hk, (hkeyed e he).self⟩
    · rcases hv : a.get? k with _ | v
      · rfl
      · refine congrArg some ?_
        rcases mergeValue_cases v (some v) with ⟨fs, gs, rfl, hold, hmerged⟩ | ⟨_, hsame⟩
        · cases hold
          obtain ⟨_, hmem, _⟩ := Entries.mem_of_get? hv
          rw [hmerged, ih _ hmem fs rfl]
        · exact hsame

/-- Merging twice is merging once.  By induction on the overlay, over any base. -/
theorem merge_merge_self (ha : Nested Findable Differ a) (hb : Nested Findable Differ b) :
    merge (merge a b) b = merge a b := by
  induction hb generalizing a with
  | @intro b hkeyed hapart hinner ih =>
    have hb : Nested Findable Differ b := .intro hkeyed hapart hinner
    refine merge_eq (nested_merge ha hb) hb ?_ fun k hk => ?_
    -- the second merge brings no key that the first has not brought
    · rw [Entries.fresh_eq_nil, List.append_nil]
      intro k hk
      obtain ⟨e, he, rfl⟩ := List.mem_map.mp hk
      rw [keys_merge hb.distinct]
      by_cases hold : ∃ k' ∈ a.keys, k'.same e.1 = true
      · obtain ⟨k', hk', hsame⟩ := hold
        exact ⟨k', List.mem_append_left _ hk', hsame⟩
      · refine ⟨e.1, List.mem_append_right _ (mem_fresh.mpr ⟨hk, fun k' hk' => ?_⟩), (hkeyed e he).self⟩
        exact Bool.eq_false_iff.mpr fun hsame => hold ⟨k', hk', hsame⟩
    · rw [get?_merge_of_nested ha hb hk.isKey]
      rcases hv : b.get? k with _ | v
      · rfl
      · refine congrArg some ?_
        show mergeValue v (some (mergeValue v (a.get? k))) = mergeValue v (a.get? k)
        rcases mergeValue_cases v (a.get? k) with ⟨fs, gs, rfl, hold, hmerged⟩ | ⟨_, hsame⟩
        -- both have a mapping there: the same law for what is nested
        · obtain ⟨_, hmem, _⟩ := Entries.mem_of_get? hv
          rw [hmerged, mergeValue_map, ih _ hmem fs rfl (ha.get? hold)]
        · -- the overlay's value is laid over itself
          rw [hsame]
          rcases mergeValue_cases v (some v) with ⟨fs, gs, rfl, hold, hmerged⟩ | ⟨_, hself⟩
          · cases hold
            rw [hmerged, merge_self (hb.get? hv)]
          · exact hself

/-- **Three mappings are parted at a path** when the second has something there that is no mapping, and
    the other two have mappings. -/
def Parted (a b c : Entries) (p : List Value) : Prop :=
  (∃ v, (Value.map b).at? p = some v ∧ v.isMap = false) ∧
    (∃ fs, (Value.map a).at? p = some (.map fs)) ∧ ∃ fs, (Value.map c).at? p = some (.map fs)

/-- Parted further down. -/
theorem Parted.cons {k : Value} {fs gs hs : Entries} {p : List Value} (h : Parted fs gs hs p)
    (ha : a.get? k = some (.map fs)) (hb : b.get? k = some (.map gs)) (hc : c.get? k = some (.map hs)) :
    Parted a b c (k :: p) := by
  unfold Parted
  simp only [Value.at?_map_cons, ha, hb, hc, Option.bind_some]
  exact h

/-- Three values laid over each other, when what is nested is no matter.  If the second is no mapping, one
    of the other two is none. -/
theorem mergeValue_mergeValue {w v : Value} {old : Option Value}
    (hnot : v.isMap = false → (∃ hs, w = .map hs) → ∀ gs, old ≠ some (.map gs))
    (hnested : ∀ fs gs hs, old = some (.map fs) → v = .map gs → w = .map hs →
      merge (merge fs gs) hs = merge fs (merge gs hs)) :
    mergeValue w (some (mergeValue v old)) = mergeValue (mergeValue w (some v)) old := by
  by_cases hw : w.isMap = false
  · simp only [mergeValue_of_not_map hw]
  obtain ⟨hs, rfl⟩ := Value.eq_map_of_isMap hw
  by_cases hv : v.isMap = false
  · have hover : ∀ gs, some v ≠ some (.map gs) := by
      rintro gs ⟨⟩
      exact nomatch hv
    rw [mergeValue_of_not_map hv, mergeValue_over hover, mergeValue_over (hnot hv ⟨hs, rfl⟩)]
  obtain ⟨gs, rfl⟩ := Value.eq_map_of_isMap hv
  by_cases hold : ∃ fs, old = some (.map fs)
  · obtain ⟨fs, rfl⟩ := hold
    simp only [mergeValue_map]
    rw [hnested fs gs hs rfl rfl rfl]
  · have hover : ∀ fs, old ≠ some (.map fs) := fun fs h => hold ⟨fs, h⟩
    simp only [mergeValue_over hover]

/-- **The order in which three are merged** does not matter, unless they are parted.  By induction on the
    second, between any two others. -/
theorem merge_assoc (ha : Nested Findable Differ a) (hb : Nested Findable Differ b)
    (hc : Nested Findable Differ c) (h : ∀ p, (∀ k ∈ p, IsKey k) → ¬ Parted a b c p) :
    merge (merge a b) c = merge a (merge b c) := by
  induction hb generalizing a c with
  | @intro b hkeyed hapart hinner ih =>
    have hb : Nested Findable Differ b := .intro hkeyed hapart hinner
    refine merge_eq (nested_merge ha hb) hc ?_ fun k hk => ?_
    -- on both sides: the keys of the first, then the new ones of the second, then those of the third
    · rw [keys_merge (nested_merge hb hc).distinct, keys_merge hb.distinct, keys_merge hc.distinct,
        fresh_append_fresh, List.append_assoc]
      · show _ = a.keys ++ List.filter _ (b.keys ++ _)
        rw [List.filter_append]
        rfl
      · intro k hk
        obtain ⟨e, he, rfl⟩ := List.mem_map.mp hk
        exact (ha.keyed e he).isKey
    · rw [get?_merge_of_nested ha hb hk.isKey, get?_merge_of_nested ha (nested_merge hb hc) hk.isKey,
        get?_merge_of_nested hb hc hk.isKey]
      rcases hw : c.get? k with _ | w
      · rfl
      rcases hv : b.get? k with _ | v
      · exact congrArg (some <| mergeValue · (a.get? k)) (mergeValue_none w).symm
      refine congrArg some (mergeValue_mergeValue ?_ ?_)
      -- what hides the first from the third would part them at this key
      · rintro hnot ⟨hs, rfl⟩ fs hfs
        refine h [k] (List.forall_mem_singleton.mpr hk.isKey) ?_
        unfold Parted
        simp only [Value.at?_map_singleton]
        exact ⟨⟨v, hv, hnot⟩, ⟨fs, hfs⟩, hs, hw⟩
      -- three mappings: what parts them further down would part these, too
      · rintro fs gs hs hfs rfl rfl
        obtain ⟨_, hmem, _⟩ := Entries.mem_of_get? hv
        refine ih _ hmem gs rfl (ha.get? hfs) (hc.get? hw) fun p hp hparted => ?_
        exact h (k :: p) (List.forall_mem_cons.mpr ⟨hk.isKey, hp⟩) (hparted.cons hfs hv hw)

/-- **The laws of merging** nested mappings, for the values at every depth and for the order of keys, which
    are all found again.  The empty mapping is neutral on both sides; a mapping merged with itself is
    itself; what was merged already changes nothing when it is merged again; and three mappings that are
    nowhere parted may be merged in either order. -/
theorem merge_laws (ha : Nested Findable Differ a) (hb : Nested Findable Differ b)
    (hc : Nested Findable Differ c) :
    merge a [] = a ∧ merge [] a = a ∧ merge a a = a ∧ merge (merge a b) b = merge a b ∧
      ((∀ p, (∀ k ∈ p, IsKey k) → ¬ Parted a b c p) → merge (merge a b) c = merge a (merge b c)) :=
  ⟨merge_nil a, nil_merge ha, merge_self ha, merge_merge_self ha hb, merge_assoc ha hb hc⟩

end Laws

/-- Settings of the pool that are laid over both others. -/
def laterPool : Entries := [(.str "pool", .map [(.str "cores", .int 4)])]

/-- The laws for the three, which are not parted at the pool. -/
theorem merge_laws_pool :
    (∀ p, (∀ k ∈ p, IsKey k) → ¬ Parted writtenPool givenPool laterPool p) ∧
      merge writtenPool writtenPool = writtenPool ∧
      merge (merge writtenPool givenPool) laterPool = merge writtenPool (merge givenPool laterPool) := by
  have hlater : Nested Findable Differ laterPool := by
    refine .singleton (Value.findable_str _) ?_
    rintro _ ⟨⟩
    exact .singleton (Value.findable_str _) nofun
  have hparted : ∀ p, (∀ k ∈ p, IsKey k) → ¬ Parted writtenPool givenPool laterPool p := by
    rintro p _ ⟨⟨v, hv, hnot⟩, _, fs, hfs⟩
    rcases p with _ | ⟨k, _ | ⟨k', p⟩⟩
    · cases hv
      exact nomatch hnot
    · -- what is there is the pool
      rw [Value.at?_map_singleton] at hv
      obtain ⟨_, hmem, _⟩ := Entries.mem_of_get? hv
      cases List.mem_singleton.mp hmem
      exact nomatch hnot
    · -- the later mapping has no mapping further down
      obtain ⟨w, hw, hfs⟩ := Option.bind_eq_some_iff.mp hfs
      obtain ⟨_, hmem, _⟩ := Entries.mem_of_get? hw
      cases List.mem_singleton.mp hmem
      obtain ⟨w, hw, hfs⟩ := Option.bind_eq_some_iff.mp hfs
      obtain ⟨_, hmem, _⟩ := Entries.mem_of_get? hw
      cases List.mem_singleton.mp hmem
      cases p <;> exact nomatch hfs
  obtain ⟨_, _, hself, _, hassoc⟩ := merge_laws writtenPool_nested givenPool_nested hlater
  exact ⟨hparted, hself, hassoc hparted⟩

end Config

end SecureStartup
