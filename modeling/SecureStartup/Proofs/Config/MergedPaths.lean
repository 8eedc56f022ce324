import SecureStartup.Proofs.Config.Merging
import SecureStartup.Proofs.Value.Nested

/-!
  What a merge of two nested mappings holds, path by path.

  Program: `_deep_merge`, with which `load_config` lays the overrides over the section of the file.

  A path runs through mappings.  As long as both sides have a mapping where it is, the merge has the
  merge of the two there, and that goes on until one side has something else: then the overlay decides,
  unless it has nothing at all (`at?_mergeValue`).  So

  * every setting of the overlay is there;
  * a setting of the base is kept, but for those that the overlay sets too, or cuts off, by something
    that is no mapping on the way to them;
  * and there is nothing else (`merge_at`).
-/

namespace SecureStartup.Config

open SecureStartup.Value (at? IsKey Findable Differ settled_isKey)

/-- A value that is a nested mapping, if it is there and is a mapping. -/
def NestedValue (S : Value → Prop) (v : Option Value) : Prop :=
  ∀ es, v = some (.map es) → Nested S Differ es

/-- **What one value laid over another holds at a path**: the overlay's, laid over what was there; where
    the overlay has nothing, what was there, unless the path is cut off.  By induction on the path. -/
theorem at?_mergeValue {p : List Value} (hp : ∀ k ∈ p, IsKey k) (new : Value) (old : Option Value)
    (hnew : NestedValue IsKey (some new)) (hold : NestedValue IsKey old) :
    (∀ v, new.at? p = some v → (mergeValue new old).at? p = some (mergeValue v (old.bind (at? p)))) ∧
    (new.at? p = none → new.CutsOff p → (mergeValue new old).at? p = none) ∧
    (new.at? p = none → ¬ new.CutsOff p → (mergeValue new old).at? p = old.bind (at? p)) := by
  induction p generalizing new old with
  | nil =>
    have hthere : new.at? [] ≠ none := Option.some_ne_none new
    refine ⟨?_, fun h => absurd h hthere, fun h => absurd h hthere⟩
    rintro v ⟨⟩
    rcases old with _ | w <;> rfl
  | cons k p ih =>
    by_cases hmap : new.isMap = false
    · -- the path is cut off at once
      have hnone := Value.at?_cons_of_not_map hmap k p
      rw [mergeValue_of_not_map hmap, hnone]
      exact ⟨nofun, fun _ _ => rfl, fun _ h => absurd (Value.cutsOff_of_not_map hmap k p) h⟩
    obtain ⟨fs, rfl⟩ := Value.eq_map_of_isMap hmap
    by_cases hboth : ∃ gs, old = some (.map gs)
    · obtain ⟨gs, rfl⟩ := hboth
      have hfs := hnew fs rfl
      have hgs := hold gs rfl
      have hk : IsKey k := hp k List.mem_cons_self
      have hunder := get?_merge (settled_isKey hk) hgs.keyed hfs.keyed hfs.distinct
      rw [mergeValue_map, Option.bind_some]
      simp only [Value.at?_map_cons, Value.cutsOff_map_cons, hunder]
      rcases hw : Entries.get? fs k with _ | w
      · -- the overlay has nothing here
        refine ⟨nofun, fun _ h => ?_, fun _ _ => rfl⟩
        obtain ⟨_, hnone, _⟩ := h
        exact nomatch hnone
      · have hrest := ih (fun k' hk' => hp k' (List.mem_cons_of_mem k hk')) w (Entries.get? gs k)
          (fun es hes => hfs.get? (hw.trans hes)) (fun es hes => hgs.get? hes)
        simpa only [lay, Option.bind_some, Option.some.injEq, exists_eq_left'] using hrest
    · -- the overlay stays as it is, and the base had nothing where the path goes on
      have hover : ∀ gs, old ≠ some (.map gs) := fun gs h => hboth ⟨gs, h⟩
      rw [mergeValue_over hover, Value.bind_at?_cons_eq_none hover]
      refine ⟨fun v hv => ?_, fun h _ => h, fun h _ => h⟩
      rw [mergeValue_none]
      exact hv

/-- **What a merge holds at a path**, by what the overlay and the base hold there. -/
structure MergedAt (base overlay merged : Value) (p : List Value) : Prop where
  /-- What is no mapping replaces what was there. -/
  replaced : ∀ v, overlay.at? p = some v → v.isMap = false → merged.at? p = some v
  /-- A mapping replaces what is none. -/
  added : ∀ fs, overlay.at? p = some (.map fs) → (∀ gs, base.at? p ≠ some (.map gs)) →
    merged.at? p = some (.map fs)
  /-- Two mappings are merged in turn. -/
  nested : ∀ fs gs, overlay.at? p = some (.map fs) → base.at? p = some (.map gs) →
    merged.at? p = some (.map (merge gs fs))
  /-- What the overlay does not speak of stays as it is, there or not. -/
  kept : overlay.at? p = none → ¬ overlay.CutsOff p → merged.at? p = base.at? p
  /-- What is under something that was replaced by no mapping is gone. -/
  cut : overlay.at? p = none → overlay.CutsOff p → merged.at? p = none
  /-- No setting of the overlay is dropped. -/
  there : overlay.at? p ≠ none → merged.at? p ≠ none
  /-- No setting of the base is lost but to the overlay. -/
  lost : ∀ v, base.at? p = some v → merged.at? p ≠ some v → overlay.at? p ≠ none ∨ overlay.CutsOff p

/-- **Merging path by path**: at every path of keys, a merge of nested mappings holds what the overlay
    says, and what the base says where the overlay says nothing.  A not-a-number may be a key too; it is
    found nowhere. -/
theorem merge_at {base overlay : Entries} (hbase : Nested IsKey Differ base)
    (hoverlay : Nested IsKey Differ overlay) {p : List Value} (hp : ∀ k ∈ p, IsKey k) :
    MergedAt (.map base) (.map overlay) (.map (merge base overlay)) p := by
  obtain ⟨hgiven, hcut, hkept⟩ := at?_mergeValue hp (.map overlay) (some (.map base))
    (by rintro _ ⟨⟩; exact hoverlay) (by rintro _ ⟨⟩; exact hbase)
  rw [mergeValue_map, Option.bind_some] at *
  refine ⟨fun v hv hnot => ?_, fun fs hfs hover => ?_, fun fs gs hfs hgs => ?_, hkept, hcut,
    fun h hnone => ?_, fun v hv hne => ?_⟩
  · rw [hgiven v hv, mergeValue_of_not_map hnot]
  · rw [hgiven _ hfs, mergeValue_over hover]
  · rw [hgiven _ hfs, hgs, mergeValue_map]
  · obtain ⟨v, hv⟩ := Option.ne_none_iff_exists'.mp h
    rw [hgiven v hv] at hnone
    exact nomatch hnone
  · by_contra hneither
    obtain ⟨hnone, hfree⟩ := not_or.mp hneither
    rw [not_not] at hnone
    exact hne ((hkept hnone hfree).trans hv)

/-- Settings of a pool in a file. -/
def writtenPool : Entries := [(.str "pool", .map [(.str "memory", .int 1024), (.str "cores", .int 2)])]

/-- Settings of the pool that are laid over those. -/
def givenPool : Entries := [(.str "pool", .map [(.str "memory", .int 2048)])]

theorem writtenPool_nested : Nested Findable Differ writtenPool := by
  refine .singleton (Value.findable_str _) ?_
  rintro _ ⟨⟩
  refine .cons (Value.findable_str _) ?_ nofun (.singleton (Value.findable_str _) nofun)
  exact List.forall_mem_singleton.mpr (Value.same_str "memory" "cores")

theorem givenPool_nested : Nested Findable Differ givenPool := by
  refine .singleton (Value.findable_str _) ?_
  rintro _ ⟨⟩
  exact .singleton (Value.findable_str _) nofun

/-- Of the pool's settings one is replaced, and the other is kept. -/
theorem merge_at_pool :
    Nested IsKey Differ writtenPool ∧ Nested IsKey Differ givenPool ∧
      (Value.map (merge writtenPool givenPool)).at? [.str "pool", .str "memory"] = some (.int 2048) ∧
      (Value.map (merge writtenPool givenPool)).at? [.str "pool", .str "cores"] = some (.int 2) := by
  have hwritten := writtenPool_nested.mono (fun _ hk => hk.isKey) fun _ _ h => h
  have hgiven := givenPool_nested.mono (fun _ hk => hk.isKey) fun _ _ h => h
  have hpath : ∀ s : String, ∀ k ∈ [Value.str "pool", .str s], IsKey k := by
    intro s
    exact List.forall_mem_cons.mpr ⟨.atom rfl, List.forall_mem_singleton.mpr (.atom rfl)⟩
  have hmemory := merge_at hwritten hgiven (hpath "memory")
  have hcores := merge_at hwritten hgiven (hpath "cores")
  refine ⟨hwritten, hgiven, hmemory.replaced _ ?_ rfl, (hcores.kept ?_ ?_).trans ?_⟩
  · simp [givenPool, at?, Entries.get?_cons, Value.same_str]
  · simp [givenPool, at?, Entries.get?_cons, Entries.get?_nil, Value.same_str]
  · simp [givenPool, Value.cutsOff_map_cons, Entries.get?_cons, Entries.get?_nil, Value.same_str]
  · simp [writtenPool, at?, Entries.get?_cons, Value.same_str]

end SecureStartup.Config
