import SecureStartup.Proofs.Config.Expanded
import SecureStartup.Proofs.Config.MergeLaws
import SecureStartup.Proofs.Config.Priority
import SecureStartup.Proofs.Value.Texts

/-!
  What becomes of a setting, from its document or from the overrides to the loaded configuration.

  A setting goes through four steps: references in its value are expanded (`_expand_env_vars`), the
  overrides are laid over it (`_deep_merge`), its key is replaced by the key's text, and a component's
  name by the name's text (`_stringify_settings`).  The third step can make two keys into one, `8020`
  and `"8020"`, and then the LAST pair counts.

  1. **Overrides come last.**  Their names go behind the keys of the document that have the same text,
     because they are set after these; so what is under a name once keys are texts is what the merge has
     under it (`written?_merge_of_get?`), and overrides win (`settings_given`).

  2. **Nothing else is touched.**  Laying names over a mapping leaves what is under other texts alone
     (`written?_merge`), and the document's settings stay (`settings_kept`).

  3. **Two levels.**  A component is found by its name in one such mapping, and its settings are another
     one (`stringKeys_component`); the cluster's settings are only the latter (`stringKeys_cluster`).

  The document's mappings have no two keys with one text, without which a setting could be lost to
  another one of the document itself.

  `load_settings` composes the steps for a whole load, from `load_origin`: whatever the file, the
  environment and the overrides are.  `load_settings_port` is a case where the third step matters.
-/

namespace SecureStartup

namespace Config

open SecureStartup.Value (at? IsName Unlike Differ)
open SecureStartup.Entries (written? InOrder)

/-- Mappings of settings that are laid over others. -/
abbrev Named (es : Entries) : Prop := Nested IsName Differ es

/-- Mappings of a document in which no two keys have one text. -/
abbrev Apart (es : Entries) : Prop := Nested (fun _ => True) Unlike es

section Merging

variable {gs fs : Entries}

theorem inOrder_merge (hgs : InOrder gs) (hfs : fs.Keyed IsName) : InOrder (merge gs fs) := by
  unfold merge
  induction fs generalizing gs with
  | nil =>
    rw [mergeInto]
    exact hgs
  | cons e fs ih =>
    obtain ⟨k, v⟩ := e
    obtain ⟨⟨s, hs⟩, hrest⟩ := List.forall_mem_cons.mp hfs
    cases hs
    rw [mergeInto]
    exact ih (hgs.insert s _) hrest

/-- **What is laid over a mapping leaves other texts alone.** -/
theorem written?_merge (hfs : fs.Keyed IsName) {t : String} (ht : Entries.get? fs (.str t) = none) :
    written? t (merge gs fs) = written? t gs := by
  unfold merge
  induction fs generalizing gs with
  | nil => rw [mergeInto]
  | cons e fs ih =>
    obtain ⟨k, v⟩ := e
    obtain ⟨⟨s, hs⟩, hrest⟩ := List.forall_mem_cons.mp hfs
    cases hs
    rw [Entries.get?_cons, Value.same_str] at ht
    by_cases hst : s = t
    · rw [if_pos (beq_iff_eq.mpr hst)] at ht
      cases ht
    · rw [if_neg (mt beq_iff_eq.mp hst)] at ht
      rw [mergeInto, ih hrest ht, Entries.written?_insert hst]

/-- **What is under a name of a merge** is what is under it once keys are texts. -/
theorem written?_merge_of_get? (hgs : Apart gs) (hfs : Named fs) {t : String} {v : Value}
    (hv : (merge gs fs).get? (.str t) = some v) : written? t (merge gs fs) = some v :=
  (inOrder_merge (Entries.inOrder_of_unlike hgs.apart) hfs.keyed).written?_of_get? hv

end Merging

/-! ## Texts for keys -/

/-- A pair whose key became its text, and whose value was made something by `f`. -/
def Renamed (f : Value → Except Failure Value) (e p : Value × Value) : Prop :=
  ∃ w, p = (.str e.1.text, w) ∧ f e.2 = .ok w

section Renaming

variable {f : Value → Except Failure Value} {g : Value × Value → Except Failure (Value × Value)}
  {es ps : Entries}

/-- All keys became names. -/
theorem keyed_renamed (hg : ∀ e p, g e = .ok p → Renamed f e p) (h : es.mapM g = .ok ps) :
    ps.Keyed IsName := by
  induction es generalizing ps with
  | nil =>
    cases h
    exact List.forall_mem_nil _
  | cons e es ih =>
    rw [List.mapM_cons] at h
    obtain ⟨p, hp, h⟩ := Except.bind_eq_ok h
    obtain ⟨ps, hps, h⟩ := Except.bind_eq_ok h
    cases h
    obtain ⟨w, rfl, _⟩ := hg e p hp
    exact List.forall_mem_cons.mpr ⟨⟨_, rfl⟩, ih hps⟩

/-- The last pair with a text stays the last one with it. -/
theorem written?_renamed (hg : ∀ e p, g e = .ok p → Renamed f e p) (h : es.mapM g = .ok ps) (t : String) :
    Option.Rel (fun v w => f v = .ok w) (written? t es) (written? t ps) := by
  induction es generalizing ps with
  | nil =>
    cases h
    exact .none
  | cons e es ih =>
    obtain ⟨k, v⟩ := e
    rw [List.mapM_cons] at h
    obtain ⟨p, hp, h⟩ := Except.bind_eq_ok h
    obtain ⟨ps, hps, h⟩ := Except.bind_eq_ok h
    cases h
    obtain ⟨w, rfl, hw⟩ := hg _ p hp
    have hrest := ih hps
    rw [written?, written?, Value.text_str]
    generalize written? t es = x at hrest ⊢
    generalize written? t ps = y at hrest ⊢
    cases hrest with
    | some hlast => exact .some hlast
    | none =>
      by_cases ht : k.text = t
      · rw [if_pos ht, if_pos ht]
        exact .some hw
      · rw [if_neg ht, if_neg ht]
        exact .none

/-- **What is under a name once keys are texts.** -/
theorem get?_ofPairs_renamed (hg : ∀ e p, g e = .ok p → Renamed f e p) (h : es.mapM g = .ok ps)
    {t : String} {v : Value} (hv : written? t es = some v) :
    ∃ w, f v = .ok w ∧ (Entries.ofPairs ps).get? (.str t) = some w := by
  have hrel := written?_renamed hg h t
  rw [hv] at hrel
  rcases hps : written? t ps with _ | w <;> rw [hps] at hrel
  · cases hrel
  · cases hrel with
    | some hw =>
      refine ⟨w, hw, ?_⟩
      rw [Entries.ofPairs, Entries.get?_foldl_insert t ps [] (keyed_renamed hg h), hps]
      rfl

end Renaming

/-- Settings by the texts of their keys. -/
theorem stringKeys_at? {es : Entries} {w : Value} (h : stringKeys (.map es) = .ok w) {t : String}
    {v : Value} (hv : written? t es = some v) : w.at? [.str t] = some v := by
  obtain ⟨ps, hps, h⟩ := Except.bind_eq_ok h
  cases h
  have hrenamed : ∀ e p : Value × Value,
      (do return (.str (← e.1.written), e.2) : Except Failure (Value × Value)) = .ok p →
        Renamed .ok e p := by
    intro e p hp
    obtain ⟨k, hk, hp⟩ := Except.bind_eq_ok hp
    cases hp
    exact ⟨e.2, by rw [written_eq_ok hk], rfl⟩
  obtain ⟨u, hu, hget⟩ := get?_ofPairs_renamed hrenamed hps hv
  cases hu
  rw [Value.at?_map_singleton, hget]

/-- Components by the texts of their names, with the settings of each. -/
theorem componentsOf_at? {es : Entries} {cs : Value} (h : componentsOf (.map es) = .ok cs) {n : String}
    {v : Value} (hv : written? n es = some v) :
    ∃ w, stringKeys v = .ok w ∧ cs.at? [.str n] = some w := by
  have horElse : (Value.map es).orElse (.map []) = .map es := by
    cases es <;> rfl
  unfold componentsOf at h
  rw [horElse, entriesOf_map_bind] at h
  obtain ⟨ps, hps, h⟩ := Except.bind_eq_ok h
  cases h
  have hrenamed : ∀ e p : Value × Value,
      (do return (.str (← e.1.written), ← stringKeys e.2) : Except Failure (Value × Value)) = .ok p →
        Renamed stringKeys e p := by
    intro e p hp
    obtain ⟨k, hk, hp⟩ := Except.bind_eq_ok hp
    obtain ⟨w, hw, hp⟩ := Except.bind_eq_ok hp
    cases hp
    exact ⟨w, by rw [written_eq_ok hk], hw⟩
  obtain ⟨w, hw, hget⟩ := get?_ofPairs_renamed hrenamed hps hv
  refine ⟨w, hw, ?_⟩
  rw [Value.at?_map_singleton, hget]

/-! ## One mapping of settings -/

/-- **Settings laid over settings** are a merge, whichever of the two are there. -/
theorem lay_eq_merge {new old : Option Value} (hnew : ∀ w, new = some w → w.isMap = true)
    (hnamed : Named (pairsIn new)) (hthere : new ≠ none ∨ ∃ gs, old = some (.map gs)) :
    lay new old = some (.map (merge (pairsIn old) (pairsIn new))) := by
  rcases new with _ | w
  · -- without overrides the settings stay as they are
    obtain ⟨gs, rfl⟩ := hthere.resolve_left fun h => h rfl
    show some (Value.map gs) = some (.map (merge gs []))
    rw [merge_nil]
  · obtain ⟨fs, rfl⟩ : ∃ fs, w = .map fs := Value.eq_map_of_isMap (by simp [hnew w rfl])
    refine congrArg some ?_
    rcases mergeValue_cases (.map fs) old with ⟨_, gs, hfs, rfl, hmerged⟩ | ⟨hover, hsame⟩
    · cases hfs
      exact hmerged
    · change Named fs at hnamed
      rw [hsame, pairsIn_eq_nil fun gs => hover fs gs rfl]
      show Value.map fs = .map (merge [] fs)
      rw [nil_merge (hnamed.mono (fun _ hk => hk.findable) fun _ _ h => h)]

/-- **Sections laid over sections**, by name. -/
theorem get?_merge_section {base overlay : Entries} (hoverlay : Named overlay) {name : String}
    (hmap : ∀ w, overlay.get? (.str name) = some w → w.isMap = true)
    (hthere : overlay.get? (.str name) ≠ none ∨ ∃ gs, base.get? (.str name) = some (.map gs)) :
    (merge base overlay).get? (.str name) =
      some (.map (merge (pairsIn (base.get? (.str name))) (pairsIn (overlay.get? (.str name))))) :=
  (get?_merge_str hoverlay.distinct base name).trans (lay_eq_merge hmap (hoverlay.pairsIn _) hthere)

section Settings

variable {gs fs : Entries} {settings : Value}

/-- **Settings of the overlay win.** -/
theorem settings_given (hgs : Apart gs) (hfs : Named fs)
    (hs : stringKeys (.map (merge gs fs)) = .ok settings) {t : String} {v : Value}
    (hv : Entries.get? fs (.str t) = some v) (hnot : v.isMap = false) :
    settings.at? [.str t] = some v := by
  refine stringKeys_at? hs (written?_merge_of_get? hgs hfs ?_)
  rw [get?_merge_str hfs.distinct, hv]
  exact congrArg some (mergeValue_of_not_map hnot _)

/-- **Settings that the overlay does not give stay**, under the texts of their keys. -/
theorem settings_kept (hgs : Apart gs) (hfs : Named fs)
    (hs : stringKeys (.map (merge gs fs)) = .ok settings) {k v : Value} (hmem : (k, v) ∈ gs)
    (habsent : Entries.get? fs (.str k.text) = none) : settings.at? [.str k.text] = some v := by
  refine stringKeys_at? hs ?_
  rw [written?_merge hfs.keyed habsent, Entries.written?_of_mem hgs.apart hmem]

end Settings

/-! ## Documents with keys apart -/

mutual

/-- Whether no mapping of a value has two keys with one text. -/
def keysApart : Value → Bool
  | .map es => (es.map fun e => e.1.text).Nodup && keysApartIn es
  | _ => true

/-- Whether none of the values in a mapping has such a mapping. -/
def keysApartIn : List (Value × Value) → Bool
  | [] => true
  | (_, v) :: es => keysApart v && keysApartIn es

end

mutual

theorem apart_of_keysApart (v : Value) (h : keysApart v = true) (es : Entries) (hv : v = .map es) :
    Apart es := by
  subst hv
  rw [keysApart, Bool.and_eq_true, decide_eq_true_iff] at h
  have htexts : es.Pairwise fun e f => e.1.text ≠ f.1.text := List.pairwise_map.mp h.1
  exact .intro (fun _ _ => trivial) htexts (apart_of_keysApartIn es h.2)

theorem apart_of_keysApartIn (es : List (Value × Value)) (h : keysApartIn es = true)
    (e : Value × Value) (he : e ∈ es) (fs : Entries) (hfs : e.2 = .map fs) : Apart fs := by
  match es with
  | (k, v) :: es =>
    rw [keysApartIn, Bool.and_eq_true] at h
    rcases List.mem_cons.mp he with rfl | he
    · exact apart_of_keysApart v h.1 fs hfs
    · exact apart_of_keysApartIn es h.2 e he fs hfs

end

/-! ## From the document to the configuration -/

/-- **A section** is what there is in its document, given or not. -/
theorem eq_pairsIn_of_sectionOf {doc : Value} {sec : Entries} (h : sectionOf doc = .ok (.map sec)) :
    ∃ es : Entries, doc = .map es ∧ sec = pairsIn (es.get? (.str "appmaster")) := by
  obtain ⟨there, _, h⟩ := Except.bind_eq_ok h
  cases there with
  | false => exact nomatch h
  | true =>
    cases doc with
    | map es =>
      have hfield : (Entries.field es "appmaster").orElse (.map []) = .map sec := Except.ok.inj h
      refine ⟨es, rfl, ?_⟩
      unfold Entries.field at hfield
      rcases hget : Entries.get? es (.str "appmaster") with _ | v
      · rw [hget] at hfield
        exact (Value.map.inj hfield).symm
      rw [hget] at hfield
      change v.orElse (.map []) = .map sec at hfield
      unfold Value.orElse at hfield
      by_cases hgiven : v.truthy = true
      · rw [if_pos hgiven] at hfield
        rw [hfield]
        rfl
      · -- what is not given has nothing in it
        rw [if_neg hgiven] at hfield
        rw [← Value.map.inj hfield]
        exact (overriding_of_not_truthy hgiven).symm
    | _ => exact nomatch h

/-- The document that a load finds in its file. -/
def Reads (given : Value) (h : Host) (doc : Value) : Prop :=
  ∃ path sharing, resolvePath given h = .ok path ∧
    sharedAt (readingHost h path) path = .ok (doc, sharing)

/-- **What becomes of settings**: what the overrides give, and what the document does. -/
structure Overridden (env : String → Option String) (doc : Value) (given : Entries) (c : AppConfig) :
    Prop where
  /-- Settings of the cluster that the overrides give are taken as they are. -/
  clusterGiven : ∀ k v, (Value.map given).at? [.str "cluster", .str k] = some v → v.isMap = false →
    c.cluster.at? [.str k] = some v
  /-- Those that they do not give are the document's, expanded and under the text of the key. -/
  clusterKept : ∀ es k v, doc.at? [.str "appmaster", .str "cluster"] = some (.map es) → (k, v) ∈ es →
    (∀ w, given.get? (.str "cluster") = some w → w.isMap = true) →
    (Value.map given).at? [.str "cluster", .str k.text] = none →
    c.cluster.at? [.str k.text] = some (expandValue env v)
  /-- Settings of components that the overrides give are taken as they are. -/
  componentGiven : ∀ n k v, (Value.map given).at? [.str "components", .str n, .str k] = some v →
    v.isMap = false → c.components.at? [.str n, .str k] = some v
  /-- Those that they do not give are the document's, if it has the component by that name. -/
  componentKept : ∀ n es k v, doc.at? [.str "appmaster", .str "components", .str n] = some (.map es) →
    (k, v) ∈ es → (∀ w, given.get? (.str "components") = some w → w.isMap = true) →
    (∀ w, (Value.map given).at? [.str "components", .str n] = some w → w.isMap = true) →
    (Value.map given).at? [.str "components", .str n, .str k.text] = none →
    c.components.at? [.str n, .str k.text] = some (expandValue env v)

section Filled

variable {h : Host} {sec given : Entries} {c : AppConfig}

/-- The cluster's settings, from those of the section and of the overrides. -/
theorem stringKeys_cluster (a : Fills h (merge sec given) c) (hgiven : Named given)
    (hmap : ∀ w, given.get? (.str "cluster") = some w → w.isMap = true)
    (hthere : given.get? (.str "cluster") ≠ none ∨ ∃ gs, sec.get? (.str "cluster") = some (.map gs)) :
    stringKeys (.map (merge (pairsIn (sec.get? (.str "cluster")))
      (pairsIn (given.get? (.str "cluster"))))) = .ok c.cluster := by
  have hcluster := a.cluster
  unfold Entries.field at hcluster
  rw [get?_merge_section hgiven hmap hthere] at hcluster
  exact hcluster

/-- The settings of a component, from those of the section and of the overrides. -/
theorem stringKeys_component (a : Fills h (merge sec given) c) (hsec : Apart sec) (hgiven : Named given)
    {n : String} {cs fs : Entries} (hcs : cs = pairsIn (sec.get? (.str "components")))
    (hfs : fs = pairsIn (given.get? (.str "components")))
    (hmaps : ∀ w, given.get? (.str "components") = some w → w.isMap = true)
    (hmap : ∀ w, fs.get? (.str n) = some w → w.isMap = true)
    (hthere : fs.get? (.str n) ≠ none ∨ ∃ gs, cs.get? (.str n) = some (.map gs)) :
    ∃ settings, stringKeys (.map (merge (pairsIn (cs.get? (.str n))) (pairsIn (fs.get? (.str n))))) =
        .ok settings ∧ ∀ p, c.components.at? (.str n :: p) = settings.at? p := by
  have hcsApart : Apart cs := hcs ▸ hsec.pairsIn _
  have hfsNamed : Named fs := hfs ▸ hgiven.pairsIn _
  have hsections : given.get? (.str "components") ≠ none ∨
      ∃ gs, sec.get? (.str "components") = some (.map gs) := by
    rcases hthere with hthere | ⟨gs, hgs⟩
    · obtain ⟨w, hw⟩ := Option.ne_none_iff_exists'.mp hthere
      rw [hfs] at hw
      obtain ⟨_, hmap⟩ := eq_map_of_get?_pairsIn hw
      exact .inl (by rw [hmap]; exact Option.some_ne_none _)
    · rw [hcs] at hgs
      exact .inr (eq_map_of_get?_pairsIn hgs)
  -- components by their names first, and then the settings of the one
  have hcomponents := a.components
  unfold Entries.field at hcomponents
  rw [get?_merge_section hgiven hmaps hsections, ← hcs, ← hfs] at hcomponents
  have hwritten := written?_merge_of_get? hcsApart hfsNamed (get?_merge_section hfsNamed hmap hthere)
  obtain ⟨settings, hsettings, hat⟩ := componentsOf_at? hcomponents hwritten
  refine ⟨settings, hsettings, fun p => ?_⟩
  rw [← List.singleton_append, Value.at?_append, hat]
  rfl

/-- **What becomes of the settings** of a section that holds what the document does, expanded. -/
theorem overridden_of_fills {env : String → Option String} {doc : Value}
    (a : Fills h (merge sec given) c) (hsec : Apart sec) (hgiven : Named given)
    (hat : ∀ k p, (Value.map sec).at? (k :: p) =
      (doc.at? (.str "appmaster" :: k :: p)).map (expandValue env)) : Overridden env doc given c := by
  have hisMap : ∀ {x : Option Value} {fs : Entries}, x = some (.map fs) →
      ∀ w, x = some w → w.isMap = true := by
    rintro _ fs rfl w ⟨⟩
    rfl
  have hexpanded : ∀ {k p es}, doc.at? (.str "appmaster" :: k :: p) = some (.map es) →
      (Value.map sec).at? (k :: p) = some (.map (expandEntries env es)) := by
    intro k p es hes
    rw [hat, hes, Option.map_some, expandValue]
  refine ⟨?_, ?_, ?_, ?_⟩
  · -- the cluster's settings, given
    intro k v hv hnot
    rw [at?_map_cons_cons, Value.at?_map_singleton] at hv
    obtain ⟨fs, hfs⟩ := eq_map_of_get?_pairsIn hv
    have hthere : given.get? (.str "cluster") ≠ none := by
      rw [hfs]
      exact Option.some_ne_none _
    have hs := stringKeys_cluster a hgiven (hisMap hfs) (.inl hthere)
    exact settings_given (hsec.pairsIn _) (hgiven.pairsIn _) hs hv hnot
  · -- the cluster's settings, kept
    intro es k v hes hmem hmap habsent
    have hget := hexpanded hes
    rw [Value.at?_map_singleton] at hget
    rw [at?_map_cons_cons, Value.at?_map_singleton] at habsent
    have hs := stringKeys_cluster a hgiven hmap (.inr ⟨_, hget⟩)
    rw [hget] at hs
    exact settings_kept (hsec.get? hget) (hgiven.pairsIn _) hs (mem_expandEntries hmem) habsent
  · -- a component's settings, given
    intro n k v hv hnot
    rw [at?_map_cons_cons, at?_map_cons_cons, Value.at?_map_singleton] at hv
    obtain ⟨hs, hhs⟩ := eq_map_of_get?_pairsIn hv
    obtain ⟨fs, hfs⟩ := eq_map_of_get?_pairsIn hhs
    have hthere : (pairsIn (given.get? (.str "components"))).get? (.str n) ≠ none := by
      rw [hhs]
      exact Option.some_ne_none _
    obtain ⟨settings, hsettings, hat⟩ :=
      stringKeys_component a hsec hgiven rfl rfl (hisMap hfs) (hisMap hhs) (.inl hthere)
    rw [hat]
    exact settings_given ((hsec.pairsIn _).pairsIn _) ((hgiven.pairsIn _).pairsIn _) hsettings hv hnot
  · -- a component's settings, kept
    intro n es k v hes hmem hmaps hmap habsent
    have hget := hexpanded hes
    rw [at?_map_cons_cons, Value.at?_map_singleton] at hget hmap
    rw [at?_map_cons_cons, at?_map_cons_cons, Value.at?_map_singleton] at habsent
    obtain ⟨settings, hsettings, hat⟩ :=
      stringKeys_component a hsec hgiven rfl rfl hmaps hmap (.inr ⟨_, hget⟩)
    rw [hget] at hsettings
    rw [hat]
    exact settings_kept ((hsec.pairsIn _).get? hget) ((hgiven.pairsIn _).pairsIn _) hsettings
      (mem_expandEntries hmem) habsent

end Filled

/-- **What becomes of settings in loading**, for any file, environment and overrides, when the keys of the
    overrides are texts and no mapping of the document has two keys with one text. -/
theorem load_settings {given overrides : Value} {c : AppConfig} {h h' : Host}
    (hnamed : Named (overriding overrides))
    (happart : ∀ doc, Reads given h doc → ∀ es, doc = .map es → Apart es)
    (hc : (load given overrides).on h = (.ok c, h')) :
    ∃ doc, Reads given h doc ∧ Overridden h.env? doc (overriding overrides) c := by
  obtain ⟨path, sec, a⟩ := load_origin hc
  obtain ⟨expanded, hexpanded, hsec⟩ := Except.bind_eq_ok a.written
  obtain ⟨⟨doc, sharing⟩, hdoc, hexpanded⟩ := Except.bind_eq_ok hexpanded
  have hreads : Reads given h doc := ⟨path, sharing, a.file, hdoc⟩
  have henv : (readingHost h path).env? = h.env? := by
    unfold Host.env?
    rw [readingHost_env]
  cases expandDocument_eq_ok hexpanded
  rw [henv] at hsec
  obtain ⟨es, hes, hpairs⟩ := eq_pairsIn_of_sectionOf hsec
  obtain ⟨raw, hraw, rfl⟩ := expandValue_eq_map hes
  have hsecApart : Apart sec := by
    rw [hpairs]
    exact (nested_expandEntries _ (happart doc hreads raw hraw)).pairsIn _
  refine ⟨doc, hreads, overridden_of_fills a.fills hsecApart hnamed fun k p => ?_⟩
  rw [← at?_expandValue, hes, at?_map_cons_cons, ← hpairs]

/-- Two settings of the cluster in a file, one of them under a number. -/
def portText : String :=
  "appmaster:\n cluster:\n  8020: none\n  queue: $\x7bQUEUE\x7d\n"

/-- A host with that file. -/
def portHost : Host := hostWith [("CLUSTER_NAME", "c"), ("QUEUE", "blue")] portText

/-- The setting under the number is given by the number's text. -/
def givenPort : Value := .map [(.str "cluster", .map [(.str "8020", .str "$\x7bQUEUE\x7d")])]

theorem givenPort_named : Named (overriding givenPort) := by
  refine .singleton ⟨_, rfl⟩ ?_
  rintro _ ⟨⟩
  exact .singleton ⟨_, rfl⟩ nofun

theorem portHost_loads : ((load (.str "/c.yaml") givenPort).on portHost).1.isOk = true := by
  rw [portHost, hostWith_load]
  decide +kernel

theorem portText_parsed :
    ((parsed portHost portText).toOption.map fun d => (keysApart d.1,
      (pairsIn (d.1.at? [.str "appmaster", .str "cluster"])).map fun e => (e.1.text, e.2.asText?))) =
        some (true, [("8020", some "none"), ("queue", some "$\x7bQUEUE\x7d")]) := by
  decide +kernel

/-- What is in the file. -/
theorem portHost_document {doc : Value} (h : Reads (.str "/c.yaml") portHost doc) :
    keysApart doc = true ∧ ∃ es, doc.at? [.str "appmaster", .str "cluster"] = some (.map es) ∧
      ∃ k, k.text = "queue" ∧ (k, .str "$\x7bQUEUE\x7d") ∈ es := by
  obtain ⟨path, sharing, hpath, hdoc⟩ := h
  rw [portHost, hostWith_file] at hpath
  cases hpath
  rw [portHost, hostWith_sharedAt_reading] at hdoc
  have hparsed := portText_parsed
  rw [portHost, hdoc] at hparsed
  obtain ⟨hkeys, hpairs⟩ := Prod.mk.inj (Option.some.inj hparsed)
  have hqueue : ("queue", some "$\x7bQUEUE\x7d") ∈
      (pairsIn (doc.at? [.str "appmaster", .str "cluster"])).map fun e => (e.1.text, e.2.asText?) := by
    rw [hpairs]
    decide
  obtain ⟨⟨k, v⟩, hmem, hkv⟩ := List.mem_map.mp hqueue
  obtain ⟨hk, hv⟩ := Prod.mk.inj hkv
  have hmap : ∃ es, doc.at? [.str "appmaster", .str "cluster"] = some (.map es) := by
    by_contra hnot
    rw [pairsIn_eq_nil fun es hes => hnot ⟨es, hes⟩] at hmem
    exact nomatch hmem
  obtain ⟨es, hes⟩ := hmap
  rw [hes] at hmem
  refine ⟨hkeys, es, hes, k, hk, ?_⟩
  cases v with
  | str s =>
    cases hv
    exact hmem
  | _ => exact nomatch hv

/-- The number's setting is the one that was given, as it is, and the other one is the file's. -/
theorem load_settings_port : Named (overriding givenPort) ∧
    ∃ c h', (load (.str "/c.yaml") givenPort).on portHost = (.ok c, h') ∧
      c.cluster.at? [.str "8020"] = some (.str "$\x7bQUEUE\x7d") ∧
      c.cluster.at? [.str "queue"] = some (.str "blue") := by
  have hloads := portHost_loads
  rcases hload : (load (.str "/c.yaml") givenPort).on portHost with ⟨f | c, h'⟩ <;>
    rw [hload] at hloads
  · exact nomatch hloads
  obtain ⟨doc, hreads, a⟩ := load_settings givenPort_named
    (fun doc hdoc => apart_of_keysApart doc (portHost_document hdoc).1) hload
  obtain ⟨_, es, hes, k, hk, hmem⟩ := portHost_document hreads
  have hcluster : (overriding givenPort).get? (.str "cluster") =
      some (.map [(.str "8020", .str "$\x7bQUEUE\x7d")]) := by
    show Entries.get? [(.str "cluster", _)] _ = _
    rw [Entries.get?_cons, Value.same_str]
    rfl
  have hgiven : ∀ s : String, (Value.map (overriding givenPort)).at? [.str "cluster", .str s] =
      if "8020" = s then some (.str "$\x7bQUEUE\x7d") else none := by
    intro s
    rw [at?_map_cons_cons, Value.at?_map_singleton, hcluster]
    show Entries.get? [(.str "8020", _)] _ = _
    rw [Entries.get?_cons, Entries.get?_nil, Value.same_str]
    simp only [beq_iff_eq]
  refine ⟨givenPort_named, c, h', rfl, a.clusterGiven _ _ ?_ rfl, ?_⟩
  -- the overlay has a text under the number's text
  · exact hgiven "8020"
  -- and nothing under the other name
  · have hkept := a.clusterKept es k _ hes hmem ?_ ?_
    · have hexpands : String.ofList (expand portHost.env? "$\x7bQUEUE\x7d".toList) = "blue" := by
        decide +kernel
      rwa [hk, expandValue, hexpands] at hkept
    · rw [hcluster]
      rintro _ ⟨⟩
      rfl
    · rw [hk]
      exact hgiven "queue"

end Config

end SecureStartup
