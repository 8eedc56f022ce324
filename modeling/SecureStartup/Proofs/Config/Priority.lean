import SecureStartup.Proofs.Config.Loaded

/-!
  Which name a loaded configuration has.

  1. **Program** — three sources may give the cluster's name: the variable `CLUSTER_NAME`, the overrides
     and the file.  `load_config` combines them in two places: the overrides with the file's section when
     the one is laid over the other (`_deep_merge`), and the environment with what came of that when the
     fields are filled (`get_config_value`).

  2. **The order** — the second place asks the environment FIRST, and an empty value in it counts as none.
     So its name wins over the overrides': overrides come before the file, and the environment before
     both (`load_clusterName`).
-/

namespace SecureStartup.Config

/-! ## One setting -/

theorem written_eq_ok {v : Value} {s : String} (h : v.written = .ok s) : s = v.text := by
  unfold Value.written at h
  split at h
  · cases h
    rfl
  · exact nomatch h

/-- What the environment gives comes first. -/
theorem setting_of_env {h : Host} {name : String} (hset : (h.env? name).getD "" ≠ "")
    (written fallback : Value) : setting h name written fallback = .str ((h.env? name).getD "") := by
  unfold setting
  rcases henv : h.env? name with _ | s
  · rw [henv] at hset
    exact absurd rfl hset
  · rw [henv] at hset
    exact if_pos (bne_iff_ne.mpr hset)

/-- An empty value in the environment is none. -/
theorem setting_of_unset {h : Host} {name : String} (hunset : (h.env? name).getD "" = "")
    (written fallback : Value) : setting h name written fallback = written.orElse fallback := by
  unfold setting
  rcases henv : h.env? name with _ | s
  · rfl
  · rw [henv] at hunset
    have hempty : s = "" := hunset
    rw [hempty]
    rfl

/-! ## The name -/

/-- **Without a name in the environment**, a configuration that is valid has the name in its section. -/
theorem Fills.clusterName {h : Host} {sec : Entries} {c : AppConfig} (a : Fills h sec c)
    (hvalid : c.clusterName.truthy = true) (hunset : (h.env? "CLUSTER_NAME").getD "" = "") :
    c.clusterName = .str (sec.field "cluster_name").text := by
  obtain ⟨name, hname, hwritten⟩ := a.name
  rw [setting_of_unset hunset] at hwritten
  have htext := written_eq_ok hwritten
  rw [hname] at hvalid ⊢
  rw [htext] at hvalid ⊢
  unfold Value.orElse at hvalid ⊢
  split
  · rfl
  · -- the name would be the default one, which is empty
    rw [if_neg ‹_›] at hvalid
    exact nomatch hvalid

/-- **Where the name of a loaded configuration comes from**, for every file, environment and overrides
    (which have no key twice): from the environment, if that has one; else from the overrides, whatever
    the file says; else from the file, with references expanded. -/
theorem load_clusterName {given overrides : Value} {c : AppConfig} {h h' : Host}
    (hd : (overriding overrides).Distinct) (hc : (load given overrides).on h = (.ok c, h')) :
    ∃ (path : String) (sec : Entries), resolvePath given h = .ok path ∧
      documentAt (readingHost h path) path >>= sectionOf = .ok (.map sec) ∧
      let named := (h.env? "CLUSTER_NAME").getD ""
      let laid := (overriding overrides).get? (.str "cluster_name")
      (named ≠ "" → c.clusterName = .str named) ∧
      (named = "" → ∀ s, laid = some (.str s) → c.clusterName = .str s) ∧
      (named = "" → ∀ v, laid = some v →
        c.clusterName = .str (mergeValue v (sec.get? (.str "cluster_name"))).text) ∧
      (named = "" → laid = none → c.clusterName = .str (sec.field "cluster_name").text) := by
  obtain ⟨path, sec, a⟩ := load_origin hc
  obtain ⟨_, _, hvalid⟩ := a.valid
  have hgiven := (AppConfig.validated_of_ok hvalid).named
  -- What the merged section has under the name, if the overrides have something there.
  have hlaid : ∀ v, (overriding overrides).get? (.str "cluster_name") = some v →
      (merge sec (overriding overrides)).field "cluster_name" =
        mergeValue v (sec.get? (.str "cluster_name")) := by
    intro v hv
    unfold Entries.field
    rw [get?_merge_str hd, hv]
    rfl
  refine ⟨path, sec, a.file, a.written, ?_, ?_, ?_, ?_⟩
  -- the environment is asked before the section is looked at
  · intro hset
    obtain ⟨name, hname, hwritten⟩ := a.fills.name
    rw [setting_of_env hset] at hwritten
    rw [hname, written_eq_ok hwritten]
    rfl
  · intro hunset s hs
    rw [a.fills.clusterName hgiven hunset, hlaid _ hs, mergeValue_of_not_map rfl]
    rfl
  · intro hunset v hv
    rw [a.fills.clusterName hgiven hunset, hlaid v hv]
  · intro hunset hnone
    rw [a.fills.clusterName hgiven hunset]
    unfold Entries.field
    rw [get?_merge_str hd, hnone]

/-- A host with a configuration, and with another name for the cluster in the environment. -/
def namedHost : Host :=
  hostWith [("CLUSTER_NAME", "named")] "appmaster:\n  cluster_name: written\n"

/-- The name that is laid over the one in the file. -/
def givenName : Value := .map [(.str "cluster_name", .str "given")]

theorem namedHost_loads : ((load (.str "/c.yaml") givenName).on namedHost).1.isOk = true := by
  rw [namedHost, hostWith_load]
  decide +kernel

/-- **The environment's name wins** over the one that is laid over the file's. -/
theorem load_clusterName_named : (overriding givenName).Distinct ∧
    ∃ c h', (load (.str "/c.yaml") givenName).on namedHost = (.ok c, h') ∧
      c.clusterName = .str "named" := by
  have hd : (overriding givenName).Distinct := List.pairwise_singleton ..
  have hloads := namedHost_loads
  rcases hload : (load (.str "/c.yaml") givenName).on namedHost with ⟨f | c, h'⟩ <;>
    rw [hload] at hloads
  · exact nomatch hloads
  obtain ⟨_, _, _, _, hname, _⟩ := load_clusterName hd hload
  exact ⟨hd, c, h', rfl, hname (by decide)⟩

end SecureStartup.Config
