import SecureStartup.Config.Settings
import SecureStartup.Security.Keys

/-!
  What a validated configuration has.

  1. **Program** — `AppMasterConfig.validate` looks at one thing after another and answers nothing: the
     name, the source of the identity, the components, the shared store, the staging root.  The first
     rule that is broken ends it.

  2. **What it has found** — start-up relies on all of it.  `Validated` collects it, in the form in which
     later steps use it, and `validated_of_ok` reads it off a validation that succeeded, check by check.

  3. **One step further** — the components of a configuration make its instance definition, and what
     `validate` knows of them is what this needs: the settings of the application master are a mapping
     (`Validated.settings`).
-/

namespace SecureStartup

open SecureStartup.Config SecureStartup.Security

namespace AppConfig

/-- The settings of a shared store that is given: of one of the two kinds, with what it needs. -/
structure HasStore (c : AppConfig) (es : Entries) : Prop where
  settings : c.sharedStore = .map es
  kind : ((storeKind es).same (.str "local") = true ∧ (es.field "base_path").truthy = true) ∨
    ((storeKind es).same (.str "local") = false ∧ (storeKind es).same (.str "webhdfs") = true ∧
      (es.field "url").truthy = true)

/-- **What a validated configuration has.** -/
structure Validated (c : AppConfig) : Prop where
  named : c.clusterName.truthy = true
  components : ∃ es, c.components = .map es ∧ ∀ e ∈ es, e.2 = .none ∨ ∃ m, e.2 = .map m
  store : c.sharedStore.truthy = true → ∃ es, c.HasStore es
  root : c.stagingRoot = .none ∨ ∃ p, c.stagingRoot.asPath = .ok p

theorem Validated.clusterName_ne_none {c : AppConfig} (a : c.Validated) : c.clusterName ≠ .none := by
  intro hnone
  have hnamed := a.named
  rw [hnone] at hnamed
  exact nomatch hnamed

/-! ## Check by check -/

theorem refusedAs_ne_ok (v : Value) (why : Invalid) :
    (v.refusedAs why : Except Failure Unit) ≠ .ok () := by
  unfold Value.refusedAs
  split <;> exact nofun

theorem checkComponents_ok {es : List (Value × Value)} (h : checkComponents es = .ok ()) :
    ∀ e ∈ es, e.2 = .none ∨ ∃ m, e.2 = .map m := by
  induction es with
  | nil => exact fun e he => absurd he List.not_mem_nil
  | cons e es ih =>
    obtain ⟨name, settings⟩ := e
    unfold checkComponents at h
    intro e' he'
    split at h
    · rcases List.mem_cons.mp he' with rfl | he'
      · exact .inl rfl
      · exact ih h e' he'
    · rename_i m
      rcases List.mem_cons.mp he' with rfl | he'
      · exact .inr ⟨m, rfl⟩
      · exact ih h e' he'
    · exact absurd h (refusedAs_ne_ok _ _)

theorem entriesOf_ok {v : Value} {es : Entries} (h : entriesOf v = .ok es) : v = .map es := by
  cases v with
  | map es' => exact congrArg Value.map (Except.ok.inj h)
  | _ => exact nomatch h

theorem checkStore_ok {c : AppConfig} (h : checkStore c.sharedStore = .ok ())
    (ht : c.sharedStore.truthy = true) : ∃ es, c.HasStore es := by
  unfold checkStore at h
  rw [if_pos ht] at h
  rcases he : entriesOf c.sharedStore with f | es <;> rw [he] at h
  · exact nomatch h
  change (if (!(storeKind es).isOneOf storeKinds) = true then _ else _ : Except Failure Unit) = _ at h
  -- The rules in the order of the program; each is either broken, which ends the check, or kept.
  by_cases hnone : (!(storeKind es).isOneOf storeKinds) = true
  · rw [if_pos hnone] at h
    rcases hr : ((storeKind es).refusedAs (.storeTypeSetting (storeKind es)) : Except Failure Unit)
      with f | _ <;> rw [hr] at h
    · exact nomatch h
    · exact absurd hr (refusedAs_ne_ok _ _)
  rw [if_neg hnone] at h
  by_cases hbase : ((storeKind es).same (.str "local") && !(es.field "base_path").truthy) = true
  · rw [if_pos hbase] at h
    exact nomatch h
  rw [if_neg hbase] at h
  by_cases hurl : ((storeKind es).same (.str "webhdfs") && !(es.field "url").truthy) = true
  · simp only [if_pos hurl] at h
    exact nomatch h
  refine ⟨es, entriesOf_ok he, ?_⟩
  have hkind : (storeKind es).same (.str "local") = false →
      (storeKind es).same (.str "webhdfs") = true := by
    simpa [Value.isOneOf, storeKinds] using hnone
  cases hl : (storeKind es).same (.str "local") with
  | false =>
    have hw := hkind hl
    exact .inr ⟨rfl, hw, by simpa [hw] using hurl⟩
  | true => exact .inl ⟨rfl, by simpa [hl] using hbase⟩

theorem checkStagingRoot_ok {root : Value} {d : Disk} {cwd : Location}
    (h : checkStagingRoot root d cwd = .ok ()) : root = .none ∨ ∃ p, root.asPath = .ok p := by
  cases hp : root.asPath with
  | ok p => exact .inr ⟨p, rfl⟩
  | error f =>
    cases root with
    | none => exact .inl rfl
    | _ =>
      unfold checkStagingRoot at h
      simp only [hp] at h
      exact nomatch h

/-- **A validation that succeeds** has found all of it. -/
theorem validated_of_ok {c : AppConfig} {d : Disk} {cwd : Location} (h : c.validate d cwd = .ok ()) :
    c.Validated := by
  unfold validate at h
  by_cases hnone : (!c.clusterName.truthy) = true
  · rw [if_pos hnone] at h
    exact nomatch h
  have hname : c.clusterName.truthy = true := by simpa using hnone
  rw [if_neg hnone] at h
  change (if (!c.loginIdentity.isOneOf identitySources) = true then _ else _ : Except Failure Unit)
    = _ at h
  -- whether or not the source of the identity is known, what follows it has been checked
  have hrest : (do
      checkComponents (← entriesOf c.components)
      checkStore c.sharedStore
      checkStagingRoot c.stagingRoot d cwd : Except Failure Unit) = .ok () := by
    split at h
    · rcases hr : (c.loginIdentity.refusedAs (.identitySourceSetting c.loginIdentity) :
        Except Failure Unit) with f | _ <;> rw [hr] at h
      · exact nomatch h
      · exact h
    · exact h
  rcases hes : entriesOf c.components with f | es <;> rw [hes] at hrest
  · exact nomatch hrest
  change (checkComponents es >>= fun _ => checkStore c.sharedStore >>= fun _ =>
    checkStagingRoot c.stagingRoot d cwd) = _ at hrest
  rcases hcomp : checkComponents es with f | _ <;> rw [hcomp] at hrest
  · exact nomatch hrest
  change (checkStore c.sharedStore >>= fun _ => checkStagingRoot c.stagingRoot d cwd) = _ at hrest
  rcases hstore : checkStore c.sharedStore with f | _ <;> rw [hstore] at hrest
  · exact nomatch hrest
  exact {
    named := hname
    components := ⟨es, entriesOf_ok hes, checkComponents_ok hcomp⟩
    store := checkStore_ok hstore
    root := checkStagingRoot_ok hrest }

/-! ## The settings of the application master -/

theorem toEntriesOrEmpty_map (m : Entries) : toEntriesOrEmpty (.map m) = .ok m := by
  unfold toEntriesOrEmpty
  split
  · rfl
  · rename_i hm
    rcases m with _ | ⟨e, m⟩
    · rfl
    · exact absurd rfl hm

/-- Components that have settings or nothing make an instance definition of mappings. -/
theorem mapM_components {es : List (Value × Value)}
    (h : ∀ e ∈ es, e.2 = .none ∨ ∃ m, e.2 = .map m) :
    ∃ i : Entries, (es.mapM fun e => do return (e.1, Value.map (← toEntriesOrEmpty e.2))) = .ok i ∧
      ∀ e ∈ i, ∃ m, e.2 = Value.map m := by
  induction es with
  | nil => exact ⟨[], rfl, fun e he => absurd he List.not_mem_nil⟩
  | cons e es ih =>
    obtain ⟨i, hi, hmaps⟩ := ih fun e he => h e (List.mem_cons_of_mem _ he)
    obtain ⟨m, hm⟩ : ∃ m, toEntriesOrEmpty e.2 = .ok m := by
      rcases h e (List.mem_cons_self ..) with he | ⟨m, he⟩
      · exact ⟨[], by rw [he]; rfl⟩
      · exact ⟨m, by rw [he, toEntriesOrEmpty_map]⟩
    refine ⟨(e.1, .map m) :: i, ?_, ?_⟩
    · rw [List.mapM_cons, hm, hi]
      rfl
    · intro e' he'
      rcases List.mem_cons.mp he' with rfl | he'
      · exact ⟨m, rfl⟩
      · exact hmaps e' he'

/-- What is found under a key is the value of a pair. -/
theorem get?_mem {es : Entries} {k v : Value} (h : es.get? k = some v) : ∃ e ∈ es, e.2 = v := by
  unfold Entries.get? at h
  obtain ⟨e, he, rfl⟩ := Option.map_eq_some_iff.mp h
  exact ⟨e, List.mem_of_find?_eq_some he, rfl⟩

/-- **The settings of the application master** are a mapping. -/
theorem Validated.settings {c : AppConfig} (a : c.Validated) : ∃ components settings,
    c.instanceDefinition = .ok components ∧
      components.component masterComponent = .map settings := by
  obtain ⟨es, hes, hshape⟩ := a.components
  obtain ⟨i, hi, hmaps⟩ := mapM_components hshape
  have hdef : c.instanceDefinition = .ok i := by
    unfold instanceDefinition
    rw [hes]
    exact hi
  have hfield : Entries.field i masterComponent = .none ∨
      ∃ m, Entries.field i masterComponent = .map m := by
    unfold Entries.field
    rcases hget : Entries.get? i (.str masterComponent) with _ | v
    · exact .inl rfl
    · obtain ⟨e, he, rfl⟩ := get?_mem hget
      exact .inr (hmaps e he)
  have hmap : ∃ settings, InstanceDefinition.component i masterComponent = .map settings := by
    unfold InstanceDefinition.component Value.orElse
    rcases hfield with hnone | ⟨m, hm⟩
    · exact ⟨[], by rw [hnone]; rfl⟩
    · rw [hm]
      split
      · exact ⟨m, rfl⟩
      · exact ⟨[], rfl⟩
  obtain ⟨settings, hsettings⟩ := hmap
  exact ⟨i, settings, hdef, hsettings⟩

end AppConfig

end SecureStartup
