import SecureStartup.Proofs.Host.Twins
import SecureStartup.Proofs.Security.Construction

/-!
  A set-up on two hosts that differ in the bytes of some files.

  Program: `ConfigValidator.validate`, `PrincipalResolver.get_principal` and the identity providers.  They
  ask who runs the program, whether a keytab is there, and what a lister prints, and they log.

  A set-up never opens a file.  So every question to it is answered alike on hosts that stand in a steady
  relation, and the relation is kept.  There is one lemma for each action, in the order in which they call
  each other; the last two are validating a set-up and making one (`Setup.keeps_validate`,
  `Setup.keeps_make`).
-/

namespace SecureStartup

open SecureStartup.Act SecureStartup.Security

variable {rel : Host → Host → Prop}

/-! ## The login identity -/

theorem keeps_listCommand (s : Steady rel) (lister : String) (cache : Value) :
    Keeps rel (listCommand lister cache) (listCommand lister cache) := by
  unfold listCommand
  refine (s.note _).then fun _ => alike_get_bind fun h h' hrel => ?_
  have hlister : h'.lister = h.lister := by rw [s.rest hrel]
  rw [hlister]
  split
  · exact keeps_throw _
  · exact keeps_pure _

theorem keeps_cachedIdentity (s : Steady rel) (lister : String) (cache : Value) :
    Keeps rel (cachedIdentity lister cache) (cachedIdentity lister cache) := by
  unfold cachedIdentity
  refine (keeps_listCommand s lister cache).then fun argv => ?_
  refine (s.note _).then fun _ => alike_get_bind fun h h' hrel => ?_
  have hlister : h'.lister = h.lister := by rw [s.rest hrel]
  rw [hlister]
  refine (keeps_ofExcept _).then fun r => ?_
  split
  · exact (s.log _ _ _ _).then fun _ => keeps_pure _
  · exact keeps_pure _

/-- **An identity is looked up** alike, whichever way. -/
theorem keeps_lookUp (s : Steady rel) (provider : IdentityProvider) :
    Keeps rel provider.lookUp provider.lookUp := by
  cases provider with
  | process =>
    unfold IdentityProvider.lookUp
    refine alike_get_bind fun h h' hrel => ?_
    have huser : loginUser h' = loginUser h := by
      rw [s.rest hrel]
      rfl
    rw [huser]
    exact (keeps_ofExcept _).then fun user => keeps_pure _
  | ticketCache lister cache => exact keeps_cachedIdentity s lister cache
  | prepared =>
    intro h h' hrel
    have hanswers : h'.answers = h.answers := by rw [s.rest hrel]
    have hasked : rel { h.note .lookUp with answers := (Host.takeNext h.answers).2 }
        { h'.note .lookUp with answers := (Host.takeNext h.answers).2 } := by
      have hset := s.asked (.lookUp :: h.trace) (Host.takeNext h.answers).2 h.makeDirFaults
        h.setModeFaults h.tempDir hrel
      rw [s.rest hrel] at hset ⊢
      exact hset
    rw [lookUp_prepared_on, lookUp_prepared_on, hanswers]
    rcases preparedAnswer (Host.takeNext h.answers).1 with f | found
    · exact .inl ⟨f, _, _, rfl, rfl, hasked⟩
    · exact .inr ⟨found, found, _, _, rfl, rfl, rfl, hasked⟩

namespace Security

/-! ## The set-up -/

theorem keeps_checkPrincipal (s : Steady rel) (provider : IdentityProvider) (settings : Value) :
    Keeps rel (checkPrincipal provider settings) (checkPrincipal provider settings) := by
  unfold checkPrincipal
  refine (keeps_ofExcept _).then fun configured => ?_
  split
  · refine ((keeps_lookUp s provider).tryCatch fun f => ?_).then fun found => ?_
    · split
      · exact keeps_throw _
      · exact keeps_throw _
    · split
      · exact keeps_throw _
      · exact keeps_pure _
  · exact keeps_pure _

theorem keeps_principalOf (s : Steady rel) (provider : IdentityProvider) (settings : Value) :
    Keeps rel (principalOf provider settings) (principalOf provider settings) := by
  unfold principalOf
  refine (keeps_ofExcept _).then fun configured => ?_
  split
  · exact keeps_ofExcept _
  · refine (keeps_lookUp s provider).then fun found => ?_
    split
    · exact keeps_throw _
    · exact (s.log _ _ _ _).then fun _ => keeps_pure _

theorem Setup.keeps_validate (s : Steady rel) (setup : Setup) :
    Keeps rel setup.validate setup.validate := by
  unfold validate
  refine (keeps_ofExcept _).then fun enabled => ?_
  split
  · refine (keeps_checkPrincipal s _ _).then fun _ => ?_
    exact (keeps_ofExcept _).then fun source => s.log _ _ _ _
  · exact s.log _ _ _ _

/-- Making a set-up is looking it through, if its parts are there. -/
theorem Setup.make_cases (cluster : Value) (components : Option InstanceDefinition)
    (clusterName : Value) (provider : IdentityProvider) (stager : KeytabStager) :
    (∃ f, make cluster components clusterName provider stager = throw f) ∨
      ∃ s : Setup, s.stager = stager ∧
        make cluster components clusterName provider stager = s.validate >>= fun _ => pure s := by
  rcases components with _ | components
  · cases cluster <;> exact .inl ⟨_, rfl⟩
  · cases cluster with
    | none => exact .inl ⟨_, rfl⟩
    | _ =>
      cases clusterName with
      | none => exact .inl ⟨_, rfl⟩
      | _ => exact .inr ⟨⟨_, components, _, provider, stager⟩, rfl, rfl⟩

/-- **A set-up is made**, or refused, alike. -/
theorem Setup.keeps_make (s : Steady rel) (cluster : Value)
    (components : Option InstanceDefinition) (clusterName : Value) (provider : IdentityProvider)
    (stager : KeytabStager) :
    Keeps rel (make cluster components clusterName provider stager)
      (make cluster components clusterName provider stager) := by
  rcases make_cases cluster components clusterName provider stager with ⟨f, hf⟩ | ⟨setup, _, hm⟩
  · rw [hf]
    exact keeps_throw f
  · rw [hm]
    exact (keeps_validate s setup).then fun _ => keeps_pure setup

/-- The stager of a set-up is the one that it was given. -/
theorem Setup.make_stager {cluster : Value} {components : Option InstanceDefinition}
    {clusterName : Value} {provider : IdentityProvider} {stager : KeytabStager} {s : Setup}
    {h g : Host} (hs : (make cluster components clusterName provider stager).on h = (.ok s, g)) :
    s.stager = stager := by
  rcases make_cases cluster components clusterName provider stager with ⟨f, hf⟩ | ⟨setup, hst, hm⟩
  · rw [hf] at hs
    exact nomatch hs
  · rw [hm] at hs
    obtain ⟨_, _, _, hk⟩ := Act.on_bind_eq_ok hs
    cases hk
    exact hst

end Security

end SecureStartup
