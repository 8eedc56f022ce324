import SecureStartup.Proofs.Identity.Components
import SecureStartup.Proofs.Security.Session

/-!
  Whether the principal is ever empty.

  1. **Program** — `PrincipalResolver.get_principal`: a principal that is set is the answer by its text,
     and without one the answer is the short name of the login identity.

  2. **What is not looked at** — neither is looked at when a set-up is made: a setting counts as set
     whatever its text is, and an identity counts as found whatever its user name is.  So a set-up that
     was made can answer with nothing, and `Blank` lists the two ways (`Setup.principal_blank`):

     * the setting is a value that is not nothing but has an empty text, which only an opaque value has
       (`Value.text_eq_empty`);
     * the user name of the identity begins with a mark, so that no short name stands before it
       (`LoginIdentity.shortName_eq_empty`).

  3. **A host where it is** — the second one needs no odd setting: the operating system's user and the
     lister of the credential cache give any name that is not empty (`lookUp_userName`).
-/

namespace SecureStartup

open SecureStartup.Text

/-! ## Values with an empty text -/

theorem Text.append_ne_empty {s : String} (hs : s ≠ "") (t : String) : s ++ t ≠ "" :=
  fun h => hs (String.append_eq_empty_iff.mp h).1

theorem Text.repr_ne_empty (i : Int) : i.repr ≠ "" := by
  rw [Int.repr_eq_if]
  split
  · exact Nat.repr_ne_empty
  · exact Text.append_ne_empty (by decide) _

theorem Binary64.Decimal.text_ne_nil (d : Binary64.Decimal) : d.text ≠ [] := by
  unfold text
  extract_lets ds n point e es head
  split
  · split
    · exact List.cons_ne_nil _ _
    · split
      · exact List.append_ne_nil_of_right_ne_nil _ (List.cons_ne_nil _ _)
      · exact List.append_ne_nil_of_right_ne_nil _ (List.cons_ne_nil _ _)
  · simp

theorem Binary64.text_ne_empty (x : Binary64) : x.text ≠ "" := by
  unfold text textWith
  cases x with
  | nan => decide
  | infinite negative => cases negative <;> decide
  | finite negative m e =>
    cases negative with
    | true => simp
    | false =>
      simp only [Bool.false_eq_true, if_false]
      split
      · decide
      · simp [Decimal.text_ne_nil]

namespace Value

/-- What holds other values is written in brackets. -/
theorem shown_ne_empty (xs : List Value) (es : List (Value × Value)) :
    (list xs).shown ≠ "" ∧ (tuple xs).shown ≠ "" ∧ (set xs).shown ≠ "" ∧
      (frozenset xs).shown ≠ "" ∧ (map es).shown ≠ "" := by
  have hbracket : ∀ {b : String} (s t : String), b ≠ "" → b ++ s ++ t ≠ "" := by
    intro b s t hb
    exact Text.append_ne_empty (Text.append_ne_empty hb s) t
  simp only [shown]
  refine ⟨hbracket _ _ (by decide), ?_, ?_, ?_, hbracket _ _ (by decide)⟩
  · split <;> exact hbracket _ _ (by decide)
  · split
    · decide
    · exact hbracket _ _ (by decide)
  · split
    · decide
    · exact hbracket _ _ (by decide)

/-- **Values with an empty text**: the empty text itself, and what stands for an unknown text.  (No path
    is written that way; the empty one is a dot.) -/
theorem text_eq_empty {v : Value} (h : v.text = "") :
    v = .str "" ∨ v = .path "" ∨ v = .object "" := by
  cases v with
  | str s => exact .inl (congrArg str h)
  | path p => exact .inr (.inl (congrArg path h))
  | object t => exact .inr (.inr (congrArg object h))
  | none => exact absurd h (by decide)
  | bool b => cases b <;> exact absurd h (by decide)
  | int i => exact absurd h (Text.repr_ne_empty i)
  | float x => exact absurd h x.text_ne_empty
  | category c => cases c <;> exact absurd h (by decide)
  | bytes bs =>
    have hquoted : quotedBytes bs = "" := h
    simp [quotedBytes] at hquoted
  | date d =>
    have hiso : String.ofList d.iso = "" := h
    simp [Date.iso] at hiso
  | datetime t =>
    have hiso : t.textWith ' ' = "" := h
    simp [DateTime.textWith] at hiso
  | list xs => exact absurd h (shown_ne_empty xs []).1
  | tuple xs => exact absurd h (shown_ne_empty xs []).2.1
  | set xs => exact absurd h (shown_ne_empty xs []).2.2.1
  | frozenset xs => exact absurd h (shown_ne_empty xs []).2.2.2.1
  | map es => exact absurd h (shown_ne_empty [] es).2.2.2.2

end Value

/-! ## Identities without a short name -/

namespace LoginIdentity

/-- **An identity without a short name**: nothing stands before the first mark of its user name. -/
def IsNameless (i : LoginIdentity) : Prop :=
  ∀ c ∈ i.userName.toList.head?, isPrincipalMark c = true

theorem shortName_eq_empty (i : LoginIdentity) : i.shortName = "" ↔ i.IsNameless := by
  rw [shortName_eq]
  unfold IsNameless
  rcases i.userName.toList with _ | ⟨c, r⟩
  · exact ⟨fun _ => nofun, fun _ => rfl⟩
  · simp [List.takeWhile_cons]

end LoginIdentity

/-! ## What lookups give -/

theorem labelledWord?_ne_nil {s w : List Char} (h : labelledWord? s = some w) : w ≠ [] := by
  unfold labelledWord? at h
  extract_lets s' word gap ends at h
  split at h
  · exact nomatch h
  · rename_i hno
    rw [← Option.some.inj h]
    intro hnil
    rw [hnil] at hno
    exact hno rfl

/-- The principal that a lister prints is a word. -/
theorem defaultPrincipal?_ne_nil {fresh : Bool} {s w : List Char}
    (h : defaultPrincipal? fresh s = some w) : w ≠ [] := by
  induction s generalizing fresh with
  | nil => exact nomatch h
  | cons c r ih =>
    unfold defaultPrincipal? at h
    simp only at h
    split at h
    · rename_i word hhere
      split at hhere
      · obtain ⟨rest, _, hrest⟩ := Option.bind_eq_some_iff.mp hhere
        rw [← Option.some.inj h]
        exact labelledWord?_ne_nil hrest
      · exact nomatch hhere
    · exact ih h

/-- **A user name that is looked up on the host is never empty.** -/
theorem lookUp_userName {provider : IdentityProvider} (hp : provider ≠ .prepared) {h h' : Host}
    {i : LoginIdentity} (hi : provider.lookUp.on h = (.ok (some i), h')) : i.userName ≠ "" := by
  cases provider with
  | prepared => exact absurd rfl hp
  | process =>
    unfold IdentityProvider.lookUp at hi
    rw [Act.on_bind_ok (Act.on_get h)] at hi
    obtain ⟨user, _, hi⟩ := Act.on_ofExcept_bind_eq_ok hi
    have hsome : (if user == "" then none else some ⟨user⟩) = some i :=
      Except.ok.inj (congrArg Prod.fst hi)
    split at hsome
    · exact nomatch hsome
    · rename_i hne
      rw [← Option.some.inj hsome]
      exact fun h => hne (beq_iff_eq.mpr h)
  | ticketCache lister cache =>
    unfold IdentityProvider.lookUp cachedIdentity at hi
    obtain ⟨_, _, _, hi⟩ := Act.on_bind_eq_ok hi
    obtain ⟨_, g, _, hi⟩ := Act.on_bind_eq_ok hi
    rw [Act.on_bind_ok (Act.on_get g)] at hi
    obtain ⟨r, _, hi⟩ := Act.on_ofExcept_bind_eq_ok hi
    split at hi
    · obtain ⟨_, _, _, hi⟩ := Act.on_bind_eq_ok hi
      exact nomatch hi
    · have hsome : ((defaultPrincipal? true r.out.toList).map fun w => LoginIdentity.mk (.ofList w)) =
          some i := Except.ok.inj (congrArg Prod.fst hi)
      obtain ⟨w, hw, rfl⟩ := Option.map_eq_some_iff.mp hsome
      intro hempty
      have hlist : w = "".toList := by rw [← hempty, String.toList_ofList]
      exact defaultPrincipal?_ne_nil hw hlist

namespace Security

open SecureStartup.Config

/-! ## The principal -/

/-- **How a principal comes to be empty**, by the setting and by what a lookup finds. -/
inductive Blank (configured : Value) (found : Except Failure (Option LoginIdentity)) : Prop where
  /-- What is set has an empty text. -/
  | setting (h : configured = .object "" ∨ configured = .path "")
  /-- Nothing is set, and who stands in has no short name. -/
  | identity {i : LoginIdentity} (hunset : isSet configured = false) (hfound : found = .ok (some i))
      (h : i.IsNameless)

/-- The principal is what the question for it is answered with. -/
theorem answer_principal {s : Setup} {h h' : Host} {p : String} (hp : s.principal.on h = (.ok p, h')) :
    ((s.answer .principal).on h).1 = .ok (.text p) := by
  show ((s.principal >>= fun p => pure (Answer.text p)).on h).1 = _
  rw [Act.on_bind_pure, hp]
  rfl

/-- **A principal is empty exactly when it is blank**: by its setting when one is set, and else by the
    identity that stands in. -/
theorem principal_eq_empty_iff (s : Setup) (m : Mappings) {h h' : Host} {p : String}
    (hp : (s.over m).principal.on h = (.ok p, h')) :
    p = "" ↔ Blank (m.master.field principalKey) (s.provider.lookUp.on h).1 := by
  have hanswer := answer_principal hp
  -- Either the setting is the answer, by its text, or an identity was found.
  by_cases hset : isSet (m.master.field principalKey) = true
  · rw [answer_configured s m h hset, written_eq] at hanswer
    have htext : p = (m.master.field principalKey).text := by
      split at hanswer
      · cases hanswer
        rfl
      · exact nomatch hanswer
    rw [htext]
    constructor
    · intro hempty
      rcases Value.text_eq_empty hempty with hs | hpath | hobject
      · rw [hs] at hset
        exact absurd hset (by decide)
      · exact .setting (.inr hpath)
      · exact .setting (.inl hobject)
    · intro hblank
      cases hblank with
      | setting hv => rcases hv with hv | hv <;> rw [hv] <;> rfl
      | identity hunset => exact absurd hset (Bool.eq_false_iff.mp hunset)
  · have hunset := Bool.eq_false_iff.mpr hset
    rw [answer_lookedUp s m h hunset] at hanswer
    rcases hfound : (s.provider.lookUp.on h).1 with f | _ | i <;> rw [hfound] at hanswer
    · exact nomatch hanswer
    · exact nomatch hanswer
    · cases hanswer
      rw [i.shortName_eq_empty]
      constructor
      · exact .identity hunset rfl
      · intro hblank
        cases hblank with
        | setting hv => rcases hv with hv | hv <;> rw [hv] at hunset <;> exact nomatch hunset
        | identity _ hfound' hi =>
          cases hfound'
          exact hi

/-- **When the principal of a set-up is empty.**  With security on, a set-up that was made answers with
    an empty principal, over its mappings as they have become, exactly when what is set has an empty
    text, or nothing is set and the identity has no short name.  That it was made does not speak against
    the identity: any identity that is found will do.  One that is found on the host has a user name,
    so it is a mark in front that leaves it without a short name. -/
theorem Setup.principal_blank {m₀ : Mappings} {name : Value} {provider : IdentityProvider}
    {stager : KeytabStager} {h₀ h₁ : Host} {s : Setup}
    (hmade : (Setup.make (.map m₀.cluster) (some m₀.components) name provider stager).on h₀ =
      (.ok s, h₁))
    (hon : isSecure (.map m₀.cluster) = .ok true) :
    (∀ m h p h', (s.over m).principal.on h = (.ok p, h') →
      (p = "" ↔ Blank (m.master.field principalKey) (provider.lookUp.on h).1)) ∧
    (∀ h i, (provider.lookUp.on h).1 = .ok (some i) → ∃ s',
      ((Setup.make (.map m₀.cluster) (some m₀.components) name provider stager).on h).1 = .ok s') ∧
    (provider ≠ .prepared → ∀ h i, (provider.lookUp.on h).1 = .ok (some i) → i.IsNameless →
      ∃ c r, i.userName.toList = c :: r ∧ isPrincipalMark c = true) := by
  obtain ⟨hn, rfl⟩ := eq_of_make hmade
  refine ⟨fun m h p h' hp => principal_eq_empty_iff _ m hp, fun h i hi => ?_, fun hp h i hi hno => ?_⟩
  · -- the keytab settings were found in order, and the identity is all that is looked up again
    have haccepted := (Setup.make_decided m₀.cluster m₀.isMaster hn provider stager h₀).accepts.mp
      ⟨_, congrArg Prod.fst hmade⟩
    rcases haccepted with hoff | ⟨_, hone, hwritten⟩
    · rw [hon] at hoff
      exact nomatch hoff
    · exact (Setup.make_decided m₀.cluster m₀.isMaster hn provider stager h).accepts.mpr
        (.inr ⟨.inr ⟨i, hi⟩, hone, hwritten⟩)
  · have huser : i.userName ≠ "" := lookUp_userName hp (Prod.ext hi rfl)
    rcases hlist : i.userName.toList with _ | ⟨c, r⟩
    · exact absurd (String.toList_eq_nil_iff.mp hlist) huser
    · exact ⟨c, r, rfl, hno c (by rw [hlist]; rfl)⟩

/-- Mappings of a secure cluster with a keytab on the host and no principal. -/
def noPrincipal : Mappings :=
  .ofMaster [(.str authenticationKey, .str "kerberos")] [(.str localKeytabKey, .str "/k")]

/-- A host whose user has a mark in front of its name. -/
def markedHost : Host := { env := [("LOGNAME", "/svc@REALM")] }

/-- A set-up can be made for that user. -/
theorem markedHost_made :
    ∃ s h₁, (Setup.make (.map noPrincipal.cluster) (some noPrincipal.components) (.str "c") .process
      ⟨.ofString "/tmp"⟩).on markedHost = (.ok s, h₁) := by
  have hmakes : ((Setup.make (.map noPrincipal.cluster) (some noPrincipal.components) (.str "c")
      .process ⟨.ofString "/tmp"⟩).on markedHost).1.isOk = true := by
    decide +kernel
  rcases hmade : (Setup.make (.map noPrincipal.cluster) (some noPrincipal.components) (.str "c")
    .process ⟨.ofString "/tmp"⟩).on markedHost with ⟨f | s, h₁⟩ <;> rw [hmade] at hmakes
  · exact nomatch hmakes
  · exact ⟨s, h₁, rfl⟩

/-- The set-up that is made for that user answers with an empty principal. -/
theorem principal_blank_marked :
    ∃ s h₁ h₂, (Setup.make (.map noPrincipal.cluster) (some noPrincipal.components) (.str "c") .process
        ⟨.ofString "/tmp"⟩).on markedHost = (.ok s, h₁) ∧
      isSecure (.map noPrincipal.cluster) = .ok true ∧
      (s.over noPrincipal).principal.on markedHost = (.ok "", h₂) := by
  have hon : isSecure (.map noPrincipal.cluster) = .ok true := by
    rw [isSecure_map, show isOn noPrincipal.cluster = true by decide +kernel]
  obtain ⟨s, h₁, hmade⟩ := markedHost_made
  obtain ⟨hblank, _, _⟩ := Setup.principal_blank hmade hon
  have hfound : (IdentityProvider.process.lookUp.on markedHost).1 = .ok (some ⟨"/svc@REALM"⟩) := rfl
  have hno : LoginIdentity.IsNameless ⟨"/svc@REALM"⟩ := by
    rintro c ⟨⟩
    rfl
  have hanswers : ((s.over noPrincipal).principal.on markedHost).1.isOk = true := by
    obtain ⟨_, rfl⟩ := eq_of_make hmade
    decide +kernel
  rcases hp : (s.over noPrincipal).principal.on markedHost with ⟨f | p, h₂⟩ <;> rw [hp] at hanswers
  · exact nomatch hanswers
  · have hempty : p = "" := (hblank _ _ _ _ hp).mpr (.identity (by decide +kernel) hfound hno)
    rw [hempty] at hp
    exact ⟨s, h₁, h₂, hmade, hon, hp⟩

end Security

end SecureStartup
