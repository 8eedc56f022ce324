import SecureStartup.Config.Merge
import SecureStartup.Proofs.Config.Expansion
import SecureStartup.Proofs.Value.Nested
import SecureStartup.Proofs.Value.Parts

/-!
  Expanded documents, place by place.

  Program: `_expand_env_vars` goes through a document and replaces the references in its texts; it goes
  into mappings and lists, and gives back everything else as it is.  The keys of mappings are not looked
  at.

  A path of keys and indices leads from a document through mappings and lists to a value in it
  (`follow?`).  `expandValue` keeps every path and changes nothing but the texts that paths end at:

  1. **It commutes with looking.**  What an expanded document holds at a path is the expansion of what
     the document holds there (`follow?_expandValue`), one step of a path at a time; so mappings keep
     their keys and lists their lengths.

  2. **Only names that are mentioned count.**  A document MENTIONS the references of the cuts of its
     texts, and two environments that agree on these give one result (`expandValue_congr`).

  3. **A document is refused as a whole**, when it mentions a reference that no environment can be asked
     for (`trouble?_eq_none_iff`).  This is why looking first may succeed where expanding first does not
     (`expandDocument_refuses_beside`).

  `expandDocument_places` puts the three together.
-/

namespace SecureStartup

/-! ## Paths of keys and indices -/

namespace Value

/-- **What a value holds** under a key, if it is a mapping, or at an index, if it is a list; negative
    indices count from the end. -/
def held? : Value → Value → Option Value
  | map es, k => Entries.get? es k
  | list xs, k => k.asInt?.bind fun i => (Config.indexIn? xs.length i).bind fun n => xs[n]?
  | _, _ => Option.none

/-- **What a value holds at a path of keys and indices**; the empty path leads to the value itself. -/
def follow? : List Value → Value → Option Value
  | [], v => some v
  | k :: p, v => (v.held? k).bind (follow? p)

/-- Values that nothing in a document is done to: neither texts, nor lists, nor mappings. -/
def isLeaf : Value → Bool
  | str _ | list _ | map _ => false
  | _ => true

/-- What is held is part of what holds it. -/
theorem mem_parts_of_held? {v w k : Value} (h : v.held? k = some w) : w ∈ v.parts := by
  cases v with
  | map es =>
    obtain ⟨k', hmem, -⟩ := Entries.mem_of_get? h
    exact List.mem_map_of_mem hmem
  | list xs =>
    obtain ⟨i, -, h⟩ := Option.bind_eq_some_iff.mp h
    obtain ⟨n, -, h⟩ := Option.bind_eq_some_iff.mp h
    exact List.mem_of_getElem? h
  | _ => exact nomatch h

end Value

namespace Config

/-! ## Expansion commutes with looking -/

section

variable (env : String → Option String)

theorem expandItems_eq_map (xs : List Value) : expandItems env xs = xs.map (expandValue env) := by
  induction xs with
  | nil => rfl
  | cons x xs ih => rw [expandItems, ih, List.map_cons]

theorem expandEntries_eq_map (es : Entries) :
    expandEntries env es = es.map fun e => (e.1, expandValue env e.2) := by
  induction es with
  | nil => rfl
  | cons e es ih => rw [expandEntries, ih, List.map_cons]

theorem expandValue_of_isLeaf {v : Value} (h : v.isLeaf = true) : expandValue env v = v := by
  cases v with
  | str | list | map => exact nomatch h
  | _ => rw [expandValue] <;> exact nofun

theorem get?_expandEntries (es : Entries) (k : Value) :
    Entries.get? (expandEntries env es) k = (Entries.get? es k).map (expandValue env) := by
  induction es with
  | nil => rfl
  | cons e es ih =>
    obtain ⟨k', v⟩ := e
    rw [expandEntries, Entries.get?_cons, Entries.get?_cons, ih]
    cases k'.same k <;> rfl

/-- One step of a path. -/
theorem held?_expandValue (k v : Value) :
    (expandValue env v).held? k = (v.held? k).map (expandValue env) := by
  cases v with
  | map es =>
    rw [expandValue]
    exact get?_expandEntries env es k
  | list xs =>
    rw [expandValue, expandItems_eq_map]
    unfold Value.held?
    simp only [List.length_map, Option.map_bind]
    refine Option.bind_congr fun i _ => ?_
    rw [Function.comp_apply, Option.map_bind]
    refine Option.bind_congr fun n _ => ?_
    exact List.getElem?_map
  | str s =>
    rw [expandValue]
    rfl
  | _ =>
    rw [expandValue_of_isLeaf env rfl]
    rfl

/-- **An expanded document holds at a path** what the document holds there, expanded.  By induction on
    the path. -/
theorem follow?_expandValue (p : List Value) (v : Value) :
    (expandValue env v).follow? p = (v.follow? p).map (expandValue env) := by
  induction p generalizing v with
  | nil => rfl
  | cons k p ih =>
    rw [Value.follow?, Value.follow?, held?_expandValue, Option.map_bind, Option.bind_map]
    exact Option.bind_congr fun w _ => ih w

/-- An expanded document holds what the document does, expanded. -/
theorem at?_expandValue (p : List Value) (v : Value) :
    (expandValue env v).at? p = (v.at? p).map (expandValue env) := by
  induction p generalizing v with
  | nil => rfl
  | cons k p ih =>
    cases v with
    | map es =>
      rw [expandValue, Value.at?_map_cons, Value.at?_map_cons, get?_expandEntries]
      rcases Entries.get? es k with _ | w
      · rfl
      · exact ih w
    | _ =>
      rw [expandValue]
      · rfl
      all_goals exact nofun

end

theorem mem_expandEntries {env : String → Option String} {es : Entries} {k v : Value}
    (h : (k, v) ∈ es) : (k, expandValue env v) ∈ expandEntries env es := by
  rw [expandEntries_eq_map]
  exact List.mem_map.mpr ⟨_, h, rfl⟩

theorem expandDocument_eq_ok {env : String → Option String} {doc expanded : Value}
    (h : expandDocument env doc = .ok expanded) : expanded = expandValue env doc := by
  unfold expandDocument at h
  split at h
  · exact nomatch h
  · exact (Except.ok.inj h).symm

theorem expandValue_eq_map {env : String → Option String} {v : Value} {fs : Entries}
    (h : expandValue env v = .map fs) : ∃ es, v = .map es ∧ fs = expandEntries env es := by
  cases v with
  | map es =>
    rw [expandValue, Value.map.injEq] at h
    exact ⟨es, rfl, h.symm⟩
  | _ =>
    rw [expandValue] at h
    · exact nomatch h
    all_goals exact nofun

/-- Expanding a document leaves its keys as they are, however deep. -/
theorem nested_expandEntries {S : Value → Prop} {R : Value → Value → Prop} {es : Entries}
    (env : String → Option String) (hes : Nested S R es) : Nested S R (expandEntries env es) := by
  induction hes with
  | intro hkeyed hapart _ ih =>
    rw [expandEntries_eq_map]
    refine .intro ?_ (List.pairwise_map.mpr hapart) ?_
    · exact List.forall_mem_map.mpr hkeyed
    · refine List.forall_mem_map.mpr fun e he fs hfs => ?_
      obtain ⟨es, hes, rfl⟩ := expandValue_eq_map hfs
      exact ih e he es hes

/-! ## What a document mentions -/

/-- **A document mentions a reference**, when one of the texts in it is cut there. -/
inductive Mentions : Value → Reference → Prop
  | text {s : String} {c : Cut} {l : List Char} {r : Reference} (hc : IsCut s.toList c)
      (h : (l, r) ∈ c.parts) : Mentions (.str s) r
  | item {xs : List Value} {x : Value} {r : Reference} (hx : x ∈ xs) (h : Mentions x r) :
      Mentions (.list xs) r
  | value {es : Entries} {e : Value × Value} {r : Reference} (he : e ∈ es) (h : Mentions e.2 r) :
      Mentions (.map es) r

/-- What a text mentions. -/
theorem mentions_str {s : String} {r : Reference} :
    Mentions (.str s) r ↔ ∃ l, (l, r) ∈ (Cut.ofPieces (pieces s.toList)).parts := by
  constructor
  · rintro ⟨hc, h⟩
    obtain rfl := hc.unique (isCut_ofPieces _)
    exact ⟨_, h⟩
  · rintro ⟨l, h⟩
    exact .text (isCut_ofPieces _) h

/-- A text that is one reference is cut there and nowhere else. -/
theorem isCut_text {r : Reference} (hr : r.WellFormed) : IsCut r.text ⟨[([], r)], []⟩ := by
  have hend : ∀ n, ¬ StartsReference (([] : List Char).drop n) := by
    intro n
    rw [List.drop_nil]
    exact not_startsReference_nil
  have htext : r.text = [] ++ (r.text ++ []) := by rw [List.nil_append, List.append_nil]
  rw [htext]
  exact .reference (l := []) hr (fun n hn => absurd hn (Nat.not_lt_zero n)) (.last hend)

/-- A text that is one reference mentions that one. -/
theorem mentions_text {r r' : Reference} (hr : r.WellFormed) :
    Mentions (.str (String.ofList r.text)) r' ↔ r' = r := by
  have hcut : Cut.ofPieces (pieces (String.ofList r.text).toList) = ⟨[([], r)], []⟩ := by
    rw [String.toList_ofList]
    exact (isCut_ofPieces _).unique (isCut_text hr)
  rw [mentions_str, hcut]
  constructor
  · rintro ⟨l, h⟩
    exact congrArg Prod.snd (List.mem_singleton.mp h)
  · rintro rfl
    exact ⟨[], List.mem_singleton.mpr rfl⟩

/-- **Environments that agree on what is mentioned** expand a document alike.  By induction on the parts
    of the document. -/
theorem expandValue_congr {env env' : String → Option String} {v : Value}
    (h : ∀ r, Mentions v r → env (String.ofList r.name) = env' (String.ofList r.name)) :
    expandValue env v = expandValue env' v := by
  induction v using Value.parts_induction with
  | h v ih =>
    cases v with
    | str s =>
      -- Only here are variables looked at: in the cut of a text, by the references that it mentions.
      have hvalue : ∀ p ∈ (Cut.ofPieces (pieces s.toList)).parts,
          p.1 ++ Reference.value env p.2 = p.1 ++ Reference.value env' p.2 := by
        rintro ⟨l, r⟩ hp
        unfold Reference.value
        rw [h r (mentions_str.mpr ⟨l, hp⟩)]
      have hexpand : expand env s.toList = expand env' s.toList := by
        unfold expand
        rw [← Cut.replaced_ofPieces, ← Cut.replaced_ofPieces]
        unfold Cut.replaced
        rw [List.flatMap_congr hvalue]
      rw [expandValue, expandValue, hexpand]
    | list xs =>
      rw [expandValue, expandValue, expandItems_eq_map, expandItems_eq_map]
      refine congrArg Value.list (List.map_congr_left fun x hx => ?_)
      exact ih x hx fun r hr => h r (.item hx hr)
    | map es =>
      rw [expandValue, expandValue, expandEntries_eq_map, expandEntries_eq_map]
      refine congrArg Value.map (List.map_congr_left fun e he => Prod.ext rfl ?_)
      exact ih e.2 (List.mem_map_of_mem he) fun r hr => h r (.value he hr)
    | _ => rw [expandValue_of_isLeaf env rfl, expandValue_of_isLeaf env' rfl]

/-! ## Documents that are refused -/

theorem troubleInItems?_eq_findSome? (xs : List Value) : troubleInItems? xs = xs.findSome? trouble? := by
  induction xs with
  | nil => rfl
  | cons x xs ih =>
    rw [troubleInItems?, ih, List.findSome?_cons]
    cases trouble? x <;> rfl

theorem troubleInEntries?_eq_findSome? (es : Entries) :
    troubleInEntries? es = es.findSome? fun e => trouble? e.2 := by
  induction es with
  | nil => rfl
  | cons e es ih =>
    rw [troubleInEntries?, ih, List.findSome?_cons]
    cases trouble? e.2 <;> rfl

theorem trouble?_of_isLeaf {v : Value} (h : v.isLeaf = true) : trouble? v = none := by
  cases v with
  | str | list | map => exact nomatch h
  | _ => rfl

theorem trouble?_str_eq_none_iff {s : String} :
    trouble? (.str s) = none ↔ ∀ r, Mentions (.str s) r → r.problem? = none := by
  have htrouble : trouble? (.str s) = (Cut.ofPieces (pieces s.toList)).problem? :=
    (Cut.problem?_ofPieces _).symm
  rw [htrouble, Cut.problem?, List.findSome?_eq_none_iff]
  constructor
  · intro h r hr
    obtain ⟨l, hmem⟩ := mentions_str.mp hr
    exact h (l, r) hmem
  · intro h p hmem
    exact h p.2 (mentions_str.mpr ⟨p.1, hmem⟩)

/-- **A document can be expanded** when every reference in it can be asked for. -/
theorem trouble?_eq_none_iff (v : Value) :
    trouble? v = none ↔ ∀ r, Mentions v r → r.problem? = none := by
  induction v using Value.parts_induction with
  | h v ih =>
    cases v with
    | str s => exact trouble?_str_eq_none_iff
    | list xs =>
      rw [trouble?, troubleInItems?_eq_findSome?, List.findSome?_eq_none_iff]
      constructor
      · intro h r hr
        cases hr with
        | item hx hr => exact (ih _ hx).mp (h _ hx) r hr
      · exact fun h x hx => (ih x hx).mpr fun r hr => h r (.item hx hr)
    | map es =>
      rw [trouble?, troubleInEntries?_eq_findSome?, List.findSome?_eq_none_iff]
      constructor
      · intro h r hr
        cases hr with
        | value he hr => exact (ih _ (List.mem_map_of_mem he)).mp (h _ he) r hr
      · exact fun h e he => (ih e.2 (List.mem_map_of_mem he)).mpr fun r hr => h r (.value he hr)
    | _ => exact iff_of_true (trouble?_of_isLeaf rfl) fun _ hr => nomatch hr

/-- What is mentioned in a place of a document is mentioned in the document. -/
theorem Mentions.of_follow? {p : List Value} {v w : Value} (h : v.follow? p = some w) {r : Reference}
    (hr : Mentions w r) : Mentions v r := by
  induction p generalizing v with
  | nil =>
    cases h
    exact hr
  | cons k p ih =>
    obtain ⟨u, hu, h⟩ := Option.bind_eq_some_iff.mp h
    have hmem := Value.mem_parts_of_held? hu
    have hr := ih h
    cases v with
    | list xs => exact .item hmem hr
    | map es =>
      obtain ⟨e, he, rfl⟩ := List.mem_map.mp hmem
      exact .value he hr
    | _ => exact nomatch hu

/-! ## Place by place -/

/-- **A document and what has become of it** in an environment, place by place. -/
structure ExpandedIn (env : String → Option String) (doc expanded : Value) : Prop where
  /-- Where there is nothing in the document, there is nothing. -/
  nothing : ∀ p, doc.follow? p = none → expanded.follow? p = none
  /-- Where there is a value, there is what becomes of that value by itself. -/
  place : ∀ p v, doc.follow? p = some v →
    ∃ w, expandDocument env v = .ok w ∧ expanded.follow? p = some w
  /-- Mappings keep their keys, in order. -/
  mapping : ∀ p es, doc.follow? p = some (.map es) →
    ∃ fs, expanded.follow? p = some (.map fs) ∧ Entries.keys fs = Entries.keys es
  /-- Lists keep their lengths. -/
  list : ∀ p xs, doc.follow? p = some (.list xs) →
    ∃ ys, expanded.follow? p = some (.list ys) ∧ ys.length = xs.length
  /-- What is neither a text nor one of these is kept. -/
  leaf : ∀ p v, doc.follow? p = some v → v.isLeaf = true → expanded.follow? p = some v

theorem expandedIn_expandValue (env : String → Option String) {doc : Value} (h : trouble? doc = none) :
    ExpandedIn env doc (expandValue env doc) := by
  have hat : ∀ {p v}, doc.follow? p = some v →
      (expandValue env doc).follow? p = some (expandValue env v) := by
    intro p v hv
    rw [follow?_expandValue, hv, Option.map_some]
  refine ⟨fun p hp => ?_, fun p v hv => ⟨expandValue env v, ?_, hat hv⟩, fun p es hes => ?_,
    fun p xs hxs => ?_, fun p v hv hleaf => ?_⟩
  · rw [follow?_expandValue, hp, Option.map_none]
  · have hnone : trouble? v = none := (trouble?_eq_none_iff v).mpr fun r hr =>
      (trouble?_eq_none_iff doc).mp h r (hr.of_follow? hv)
    unfold expandDocument
    rw [hnone]
  · refine ⟨expandEntries env es, ?_, keys_expandEntries env es⟩
    rw [hat hes, expandValue]
  · refine ⟨expandItems env xs, ?_, ?_⟩
    · rw [hat hxs, expandValue]
    · rw [expandItems_eq_map, List.length_map]
  · rw [hat hv, expandValue_of_isLeaf env hleaf]

/-- **Expansion of a document, place by place.**  When every reference that the document mentions can be
    asked for, the document is expanded, and holds at every path the expansion of what it held there;
    keys, their order, lengths and other values are kept.  When one cannot, the document is refused, in
    every environment.  Two environments that agree on the names that are mentioned give one result. -/
theorem expandDocument_places (doc : Value) (env : String → Option String) :
    ((∀ r, Mentions doc r → r.problem? = none) →
      ∃ expanded, expandDocument env doc = .ok expanded ∧ ExpandedIn env doc expanded) ∧
    ((∃ r, Mentions doc r ∧ r.problem? ≠ none) →
      ∃ why, ∀ env', expandDocument env' doc = .error (.invalid why)) ∧
    ∀ env', (∀ r, Mentions doc r → env (String.ofList r.name) = env' (String.ofList r.name)) →
      expandDocument env doc = expandDocument env' doc := by
  refine ⟨fun h => ?_, ?_, fun env' h => ?_⟩
  · have hnone := (trouble?_eq_none_iff doc).mpr h
    refine ⟨expandValue env doc, ?_, expandedIn_expandValue env hnone⟩
    unfold expandDocument
    rw [hnone]
  · rintro ⟨r, hr, hproblem⟩
    have hsome : trouble? doc ≠ none := fun hnone =>
      hproblem ((trouble?_eq_none_iff doc).mp hnone r hr)
    obtain ⟨why, hwhy⟩ := Option.ne_none_iff_exists'.mp hsome
    refine ⟨why, fun env' => ?_⟩
    unfold expandDocument
    rw [hwhy]
  · unfold expandDocument
    rw [expandValue_congr h]

/-- One reference in a list in a mapping whose key is written like it: the key stays, the text becomes
    what the environment gives, and other variables do not matter. -/
theorem expandDocument_places_of_reference :
    let r : Reference := ⟨['A'], none⟩
    let name := Value.str (String.ofList r.text)
    let doc := Value.map [(name, .list [.int 8020, name])]
    let env := fun x => if x = "A" then some "1" else none
    let env' := fun x => if x = "A" then some "1" else some "2"
    ∃ expanded, expandDocument env doc = .ok expanded ∧ expandDocument env' doc = .ok expanded ∧
      ∃ v, expandDocument env name = .ok v ∧ expanded.follow? [name, .int (-1)] = some v := by
  intro r name doc env env'
  have hr : r.WellFormed := ⟨nofun, List.all_eq_true.mp rfl, nofun⟩
  -- The key is no place of the document: all that is mentioned stands in the list under it.
  have honly : ∀ r', Mentions doc r' → r' = r := by
    intro r' (h : Mentions (.map [(name, .list [.int 8020, name])]) r')
    rcases h with _ | _ | ⟨he, h⟩
    rw [List.mem_singleton.mp he] at h
    rcases h with _ | ⟨hx, h⟩ | _
    rcases List.mem_cons.mp hx with rfl | hx
    · exact nomatch h
    · rw [List.mem_singleton.mp hx] at h
      exact (mentions_text hr).mp h
  have haskable : r.problem? = none := by
    unfold Reference.problem? Invalid.forBytes?
    rw [String.toList_ofList]
    rfl
  obtain ⟨hok, -, hagree⟩ := expandDocument_places doc env
  obtain ⟨expanded, hexpand, hplaces⟩ := hok fun r' h => honly r' h ▸ haskable
  have hfollow : doc.follow? [name, .int (-1)] = some name := by
    have hkey : Entries.get? [(name, .list [.int 8020, name])] name = some (.list [.int 8020, name]) := by
      rw [Entries.get?_cons, if_pos ((Value.same_str_iff name _).mpr rfl)]
    show ((Value.map _).held? name).bind _ = _
    rw [Value.held?, hkey]
    rfl
  refine ⟨expanded, hexpand, ?_, hplaces.place _ _ hfollow⟩
  rw [← hagree env' fun r' h => by rw [honly r' h]; rfl]
  exact hexpand

/-- **Looking first is not expanding first**, where a reference cannot be asked for: a number beside it
    expands by itself, and yet the list that holds both is refused, in every environment. -/
theorem expandDocument_refuses_beside :
    let r : Reference := ⟨Text.spell 0xd800, some ['x']⟩
    let doc := Value.list [.int 8020, .str (String.ofList r.text)]
    doc.follow? [.int 0] = some (.int 8020) ∧
      ∀ env, expandDocument env (.int 8020) = .ok (.int 8020) ∧
        ∀ expanded, expandDocument env doc ≠ .ok expanded := by
  intro r doc
  have hr : r.WellFormed := by
    refine ⟨nofun, List.all_eq_true.mp rfl, fun d hd => ?_⟩
    cases hd
    exact List.all_eq_true.mp rfl
  have hproblem : r.problem? ≠ none := by
    have hlost : Text.firstLostHalves? r.name = some (0, [0xd800]) := by decide +kernel
    unfold Reference.problem? Invalid.forBytes?
    rw [String.toList_ofList, hlost]
    exact nofun
  have hmention : Mentions doc r :=
    .item (List.mem_cons_of_mem _ List.mem_cons_self) ((mentions_text hr).mpr rfl)
  refine ⟨rfl, fun env => ⟨rfl, fun expanded h => ?_⟩⟩
  have hnone : trouble? doc = none := by
    unfold expandDocument at h
    split at h
    · exact nomatch h
    · assumption
  exact hproblem ((trouble?_eq_none_iff doc).mp hnone r hmention)

end Config

end SecureStartup
