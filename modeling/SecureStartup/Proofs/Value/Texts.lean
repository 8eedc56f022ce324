import SecureStartup.Proofs.Value.Nested

/-!
  Keys as they are written.

  Program: `_stringify_settings` makes the keys of settings texts, and `load_config` the names of
  components.

  When the keys of a mapping are replaced by their texts, two of them may become one, and the last pair
  counts: `written?` is what is under a text then.  What the mapping has under a NAME, a key that is a
  text already, may be another pair's value.  It is the same one when no key behind a name is written
  like it (`InOrder`), as it is in a mapping in which names were set last.
-/

namespace SecureStartup

namespace Value

/-- Keys that are texts. -/
def IsName (k : Value) : Prop := ∃ s, k = str s

/-- Two keys that are not written alike. -/
def Unlike (k k' : Value) : Prop := k.text ≠ k'.text

theorem IsName.findable {k : Value} (hk : IsName k) : Findable k := by
  obtain ⟨s, rfl⟩ := hk
  exact findable_str s

end Value

namespace Entries

open Value (IsName Unlike)

/-! ## Last by its text -/

/-- **What is under a text when keys are replaced by their texts**: the last pair counts. -/
def written? (t : String) : Entries → Option Value
  | [] => none
  | (k, v) :: es => (written? t es).or (if k.text = t then some v else none)

theorem written?_eq_none {t : String} {es : Entries} (h : ∀ e ∈ es, e.1.text ≠ t) :
    written? t es = none := by
  induction es with
  | nil => rfl
  | cons e es ih =>
    rw [written?, ih fun e he => h e (List.mem_cons_of_mem _ he), if_neg (h e List.mem_cons_self)]
    rfl

/-- Pairs set one after another: what is under a name is the last one's value, or what was there. -/
theorem get?_foldl_insert (t : String) (ps acc : Entries)
    (hps : ∀ p ∈ ps, IsName p.1) :
    get? (ps.foldl (fun es p => insert es p.1 p.2) acc) (.str t) =
      (written? t ps).or (get? acc (.str t)) := by
  induction ps generalizing acc with
  | nil => rfl
  | cons p ps ih =>
    obtain ⟨k, v⟩ := p
    obtain ⟨s, hs⟩ := hps _ List.mem_cons_self
    cases hs
    rw [List.foldl_cons, ih _ fun p hp => hps p (List.mem_cons_of_mem _ hp), get?_insert_str, written?,
      Option.or_assoc, Value.same_str]
    show _ = (written? t ps).or ((if s = t then some v else none).or _)
    by_cases hst : s = t
    · rw [if_pos (beq_iff_eq.mpr hst), if_pos hst]
      rfl
    · rw [if_neg (mt beq_iff_eq.mp hst), if_neg hst]
      rfl

/-- The only pair with a text is what is under it. -/
theorem written?_of_mem {es : Entries} (h : es.Pairwise fun e f => Unlike e.1 f.1) {k v : Value}
    (hmem : (k, v) ∈ es) : written? k.text es = some v := by
  induction es with
  | nil => exact nomatch hmem
  | cons e es ih =>
    obtain ⟨hnew, hes⟩ := List.pairwise_cons.mp h
    rw [written?]
    rcases List.mem_cons.mp hmem with rfl | hmem
    · rw [written?_eq_none fun e he => (hnew e he).symm, if_pos rfl]
      rfl
    · rw [ih hes hmem]
      rfl

/-! ## Names that come last -/

/-- **Names come last**: no key behind a text has that text. -/
def InOrder (es : Entries) : Prop := es.Pairwise fun e f => ∀ t, e.1 = .str t → f.1.text ≠ t

/-- Then what is under a name is what is under its text. -/
theorem InOrder.written?_of_get? {es : Entries} (hes : InOrder es) {t : String} {v : Value}
    (h : get? es (.str t) = some v) : written? t es = some v := by
  induction es with
  | nil => exact nomatch h
  | cons e es ih =>
    obtain ⟨k, w⟩ := e
    obtain ⟨hbehind, hes⟩ := List.pairwise_cons.mp hes
    rw [get?_cons] at h
    rw [written?]
    by_cases hk : k.same (.str t) = true
    · cases (Value.same_str_iff k t).mp hk
      rw [if_pos hk] at h
      rw [written?_eq_none fun e he => hbehind e he t rfl, if_pos (Value.text_str t)]
      exact h
    · rw [if_neg hk] at h
      rw [ih hes h]
      rfl

theorem inOrder_of_unlike {es : Entries} (h : es.Pairwise fun e f => Unlike e.1 f.1) : InOrder es := by
  refine h.imp fun {e f} hunlike t ht heq => hunlike ?_
  rw [ht, heq]
  rfl

/-- One more name. -/
theorem InOrder.insert {es : Entries} (hes : InOrder es) (s : String) (v : Value) :
    InOrder (Entries.insert es (.str s) v) := by
  have hkeys : ∀ fs : Entries,
      InOrder fs ↔ (keys fs).Pairwise fun k k' => ∀ t, k = .str t → k'.text ≠ t := by
    intro fs
    rw [keys, List.pairwise_map]
    rfl
  rw [hkeys, keys_insert]
  split
  · exact (hkeys es).mp hes
  · rename_i hnew
    refine List.pairwise_append.mpr ⟨(hkeys es).mp hes, List.pairwise_singleton _ _, ?_⟩
    rintro k hk k' hk' t rfl heq
    -- a key that is this name would have been found
    rw [List.mem_singleton.mp hk'] at heq
    obtain ⟨e, he, hkey⟩ := List.mem_map.mp hk
    refine hnew (List.any_eq_true.mpr ⟨e, he, ?_⟩)
    rw [hkey, Value.same_str_iff, ← heq]
    rfl

/-- A name that is set does not change what is under other texts. -/
theorem written?_insert {s t : String} (hst : s ≠ t) (es : Entries) (v : Value) :
    written? t (insert es (.str s) v) = written? t es := by
  have hnone : ∀ w : Value, (if s = t then some w else none) = none := fun _ => if_neg hst
  induction es with
  | nil =>
    rw [insert, written?]
    exact hnone v
  | cons e es ih =>
    obtain ⟨k, w⟩ := e
    rw [insert]
    by_cases hk : k.same (.str s) = true
    · cases (Value.same_str_iff k s).mp hk
      rw [if_pos hk, written?, written?]
      show (written? t es).or (if s = t then _ else _) = (written? t es).or (if s = t then _ else _)
      rw [hnone, hnone]
    · rw [if_neg hk, written?, written?, ih]

end Entries

end SecureStartup
