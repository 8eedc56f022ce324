import Mathlib.Data.List.Perm.Basic
import SecureStartup.Proofs.Value.Equality
import SecureStartup.Value.Order

/-!
  The parts of a value.

  A value may hold others, and these again others (`parts`).  What is proved of a value from its parts
  holds of every value (`parts_induction`), and what is asked of a value may be asked of everything in
  it (`Throughout`).  Sorting keeps the parts of a set, and depends on nothing that is carried along
  with them (`sortBy?_perm`, `sortBy?_map`).

  Proofs about documents use these in place of the recursion of whatever goes through a document: lists,
  tuples, sets and mappings are then one case, and so are all values that hold nothing.
-/

namespace SecureStartup

namespace Value

/-- The values that a value holds.  The keys of a mapping are no parts of it. -/
def parts : Value → List Value
  | list xs | tuple xs | set xs | frozenset xs => xs
  | map es => es.map (·.2)
  | _ => []

theorem parts_of_isAtom {v : Value} (h : v.isAtom = true) : v.parts = [] := by
  cases v with
  | list | tuple | set | frozenset | map => exact nomatch h
  | _ => rfl

theorem sizeOf_lt_of_mem_parts {v w : Value} (h : w ∈ v.parts) : sizeOf w < sizeOf v := by
  cases v with
  | list xs | tuple xs | set xs | frozenset xs =>
    have hlt : sizeOf w < sizeOf xs := List.sizeOf_lt_of_mem h
    simp only [list.sizeOf_spec, tuple.sizeOf_spec, set.sizeOf_spec, frozenset.sizeOf_spec]
    omega
  | map es =>
    obtain ⟨⟨k, w'⟩, he, rfl⟩ := List.mem_map.mp h
    have hlt : sizeOf (k, w') < sizeOf es := List.sizeOf_lt_of_mem he
    simp only [map.sizeOf_spec, Prod.mk.sizeOf_spec] at hlt ⊢
    omega
  | _ => exact nomatch h

/-- **Induction over the parts** of a value. -/
theorem parts_induction {P : Value → Prop} (h : ∀ v, (∀ w ∈ v.parts, P w) → P v) (v : Value) : P v :=
  h v fun w hw =>
    have := sizeOf_lt_of_mem_parts hw
    parts_induction h w
termination_by sizeOf v

/-- **What holds throughout a value**: of the value itself, and throughout its parts. -/
inductive Throughout (P : Value → Prop) : Value → Prop where
  | intro {v : Value} (own : P v) (parts : ∀ w ∈ v.parts, Throughout P w) : Throughout P v

section

variable {P Q : Value → Prop}

theorem throughout_iff {v : Value} : Throughout P v ↔ P v ∧ ∀ w ∈ v.parts, Throughout P w := by
  constructor
  · rintro ⟨hown, hparts⟩
    exact ⟨hown, hparts⟩
  · rintro ⟨hown, hparts⟩
    exact ⟨hown, hparts⟩

theorem Throughout.own {v : Value} (h : Throughout P v) : P v := (throughout_iff.mp h).1

theorem Throughout.of_mem {v w : Value} (h : Throughout P v) (hw : w ∈ v.parts) : Throughout P w :=
  (throughout_iff.mp h).2 w hw

theorem throughout_of_isAtom {v : Value} (hv : v.isAtom = true) : Throughout P v ↔ P v := by
  rw [throughout_iff, parts_of_isAtom hv]
  simp

/-- What holds of fields as a mapping, and throughout their values. -/
theorem throughout_ofFields {fields : List (String × Value)} (hown : P (.ofFields fields)) :
    Throughout P (.ofFields fields) ↔ ∀ f ∈ fields, Throughout P f.2 := by
  refine throughout_iff.trans ((and_iff_right hown).trans ?_)
  exact List.forall_mem_map.trans List.forall_mem_map

theorem Throughout.mono {v : Value} (h : Throughout P v) (hPQ : ∀ w, P w → Q w) : Throughout Q v := by
  induction h with
  | intro hown _ ih => exact .intro (hPQ _ hown) ih

theorem throughout_congr (h : ∀ v, P v ↔ Q v) {v : Value} : Throughout P v ↔ Throughout Q v :=
  ⟨fun hv => hv.mono fun w => (h w).mp, fun hv => hv.mono fun w => (h w).mpr⟩

end

/-! ## Sorting -/

section

variable {α β : Type} {key : α → Value}

theorem insertSorted?_perm {x : α} {ys zs : List α} (h : insertSorted? key x ys = some zs) :
    zs.Perm (x :: ys) := by
  induction ys generalizing zs with
  | nil =>
    cases h
    exact .refl _
  | cons y ys ih =>
    unfold insertSorted? at h
    obtain ⟨less, _, h⟩ := Option.bind_eq_some_iff.mp h
    cases less with
    | true =>
      cases h
      exact .refl _
    | false =>
      obtain ⟨zs', hzs', h⟩ := Option.bind_eq_some_iff.mp h
      cases h
      exact (List.Perm.cons y (ih hzs')).trans (.swap x y ys)

/-- **Sorting keeps what there is.** -/
theorem sortBy?_perm {xs ys : List α} (h : sortBy? key xs = some ys) : ys.Perm xs := by
  have hfold : ∀ xs acc ys : List α,
      xs.foldlM (fun acc x => insertSorted? key x acc) acc = some ys → ys.Perm (xs ++ acc) := by
    intro xs
    induction xs with
    | nil =>
      rintro acc ys ⟨rfl⟩
      exact .refl _
    | cons x xs ih =>
      intro acc ys h
      rw [List.foldlM_cons] at h
      obtain ⟨acc', hacc', h⟩ := Option.bind_eq_some_iff.mp h
      exact (ih acc' ys h).trans
        (((insertSorted?_perm hacc').append_left xs).trans List.perm_middle)
  have hperm := hfold xs [] ys h
  rwa [List.append_nil] at hperm

theorem insertSorted?_map (f : β → α) (x : β) (ys : List β) :
    (insertSorted? (fun b => key (f b)) x ys).map (List.map f) =
      insertSorted? key (f x) (ys.map f) := by
  induction ys with
  | nil => rfl
  | cons y ys ih =>
    rw [List.map_cons]
    unfold insertSorted?
    rw [← ih]
    rcases less? (key (f x)) (key (f y)) with _ | less
    · rfl
    · cases less with
      | true => rfl
      | false => cases insertSorted? (fun b => key (f b)) x ys <;> rfl

/-- **Sorting looks at the keys alone.** -/
theorem sortBy?_map (key : α → Value) (f : β → α) (xs : List β) :
    (sortBy? (fun b => key (f b)) xs).map (List.map f) = sortBy? key (xs.map f) := by
  have hfold : ∀ xs acc : List β,
      (xs.foldlM (fun acc x => insertSorted? (fun b => key (f b)) x acc) acc).map (List.map f) =
        (xs.map f).foldlM (fun acc x => insertSorted? key x acc) (acc.map f) := by
    intro xs
    induction xs with
    | nil => exact fun _ => rfl
    | cons x xs ih =>
      intro acc
      rw [List.map_cons, List.foldlM_cons, List.foldlM_cons, ← insertSorted?_map]
      cases insertSorted? (fun b => key (f b)) x acc with
      | none => rfl
      | some acc' => exact ih acc'
  exact hfold xs []

end

end Value

end SecureStartup
