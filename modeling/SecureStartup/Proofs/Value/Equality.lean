import Mathlib.Data.List.Forall2
import SecureStartup.Value.Basic

/-!
  Equality of keys.

  Program: keys of mappings are equal as `1`, `1.0` and `True` are, and tuples and frozen sets by what they
  hold.

  `same` looks at two values side by side, and mappings rely on more than that: a key that equals a
  second one, which equals a third, has to equal the third, or else what is found under a key would
  depend on what was set before.

  1. **Values that hold no others** — `face?` is what such a value is equal by, the exact number for
     all kinds of numbers; two of them are equal exactly when they have one face (`sameAtom_iff`).  A
     not-a-number has none, and an opaque object has none either.

  2. **Keys** — equality with a key is transitive (`same_trans`), by induction on the key.  It is
     symmetric too (`same_symm`): sets of one size are compared in one direction only, and that this is
     enough is a matter of counting (`exists_rel_of_length`), as nothing is in a set twice.
-/

namespace SecureStartup

/-! ## Faces -/

/-- What a value that holds no others is equal by. -/
inductive Face where
  | nothing
  | number (q : Rat)
  | infinity (negative : Bool)
  | text (s : String)
  | bytes (bs : List UInt8)
  | date (d : Date)
  /-- A point in time; one with an offset is never equal to one without. -/
  | moment (zoned : Bool) (instant : Int)
  | path (p : String)
  | category (c : Category)

/-- Faces of numbers, the infinite ones included. -/
def Face.isNumber : Face → Bool
  | number _ | infinity _ => true
  | _ => false

namespace Binary64

/-- What a double is equal by: its exact value. -/
def face? : Binary64 → Option Face
  | .nan => none
  | .infinite negative => some (.infinity negative)
  | x@(.finite _ _ _) => x.ratio?.map fun r => .number (mkRat r.1 r.2)

theorem ratio?_finite (negative : Bool) (m : Nat) (e : Int) :
    ∃ n d, (finite negative m e).ratio? = some (n, d) ∧ d ≠ 0 := by
  by_cases he : 0 ≤ e
  · simp only [ratio?, if_pos he]
    exact ⟨_, _, rfl, Nat.one_ne_zero⟩
  · simp only [ratio?, if_neg he]
    exact ⟨_, _, rfl, Nat.pos_iff_ne_zero.mp (Nat.pow_pos Nat.two_pos)⟩

theorem face?_finite {negative : Bool} {m : Nat} {e n : Int} {d : Nat}
    (h : (finite negative m e).ratio? = some (n, d)) :
    (finite negative m e).face? = some (.number (mkRat n d)) := by
  simp only [face?, h, Option.map_some]

/-- The face of a double is that of a number. -/
theorem isNumber_of_face? {x : Binary64} {f : Face} (h : x.face? = some f) : f.isNumber = true := by
  cases x with
  | nan => exact nomatch h
  | infinite negative =>
    cases h
    rfl
  | finite negative m e =>
    obtain ⟨n, d, hr, _⟩ := ratio?_finite negative m e
    rw [face?_finite hr] at h
    cases h
    rfl

/-- Two doubles are equal when they have one face. -/
theorem same_iff (x y : Binary64) :
    x.same y = true ↔ ∃ f, x.face? = some f ∧ y.face? = some f := by
  unfold same
  cases x with
  | nan => exact ⟨nofun, fun ⟨_, h, _⟩ => nomatch h⟩
  | infinite negative =>
    cases y with
    | nan => exact ⟨nofun, fun ⟨_, _, h⟩ => nomatch h⟩
    | infinite negative' => cases negative <;> cases negative' <;> simp [compare?, face?]
    | finite negative' m e =>
      obtain ⟨n, d, hr, _⟩ := ratio?_finite negative' m e
      rw [face?_finite hr]
      cases negative <;> simp [compare?, face?]
  | finite negative m e =>
    obtain ⟨n, d, hr, hd⟩ := ratio?_finite negative m e
    rw [face?_finite hr]
    cases y with
    | nan => exact ⟨nofun, fun ⟨_, _, h⟩ => nomatch h⟩
    | infinite negative' => cases negative' <;> simp [compare?, face?]
    | finite negative' m' e' =>
      obtain ⟨n', d', hr', hd'⟩ := ratio?_finite negative' m' e'
      rw [face?_finite hr']
      have hcompare : compare? (finite negative m e) (finite negative' m' e') =
          some (compare (n * d') (n' * d)) := by
        unfold compare?
        simp only [hr, hr']
      -- Two ratios compare as equal when they are the same rational.
      rw [hcompare, beq_iff_eq, Option.some.injEq, Std.compare_eq_iff_eq,
        ← Rat.mkRat_eq_iff hd hd']
      simp [eq_comm]

/-- A whole number equals a double that has its face. -/
theorem compareInt?_eq_iff (i : Int) (x : Binary64) :
    compareInt? i x = some .eq ↔ x.face? = some (.number (mkRat i 1)) := by
  cases x with
  | nan => exact ⟨nofun, nofun⟩
  | infinite negative => cases negative <;> exact ⟨nofun, nofun⟩
  | finite negative m e =>
    obtain ⟨n, d, hr, hd⟩ := ratio?_finite negative m e
    have hcompare : compareInt? i (finite negative m e) = some (compare (i * d) n) := by
      unfold compareInt?
      simp only [hr, Option.map_some]
    have hone : mkRat n d = mkRat i 1 ↔ n = i * d := by
      rw [Rat.mkRat_eq_iff hd Nat.one_ne_zero, Int.natCast_one, Int.mul_one]
    rw [face?_finite hr, hcompare, Option.some.injEq, Std.compare_eq_iff_eq, Option.some.injEq,
      Face.number.injEq, hone, eq_comm]

end Binary64

namespace Value

/-- **What a value that holds no others is equal by**; some are equal to nothing. -/
def face? : Value → Option Face
  | none => some .nothing
  | float x => x.face?
  | str s => some (.text s)
  | bytes bs => some (.bytes bs)
  | date d => some (.date d)
  | datetime t => some (.moment t.offset.isSome t.instant)
  | path p => some (.path p)
  | category c => some (.category c)
  | v => v.asInt?.map fun i => .number (mkRat i 1)

theorem mkRat_one_inj (i j : Int) : mkRat i 1 = mkRat j 1 ↔ i = j := by
  rw [Rat.mkRat_eq_iff Nat.one_ne_zero Nat.one_ne_zero, Int.natCast_one, Int.mul_one, Int.mul_one]

/-- **Two values that hold no others are equal when they have one face.** -/
theorem sameAtom_iff (a b : Value) :
    sameAtom a b = true ↔ ∃ f, a.face? = some f ∧ b.face? = some f := by
  have hfloat : ∀ {x : Binary64} {f : Face}, x.face? = some f → f.isNumber = true :=
    Binary64.isNumber_of_face?
  rw [exists_congr fun f => and_comm]
  cases a with
  | float x =>
    -- a double may equal a number of any kind, but nothing that is no number
    cases b with
    | float y =>
      rw [exists_congr fun f => and_comm]
      exact Binary64.same_iff x y
    | int i | bool i => simp [sameAtom, asInt?, face?, Binary64.compareInt?_eq_iff]
    | none | str | bytes | date | datetime | path | category =>
      simp only [sameAtom, asInt?, face?]
      exact ⟨nofun, fun ⟨_, hb, ha⟩ => by cases hb; exact nomatch hfloat ha⟩
    | _ => exact ⟨nofun, fun ⟨_, hb, _⟩ => nomatch hb⟩
  | int i | bool i =>
    cases b with
    | float y => simp [sameAtom, asInt?, face?, Binary64.compareInt?_eq_iff]
    | int j | bool j => simp [sameAtom, asInt?, face?, mkRat_one_inj]
    | _ => simp [sameAtom, asInt?, face?]
  | none | str | bytes | date | datetime | path | category =>
    cases b with
    | float y =>
      simp only [sameAtom, asInt?, face?]
      exact ⟨nofun, fun ⟨_, hb, ha⟩ => by cases ha; exact nomatch hfloat hb⟩
    | _ => simp [sameAtom, asInt?, face?, DateTime.same]
  | _ => cases b <;> exact ⟨nofun, fun ⟨_, _, ha⟩ => nomatch ha⟩

/-! ## Keys -/

/-- Whether a value holds no other values. -/
def isAtom : Value → Bool
  | list _ | tuple _ | set _ | frozenset _ | map _ => false
  | _ => true

/-- **Values that can be keys**: what holds no others, tuples of keys, and frozen sets of keys, with no
    key in them twice. -/
inductive IsKey : Value → Prop where
  | atom {v : Value} (h : v.isAtom = true) : IsKey v
  | tuple {xs : List Value} (h : ∀ x ∈ xs, IsKey x) : IsKey (tuple xs)
  | frozenset {xs : List Value} (h : ∀ x ∈ xs, IsKey x)
      (apart : xs.Pairwise fun x y => same x y = false) : IsKey (frozenset xs)

theorem same_of_isAtom {a : Value} (ha : a.isAtom = true) (b : Value) : same a b = sameAtom a b := by
  cases a with
  | list | tuple | set | frozenset | map => exact nomatch ha
  | _ =>
    unfold same
    rfl

/-- Only what holds no others has a face. -/
theorem isAtom_of_face? {a : Value} {f : Face} (h : a.face? = some f) : a.isAtom = true := by
  cases a with
  | list | tuple | set | frozenset | map => exact nomatch h
  | _ => rfl

/-- Equality of a value that holds no others, by faces. -/
theorem same_iff_face? {a : Value} (ha : a.isAtom = true) (b : Value) :
    same a b = true ↔ ∃ f, a.face? = some f ∧ b.face? = some f := by
  rw [same_of_isAtom ha, sameAtom_iff]

theorem sameList_iff {xs ys : List Value} :
    sameList xs ys = true ↔ List.Forall₂ (fun x y => same x y = true) xs ys := by
  induction xs generalizing ys with
  | nil => cases ys <;> simp [sameList]
  | cons x xs ih => cases ys <;> simp [sameList, ih]

theorem allIn_iff {xs ys : List Value} :
    allIn xs ys = true ↔ ∀ x ∈ xs, ∃ y ∈ ys, same x y = true := by
  induction xs with
  | nil => simp [allIn]
  | cons x xs ih => simp [allIn, ih]

theorem same_tuple_iff {xs : List Value} {b : Value} :
    same (tuple xs) b = true ↔
      ∃ ys, b = tuple ys ∧ List.Forall₂ (fun x y => same x y = true) xs ys := by
  cases b <;> simp [same, sameList_iff]

/-- A frozen set is equal to a set of the same size that has all its items. -/
theorem same_frozenset_iff {xs : List Value} {b : Value} :
    same (frozenset xs) b = true ↔
      ∃ ys, (b = set ys ∨ b = frozenset ys) ∧ xs.length = ys.length ∧
        ∀ x ∈ xs, ∃ y ∈ ys, same x y = true := by
  cases b <;> simp [same, allIn_iff]

/-- A set is equal to what the frozen set of its items is equal to. -/
theorem same_set (xs : List Value) (b : Value) : same (set xs) b = same (frozenset xs) b := by
  cases b <;> simp [same]

/-- **Equality with a key is transitive.** -/
theorem same_trans {a : Value} (ha : IsKey a) {b c : Value} (hab : same a b = true)
    (hbc : same b c = true) : same a c = true := by
  -- An atom has a face, which the three share; tuples and sets compare their items.
  induction ha generalizing b c with
  | atom ha =>
    obtain ⟨f, hfa, hfb⟩ := (same_iff_face? ha b).mp hab
    obtain ⟨g, hgb, hgc⟩ := (same_iff_face? (isAtom_of_face? hfb) c).mp hbc
    cases hfb.symm.trans hgb
    exact (same_iff_face? ha c).mpr ⟨f, hfa, hgc⟩
  | @tuple xs hxs ih =>
    obtain ⟨ys, rfl, hxy⟩ := same_tuple_iff.mp hab
    obtain ⟨zs, rfl, hyz⟩ := same_tuple_iff.mp hbc
    refine same_tuple_iff.mpr ⟨zs, rfl, ?_⟩
    clear hab hbc hxs
    -- pairwise, along the three tuples at once
    induction hxy generalizing zs with
    | nil =>
      cases hyz
      exact .nil
    | cons hx _ ihxs =>
      cases hyz with
      | cons hy hyzs =>
        exact .cons (ih _ List.mem_cons_self hx hy)
          (ihxs (fun x hx => ih x (List.mem_cons_of_mem _ hx)) _ hyzs)
  | @frozenset xs _ _ ih =>
    obtain ⟨ys, hb, hlen, hxy⟩ := same_frozenset_iff.mp hab
    -- a set equals what the frozen set of its items equals
    have hbc' : same (.frozenset ys) c = true := by
      rcases hb with rfl | rfl
      · rwa [same_set] at hbc
      · exact hbc
    obtain ⟨zs, hc, hlen', hyz⟩ := same_frozenset_iff.mp hbc'
    refine same_frozenset_iff.mpr ⟨zs, hc, hlen.trans hlen', fun x hx => ?_⟩
    obtain ⟨y, hy, hxy⟩ := hxy x hx
    obtain ⟨z, hz, hyz⟩ := hyz y hy
    exact ⟨z, hz, ih x hx hxy hyz⟩

/-- **A matter of counting**: when every item of one list has a partner in a list that is no longer, and
    no two have the same, every item of the other list is a partner.  By induction on the first list,
    its first item taking its partner out of the second. -/
theorem exists_rel_of_length {α β : Type} {r : α → β → Prop} {xs : List α} {ys : List β}
    (apart : xs.Pairwise fun x x' => ∀ y ∈ ys, r x y → ¬ r x' y) (hlen : ys.length ≤ xs.length)
    (h : ∀ x ∈ xs, ∃ y ∈ ys, r x y) : ∀ y ∈ ys, ∃ x ∈ xs, r x y := by
  induction xs generalizing ys with
  | nil =>
    rw [List.length_eq_zero_iff.mp (Nat.le_zero.mp hlen)]
    exact nofun
  | cons x xs ih =>
    obtain ⟨hhead, htail⟩ := List.pairwise_cons.mp apart
    obtain ⟨p, hp, hxp⟩ := h x List.mem_cons_self
    -- Take the partner of the first item away: what is left is long enough for the others.
    obtain ⟨l, l', rfl⟩ := List.append_of_mem hp
    have hsub : ∀ y ∈ l ++ l', y ∈ l ++ p :: l' := by
      intro y hy
      simp only [List.mem_append, List.mem_cons] at hy ⊢
      tauto
    have hrest : ∀ x' ∈ xs, ∃ y ∈ l ++ l', r x' y := by
      intro x' hx'
      obtain ⟨y, hy, hxy⟩ := h x' (List.mem_cons_of_mem x hx')
      refine ⟨y, ?_, hxy⟩
      rcases List.mem_append.mp hy with hy | hy
      · exact List.mem_append_left l' hy
      · rcases List.mem_cons.mp hy with rfl | hy
        · -- the partner of the first item is nobody else's
          exact absurd hxy (hhead x' hx' y hp hxp)
        · exact List.mem_append_right l hy
    have hfewer : (l ++ l').length ≤ xs.length := by
      simp only [List.length_append, List.length_cons] at hlen ⊢
      omega
    have hothers := ih (htail.imp fun happart y hy => happart y (hsub y hy)) hfewer hrest
    intro y hy
    by_cases hyp : y ∈ l ++ l'
    · obtain ⟨x', hx', hr⟩ := hothers y hyp
      exact ⟨x', List.mem_cons_of_mem x hx', hr⟩
    · have heq : y = p := by
        simp only [List.mem_append, List.mem_cons] at hy hyp
        tauto
      exact ⟨x, List.mem_cons_self, heq ▸ hxp⟩

/-- **Equality of keys is symmetric.** -/
theorem same_symm {a b : Value} (ha : IsKey a) (hb : IsKey b) (hab : same a b = true) :
    same b a = true := by
  induction ha generalizing b with
  | atom ha =>
    obtain ⟨f, hfa, hfb⟩ := (same_iff_face? ha b).mp hab
    exact (same_iff_face? (isAtom_of_face? hfb) _).mpr ⟨f, hfb, hfa⟩
  | @tuple xs hxs ih =>
    obtain ⟨ys, rfl, hxy⟩ := same_tuple_iff.mp hab
    refine same_tuple_iff.mpr ⟨xs, rfl, ?_⟩
    have hys : ∀ y ∈ ys, IsKey y := by
      cases hb with
      | atom hb => exact nomatch hb
      | tuple hys => exact hys
    clear hab hb hxs
    induction hxy with
    | nil => exact .nil
    | cons hx _ ihxs =>
      exact .cons (ih _ List.mem_cons_self (hys _ List.mem_cons_self) hx)
        (ihxs (fun x hx => ih x (List.mem_cons_of_mem _ hx))
          (fun y hy => hys y (List.mem_cons_of_mem _ hy)))
  | @frozenset xs hxs apart ih =>
    obtain ⟨ys, hbs, hlen, hxy⟩ := same_frozenset_iff.mp hab
    cases hb with
    | atom hb => rcases hbs with rfl | rfl <;> exact nomatch hb
    | tuple => rcases hbs with h | h <;> exact nomatch h
    | frozenset hys =>
      cases hbs.resolve_left nofun
      refine same_frozenset_iff.mpr ⟨xs, .inr rfl, hlen.symm, ?_⟩
      have hpartners : ∀ y ∈ ys, ∃ x ∈ xs, same x y = true := by
        refine exists_rel_of_length ?_ (Nat.le_of_eq hlen.symm) hxy
        -- two items with one partner would be equal to each other
        refine apart.imp_of_mem fun hx hx' happart y hy hxy hxy' => ?_
        have hyx' := ih _ hx' (hys y hy) hxy'
        rw [same_trans (hxs _ hx) hxy hyx'] at happart
        exact nomatch happart
      intro y hy
      obtain ⟨x, hx, hxy⟩ := hpartners y hy
      exact ⟨x, hx, ih x hx (hys y hy) hxy⟩

end Value

end SecureStartup
