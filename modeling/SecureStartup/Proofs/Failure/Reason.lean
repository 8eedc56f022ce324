import SecureStartup.Failure.Basic

/-!
  Failures that can say what they are.

  1. **Program** — `str(exc)` stands in the report of every failure, and in the reason of every issue that
     is made of one (`StagingError` from an `OSError`: its `strerror`, or else all of it).

  2. **It may fail** — when an argument is a number that is too long to be written, asking for the text is
     a failure itself.  `Failure.text` says so, and nothing that reports a failure may leave it out.

  3. **Where it cannot** — the arguments of a failure of the system are its number, its text and the
     paths concerned; when they can all be written (`Failure.isTold`), so can the text
     (`systemMessage_ok`), and the reason that an operator is given (`reason_ok`).  So a failure of a
     staging step is reported as an issue of that step, with its reason: the failures that these steps
     meet can say what they are (`takeFault_told`).
-/

namespace SecureStartup

namespace Value

/-- All items can be written when each of them can. -/
theorem allWritable_iff {vs : List Value} :
    allWritable vs = true ↔ ∀ v ∈ vs, v.isWritable = true := by
  induction vs with
  | nil => simp [allWritable]
  | cons v vs ih => simp [allWritable, ih]

theorem written_ok {v : Value} (h : v.isWritable = true) : v.written = .ok v.text := if_pos h

theorem shownWritten_ok {v : Value} (h : v.isWritable = true) : v.shownWritten = .ok v.shown := if_pos h

end Value

namespace Failure

variable {args : List Value}

/-! ## The text of a failure of the system -/

theorem argsText_ok (h : ∀ v ∈ args, v.isWritable = true) : ∃ s, argsText args = .ok s := by
  match args with
  | [] => exact ⟨"", rfl⟩
  | [a] => exact ⟨a.text, Value.written_ok (h a (List.mem_singleton.mpr rfl))⟩
  | a :: b :: more =>
    have hall : (Value.tuple (a :: b :: more)).isWritable = true := by
      unfold Value.isWritable
      exact Value.allWritable_iff.mpr h
    exact ⟨_, Value.written_ok hall⟩

theorem placesText_ok (h : ∀ v ∈ args, v.isWritable = true) : ∃ s, placesText args = .ok s := by
  unfold placesText
  split
  · exact ⟨"", rfl⟩
  · exact ⟨"", rfl⟩
  · rename_i path _ other _ _
    rw [Value.shownWritten_ok (h path List.mem_cons_self),
      Value.shownWritten_ok (h other (by simp))]
    split
    · exact ⟨_, rfl⟩
    · exact ⟨_, rfl⟩
  · rename_i path _ _ _
    rw [Value.shownWritten_ok (h path List.mem_cons_self)]
    exact ⟨_, rfl⟩

theorem systemMessage_ok (h : ∀ v ∈ args, v.isWritable = true) : ∃ s, systemMessage args = .ok s := by
  unfold systemMessage
  split
  · rename_i code text more
    split
    · have hmore : ∀ v ∈ more, v.isWritable = true := fun v hv =>
        h v (List.mem_cons_of_mem _ (List.mem_cons_of_mem _ hv))
      obtain ⟨s, hs⟩ := placesText_ok hmore
      rw [Value.written_ok (h code List.mem_cons_self), Value.written_ok (h text (by simp)), hs]
      exact ⟨_, rfl⟩
    · exact argsText_ok h
  · exact argsText_ok h

/-- A failure of the system that has a text of its own says it. -/
theorem text_systemText (words : Failure → String) (kind text : String) :
    (systemText kind text).text words = .ok text := by
  have hwritten : (Value.str text).written = .ok text := Value.written_ok rfl
  simpa only [systemText, Failure.text, systemMessage, argsText] using hwritten

/-- **The reason of a failure of the system** is given to an operator. -/
theorem reason_ok (words : Failure → String) {f : Failure} (hs : f.isSystem = true)
    (ht : f.isTold = true) : ∃ s, f.reason words = .ok s := by
  unfold reason
  cases f with
  | refused why path =>
    split
    · exact ⟨why.text, Value.written_ok rfl⟩
    · exact ⟨_, rfl⟩
  | sameFile source target => exact ⟨_, rfl⟩
  | system kind args =>
    have hall : ∀ v ∈ args, v.isWritable = true := List.all_eq_true.mp ht
    split
    · unfold systemReason
      simp only
      split
      · rcases hg : args[1]? with _ | v
        · refine ⟨"None", ?_⟩
          rw [List.getD_eq_getElem?_getD, hg]
          rfl
        · rw [List.getD_eq_getElem?_getD, hg]
          exact ⟨_, Value.written_ok (hall v (List.mem_of_getElem? hg))⟩
      · exact ⟨"None", rfl⟩
    · exact systemMessage_ok hall
  | _ => exact nomatch hs

end Failure

end SecureStartup
