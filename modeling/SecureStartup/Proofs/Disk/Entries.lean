import SecureStartup.Disk.Operations
import SecureStartup.Proofs.Disk.Links

/-!
  What the entries of a disk decide.

  Where a path leads, and what may be done there, depends on the entries alone: the data of files is
  not looked at on the way.  So two disks with the same entries answer all such questions alike: what a
  path leads to (`stat`), whether a directory may be changed (`mayChange`), and which location is the
  canonical one (`canonical`).
-/

namespace SecureStartup.Disk

/-- **The same entries**, whatever the files hold. -/
def SameEntries (d d' : Disk) : Prop := ∀ l, d'.entryAt? l = d.entryAt? l

variable {d d' : Disk}

/-- A walk goes the same way.  Along the walk. -/
theorem SameEntries.walkFrom (h : SameEntries d d') (aim : Aim) (links : Nat)
    (here : Location) (names : List String) :
    d'.walkFrom aim links here names = d.walkFrom aim links here names := by
  fun_induction Disk.walkFrom d aim links here names with
  | case1 links here names hd => rw [Disk.walkFrom, h, hd]
  | case2 links here entry hd => rw [Disk.walkFrom, h, hd]
  | case3 links here name rest mode h₁ hd ih =>
    rw [Disk.walkFrom, h, hd]
    exact (if_pos h₁).trans ih
  | case4 links here name rest mode h₁ h₂ hd =>
    rw [Disk.walkFrom, h, hd]
    exact (if_neg h₁).trans (if_pos h₂)
  | case5 links here name rest mode _ h₁ h₂ h₃ hd =>
    rw [Disk.walkFrom, h, hd]
    simp only [if_neg h₁, if_neg h₂]
    exact if_pos h₃
  | case6 links here name rest mode _ h₁ h₂ h₃ h₄ hd ih =>
    rw [Disk.walkFrom, h, hd]
    simp only [if_neg h₁, if_neg h₂, if_pos h₄]
    exact (if_neg h₃).trans ih
  | case7 links here name rest mode _ h₁ h₂ h₃ h₄ h₅ hd ih =>
    rw [Disk.walkFrom, h, hd]
    simp only [if_neg h₁, if_neg h₂, if_neg h₄, if_pos h₅]
    exact (if_neg h₃).trans ih
  | case8 links here name rest mode _ h₁ h₂ h₃ h₄ h₅ h₆ hd =>
    rw [Disk.walkFrom, h, hd]
    simp only [if_neg h₁, if_neg h₂, if_neg h₄, if_neg h₅, if_pos h₆]
    exact if_neg h₃
  | case9 links here name rest mode _ h₁ h₂ h₃ h₄ h₅ h₆ he h₇ hd =>
    rw [Disk.walkFrom, h, hd]
    simp only [if_neg h₁, if_neg h₂, if_neg h₄, if_neg h₅, if_neg h₆, h (here ++ [name]), he]
    exact (if_neg h₃).trans (if_pos h₇)
  | case10 links here name rest mode _ h₁ h₂ h₃ h₄ h₅ h₆ he h₇ hd =>
    rw [Disk.walkFrom, h, hd]
    simp only [if_neg h₁, if_neg h₂, if_neg h₄, if_neg h₅, if_neg h₆, h (here ++ [name]), he]
    exact (if_neg h₃).trans (if_neg h₇)
  | case11 links here name rest mode _ h₁ h₂ h₃ h₄ h₅ h₆ target he h₇ hd =>
    rw [Disk.walkFrom, h, hd]
    simp only [if_neg h₁, if_neg h₂, if_neg h₄, if_neg h₅, if_neg h₆, h (here ++ [name]), he, if_pos h₇]
    exact if_neg h₃
  | case12 here name rest mode _ h₁ h₂ h₃ h₄ h₅ h₆ target he h₇ hd =>
    rw [Disk.walkFrom, h, hd]
    simp only [if_neg h₁, if_neg h₂, if_neg h₄, if_neg h₅, if_neg h₆, h (here ++ [name]), he, if_neg h₇]
    exact if_neg h₃
  | case13 here name rest mode _ h₁ h₂ h₃ h₄ h₅ h₆ target he h₇ links hd ih =>
    rw [Disk.walkFrom, h, hd]
    simp only [if_neg h₁, if_neg h₂, if_neg h₄, if_neg h₅, if_neg h₆, h (here ++ [name]), he, if_neg h₇]
    exact (if_neg h₃).trans ih
  | case14 links here name rest mode _ h₁ h₂ h₃ h₄ h₅ h₆ e hlink he hd ih =>
    rw [Disk.walkFrom, h, hd]
    simp only [if_neg h₁, if_neg h₂, if_neg h₄, if_neg h₅, if_neg h₆, h (here ++ [name]), he]
    cases e with
    | link target => exact absurd rfl (hlink target)
    | directory m | file id | special s => exact (if_neg h₃).trans ih
  | case15 links here entry hd name rest hdir =>
    rw [Disk.walkFrom, h, hd]
    cases entry with
    | directory m => exact absurd rfl (hdir m)
    | _ => rfl

namespace SameEntries

variable (h : SameEntries d d') (cwd : Location) (path : String)

include h

theorem walk (aim : Aim) : d'.walk cwd path aim = d.walk cwd path aim := by
  unfold Disk.walk
  rw [h.walkFrom]

theorem stat : d'.stat cwd path = d.stat cwd path := by
  unfold Disk.stat
  rw [h.walk]

theorem mayChange (dir : Location) : d'.mayChange dir = d.mayChange dir := by
  unfold Disk.mayChange
  rw [h]

theorem ways : SameWays d d' := fun l e _ => by rw [h]

theorem canonical : d'.canonical cwd path = d.canonical cwd path := h.ways.canonical cwd path

end SameEntries

end SecureStartup.Disk
