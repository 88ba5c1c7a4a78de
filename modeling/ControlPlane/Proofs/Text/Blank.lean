import ControlPlane.Text.Blank

/-!
# Trimming

A text is trimmed by taking the blanks at both ends away and nothing else.  `exists_blanks`
gives the blanks that were taken, and `trim_append` says that what is between blanks and
does not itself start or end with one is what trimming leaves.
-/

namespace ControlPlane.Text

variable {cs lead trail : List Char}

/-- The text is made up of blanks. -/
def Blank (cs : List Char) : Prop := ∀ c ∈ cs, isBlank c = true

theorem blank_nil : Blank [] := nofun

/-- The text starts flush, with something else than a blank. -/
def Flush (cs : List Char) : Prop := ∀ c ∈ cs.head?, isBlank c = false

theorem dropWhile_of_flush (h : Flush cs) : cs.dropWhile isBlank = cs := by
  cases cs with
  | nil => rfl
  | cons c cs => exact List.dropWhile_cons_of_neg (by simp [h c rfl])

theorem trimStart_append (hlead : Blank lead) (h : Flush cs) : trimStart (lead ++ cs) = cs := by
  rw [trimStart, List.dropWhile_append_of_pos hlead, dropWhile_of_flush h]

theorem trimEnd_append (htrail : Blank trail) (h : Flush cs.reverse) :
    trimEnd (cs ++ trail) = cs := by
  have hreverse : Blank trail.reverse := fun c hc => htrail c (List.mem_reverse.1 hc)
  rw [trimEnd, List.reverse_append, List.dropWhile_append_of_pos hreverse, dropWhile_of_flush h,
    List.reverse_reverse]

/-- A text that starts and ends with something else than a blank, between blanks. -/
theorem trim_append (hlead : Blank lead) (htrail : Blank trail) (hne : cs ≠ [])
    (hstart : Flush cs) (hend : Flush cs.reverse) : trim (lead ++ cs ++ trail) = cs := by
  have hflush : Flush (cs ++ trail) := by
    obtain ⟨c, cs, rfl⟩ := List.exists_cons_of_ne_nil hne
    exact hstart
  rw [trim, List.append_assoc, trimStart_append hlead hflush, trimEnd_append htrail hend]

theorem exists_blanks_start (cs : List Char) : ∃ lead, Blank lead ∧ cs = lead ++ trimStart cs :=
  ⟨cs.takeWhile isBlank, fun _ hc => List.all_eq_true.1 List.all_takeWhile _ hc,
    List.takeWhile_append_dropWhile.symm⟩

theorem exists_blanks_end (cs : List Char) : ∃ trail, Blank trail ∧ cs = trimEnd cs ++ trail := by
  obtain ⟨trail, htrail, hcs⟩ := exists_blanks_start cs.reverse
  refine ⟨trail.reverse, fun c hc => htrail c (List.mem_reverse.1 hc), ?_⟩
  calc cs = cs.reverse.reverse := (List.reverse_reverse cs).symm
    _ = (trail ++ trimStart cs.reverse).reverse := congrArg List.reverse hcs
    _ = trimEnd cs ++ trail.reverse := List.reverse_append

/-- The blanks that are taken away at either end. -/
theorem exists_blanks (cs : List Char) :
    ∃ lead trail, Blank lead ∧ Blank trail ∧ cs = lead ++ trim cs ++ trail := by
  obtain ⟨lead, hlead, hcs⟩ := exists_blanks_start cs
  obtain ⟨trail, htrail, hrest⟩ := exists_blanks_end (trimStart cs)
  refine ⟨lead, trail, hlead, htrail, ?_⟩
  rw [List.append_assoc, trim, ← hrest, ← hcs]

end ControlPlane.Text
