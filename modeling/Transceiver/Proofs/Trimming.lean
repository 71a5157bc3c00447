import Mathlib.Data.List.DropRight
import Transceiver.Text.Blank

/-!
# What trimming leaves

Trimming a list at its end looks at the last part first, and at what is before it only if all of
that part goes.  A text between blanks is what is left of it all.
-/

namespace Transceiver.Text

section Ends

variable {α : Type} {p : α → Bool} {xs ys : List α}

theorem rdropWhile_append :
    (xs ++ ys).rdropWhile p =
      if ys.rdropWhile p = [] then xs.rdropWhile p else xs ++ ys.rdropWhile p := by
  simp only [List.rdropWhile, List.reverse_append, List.dropWhile_append, List.isEmpty_iff,
    List.reverse_eq_nil_iff]
  split
  · rfl
  · rw [List.reverse_append, List.reverse_reverse]

theorem rdropWhile_append_of_all (h : ∀ a ∈ ys, p a) :
    (xs ++ ys).rdropWhile p = xs.rdropWhile p := by
  rw [rdropWhile_append, if_pos (List.rdropWhile_eq_nil_iff.mpr h)]

theorem rdropWhile_append_of_exists (h : ∃ a ∈ ys, ¬ p a) :
    (xs ++ ys).rdropWhile p = xs ++ ys.rdropWhile p := by
  obtain ⟨a, ha, hp⟩ := h
  rw [rdropWhile_append, if_neg fun hnil ↦ hp (List.rdropWhile_eq_nil_iff.mp hnil a ha)]

theorem rdropWhile_eq_self_iff_getLast? :
    xs.rdropWhile p = xs ↔ ∀ a, xs.getLast? = some a → ¬ p a := by
  rw [List.rdropWhile_eq_self_iff]
  constructor
  · intro h a ha
    obtain ⟨ys, rfl⟩ := List.getLast?_eq_some_iff.mp ha
    have hlast := h (List.append_ne_nil_of_right_ne_nil ys (List.cons_ne_nil a []))
    rwa [List.getLast_concat] at hlast
  · exact fun h hne ↦ h _ (List.getLast?_eq_some_getLast hne)

end Ends

/-! ## Texts between blanks -/

/-- A text that has no blanks in it is what is left between blanks. -/
theorem trimmed_between {before cs after : List Char} (hbefore : ∀ c ∈ before, isBlank c)
    (hafter : ∀ c ∈ after, isBlank c) (hcs : ∀ c ∈ cs, ¬ isBlank c) :
    trimmed (before ++ cs ++ after) = cs := by
  have hend : cs.rdropWhile isBlank = cs :=
    List.rdropWhile_eq_self_iff.mpr fun hne ↦ hcs _ (List.getLast_mem hne)
  have hstart : ((cs ++ after).dropWhile isBlank).rdropWhile isBlank = cs := by
    cases cs with
    | nil =>
      rw [List.nil_append, List.dropWhile_eq_nil_iff.mpr hafter]
      rfl
    | cons c cs =>
      rw [List.cons_append, List.dropWhile_cons_of_neg (hcs c List.mem_cons_self),
        ← List.cons_append, rdropWhile_append_of_all hafter, hend]
  unfold trimmed
  rw [List.append_assoc, List.dropWhile_append_of_pos hbefore]
  exact hstart

/-- What is cut off are blanks. -/
theorem exists_blanks (cs : List Char) : ∃ before after, cs = before ++ trimmed cs ++ after ∧
    (∀ c ∈ before, isBlank c) ∧ ∀ c ∈ after, isBlank c := by
  refine ⟨cs.takeWhile isBlank, (cs.dropWhile isBlank).rtakeWhile isBlank, ?_,
    fun c hc ↦ List.mem_takeWhile_imp hc, fun c hc ↦ List.mem_rtakeWhile_imp hc⟩
  calc
    cs = cs.takeWhile isBlank ++ cs.dropWhile isBlank := List.takeWhile_append_dropWhile.symm
    _ = cs.takeWhile isBlank ++
        (trimmed cs ++ (cs.dropWhile isBlank).rtakeWhile isBlank) :=
      congrArg (cs.takeWhile isBlank ++ ·) List.rdropWhile_append_rtakeWhile.symm
    _ = _ := (List.append_assoc _ _ _).symm

end Transceiver.Text
