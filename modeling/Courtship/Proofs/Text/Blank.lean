import Mathlib.Data.List.DropRight
import Courtship.Text.Basic

/-! What is left of a text without the white space at its ends: it is the one part of it that has
nothing else around it and that neither starts nor ends with white space. -/

namespace Courtship

/-- `kept` is what is left of `cs` without the white space at its ends. -/
structure Trims (cs kept : List Char) : Prop where
  around : ∃ before after, cs = before ++ kept ++ after ∧ (∀ c ∈ before, isBlank c = true) ∧
    ∀ c ∈ after, isBlank c = true
  head : ∀ c ∈ kept.head?, isBlank c = false
  last : ∀ c ∈ kept.getLast?, isBlank c = false

variable {cs kept : List Char}

theorem skipBlanks_of_head (h : ∀ c ∈ cs.head?, isBlank c = false) : skipBlanks cs = cs := by
  cases cs with
  | nil => rfl
  | cons c cs => exact List.dropWhile_cons_of_neg (Bool.eq_false_iff.1 (h c rfl))

theorem isBlank_head_skipBlanks (cs : List Char) :
    ∀ c ∈ (skipBlanks cs).head?, isBlank c = false := by
  induction cs with
  | nil => simp [skipBlanks]
  | cons c cs ih =>
    rw [skipBlanks, List.dropWhile_cons]
    split
    · exact ih
    · rename_i hblank
      simpa using hblank

theorem trimmed_eq_rdropWhile (cs : List Char) :
    trimmed cs = (skipBlanks cs).rdropWhile isBlank := rfl

theorem trims_trimmed (cs : List Char) : Trims cs (trimmed cs) where
  around := by
    refine ⟨cs.takeWhile isBlank, (skipBlanks cs).rtakeWhile isBlank, ?_, ?_, ?_⟩
    · rw [List.append_assoc, trimmed_eq_rdropWhile, List.rdropWhile_append_rtakeWhile, skipBlanks,
        List.takeWhile_append_dropWhile]
    · exact fun c => List.mem_takeWhile_imp
    · exact fun c => List.mem_rtakeWhile_imp
  head := by
    have hrest : trimmed cs ++ (skipBlanks cs).rtakeWhile isBlank = skipBlanks cs :=
      List.rdropWhile_append_rtakeWhile
    intro c hc
    refine isBlank_head_skipBlanks cs c ?_
    rw [← hrest, List.head?_append, Option.mem_def.1 hc]
    rfl
  last := by
    rw [trimmed, List.getLast?_reverse]
    exact isBlank_head_skipBlanks _

theorem Trims.eq_trimmed (h : Trims cs kept) : kept = trimmed cs := by
  obtain ⟨⟨before, after, rfl, hbefore, hafter⟩, hhead, hlast⟩ := h
  have hend : skipBlanks (kept ++ after).reverse = kept.reverse := by
    have hskip : skipBlanks (after.reverse ++ kept.reverse) = skipBlanks kept.reverse :=
      List.dropWhile_append_of_pos fun c hc => hafter c (List.mem_reverse.1 hc)
    rw [List.reverse_append, hskip]
    refine skipBlanks_of_head ?_
    rw [List.head?_reverse]
    exact hlast
  have hstart : skipBlanks (before ++ (kept ++ after)) = skipBlanks (kept ++ after) :=
    List.dropWhile_append_of_pos hbefore
  rw [trimmed, List.append_assoc, hstart]
  cases kept with
  | nil =>
    have hnone : skipBlanks after = [] := List.dropWhile_eq_nil_iff.2 hafter
    rw [List.nil_append, hnone]
    rfl
  | cons c rest =>
    have hnext : skipBlanks (c :: rest ++ after) = c :: rest ++ after := skipBlanks_of_head hhead
    rw [hnext, hend, List.reverse_reverse]

theorem trims_iff : Trims cs kept ↔ kept = trimmed cs :=
  ⟨Trims.eq_trimmed, fun h => h ▸ trims_trimmed cs⟩

/-- An ideographic space and a no-break space are white space, a zero width space is not. -/
example : trimmed "\u3000\u200b a\u00a0\n".toList = "\u200b a".toList := by decide

end Courtship
