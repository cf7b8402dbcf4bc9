import Roundtable.Text.Blank
/-!
What trimming keeps, and which texts it leaves as they are.
-/

namespace Roundtable.Text

variable {c : Char} {text : List Char}

theorem mem_of_mem_trimChars (h : c ∈ trimChars text) : c ∈ text := by
  unfold trimChars at h
  have hback := (List.dropWhile_suffix isBlank).subset (List.mem_reverse.1 h)
  exact (List.dropWhile_suffix isBlank).subset (List.mem_reverse.1 hback)

theorem isBlank_getLast?_trimChars (h : (trimChars text).getLast? = some c) : isBlank c = false := by
  unfold trimChars at h
  rw [List.getLast?_reverse] at h
  have hnot := List.head?_dropWhile_not isBlank (text.dropWhile isBlank).reverse
  rw [h] at hnot
  exact hnot

theorem isBlank_head?_trimChars (h : (trimChars text).head? = some c) : isBlank c = false := by
  have hprefix : trimChars text <+: text.dropWhile isBlank := by
    rw [← List.reverse_suffix, trimChars, List.reverse_reverse]
    exact List.dropWhile_suffix isBlank
  obtain ⟨rest, hrest⟩ := hprefix
  have hnot := List.head?_dropWhile_not isBlank text
  rw [← hrest, List.head?_append, h] at hnot
  exact hnot

/-- A text with something in it and no blank at either end. -/
structure IsTrimmed (text : String) : Prop where
  ne_empty : text ≠ ""
  first : ∀ c, text.toList.head? = some c → isBlank c = false
  last : ∀ c, text.toList.getLast? = some c → isBlank c = false

theorem isTrimmed_trim {text : String} (h : trim text ≠ "") : IsTrimmed (trim text) where
  ne_empty := h
  first c hc := by
    rw [trim, String.toList_ofList] at hc
    exact isBlank_head?_trimChars hc
  last c hc := by
    rw [trim, String.toList_ofList] at hc
    exact isBlank_getLast?_trimChars hc

theorem dropWhile_isBlank_eq_self (h : ∀ c, text.head? = some c → isBlank c = false) :
    text.dropWhile isBlank = text := by
  cases text with
  | nil => rfl
  | cons c rest => rw [List.dropWhile_cons_of_neg (by simp [h c rfl])]

theorem IsTrimmed.trim_eq {text : String} (h : IsTrimmed text) : trim text = text := by
  have hlast : ∀ c, text.toList.reverse.head? = some c → isBlank c = false := by
    intro c hc
    rw [List.head?_reverse] at hc
    exact h.last c hc
  rw [trim, trimChars, dropWhile_isBlank_eq_self h.first, dropWhile_isBlank_eq_self hlast,
    List.reverse_reverse, String.ofList_toList]

end Roundtable.Text
