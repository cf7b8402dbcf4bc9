import Mathlib.Data.List.Chain
import Mathlib.Data.List.TakeWhile
import Roundtable.Proofs.Text.Blank
/-!
Words in a row. However many blanks stand before, between and behind words, the same words are read;
and words that are joined by single spaces make a text that trimming leaves as it is.
-/

namespace Roundtable.Text

/-- A word: something to read, and no blank in it. -/
structure IsWord (word : String) : Prop where
  ne_empty : word ≠ ""
  unblank : ∀ c ∈ word.toList, isBlank c = false

def Blanks (text : List Char) : Prop :=
  ∀ c ∈ text, isBlank c = true

/-- Words laid out in a row: a gap of blanks before each of them, and any blanks behind the last. -/
inductive Laid : List String → List Char → Prop where
  | nil {after : List Char} : Blanks after → Laid [] after
  | cons {gap row : List Char} {word : String} {words : List String} :
      gap ≠ [] → Blanks gap → IsWord word → Laid words row →
      Laid (word :: words) (gap ++ word.toList ++ row)

variable {text row word blanks before : List Char} {c : Char}

/-! ### Trimming -/

theorem trimChars_eq_nil_iff : trimChars text = [] ↔ Blanks text := by
  unfold trimChars
  rw [List.reverse_eq_nil_iff, List.dropWhile_eq_nil_iff]
  refine ⟨fun hall => ?_, fun hblanks => ?_⟩
  · rw [Blanks, ← List.dropWhile_eq_nil_iff]
    -- What is left begins with a character that is not blank, so there is nothing left.
    refine List.head?_eq_none_iff.1 (Option.eq_none_iff_forall_ne_some.2 fun c hc => ?_)
    have hnot := List.head?_dropWhile_not isBlank text
    rw [hc] at hnot
    exact absurd (hall c (List.mem_reverse.2 (List.mem_of_head? hc))) (by simp [hnot])
  · rw [List.dropWhile_eq_nil_iff.2 hblanks]
    exact nofun

theorem exists_blanks_trimChars (text : List Char) :
    ∃ before after, text = before ++ trimChars text ++ after ∧ Blanks before ∧ Blanks after := by
  refine ⟨text.takeWhile isBlank, ((text.dropWhile isBlank).reverse.takeWhile isBlank).reverse, ?_,
    fun c hc => List.mem_takeWhile_imp hc, fun c hc => List.mem_takeWhile_imp (List.mem_reverse.1 hc)⟩
  rw [List.append_assoc, trimChars, ← List.reverse_append, List.takeWhile_append_dropWhile,
    List.reverse_reverse, List.takeWhile_append_dropWhile]

/-- Trimming takes away the blanks before the first other character, and blanks at the end. -/
theorem trimChars_append_cons (hbefore : Blanks before) (hc : isBlank c = false) (rest : List Char) :
    ∃ kept after, trimChars (before ++ c :: rest) = c :: kept ∧ rest = kept ++ after ∧
      Blanks after := by
  have hstart : (before ++ c :: rest).dropWhile isBlank = c :: rest := by
    rw [List.dropWhile_append_of_pos hbefore, List.dropWhile_cons_of_neg (by simp [hc])]
  refine ⟨(rest.reverse.dropWhile isBlank).reverse, (rest.reverse.takeWhile isBlank).reverse,
    ?_, ?_, fun d hd => List.mem_takeWhile_imp (List.mem_reverse.1 hd)⟩
  · have hend : [c].dropWhile isBlank = [c] := List.dropWhile_cons_of_neg (by simp [hc])
    rw [trimChars, hstart, List.reverse_cons, List.dropWhile_append, hend]
    split
    · rename_i hnone
      rw [List.isEmpty_iff.1 hnone]
      rfl
    · rw [List.reverse_append, List.reverse_singleton, List.singleton_append]
  · rw [← List.reverse_append, List.takeWhile_append_dropWhile, List.reverse_reverse]

/-! ### Reading words -/

theorem wordsFrom_blanks (hblanks : Blanks blanks) (text : List Char) :
    wordsFrom [] (blanks ++ text) = wordsFrom [] text := by
  induction blanks with
  | nil => rfl
  | cons c rest ih =>
      obtain ⟨hc, hrest⟩ := List.forall_mem_cons.1 hblanks
      rw [List.cons_append, wordsFrom, if_pos hc, if_pos List.isEmpty_nil, ih hrest]

/-- A word that has begun ends at a blank. -/
theorem wordsFrom_gap (hword : word ≠ []) (hblanks : Blanks blanks) (hne : blanks ≠ [])
    (text : List Char) :
    wordsFrom word (blanks ++ text) = word.reverse :: wordsFrom [] text := by
  cases blanks with
  | nil => exact absurd rfl hne
  | cons c rest =>
      obtain ⟨hc, hrest⟩ := List.forall_mem_cons.1 hblanks
      rw [List.cons_append, wordsFrom, if_pos hc, if_neg (by simpa using hword),
        wordsFrom_blanks hrest]

theorem wordsFrom_unblank (hword : ∀ c ∈ word, isBlank c = false) (begun text : List Char) :
    wordsFrom begun (word ++ text) = wordsFrom (word.reverse ++ begun) text := by
  induction word generalizing begun with
  | nil => rfl
  | cons c rest ih =>
      obtain ⟨hc, hrest⟩ := List.forall_mem_cons.1 hword
      rw [List.cons_append, wordsFrom, if_neg (by simp [hc]), ih hrest, List.reverse_cons,
        List.append_assoc, List.singleton_append]

/-- Blanks at the end add no word. -/
theorem wordsFrom_append_blanks (hblanks : Blanks blanks) (text : List Char) :
    wordsFrom word (text ++ blanks) = wordsFrom word text := by
  induction text generalizing word with
  | nil =>
      have hnone : wordsFrom [] blanks = [] := by
        rw [← List.append_nil blanks, wordsFrom_blanks hblanks]
        rfl
      rw [List.nil_append]
      by_cases hword : word = []
      · rw [hword, hnone]
        rfl
      by_cases hne : blanks = []
      · rw [hne]
      rw [← List.append_nil blanks, wordsFrom_gap hword hblanks hne, wordsFrom.eq_def word, wordsFrom]
      simp [hword]
  | cons c rest ih =>
      rw [List.cons_append, wordsFrom, wordsFrom]
      simp only [ih]

theorem wordsFrom_of_laid {words : List String} (h : Laid words row) (hword : word ≠ []) :
    wordsFrom word row = word.reverse :: words.map String.toList := by
  induction h generalizing word with
  | @nil after hafter =>
      rw [← List.nil_append after, wordsFrom_append_blanks hafter, wordsFrom,
        if_neg (by simpa using hword)]
      rfl
  | @cons gap row next words hne hgap hnext _ ih =>
      have hbegun : next.toList.reverse ≠ [] := by
        simpa using hnext.ne_empty
      rw [List.append_assoc, wordsFrom_gap hword hgap hne, wordsFrom_unblank hnext.unblank,
        List.append_nil, ih hbegun, List.reverse_reverse, List.map_cons]

theorem Laid.append_blanks {words : List String} (h : Laid words row) (hblanks : Blanks blanks) :
    Laid words (row ++ blanks) := by
  induction h with
  | nil hafter => exact .nil (List.forall_mem_append.2 ⟨hafter, hblanks⟩)
  | cons hne hgap hword _ ih =>
      rw [List.append_assoc]
      exact .cons hne hgap hword ih

theorem Laid.isWord {words : List String} (h : Laid words row) : ∀ word ∈ words, IsWord word := by
  induction h with
  | nil => exact nofun
  | cons _ _ hword _ ih => exact List.forall_mem_cons.2 ⟨hword, ih⟩

/-- A row of words is read as these words, also if blanks at its end were trimmed away. -/
theorem words_of_laid {kept after : List Char} {first : String} {words : List String}
    (hafter : Blanks after) (hblanks : Blanks blanks) (hfirst : IsWord first) (hrow : Laid words row)
    (hkept : blanks ++ first.toList ++ row = kept ++ after) :
    Text.words (String.ofList kept) = first :: words := by
  have hbegun : first.toList.reverse ≠ [] := by
    simpa using hfirst.ne_empty
  have hread : wordsFrom [] kept = (first :: words).map String.toList := by
    rw [← wordsFrom_append_blanks hafter, ← hkept, List.append_assoc, wordsFrom_blanks hblanks,
      wordsFrom_unblank hfirst.unblank, List.append_nil, wordsFrom_of_laid hrow hbegun,
      List.reverse_reverse, List.map_cons]
  have hback : String.ofList ∘ String.toList = id := funext fun _ => String.ofList_toList
  rw [Text.words, String.toList_ofList, hread, List.map_map, hback, List.map_id]

/-- A word that was read nearest first can stand in front. -/
theorem Laid.cons_reverse {gap : List Char} {words : List String} (hne : gap ≠ [])
    (hgap : Blanks gap) (hsome : word ≠ []) (hword : ∀ c ∈ word, isBlank c = false)
    (hrow : Laid words row) :
    Laid (String.ofList word.reverse :: words) (gap ++ word.reverse ++ row) := by
  have hreverse : IsWord (String.ofList word.reverse) := by
    refine ⟨by simpa using hsome, fun c hc => hword c ?_⟩
    rwa [String.toList_ofList, List.mem_reverse] at hc
  have hlaid := Laid.cons hne hgap hreverse hrow
  rwa [String.toList_ofList] at hlaid

/-- Whatever stands behind a gap, the words that are read off it are laid out in it. -/
theorem laid_wordsFrom {gap : List Char} (hne : gap ≠ []) (hgap : Blanks gap)
    (hword : ∀ c ∈ word, isBlank c = false) :
    Laid ((wordsFrom word text).map String.ofList) (gap ++ word.reverse ++ text) := by
  -- A blank makes the gap longer as long as no word has begun, and begins the next gap otherwise.
  induction text generalizing word gap with
  | nil =>
      rw [wordsFrom]
      by_cases hsome : word = []
      · rw [hsome, if_pos List.isEmpty_nil, List.reverse_nil, List.append_nil, List.append_nil]
        exact .nil hgap
      · rw [if_neg (by simpa using hsome)]
        exact .cons_reverse hne hgap hsome hword (.nil nofun)
  | cons c rest ih =>
      rw [wordsFrom]
      split
      · rename_i hc
        have hblank : Blanks [c] := List.forall_mem_singleton.2 hc
        by_cases hsome : word = []
        · have hlonger := ih (List.append_ne_nil_of_left_ne_nil hne [c])
            (List.forall_mem_append.2 ⟨hgap, hblank⟩) (List.forall_mem_nil _)
          rw [hsome, if_pos List.isEmpty_nil]
          simpa using hlonger
        · have hlater := ih (List.cons_ne_nil c []) hblank (List.forall_mem_nil _)
          rw [if_neg (by simpa using hsome)]
          exact .cons_reverse hne hgap hsome hword hlater
      · rename_i hc
        have hlonger := ih hne hgap (List.forall_mem_cons.2 ⟨Bool.eq_false_iff.2 hc, hword⟩)
        simpa using hlonger

/-- A space in front of a line is gap enough for its first word. -/
theorem laid_words (line : String) : Laid (words line) (' ' :: line.toList) := by
  have hspace : Blanks [' '] := List.forall_mem_singleton.2 (by decide +kernel)
  have hlaid : Laid (words line) ([' '] ++ [].reverse ++ line.toList) :=
    laid_wordsFrom (List.cons_ne_nil ' ' []) hspace (List.forall_mem_nil _)
  rwa [List.reverse_nil, List.append_nil] at hlaid

theorem isWord_of_mem_words {line found : String} (h : found ∈ words line) : IsWord found :=
  (laid_words line).isWord found h

theorem exists_blanks_of_words {line first : String} {words : List String}
    (h : Text.words line = first :: words) :
    ∃ before row, line.toList = before ++ first.toList ++ row ∧ Blanks before ∧
      Laid words row := by
  have hlaid := laid_words line
  generalize hall : ' ' :: line.toList = all at hlaid
  rw [h] at hlaid
  obtain _ | @⟨gap, row, _, _, hne, hgap, -, hrow⟩ := hlaid
  -- The space in front begins the gap; the rest of the gap is in the line.
  obtain ⟨c, before, rfl⟩ := List.exists_cons_of_ne_nil hne
  exact ⟨before, row, (List.cons.inj hall).2, (List.forall_mem_cons.1 hgap).2, hrow⟩

/-! ### Words joined by single spaces -/

/-- A trimmed text without two blanks in a row. -/
structure IsSpaced (text : String) : Prop extends IsTrimmed text where
  apart : text.toList.IsChain fun c d => ¬(isBlank c = true ∧ isBlank d = true)

theorem IsWord.isSpaced {word : String} (h : IsWord word) : IsSpaced word where
  ne_empty := h.ne_empty
  first c hc := h.unblank c (List.mem_of_head? hc)
  last c hc := h.unblank c (List.mem_of_getLast? hc)
  apart := by
    refine (List.pairwise_of_forall_mem_list fun c hc d _ hblank => ?_).isChain
    rw [h.unblank c hc] at hblank
    exact absurd hblank.1 Bool.false_ne_true

/-- A word and a space can come before. -/
theorem IsWord.isSpaced_append {word rest : String} (hword : IsWord word) (hrest : IsSpaced rest) :
    IsSpaced (word ++ " " ++ rest) := by
  have hspaced := hword.isSpaced
  have hrow : (word ++ " " ++ rest).toList = word.toList ++ ' ' :: rest.toList := by
    rw [String.toList_append, String.toList_append, List.append_assoc]
    rfl
  have hhead : (word ++ " " ++ rest).toList.head? = word.toList.head? := by
    rw [hrow, List.head?_append_of_ne_nil _ (by simpa using hword.ne_empty)]
  have hlast : (word ++ " " ++ rest).toList.getLast? = rest.toList.getLast? := by
    rw [String.toList_append, List.getLast?_append_of_ne_nil _ (by simpa using hrest.ne_empty)]
  refine ⟨⟨?_, fun c hc => hspaced.first c (hhead ▸ hc), fun c hc => hrest.last c (hlast ▸ hc)⟩, ?_⟩
  · intro hempty
    rw [hempty] at hrow
    simp at hrow
  · rw [hrow, List.isChain_append, List.isChain_cons]
    refine ⟨hspaced.apart, ⟨fun c hc hblank => ?_, hrest.apart⟩, fun c hc d _ hblank => ?_⟩
    · rw [hrest.first c hc] at hblank
      exact absurd hblank.2 Bool.false_ne_true
    · rw [hspaced.last c hc] at hblank
      exact absurd hblank.1 Bool.false_ne_true

theorem isSpaced_intercalate {words : List String} (hne : words ≠ [])
    (hwords : ∀ word ∈ words, IsWord word) : IsSpaced (" ".intercalate words) := by
  induction words with
  | nil => exact absurd rfl hne
  | cons word rest ih =>
      obtain ⟨hword, hrest⟩ := List.forall_mem_cons.1 hwords
      cases rest with
      | nil =>
          rw [String.intercalate_singleton]
          exact hword.isSpaced
      | cons next later =>
          rw [String.intercalate_cons_cons]
          exact hword.isSpaced_append (ih nofun hrest)

end Roundtable.Text
