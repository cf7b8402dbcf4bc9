import Mathlib.Data.List.Infix
import Mathlib.Tactic.Choose
import Roundtable.Journal.LogText
/-!
What reading a log finds in the text of a journal. Every entry that is written as one line is found
again, with its author cut at the first colon that a space follows; so an author is read back as it
was exactly when it holds no such colon.
-/

namespace Roundtable.Journal

section Lines

variable {text line : List Char}

theorem linesFrom_of_not_mem (h : '\n' ∉ text) (hne : text.reverse ++ line ≠ []) :
    linesFrom line text = [line.reverse ++ text] := by
  induction text generalizing line with
  | nil =>
      rw [linesFrom, if_neg (by simpa using hne), List.append_nil]
  | cons c rest ih =>
      obtain ⟨hc, hrest⟩ := not_or.1 fun hmem => h (List.mem_cons.2 hmem)
      rw [linesFrom, if_neg (Ne.symm hc), ih hrest (by simp), List.reverse_cons, List.append_assoc]
      rfl

theorem linesFrom_lineFeed (h : '\n' ∉ text) (rest : List Char) :
    linesFrom line (text ++ '\n' :: rest) =
      beforeLineFeed (text.reverse ++ line) :: linesFrom [] rest := by
  induction text generalizing line with
  | nil => rfl
  | cons c text ih =>
      obtain ⟨hc, htext⟩ := not_or.1 fun hmem => h (List.mem_cons.2 hmem)
      rw [List.cons_append, linesFrom, if_neg (Ne.symm hc), ih htext, List.reverse_cons,
        List.append_assoc]
      rfl

theorem beforeLineFeed_reverse (h : text.getLast? ≠ some '\r') :
    beforeLineFeed text.reverse = text := by
  unfold beforeLineFeed
  split
  · rename_i heq
    rw [List.getLast?_eq_head?_reverse, heq] at h
    exact absurd rfl h
  · exact List.reverse_reverse text

theorem beforeLineFeed_append {first second : List Char} (h : first.getLast? ≠ some '\r') :
    beforeLineFeed (first ++ second).reverse = first ++ beforeLineFeed second.reverse := by
  rcases List.eq_nil_or_concat second with rfl | ⟨init, last, rfl⟩
  · rw [List.append_nil, beforeLineFeed_reverse h]
    exact (List.append_nil first).symm
  · rw [List.concat_eq_append, ← List.append_assoc, List.reverse_concat, List.reverse_concat]
    unfold beforeLineFeed
    split
    · rename_i heq
      obtain ⟨rfl, rfl⟩ := List.cons.inj heq
      simp
    · rename_i hnot
      split
      · rename_i heq
        obtain ⟨rfl, -⟩ := List.cons.inj heq
        exact absurd rfl (hnot _)
      · simp

/-- Lines joined by line feeds are found again, all but the last without a carriage return at their
end. -/
theorem linesFrom_intercalate {lines : List (List Char)} (hfeed : ∀ line ∈ lines, '\n' ∉ line)
    (hne : ∀ line ∈ lines, line ≠ []) :
    linesFrom [] (['\n'].intercalate lines) =
      (lines.dropLast.map fun line => beforeLineFeed line.reverse) ++ lines.getLast?.toList := by
  induction lines with
  | nil => rfl
  | cons line rest ih =>
      obtain ⟨hline, hfeed⟩ := List.forall_mem_cons.1 hfeed
      obtain ⟨hfirst, hne⟩ := List.forall_mem_cons.1 hne
      cases rest with
      | nil =>
          rw [List.intercalate_singleton, linesFrom_of_not_mem hline (by simpa using hfirst)]
          rfl
      | cons next rest =>
          rw [List.intercalate_cons_cons, List.append_assoc, List.singleton_append,
            linesFrom_lineFeed hline, List.append_nil, ih hfeed hne, List.dropLast_cons_cons,
            List.getLast?_cons_cons]
          rfl

end Lines

section Authors

variable {author code text : List Char}

/-- Whether a colon that a space follows stands in a text. -/
def HasSeparator (text : List Char) : Prop :=
  [':', ' '] <:+: text

theorem splitAuthor?_of_not_separator (h : ¬HasSeparator author) (code : List Char) :
    splitAuthor? (author ++ ':' :: ' ' :: code) = some (author, code) := by
  induction author with
  | nil => rfl
  | cons c rest ih =>
      have hrest : ¬HasSeparator rest := fun hin => h (hin.trans (List.suffix_cons c rest).isInfix)
      rw [List.cons_append, splitAuthor?.eq_2 _ _ ?_, ih hrest]
      · rfl
      · intro code' hc heq
        cases rest with
        | nil => cases heq
        | cons d rest =>
            obtain ⟨rfl, -⟩ := List.cons.inj heq
            exact h ⟨[], rest, by rw [hc]; rfl⟩

theorem splitAuthor?_sound (h : splitAuthor? text = some (author, code)) :
    text = author ++ ':' :: ' ' :: code ∧ ¬HasSeparator author := by
  fun_induction splitAuthor? text generalizing author with
  | case1 rest =>
      cases h
      exact ⟨rfl, fun hin => by simpa using hin.length_le⟩
  | case2 c rest hhead ih =>
      obtain ⟨⟨inner, after⟩, hsplit, heq⟩ := Option.map_eq_some_iff.1 h
      cases heq
      obtain ⟨htext, hnot⟩ := ih hsplit
      refine ⟨by rw [htext]; rfl, ?_⟩
      intro hin
      obtain ⟨more, hprefix⟩ | hin := List.infix_cons_iff.1 hin
      · -- A separator at the very head would have been taken as the end of the author.
        obtain ⟨rfl, hinner⟩ := List.cons.inj hprefix
        exact hhead (more ++ ':' :: ' ' :: code) rfl (by rw [htext, ← hinner]; rfl)
      · exact hnot hin
  | case3 => cases h

/-- The author and the code are told apart as they were joined only if no separator stands in the
author. -/
theorem splitAuthor?_eq_iff (code : List Char) :
    splitAuthor? (author ++ ':' :: ' ' :: code) = some (author, code) ↔ ¬HasSeparator author :=
  ⟨fun h => (splitAuthor?_sound h).2, fun h => splitAuthor?_of_not_separator h code⟩

/-- Wherever they are told apart, together they are what was joined. -/
theorem splitAuthor?_append (author code : List Char) :
    ∃ given rest, splitAuthor? (author ++ ':' :: ' ' :: code) = some (given, rest) ∧
      given ++ ':' :: ' ' :: rest = author ++ ':' :: ' ' :: code := by
  have hsome : splitAuthor? (author ++ ':' :: ' ' :: code) ≠ none := by
    induction author with
    | nil => exact Option.some_ne_none _
    | cons c rest ih =>
        rw [List.cons_append]
        unfold splitAuthor?
        split
        · exact Option.some_ne_none _
        · rename_i heq
          cases heq
          exact mt Option.map_eq_none_iff.1 ih
        · rename_i heq
          cases heq
  obtain ⟨⟨given, rest⟩, hsplit⟩ := Option.ne_none_iff_exists'.1 hsome
  exact ⟨given, rest, hsplit, (splitAuthor?_sound hsplit).1.symm⟩

end Authors

/-! The time at the head of a line. -/

theorem isDecimalDigit_digitChar {n : Nat} (h : n < 10) : Text.isDecimalDigit (Nat.digitChar n) := by
  have hall : ∀ m : Fin 10, Text.isDecimalDigit (Nat.digitChar m) := by decide
  exact hall ⟨n, h⟩

/-- The time of an entry has the form that a log line begins with. -/
theorem clockTime_digits (moment : Moment) : ∃ a b c d e f,
    moment.clockTime = [a, b, ':', c, d, ':', e, f] ∧
      ∀ digit ∈ [a, b, c, d, e, f], Text.isDecimalDigit digit := by
  have hday : moment.secondOfDay < 86400 := by
    unfold Moment.secondOfDay
    omega
  refine ⟨_, _, _, _, _, _, rfl, ?_⟩
  simp only [List.forall_mem_cons]
  refine ⟨?_, ?_, ?_, ?_, ?_, ?_, by simp⟩
  all_goals exact isDecimalDigit_digitChar (by omega)

theorem afterPattern?_clockTime (moment : Moment) (rest : List Char) :
    afterPattern? "[00:00:00] ".toList ('[' :: moment.clockTime ++ ']' :: ' ' :: rest) =
      some rest := by
  obtain ⟨a, b, c, d, e, f, hclock, hdigits⟩ := clockTime_digits moment
  simp only [List.forall_mem_cons] at hdigits
  obtain ⟨ha, hb, hc, hd, he, hf, -⟩ := hdigits
  rw [hclock]
  simp [afterPattern?, ha, hb, hc, hd, he, hf]

theorem lineFeed_not_mem_clockTime (moment : Moment) : '\n' ∉ moment.clockTime := by
  obtain ⟨a, b, c, d, e, f, hclock, hdigits⟩ := clockTime_digits moment
  have hfeed : ¬Text.isDecimalDigit '\n' := by decide
  rw [hclock]
  intro hmem
  have hmem : '\n' ∈ [a, b, c, d, e, f] := by simpa using hmem
  exact hfeed (hdigits _ hmem)

theorem toList_entryLine (entry : Entry) :
    entry.line.toList =
      '[' :: entry.moment.clockTime ++
        ']' :: ' ' :: (entry.author.toList ++ ':' :: ' ' :: entry.code.toList) := by
  simp [Entry.line, Entry.time, String.toList_append]

/-- What a log tells of an entry that is one line. -/
theorem readLogLine?_entryLine (entry : Entry) :
    ∃ given rest, readLogLine? entry.line.toList = some (given, rest) ∧
      given ++ ": " ++ rest = entry.author ++ ": " ++ entry.code ∧
      ((given, rest) = (entry.author, entry.code) ↔ ¬HasSeparator entry.author.toList) := by
  obtain ⟨given, rest, hsplit, hjoined⟩ :=
    splitAuthor?_append entry.author.toList entry.code.toList
  refine ⟨String.ofList given, String.ofList rest, ?_, ?_, ?_⟩
  · unfold readLogLine?
    rw [toList_entryLine, afterPattern?_clockTime]
    simp [hsplit]
  · apply String.toList_inj.1
    simpa [String.toList_append] using hjoined
  · rw [← splitAuthor?_eq_iff entry.code.toList, hsplit]
    simp [← String.toList_inj]

section Journals

variable {journal : Journal}

theorem lineFeed_not_mem_entryLine {entry : Entry} (hauthor : '\n' ∉ entry.author.toList)
    (hcode : '\n' ∉ entry.code.toList) : '\n' ∉ entry.line.toList := by
  rw [toList_entryLine]
  simp [lineFeed_not_mem_clockTime, hauthor, hcode]

/-- The entry as its line tells it when a line feed follows. -/
def beforeFeed (entry : Entry) : Entry :=
  { entry with code := String.ofList (beforeLineFeed entry.code.toList.reverse) }

/-- The entries as the lines of a log tell them: a line feed follows all but the last. -/
def toldEntries (entries : List Entry) : List Entry :=
  entries.dropLast.map beforeFeed ++ entries.getLast?.toList

theorem toList_line_beforeFeed (entry : Entry) :
    (beforeFeed entry).line.toList = beforeLineFeed entry.line.toList.reverse := by
  have hline (code : List Char) :
      '[' :: entry.moment.clockTime ++ ']' :: ' ' :: (entry.author.toList ++ ':' :: ' ' :: code) =
        ('[' :: entry.moment.clockTime ++ ']' :: ' ' :: (entry.author.toList ++ [':', ' '])) ++
          code := by
    simp
  rw [toList_entryLine, toList_entryLine, hline entry.code.toList, beforeLineFeed_append]
  · simp [beforeFeed]
  · simp [List.getLast?_append, List.getLast?_cons]

theorem map_line_toldEntries (entries : List Entry) :
    (toldEntries entries).map (String.toList ∘ Entry.line) =
      ((entries.map (String.toList ∘ Entry.line)).dropLast.map fun line =>
          beforeLineFeed line.reverse) ++
        (entries.map (String.toList ∘ Entry.line)).getLast?.toList := by
  rcases List.eq_nil_or_concat entries with rfl | ⟨init, last, rfl⟩
  · rfl
  · simp [toldEntries, Function.comp_def, toList_line_beforeFeed]

theorem toldEntries_eq_self {entries : List Entry}
    (hreturn : ∀ entry ∈ entries.dropLast, entry.code.toList.getLast? ≠ some '\r') :
    toldEntries entries = entries := by
  have hsame : entries.dropLast.map beforeFeed = entries.dropLast := by
    refine (List.map_congr_left fun entry hentry => ?_).trans (List.map_id _)
    rw [beforeFeed, beforeLineFeed_reverse (hreturn entry hentry), String.ofList_toList]
    rfl
  rw [toldEntries, hsame]
  rcases List.eq_nil_or_concat entries with rfl | ⟨init, last, rfl⟩
  · rfl
  · simp

/-- Reading a log goes entry by entry if every entry is one line. -/
theorem readLog_logText (hfeed : ∀ entry ∈ journal.entries.toList, '\n' ∉ entry.line.toList) :
    readLog journal.logText =
      (toldEntries journal.entries.toList).filterMap fun entry => readLogLine? entry.line.toList := by
  have hlines : linesFrom [] journal.logText.toList =
      (toldEntries journal.entries.toList).map fun entry => entry.line.toList := by
    rw [logText, String.toList_intercalate, List.map_map]
    refine (linesFrom_intercalate ?_ ?_).trans ?_
    · simpa using hfeed
    · simp [toList_entryLine]
    · exact (map_line_toldEntries journal.entries.toList).symm
  rw [readLog, hlines, List.filterMap_map]
  rfl

/-- What was joined on the lines of a log is found again, and told apart as it was if and only if no
author holds a separator. -/
theorem readLog_logText_told (hfeed : ∀ entry ∈ journal.entries.toList, '\n' ∉ entry.line.toList) :
    ((readLog journal.logText).map fun (author, code) => author ++ ": " ++ code) =
      ((toldEntries journal.entries.toList).map fun entry => entry.author ++ ": " ++ entry.code) ∧
    (readLog journal.logText =
        ((toldEntries journal.entries.toList).map fun entry => (entry.author, entry.code)) ↔
      ∀ entry ∈ toldEntries journal.entries.toList, ¬HasSeparator entry.author.toList) := by
  choose given rest hread hjoined hsplit using readLogLine?_entryLine
  have hmap : readLog journal.logText =
      (toldEntries journal.entries.toList).map fun entry => (given entry, rest entry) := by
    rw [readLog_logText hfeed]
    simp only [hread]
    exact congrFun List.filterMap_eq_map' _
  rw [hmap]
  constructor
  · rw [List.map_map]
    exact List.map_congr_left fun entry _ => hjoined entry
  · rw [List.map_inj_left]
    exact forall₂_congr fun entry _ => hsplit entry

/-- Nothing that was written as lines is lost, and authors and codes come back in their places if
and only if no author holds a separator. -/
theorem readLog_logText_eq_iff (hfeed : ∀ entry ∈ journal.entries.toList, '\n' ∉ entry.line.toList)
    (hreturn : ∀ entry ∈ journal.entries.toList.dropLast, entry.code.toList.getLast? ≠ some '\r') :
    ((readLog journal.logText).map fun (author, code) => author ++ ": " ++ code) =
      (journal.entries.toList.map fun entry => entry.author ++ ": " ++ entry.code) ∧
    (readLog journal.logText =
        (journal.entries.toList.map fun entry => (entry.author, entry.code)) ↔
      ∀ entry ∈ journal.entries.toList, ¬HasSeparator entry.author.toList) := by
  have htold := readLog_logText_told hfeed
  rwa [toldEntries_eq_self hreturn] at htold

end Journals

end Roundtable.Journal
