import Roundtable.Proofs.Journal.LogText
/-!
Which journals a log tells without loss. An entry that is broken over lines cannot be made up for by
another one, since nothing that is read from a line holds a line feed; and a line keeps the carriage
return at its end only if no line feed follows. So a log is read back as it was written exactly when
each entry is a line of its own, ends in no carriage return unless it is the last one, and has an
author without a separator.
-/

namespace Roundtable.Journal

section Lines

variable {text line found : List Char}

theorem mem_of_mem_beforeLineFeed {c : Char} (h : c ∈ beforeLineFeed line) : c ∈ line := by
  unfold beforeLineFeed at h
  split at h
  · exact List.mem_cons_of_mem _ (List.mem_reverse.1 h)
  · exact List.mem_reverse.1 h

theorem lineFeed_not_mem_linesFrom (hline : '\n' ∉ line) (hfound : found ∈ linesFrom line text) :
    '\n' ∉ found := by
  induction text generalizing line with
  | nil =>
      unfold linesFrom at hfound
      split at hfound
      · cases hfound
      · rw [List.mem_singleton.1 hfound]
        exact fun hfeed => hline (List.mem_reverse.1 hfeed)
  | cons c rest ih =>
      unfold linesFrom at hfound
      split at hfound
      · rcases List.mem_cons.1 hfound with hfirst | hlater
        · rw [hfirst]
          exact fun hfeed => hline (mem_of_mem_beforeLineFeed hfeed)
        · exact ih List.not_mem_nil hlater
      · rename_i hc
        refine ih ?_ hfound
        rw [List.mem_cons]
        exact not_or.2 ⟨Ne.symm hc, hline⟩

theorem afterPattern?_suffix {pattern rest : List Char} (h : afterPattern? pattern text = some rest) :
    rest <:+ text := by
  induction pattern generalizing text with
  | nil =>
      cases h
      exact List.suffix_rfl
  | cons p pattern ih =>
      cases text with
      | nil => cases h
      | cons c text =>
          rw [afterPattern?, Option.ite_none_right_eq_some] at h
          exact (ih h.2).trans (List.suffix_cons c text)

/-- What is read from a line is part of it. -/
theorem mem_of_readLogLine? {author code : String} (h : readLogLine? line = some (author, code))
    {c : Char} (hc : c ∈ author.toList ∨ c ∈ code.toList) : c ∈ line := by
  unfold readLogLine? at h
  obtain ⟨rest, hrest, h⟩ := Option.bind_eq_some_iff.1 h
  obtain ⟨⟨given, found⟩, hsplit, h⟩ := Option.bind_eq_some_iff.1 h
  cases h
  rw [String.toList_ofList, String.toList_ofList] at hc
  apply (afterPattern?_suffix hrest).subset
  rw [(splitAuthor?_sound hsplit).1]
  rcases hc with hauthor | hcode
  · exact List.mem_append_left _ hauthor
  · exact List.mem_append_right _ (List.mem_cons_of_mem _ (List.mem_cons_of_mem _ hcode))

theorem lineFeed_not_mem_readLog {log author code : String} (h : (author, code) ∈ readLog log) :
    '\n' ∉ author.toList ∧ '\n' ∉ code.toList := by
  obtain ⟨line, hline, hread⟩ := List.mem_filterMap.1 h
  have hfeed : '\n' ∉ line := lineFeed_not_mem_linesFrom List.not_mem_nil hline
  exact ⟨fun hauthor => hfeed (mem_of_readLogLine? hread (.inl hauthor)),
    fun hcode => hfeed (mem_of_readLogLine? hread (.inr hcode))⟩

end Lines

section Journals

variable {journal : Journal}

/-- A code that ends in a carriage return is told without it. -/
theorem code_end_of_beforeFeed {entry : Entry} (h : (beforeFeed entry).code = entry.code) :
    entry.code.toList.getLast? ≠ some '\r' := by
  intro hend
  rcases List.eq_nil_or_concat entry.code.toList with hnil | ⟨init, last, hcode⟩
  · rw [hnil] at hend
    cases hend
  · rw [List.concat_eq_append] at hcode
    rw [hcode, List.getLast?_concat] at hend
    cases hend
    have hlength := congrArg String.length h
    simp [beforeFeed, hcode, beforeLineFeed, ← String.length_toList] at hlength

/-- If what was joined on the lines is found again, no line feed has taken anything. -/
theorem code_end_of_toldEntries {entries : List Entry}
    (h : ((toldEntries entries).map fun entry => entry.author ++ ": " ++ entry.code) =
      entries.map fun entry => entry.author ++ ": " ++ entry.code) :
    ∀ entry ∈ entries.dropLast, entry.code.toList.getLast? ≠ some '\r' := by
  rcases List.eq_nil_or_concat entries with rfl | ⟨init, last, rfl⟩
  · exact fun entry hentry => by cases hentry
  · rw [List.concat_eq_append] at h ⊢
    rw [toldEntries, List.dropLast_concat, List.getLast?_concat, Option.toList_some,
      List.map_append, List.map_append, List.map_map, List.append_cancel_right_eq,
      List.map_inj_left] at h
    rw [List.dropLast_concat]
    intro entry hentry
    apply code_end_of_beforeFeed
    have hjoined := congrArg String.toList (h entry hentry)
    simpa [beforeFeed, String.toList_append, ← String.toList_inj] using hjoined

/-- A journal is read back from its log as it was, author by author and code by code, exactly if no
author holds a separator, no author and no code a line feed, and no code but the last one ends in a
carriage return. -/
theorem readLog_logText_eq_entries_iff (journal : Journal) :
    readLog journal.logText =
        (journal.entries.toList.map fun entry => (entry.author, entry.code)) ↔
      (∀ entry ∈ journal.entries.toList,
        ¬HasSeparator entry.author.toList ∧ '\n' ∉ entry.author.toList ∧
          '\n' ∉ entry.code.toList) ∧
      ∀ entry ∈ journal.entries.toList.dropLast, entry.code.toList.getLast? ≠ some '\r' := by
  constructor
  · intro hread
    have hfree : ∀ entry ∈ journal.entries.toList,
        '\n' ∉ entry.author.toList ∧ '\n' ∉ entry.code.toList := by
      intro entry hentry
      apply lineFeed_not_mem_readLog
      rw [hread]
      exact List.mem_map_of_mem hentry
    have hfeed : ∀ entry ∈ journal.entries.toList, '\n' ∉ entry.line.toList :=
      fun entry hentry => lineFeed_not_mem_entryLine (hfree entry hentry).1 (hfree entry hentry).2
    have hreturn : ∀ entry ∈ journal.entries.toList.dropLast,
        entry.code.toList.getLast? ≠ some '\r' := by
      apply code_end_of_toldEntries
      rw [← (readLog_logText_told hfeed).1, hread, List.map_map]
      rfl
    have hauthor := (readLog_logText_eq_iff hfeed hreturn).2.1 hread
    exact ⟨fun entry hentry => ⟨hauthor entry hentry, hfree entry hentry⟩, hreturn⟩
  · rintro ⟨hentries, hreturn⟩
    have hfeed : ∀ entry ∈ journal.entries.toList, '\n' ∉ entry.line.toList :=
      fun entry hentry =>
        lineFeed_not_mem_entryLine (hentries entry hentry).2.1 (hentries entry hentry).2.2
    exact (readLog_logText_eq_iff hfeed hreturn).2.2 fun entry hentry => (hentries entry hentry).1

end Journals

end Roundtable.Journal
