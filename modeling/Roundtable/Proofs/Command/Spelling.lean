import Roundtable.Proofs.Command
/-!
The ways to write a command. The word of a command can be written in any case of its letters, and blanks
can stand around a line, behind the marker and between words; the command that is read is the same.
-/

namespace Roundtable

open Text

/-! ### Letters of either case -/

section Letters

variable {c : Char} {letters : List Char}

theorem toLower_eq_self_or (c : Char) : c.toLower = c ∨ 65 ≤ c.toNat ∧ c.toNat ≤ 90 := by
  unfold Char.toLower
  split
  · rename_i hcapital
    exact .inr ⟨UInt32.le_iff_toNat_le.1 hcapital.1, UInt32.le_iff_toNat_le.1 hcapital.2⟩
  · exact .inl rfl

theorem toNat_lt_of_toLower (h : c.toLower.toNat < 128) : c.toNat < 128 := by
  rcases toLower_eq_self_or c with hsame | ⟨-, hhigh⟩
  · rwa [hsame] at h
  · omega

/-- No capital letter is blank. -/
theorem isBlank_of_toLower (h : isBlank c.toLower = false) : isBlank c = false := by
  rcases toLower_eq_self_or c with hsame | ⟨hlow, hhigh⟩
  · rwa [hsame] at h
  · rw [Bool.eq_false_iff, isBlank, ne_eq, CharRanges.has_iff]
    simp only [blankRanges, List.mem_toArray, List.mem_cons, List.not_mem_nil, or_false]
    rintro ⟨range, hrange, hreach⟩
    rcases hrange with rfl | rfl | rfl | rfl | rfl | rfl | rfl | rfl | rfl | rfl <;>
      dsimp only at hreach <;> omega

/-- The letters of ASCII are lowercased one by one. -/
theorem lowerAfter_ascii (before : List Char) (h : ∀ c ∈ letters, c.toNat < 128) :
    lowerAfter before letters = letters.map Char.toLower := by
  induction letters generalizing before with
  | nil => rfl
  | cons c rest ih =>
      obtain ⟨hc, hrest⟩ := List.forall_mem_cons.1 h
      have hsigma : c.toNat ≠ 0x3A3 := by omega
      rw [lowerAfter, if_neg hsigma, lowerChar, if_pos hc, ih (c :: before) hrest]
      rfl

/-- The lowercase of a character beyond ASCII is beyond it too, but for the Kelvin sign. -/
theorem image_of_mem_lowercaseRuns : ∀ run ∈ lowercaseRuns.toList,
    run = (0x212A, 0x212A, 1, 0x6B) ∨
      128 ≤ run.2.2.2 ∧ (run.2.2.2 + (run.2.1 - run.1) < 0xD800 ∨
        0xE000 ≤ run.2.2.2 ∧ run.2.2.2 + (run.2.1 - run.1) < 0x110000) := by
  decide +kernel

theorem toNat_lt_of_lowerChar (h : ∀ d ∈ lowerChar c, d.toNat < 128 ∧ d ≠ 'k') :
    c.toNat < 128 := by
  by_contra hc
  unfold lowerChar at h
  rw [if_neg hc] at h
  split at h
  · exact absurd (h (Char.ofNat 0x307) (by simp)).1 (by decide)
  split at h
  · rename_i first last stride image hrun
    have hmem := Array.mem_def.1 (Array.mem_of_find?_eq_some hrun)
    have hreach := Array.find?_some hrun
    simp only [Bool.and_eq_true, decide_eq_true_eq] at hreach
    obtain ⟨hsmall, hnot⟩ := h _ (List.mem_singleton_self _)
    rcases image_of_mem_lowercaseRuns _ hmem with hkelvin | ⟨hlow, hvalid⟩
    · cases hkelvin
      have hsign : c.toNat = 0x212A := by omega
      rw [hsign] at hnot
      exact hnot rfl
    · dsimp only at hlow hvalid
      have hchar : (image + (c.toNat - first)).isValidChar := by
        unfold Nat.isValidChar
        omega
      rw [Char.ofNat, dif_pos hchar] at hsmall
      have himage : image + (c.toNat - first) < 128 := hsmall
      omega
  · exact hc (h c (List.mem_singleton_self c)).1

/-- What becomes small letters of ASCII other than the k was of ASCII. -/
theorem toNat_lt_of_lowerAfter {before : List Char}
    (h : ∀ d ∈ lowerAfter before letters, d.toNat < 128 ∧ d ≠ 'k') :
    ∀ c ∈ letters, c.toNat < 128 := by
  induction letters generalizing before with
  | nil => exact List.forall_mem_nil _
  | cons c rest ih =>
      rw [lowerAfter, List.forall_mem_append] at h
      obtain ⟨hfirst, hrest⟩ := h
      refine List.forall_mem_cons.2 ⟨?_, ih hrest⟩
      split at hfirst
      · split at hfirst <;>
          exact absurd (hfirst _ (List.mem_singleton_self _)).1 (by decide)
      · exact toNat_lt_of_lowerChar hfirst

end Letters

namespace Command

variable {verb : Verb} {word : String}

/-- The words are of small letters of ASCII, and the Kelvin sign becomes none of these. -/
theorem Verb.plain_of_mem_word {c : Char} (h : c ∈ verb.word.toList) :
    c.toNat < 128 ∧ c ≠ 'k' ∧ isBlank c = false := by
  have hall : verb.word.toList.all fun c => c.toNat < 128 && c ≠ 'k' && !isBlank c := by
    cases verb <;> decide +kernel
  simpa [and_assoc] using List.all_eq_true.1 hall c h

/-- The ways to write the word of a command. -/
def Verb.SpelledBy (verb : Verb) (word : String) : Prop :=
  word.toList.map Char.toLower = verb.word.toList

namespace Verb.SpelledBy

theorem mem_word (h : verb.SpelledBy word) {c : Char} (hc : c ∈ word.toList) :
    c.toLower ∈ verb.word.toList :=
  h ▸ List.mem_map_of_mem hc

theorem toNat_lt (h : verb.SpelledBy word) : ∀ c ∈ word.toList, c.toNat < 128 :=
  fun _ hc => toNat_lt_of_toLower (plain_of_mem_word (h.mem_word hc)).1

theorem isWord (h : verb.SpelledBy word) : IsWord word where
  ne_empty hempty := by
    have hword : verb.word.toList ≠ [] := by cases verb <;> decide
    rw [hempty] at h
    exact hword h.symm
  unblank _ hc := isBlank_of_toLower (plain_of_mem_word (h.mem_word hc)).2.2

end Verb.SpelledBy

/-- These are the ways to write a text of which the word is the lowercase. -/
theorem Verb.spelledBy_iff : verb.SpelledBy word ↔ lowercase word = verb.word := by
  unfold SpelledBy lowercase
  rw [← String.toList_inj, String.toList_ofList]
  constructor
  · intro h
    rw [lowerAfter_ascii [] (SpelledBy.toNat_lt h), h]
  · intro h
    have hplain : ∀ d ∈ verb.word.toList, d.toNat < 128 ∧ d ≠ 'k' :=
      fun d hd => ⟨(plain_of_mem_word hd).1, (plain_of_mem_word hd).2.1⟩
    rw [← h, lowerAfter_ascii [] (toNat_lt_of_lowerAfter (h.symm ▸ hplain))]

/-- The ways to write a command with its argument: blanks around the line and behind the marker, the
word in any case, and a gap of blanks before each token. -/
inductive Verb.Written (marker : Char) (verb : Verb) (tokens : List String) : String → Prop where
  | intro {before behind row : List Char} {word : String} :
      Blanks before → Blanks behind → verb.SpelledBy word → tokens ≠ [] → Laid tokens row →
      Written marker verb tokens
        (String.ofList (before ++ marker :: (behind ++ word.toList ++ row)))

end Command

namespace Line

variable {marker : Char} {verb : Command.Verb} {tokens : List String} {text : String}

/-- However a command is written, it is read with its tokens joined by single spaces. -/
theorem ofText_of_written (hmarker : isBlank marker = false) (h : verb.Written marker tokens text) :
    ofText marker text = .command (verb.command (" ".intercalate tokens)) := by
  obtain @⟨before, behind, row, word, hbefore, hbehind, hword, hne, hrow⟩ := h
  obtain ⟨kept, after, htrim, hkept, hafter⟩ :=
    trimChars_append_cons hbefore hmarker (behind ++ word.toList ++ row)
  have hwords : words (String.ofList kept) = word :: tokens :=
    words_of_laid hafter hbehind hword.isWord hrow hkept
  have hread : Command.ofText (String.ofList kept) = verb.command (" ".intercalate tokens) :=
    Command.ofText_eq_verb_iff.2
      ⟨word, tokens, hwords, Command.Verb.spelledBy_iff.1 hword, hne, rfl⟩
  rw [ofText_of_trimChars_cons (by rw [String.toList_ofList, htrim]), if_pos rfl, hread]

/-- The text of a command is its marker and its words, with blanks wherever they can be. -/
theorem written_of_ofText {argument : String}
    (h : ofText marker text = .command (verb.command argument)) :
    ∃ tokens, verb.Written marker tokens text ∧ argument = " ".intercalate tokens := by
  obtain ⟨before, after, htext, hbefore, hafter⟩ := exists_blanks_trimChars text.toList
  cases htrim : trimChars text.toList with
  | nil =>
      rw [ofText_of_trimChars_nil htrim] at h
      cases h
  | cons c rest =>
      rw [ofText_of_trimChars_cons htrim] at h
      split at h
      · rename_i hc
        obtain ⟨word, tokens, hwords, hlower, hne, rfl⟩ :=
          Command.ofText_eq_verb_iff.1 (Line.command.inj h)
        obtain ⟨behind, row, hrest, hbehind, hrow⟩ := exists_blanks_of_words hwords
        have hwritten : verb.Written marker tokens
            (String.ofList (before ++ marker :: (behind ++ word.toList ++ (row ++ after)))) :=
          .intro hbefore hbehind (Command.Verb.spelledBy_iff.2 hlower) hne
            (hrow.append_blanks hafter)
        refine ⟨tokens, ?_, rfl⟩
        rw [String.toList_ofList] at hrest
        rw [htrim, hc, hrest] at htext
        rw [← String.ofList_toList (s := text), htext]
        simpa using hwritten
      · cases h

/-- The argument of a command that is read has no blank at either end and no two in a row. -/
theorem isSpaced_of_ofText {argument : String}
    (h : ofText marker text = .command (verb.command argument)) : IsSpaced argument := by
  obtain ⟨tokens, ⟨-, -, -, hne, hrow⟩, rfl⟩ := written_of_ofText h
  exact isSpaced_intercalate hne hrow.isWord

end Line

end Roundtable
