import Roundtable.Command
import Roundtable.Proofs.Text.Words
/-!
What a line is read as: blank, a submission of the trimmed text, or a command, of which the argument is
made of words with single spaces between them.
-/

namespace Roundtable

open Text

namespace Line

variable {marker : Char} {text code : String}

theorem ofText_of_trimChars_nil (h : trimChars text.toList = []) : ofText marker text = .blank := by
  unfold ofText
  simp only [trim, String.toList_ofList, h]

theorem ofText_of_trimChars_cons {c : Char} {rest : List Char}
    (h : trimChars text.toList = c :: rest) :
    ofText marker text =
      if c = marker then .command (.ofText (String.ofList rest)) else .submission (trim text) := by
  unfold ofText
  simp only [trim, String.toList_ofList, h]

/-- A line is blank exactly if all of it is. -/
theorem ofText_eq_blank_iff : ofText marker text = .blank ↔ Blanks text.toList := by
  rw [← trimChars_eq_nil_iff]
  cases htrim : trimChars text.toList with
  | nil => exact iff_of_true (ofText_of_trimChars_nil htrim) rfl
  | cons c rest =>
      rw [ofText_of_trimChars_cons htrim]
      refine iff_of_false (fun h => ?_) (List.cons_ne_nil c rest)
      split at h <;> cases h

/-- The code of a submission is what the line is trimmed to, which does not begin with the marker. -/
theorem ofText_eq_submission_iff : ofText marker text = .submission code ↔
    code = trim text ∧ code ≠ "" ∧ code.toList.head? ≠ some marker := by
  have htoList : (trim text).toList = trimChars text.toList := String.toList_ofList
  cases htrim : trimChars text.toList with
  | nil =>
      rw [ofText_of_trimChars_nil htrim]
      refine iff_of_false (fun h => by cases h) ?_
      rintro ⟨rfl, hne, -⟩
      exact hne (String.toList_eq_nil_iff.1 (htoList.trans htrim))
  | cons c rest =>
      have hhead : (trim text).toList.head? = some c := by rw [htoList, htrim, List.head?_cons]
      rw [ofText_of_trimChars_cons htrim]
      split
      · rename_i hc
        refine iff_of_false (fun h => by cases h) ?_
        rintro ⟨rfl, -, hother⟩
        exact hother (hc ▸ hhead)
      · rename_i hc
        constructor
        · intro h
          obtain rfl := Line.submission.inj h
          refine ⟨rfl, fun hempty => ?_, fun hother => ?_⟩
          · rw [hempty] at hhead
            cases hhead
          · exact hc (Option.some.inj (hhead.symm.trans hother))
        · rintro ⟨rfl, -⟩
          rfl

theorem code_eq_trim (h : ofText marker text = .submission code) : code = trim text :=
  (ofText_eq_submission_iff.1 h).1

end Line

namespace Command

/-- The commands that take an argument. -/
inductive Verb where
  | join | switch | leave | load | save
  deriving DecidableEq, Repr

namespace Verb

def word : Verb → String
  | .join => "join"
  | .switch => "switch"
  | .leave => "leave"
  | .load => "load"
  | .save => "save"

/-- The command with its argument. -/
def command : Verb → String → Command
  | .join => .join
  | .switch => .switch
  | .leave => .leave
  | .load => .load
  | .save => .save

end Verb

variable {verb : Verb} {word argument given text : String}

theorem ofParts_eq_verb_iff : ofParts word argument = verb.command given ↔
    word = verb.word ∧ given = argument ∧ argument ≠ "" := by
  constructor
  · intro h
    unfold ofParts at h
    split at h <;> cases verb <;> cases h
    all_goals
      rename_i hargument
      exact ⟨rfl, rfl, by simpa using hargument⟩
  · rintro ⟨rfl, rfl, hargument⟩
    have hnot : given.isEmpty = false := by simpa using hargument
    cases verb <;> simp [ofParts, Verb.word, Verb.command, hnot]

/-- The argument that a command is read with is made of the words behind its own. -/
theorem ofText_eq_verb_iff : ofText text = verb.command argument ↔
    ∃ word tokens, words text = word :: tokens ∧ lowercase word = verb.word ∧
      tokens ≠ [] ∧ argument = " ".intercalate tokens := by
  unfold ofText
  split
  · rename_i hwords
    refine iff_of_false (fun h => (ofParts_eq_verb_iff.1 h).2.2 rfl) ?_
    rintro ⟨word, tokens, hsome, -⟩
    cases hwords.symm.trans hsome
  · rename_i word tokens hwords
    have htokens : tokens ≠ [] ↔ " ".intercalate tokens ≠ "" := by
      refine ⟨fun hne => (isSpaced_intercalate hne fun token htoken => ?_).ne_empty, ?_⟩
      · exact isWord_of_mem_words (hwords ▸ List.mem_cons_of_mem word htoken)
      · rintro hargument rfl
        exact hargument rfl
    rw [ofParts_eq_verb_iff, ← htokens]
    constructor
    · rintro ⟨hword, rfl, hne⟩
      exact ⟨word, tokens, hwords, hword, hne, rfl⟩
    · rintro ⟨_, _, hsame, hword, hne, rfl⟩
      cases hwords.symm.trans hsame
      exact ⟨hword, rfl, hne⟩

end Command

theorem mem_intercalate_singleton {α : Type} {x separator : α} {parts : List (List α)}
    (h : x ∈ [separator].intercalate parts) : x = separator ∨ ∃ part ∈ parts, x ∈ part := by
  induction parts with
  | nil => cases h
  | cons first rest ih =>
      cases rest with
      | nil => exact .inr ⟨first, List.mem_singleton_self first, by simpa using h⟩
      | cons second rest =>
          rw [List.intercalate_cons_cons, List.append_assoc, List.singleton_append] at h
          rcases List.mem_append.1 h with hfirst | hrest
          · exact .inr ⟨first, List.mem_cons_self, hfirst⟩
          · rcases List.mem_cons.1 hrest with hsep | hrest
            · exact .inl hsep
            · exact (ih hrest).imp_right fun ⟨part, hpart, hx⟩ =>
                ⟨part, List.mem_cons_of_mem first hpart, hx⟩

/-- A character of a name to join under is a space or no blank at all. -/
theorem Command.mem_name {text name : String} {c : Char} (h : Command.ofText text = .join name)
    (hc : c ∈ name.toList) : c = ' ' ∨ isBlank c = false := by
  have hjoin : Command.ofText text = Verb.join.command name := h
  obtain ⟨word, tokens, hwords, -, -, rfl⟩ := ofText_eq_verb_iff.1 hjoin
  rw [String.toList_intercalate] at hc
  refine (mem_intercalate_singleton hc).imp_right ?_
  rintro ⟨part, hpart, hc⟩
  obtain ⟨token, htoken, rfl⟩ := List.mem_map.1 hpart
  exact (isWord_of_mem_words (hwords ▸ List.mem_cons_of_mem word htoken)).unblank c hc

end Roundtable
