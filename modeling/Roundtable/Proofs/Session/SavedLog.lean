import Roundtable.Proofs.Journal.LogText
import Roundtable.Proofs.Roster.Names
import Roundtable.Proofs.Session.Replay
/-!
The log that a session saves. Lines without a line feed put no line feed into the journal, so every
entry is one line of the log and is found again. A name with a colon before one of its spaces is
then cut short, and its rest is read as code.
-/

namespace Roundtable

/-- An entry that is one line of a log. -/
structure Entry.IsLine (entry : Entry) : Prop where
  author_line : '\n' ∉ entry.author.toList
  code_line : '\n' ∉ entry.code.toList
  code_end : entry.code.toList.getLast? ≠ some '\r'

/-- All of whose entries, now and later, are lines of a log. -/
structure Standing.IsLegible (standing : Standing) : Prop where
  placeholder : '\n' ∉ standing.config.placeholder.toList
  names : standing.roster.EveryName fun name => '\n' ∉ name.toList
  entries : ∀ entry ∈ standing.journal.entries.toList, entry.IsLine

/-- A submission from a text without a line feed is a line that ends in no blank. -/
theorem Line.isLine_of_submission {marker : Char} {text code author : String} {moment : Moment}
    (h : Line.ofText marker text = .submission code) (htext : '\n' ∉ text.toList)
    (hauthor : '\n' ∉ author.toList) : (⟨author, code, moment⟩ : Entry).IsLine := by
  have hcode : code.toList = Text.trimChars text.toList := by
    rw [Line.code_eq_trim h, Text.trim, String.toList_ofList]
  refine ⟨hauthor, ?_, ?_⟩
  · rw [hcode]
    exact fun hfeed => htext (Text.mem_of_mem_trimChars hfeed)
  · rw [hcode]
    intro hend
    have hblank : Text.isBlank '\r' = true := by decide +kernel
    rw [Text.isBlank_getLast?_trimChars hend] at hblank
    cases hblank

/-- No line, with a line feed or without, brings a line feed into a name. -/
theorem Line.lineFeed_not_mem_name {marker : Char} {text name : String}
    (h : Line.ofText marker text = .command (.join name)) : '\n' ∉ (Text.trim name).toList := by
  unfold Line.ofText at h
  dsimp only at h
  split at h
  · cases h
  split at h
  · rw [Text.trim, String.toList_ofList]
    intro hfeed
    have hblank : Text.isBlank '\n' = true := by decide +kernel
    rcases Command.mem_name (Line.command.inj h) (Text.mem_of_mem_trimChars hfeed) with hspace | hnot
    · exact absurd hspace (by decide)
    · rw [hnot] at hblank
      cases hblank
  · cases h

namespace Standing.IsLegible

variable {standing : Standing}

theorem fresh {config : Config} (hplaceholder : '\n' ∉ config.placeholder.toList) :
    (Session.fresh config).standing.IsLegible where
  placeholder := hplaceholder
  names := Roster.EveryName.empty
  entries entry hentry := by cases hentry

theorem author (h : standing.IsLegible) : '\n' ∉ standing.author.toList := by
  unfold Standing.author
  cases hactive : standing.roster.active with
  | none => exact h.placeholder
  | some name => exact h.names.active name hactive

theorem withRoster (h : standing.IsLegible) {roster : Roster}
    (hnames : roster.EveryName fun name => '\n' ∉ name.toList) :
    ({ standing with roster } : Standing).IsLegible :=
  ⟨h.placeholder, hnames, h.entries⟩

/-- A line without a line feed leaves the journal legible. -/
theorem after (h : standing.IsLegible) (now : Moment) {text : String} (htext : '\n' ∉ text.toList) :
    (standing.after now (Line.ofText standing.config.marker text)).IsLegible := by
  cases hline : Line.ofText standing.config.marker text with
  | blank => exact h
  | submission code =>
      refine ⟨h.placeholder, ⟨h.names.member, h.names.active⟩, ?_⟩
      intro entry hentry
      simp only [Standing.after, Standing.record, Journal.record, Array.toList_push] at hentry
      rcases List.mem_append.1 hentry with hold | hnew
      · exact h.entries entry hold
      · rw [List.mem_singleton.1 hnew]
        exact Line.isLine_of_submission hline htext h.author
  | command command =>
      cases command with
      | join name =>
          simp only [Standing.after, Standing.obey]
          exact h.withRoster (h.names.join (Line.lineFeed_not_mem_name hline))
      | switch name =>
          simp only [Standing.after, Standing.obey]
          exact h.withRoster (h.names.switchTo name)
      | leave name =>
          simp only [Standing.after, Standing.obey]
          exact h.withRoster (h.names.leave name)
      | reset =>
          refine ⟨h.placeholder, h.names.activateFirst, ?_⟩
          intro entry hentry
          cases hentry
      | _ => exact ⟨h.placeholder, h.names, h.entries⟩

end Standing.IsLegible

namespace Session

open Journal

variable {σ ω : Type} [FileStore σ] [Sink ω]

theorem isLegible_afterCalls {session : Session} (h : session.standing.IsLegible)
    (calls : List (Call σ ω)) (hcalls : ∀ call ∈ calls, '\n' ∉ call.text.toList) :
    (session.afterCalls calls).standing.IsLegible := by
  induction calls using List.reverseRecOn with
  | nil => exact h
  | append_singleton earlier call ih =>
      rw [standing_afterCalls_concat]
      obtain ⟨hearlier, hcall⟩ := List.forall_mem_append.1 hcalls
      exact (ih hearlier).after call.moment (hcall call (List.mem_singleton_self call))

/-- The log of a session that was given lines is read back entry by entry, each with its author and
code as they were joined by a colon and a space; they are told apart as they were entered if and
only if no author holds a colon before a space. -/
theorem readLog_afterCalls {config : Config} {files : σ} {output : ω} {start : World σ ω}
    (begun : begin ⟨.fresh config, files, output⟩ = .ok () start)
    (anonymous : config.placeholder = "anonymous")
    (calls : List (Call σ ω)) (lines : ∀ call ∈ calls, '\n' ∉ call.text.toList) :
    let journal := (start.session.afterCalls calls).journal
    ((readLog journal.logText).map fun (author, code) => author ++ ": " ++ code) =
      (journal.entries.toList.map fun entry => entry.author ++ ": " ++ entry.code) ∧
    (readLog journal.logText =
        (journal.entries.toList.map fun entry => (entry.author, entry.code)) ↔
      ∀ entry ∈ journal.entries.toList, ¬HasSeparator entry.author.toList) := by
  intro journal
  have hstart : start.session.standing.IsLegible := by
    rw [standing_begin begun]
    apply Standing.IsLegible.fresh
    rw [anonymous]
    decide
  have hentries := (isLegible_afterCalls hstart calls lines).entries
  apply readLog_logText_eq_iff
  · intro entry hentry
    obtain ⟨hauthor, hcode, -⟩ := hentries entry hentry
    exact lineFeed_not_mem_entryLine hauthor hcode
  · intro entry hentry
    exact (hentries entry (List.dropLast_subset _ hentry)).code_end

/-- A colon inside a name, even before a space of the code, does no harm. -/
theorem readLog_afterCalls_of_title :
    let world : World Answered := ⟨.fresh {}, {}, .unbounded⟩
    let calls : List (Call Answered Output) :=
      ["/join Dr:Who  II", "say: 1"].map (⟨⟨0⟩, ·, {}, .unbounded⟩)
    let journal := (world.session.afterCalls calls).journal
    begin world = .ok () world ∧ (∀ call ∈ calls, '\n' ∉ call.text.toList) ∧
      journal.entries.toList = [⟨"Dr:Who II", "say: 1", ⟨0⟩⟩] ∧
      readLog journal.logText =
        journal.entries.toList.map fun entry => (entry.author, entry.code) := by
  intro world calls journal
  have begun : begin world = .ok () world := rfl
  have lines : ∀ call ∈ calls, '\n' ∉ call.text.toList := by decide +kernel
  have hentries : journal.entries.toList = [⟨"Dr:Who II", "say: 1", ⟨0⟩⟩] :=
    (agrees_afterCalls begun calls).entries_eq.trans (by decide +kernel)
  refine ⟨begun, lines, hentries, ?_⟩
  apply (readLog_afterCalls begun rfl calls lines).2.2
  rw [hentries]
  unfold HasSeparator
  decide +kernel

/-- A name with a separator in it is cut short in the log. -/
theorem readLog_afterCalls_ne :
    let world : World Answered := ⟨.fresh {}, {}, .unbounded⟩
    let calls : List (Call Answered Output) := ["/join a: b", "1"].map (⟨⟨0⟩, ·, {}, .unbounded⟩)
    let journal := (world.session.afterCalls calls).journal
    begin world = .ok () world ∧ (∀ call ∈ calls, '\n' ∉ call.text.toList) ∧
      readLog journal.logText ≠
        journal.entries.toList.map fun entry => (entry.author, entry.code) := by
  intro world calls journal
  have begun : begin world = .ok () world := rfl
  have hentries : journal.entries.toList = [⟨"a: b", "1", ⟨0⟩⟩] :=
    (agrees_afterCalls begun calls).entries_eq.trans (by decide +kernel)
  refine ⟨begun, by decide +kernel, ?_⟩
  rw [logText, hentries]
  decide +kernel

end Session

end Roundtable
