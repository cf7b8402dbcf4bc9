import Roundtable.Proofs.Command.Spelling
import Roundtable.Proofs.Roster.Orderly
import Roundtable.Proofs.Session.Replay
/-!
Who a command reaches. A name that a line joins under is a member from then on, until a line leaves
under the same name; and every line that is read with this name, however it is written, finds the
member. Joining trims its name where switching and leaving do not, but the names that lines are read
with are trimmed already.
-/

namespace Roundtable

open Text

/-- A call is read as a command with an argument. -/
def Call.Asks {σ ω : Type} (call : Call σ ω) (marker : Char) (verb : Command.Verb)
    (argument : String) : Prop :=
  Line.ofText marker call.text = .command (verb.command argument)

namespace Roster

variable {roster : Roster} {name other : String}

theorem mem_members_join_self (h : IsTrimmed name) : name ∈ (roster.join name).members := by
  have htrim : trim name = name := h.trim_eq
  rcases join_cases roster name with ⟨hsame, hblank | hmember⟩ | ⟨-, -, hjoin⟩
  · exact absurd (htrim ▸ hblank) h.ne_empty
  · rwa [hsame, ← htrim]
  · rw [hjoin, htrim]
    exact List.mem_append_right _ (List.mem_singleton_self name)

theorem mem_members_join (h : name ∈ roster.members) (other : String) :
    name ∈ (roster.join other).members := by
  rcases join_cases roster other with ⟨hsame, -⟩ | ⟨-, -, hjoin⟩
  · rwa [hsame]
  · rw [hjoin]
    exact List.mem_append_left _ h

theorem mem_members_leave (h : name ∈ roster.members) (hne : other ≠ name) :
    name ∈ (roster.leave other).members := by
  unfold leave
  split
  · exact (List.mem_erase_of_ne hne.symm).2 h
  · exact h

theorem switchTo_of_mem (h : name ∈ roster.members) :
    roster.switchTo name = { roster with active := some name } :=
  if_pos (List.contains_iff_mem.2 h)

theorem members_leave_of_mem (h : name ∈ roster.members) :
    (roster.leave name).members = roster.members.erase name := by
  have hmember : roster.isMember name = true := List.contains_iff_mem.2 h
  rw [leave, if_pos hmember]

end Roster

/-- Only a line that leaves under a member's name takes it from the members. -/
theorem Standing.mem_members_after {standing : Standing} {name : String} {line : Line}
    (h : name ∈ standing.roster.members) (hline : line ≠ .command (.leave name)) (now : Moment) :
    name ∈ (standing.after now line).roster.members := by
  cases line with
  | blank => exact h
  | submission code => exact h
  | command command =>
      cases command with
      | join other => exact Roster.mem_members_join h other
      | switch other =>
          show name ∈ (standing.roster.switchTo other).members
          rwa [Roster.members_switchTo]
      | leave other =>
          refine Roster.mem_members_leave h ?_
          rintro rfl
          exact hline rfl
      | _ => exact h

namespace Session

variable {σ ω : Type} [FileStore σ] [Sink ω] {session : Session} {name : String} {call : Call σ ω}

theorem afterCalls_cons (session : Session) (call : Call σ ω) (rest : List (Call σ ω)) :
    session.afterCalls (call :: rest) =
      (stateAfter (session.answer call)).session.afterCalls rest := by
  unfold afterCalls
  rw [List.foldl_cons]

theorem afterCalls_singleton (session : Session) (call : Call σ ω) :
    session.afterCalls [call] = (stateAfter (session.answer call)).session := by
  unfold afterCalls
  rw [List.foldl_cons, List.foldl_nil]

theorem standing_config (session : Session) : session.standing.config = session.config := rfl

theorem standing_roster (session : Session) : session.standing.roster = session.roster := rfl

theorem config_answer (session : Session) (call : Call σ ω) :
    (stateAfter (session.answer call)).session.config = session.config := by
  rw [← standing_config, standing_answer, Standing.config_after, standing_config]

theorem roster_answer (session : Session) (call : Call σ ω) :
    (stateAfter (session.answer call)).session.roster =
      (session.standing.after call.moment
        (Line.ofText session.config.marker call.text)).roster := by
  rw [← standing_answer, standing_roster]

theorem config_afterCalls (session : Session) (calls : List (Call σ ω)) :
    (session.afterCalls calls).config = session.config := by
  induction calls generalizing session with
  | nil => rfl
  | cons call rest ih =>
      rw [afterCalls_cons, ih, config_answer]

/-- A member stays one through calls that do not leave under its name. -/
theorem mem_members_afterCalls {calls : List (Call σ ω)} (h : name ∈ session.roster.members)
    (hcalls : ∀ call ∈ calls, ¬call.Asks session.config.marker .leave name) :
    name ∈ (session.afterCalls calls).roster.members := by
  induction calls generalizing session with
  | nil => exact h
  | cons call rest ih =>
      obtain ⟨hcall, hrest⟩ := List.forall_mem_cons.1 hcalls
      have hstep : name ∈ (stateAfter (session.answer call)).session.roster.members := by
        rw [roster_answer]
        exact Standing.mem_members_after h hcall call.moment
      rw [← config_answer session call] at hrest
      rw [afterCalls_cons]
      exact ih hstep hrest

/-- A name that a line joined under is a member after any calls that do not leave under it. -/
theorem mem_members_of_joined {joining : Call σ ω} {between : List (Call σ ω)}
    (hjoining : joining.Asks session.config.marker .join name)
    (hbetween : ∀ call ∈ between, ¬call.Asks session.config.marker .leave name) :
    name ∈ (session.afterCalls (joining :: between)).roster.members := by
  have hname : IsTrimmed name := (Line.isSpaced_of_ofText hjoining).toIsTrimmed
  have hjoined : name ∈ (stateAfter (session.answer joining)).session.roster.members := by
    rw [roster_answer, hjoining]
    show name ∈ (session.roster.join name).members
    exact Roster.mem_members_join_self hname
  rw [← config_answer session joining] at hbetween
  rw [afterCalls_cons]
  exact mem_members_afterCalls hjoined hbetween

theorem roster_afterCalls_switch (hmember : name ∈ session.roster.members)
    (hcall : call.Asks session.config.marker .switch name) :
    (session.afterCalls [call]).roster = { session.roster with active := some name } := by
  rw [afterCalls_singleton, roster_answer, hcall]
  exact Roster.switchTo_of_mem hmember

theorem roster_afterCalls_leave (hcall : call.Asks session.config.marker .leave name) :
    (session.afterCalls [call]).roster = session.roster.leave name := by
  rw [afterCalls_singleton, roster_answer, hcall]
  rfl

/-- However a command is written, it is read with its tokens joined by single spaces; and every
argument that is read comes from such a text and is not changed by trimming. Hence a name that a line
joined under is a member, until a line leaves under it, and whatever line is read with this name finds
the member. All other lines are blank, or submissions of what they are trimmed to. -/
theorem written_words_reach_member {marker : Char} (hmarker : isBlank marker = false) :
    (∀ (verb : Command.Verb) (tokens : List String) (text : String),
      verb.Written marker tokens text →
        Line.ofText marker text = .command (verb.command (" ".intercalate tokens))) ∧
    (∀ (verb : Command.Verb) (text argument : String),
      Line.ofText marker text = .command (verb.command argument) →
        (∃ tokens, verb.Written marker tokens text ∧ argument = " ".intercalate tokens) ∧
          IsSpaced argument ∧ trim argument = argument) ∧
    (∀ (session : Session) (name : String) (joining : Call σ ω) (between : List (Call σ ω)),
      session.config.marker = marker → joining.Asks marker .join name →
      (∀ call ∈ between, ¬call.Asks marker .leave name) →
        let now := session.afterCalls (joining :: between)
        name ∈ now.roster.members ∧
        ∀ call : Call σ ω,
          (call.Asks marker .switch name →
            (now.afterCalls [call]).roster = { now.roster with active := some name }) ∧
          (call.Asks marker .leave name →
            (now.afterCalls [call]).roster.members = now.roster.members.erase name ∧
              (now.afterCalls [call]).roster.turnCount name = 0)) ∧
    (∀ text, Line.ofText marker text = .blank ↔ Blanks text.toList) ∧
    ∀ text code, Line.ofText marker text = .submission code ↔
      code = trim text ∧ code ≠ "" ∧ code.toList.head? ≠ some marker := by
  refine ⟨fun _ _ _ hwritten => Line.ofText_of_written hmarker hwritten, ?_, ?_,
    fun _ => Line.ofText_eq_blank_iff, fun _ _ => Line.ofText_eq_submission_iff⟩
  · intro verb text argument hread
    have hspaced := Line.isSpaced_of_ofText hread
    exact ⟨Line.written_of_ofText hread, hspaced, hspaced.toIsTrimmed.trim_eq⟩
  · rintro session name joining between rfl hjoining hbetween now
    have hmember : name ∈ now.roster.members := mem_members_of_joined hjoining hbetween
    have hconfig : now.config = session.config := config_afterCalls session (joining :: between)
    clear_value now
    refine ⟨hmember, fun call => ?_⟩
    rw [← hconfig]
    refine ⟨roster_afterCalls_switch hmember, fun hcall => ?_⟩
    rw [roster_afterCalls_leave hcall]
    refine ⟨Roster.members_leave_of_mem hmember, ?_⟩
    rw [Roster.turnCount_leave]
    simp [Roster.isMember, hmember]

/-- With a marker of its own, words in any case, and blanks of many kinds between them; names that
are nearly the same leave in vain. -/
theorem written_words_reach_member_of_spellings :
    let session : Session := .fresh { marker := '!' }
    let call (text : String) : Call Answered Output := ⟨⟨0⟩, text, {}, .bounded 0⟩
    let joining := call "\u3000!\u2003JoIn\tAda \u2028Lovelace\u00a0"
    let between := [call "!leave Ada", call "!leave ada lovelace"]
    let now := session.afterCalls (joining :: between)
    "Ada Lovelace" ∈ now.roster.members ∧
    (now.afterCalls [call "!  SWITCH Ada\u1680Lovelace"]).roster.active = some "Ada Lovelace" ∧
    (now.afterCalls [call "\n!LEAVE Ada  Lovelace"]).roster.turnCount "Ada Lovelace" = 0 := by
  intro session call joining between
  have hjoining : joining.Asks '!' .join "Ada Lovelace" := by
    unfold Call.Asks
    decide +kernel
  have hbetween : ∀ other ∈ between, ¬other.Asks '!' .leave "Ada Lovelace" := by
    unfold Call.Asks
    decide +kernel
  have hswitch : (call "!  SWITCH Ada\u1680Lovelace").Asks '!' .switch "Ada Lovelace" := by
    unfold Call.Asks
    decide +kernel
  have hleave : (call "\n!LEAVE Ada  Lovelace").Asks '!' .leave "Ada Lovelace" := by
    unfold Call.Asks
    decide +kernel
  have hmarker : isBlank '!' = false := by decide +kernel
  obtain ⟨-, -, hreach, -⟩ := written_words_reach_member (σ := Answered) (ω := Output) hmarker
  obtain ⟨hmember, hfind⟩ := hreach session "Ada Lovelace" joining between rfl hjoining hbetween
  obtain ⟨-, hgone⟩ := (hfind _).2 hleave
  dsimp only at hmember hfind hgone ⊢
  refine ⟨hmember, ?_, hgone⟩
  rw [(hfind _).1 hswitch]

end Session

end Roundtable
