import Roundtable.Proofs.Session.Lockstep
/-!
What an output that breaks still shows. Once it is full a session runs otherwise than over an output
that takes everything: a script that prints comes to a fault, and later lines find other bindings.
But up to there both runs did the same, and from there on nothing more is taken. So whatever lines
follow, the bytes that were taken are the first ones of all that would have been written.
-/

namespace Roundtable

namespace Output

theorem write_of_le {written : ByteArray} {room : Nat} {text : String}
    (h : text.toUTF8.size ≤ room) : write ⟨written, some room⟩ text =
      (⟨written ++ text.toUTF8, some (room - text.toUTF8.size)⟩, true) :=
  if_pos h

theorem write_of_lt {written : ByteArray} {room : Nat} {text : String}
    (h : room < text.toUTF8.size) : write ⟨written, some room⟩ text =
      (⟨written ++ text.toUTF8.extract 0 room, some 0⟩, false) :=
  if_neg (Nat.not_le_of_lt h)

/-- A full output takes nothing. -/
theorem write_full (written : ByteArray) (text : String) :
    (write ⟨written, some 0⟩ text).1 = ⟨written, some 0⟩ := by
  rcases Nat.eq_zero_or_pos text.toUTF8.size with hsize | hsize
  · rw [write_of_le (Nat.le_of_eq hsize), ByteArray.size_eq_zero_iff.1 hsize,
      ByteArray.append_empty]
    rfl
  · rw [write_of_lt hsize, ByteArray.extract_same, ByteArray.append_empty]

theorem extract_append_of_le {first second : ByteArray} {count : Nat} (h : count ≤ first.size) :
    (first ++ second).extract 0 count = first.extract 0 count := by
  rw [ByteArray.extract_append, Nat.zero_sub, Nat.sub_eq_zero_of_le h, ByteArray.extract_same,
    ByteArray.append_empty]

theorem extract_append_of_ge {first second : ByteArray} {count : Nat} (h : first.size ≤ count) :
    (first ++ second).extract 0 count = first ++ second.extract 0 (count - first.size) := by
  have hfirst : first.extract 0 count = first := by
    rw [← Nat.max_eq_left h]
    exact ByteArray.extract_zero_max_size
  rw [ByteArray.extract_append, Nat.zero_sub, hfirst]

/-- An output of `capacity` bytes beside one that takes everything: in step while the same bytes
were taken, apart once the first one is full. -/
def truncation (capacity : Nat) : Coupling Output Output where
  inStep cut whole := whole.room = none ∧ cut.written = whole.written ∧
    ∃ room, cut.room = some room ∧ cut.written.size + room = capacity
  apart cut whole := whole.room = none ∧ cut.room = some 0 ∧ capacity ≤ whole.written.size ∧
    cut.written = whole.written.extract 0 capacity
  write_both {cut whole} text := by
    rintro ⟨hwhole, hsame, room, hroom, hsize⟩
    obtain ⟨written, _⟩ := cut
    obtain ⟨_, _⟩ := whole
    subst hsame hwhole hroom
    rcases Nat.lt_or_ge room text.toUTF8.size with hfull | hfits
    · right
      change _ ∧ (write ⟨written, some room⟩ text).1.room = some 0 ∧ _ ∧
        (write ⟨written, some room⟩ text).1.written = _
      rw [write_of_lt hfull]
      refine ⟨rfl, rfl, ?_, ?_⟩
      · change capacity ≤ (written ++ text.toUTF8).size
        rw [ByteArray.size_append]
        dsimp only at hsize
        omega
      · change _ = (written ++ text.toUTF8).extract 0 capacity
        dsimp only at hsize
        rw [extract_append_of_ge (by omega), show capacity - written.size = room by omega]
    · left
      change (write ⟨written, some room⟩ text).2 = true ∧ _ ∧
        (write ⟨written, some room⟩ text).1.written = _ ∧ ∃ left,
          (write ⟨written, some room⟩ text).1.room = some left ∧
          (write ⟨written, some room⟩ text).1.written.size + left = capacity
      rw [write_of_le hfits]
      refine ⟨rfl, rfl, rfl, _, rfl, ?_⟩
      dsimp only at hsize ⊢
      rw [ByteArray.size_append]
      omega
  write_first {cut whole} text := by
    rintro ⟨hwhole, hfull, hsize, hcut⟩
    obtain ⟨written, _⟩ := cut
    subst hfull
    change _ ∧ (write ⟨written, some 0⟩ text).1.room = some 0 ∧ _ ∧
      (write ⟨written, some 0⟩ text).1.written = _
    rw [write_full]
    exact ⟨hwhole, rfl, hsize, hcut⟩
  write_second {cut whole} text := by
    rintro ⟨hwhole, hfull, hsize, hcut⟩
    obtain ⟨written, _⟩ := whole
    subst hwhole
    refine ⟨rfl, hfull, ?_, ?_⟩
    · change capacity ≤ (written ++ text.toUTF8).size
      rw [ByteArray.size_append]
      exact Nat.le_add_right_of_le hsize
    · change cut.written = (written ++ text.toUTF8).extract 0 capacity
      rw [extract_append_of_le hsize]
      exact hcut

end Output

namespace Session

variable {σ : Type} [FileStore σ]

/-- The bytes that an output of limited room takes from a session are the first ones of those that
the same lines write to an output without a limit. -/
theorem written_of_bounded (session : Session) (files : σ) (capacity : Nat)
    (inputs : List (Moment × String)) :
    let total := (afterLines ⟨session, files, Output.unbounded⟩ inputs).output.written
    (afterLines ⟨session, files, Output.bounded capacity⟩ inputs).output.written =
      total.extract 0 (min capacity total.size) := by
  intro total
  have hstart : Coupled (Output.truncation capacity)
      (⟨session, files, .bounded capacity⟩ : World σ) ⟨session, files, .unbounded⟩ :=
    .inl ⟨rfl, rfl, rfl, capacity, rfl, Nat.zero_add capacity⟩
  rcases hstart.afterLines inputs with ⟨-, -, hsame, room, -, hsize⟩ | ⟨-, -, hsize, hcut⟩
  · have htotal : total.size ≤ capacity := Nat.le.intro (hsame ▸ hsize)
    rw [Nat.min_eq_right htotal, ByteArray.extract_zero_size]
    exact hsame
  · rw [Nat.min_eq_left hsize]
    exact hcut

end Session

end Roundtable
