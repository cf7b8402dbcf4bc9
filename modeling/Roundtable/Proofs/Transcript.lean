import Roundtable.Proofs.Lockstep
/-!
Sinks that never fail, and the transcript of what is written to one. A computation cannot tell such
a sink from a transcript, so the texts that it writes are found by running it over a transcript.
-/

namespace Roundtable

namespace Sink

variable {ω : Type} [Sink ω] {sink : ω}

/-- The sink after texts were written to it, one after the other. -/
def writeAll (sink : ω) (texts : List String) : ω :=
  texts.foldl (fun sink text => (write sink text).1) sink

/-- No write to the sink fails, whatever was written to it before. -/
def NeverFails (sink : ω) : Prop :=
  ∀ texts text, (write (writeAll sink texts) text).2 = true

theorem writeAll_append (sink : ω) (texts more : List String) :
    writeAll sink (texts ++ more) = writeAll (writeAll sink texts) more :=
  List.foldl_append

theorem NeverFails.writeAll (h : NeverFails sink) (texts : List String) :
    NeverFails (writeAll sink texts) := by
  intro more text
  rw [← writeAll_append]
  exact h (texts ++ more) text

theorem NeverFails.write_eq (h : NeverFails sink) (text : String) :
    write sink text = (Sink.writeAll sink [text], true) :=
  Prod.ext rfl (h [] text)

end Sink

theorem Output.writeAll_unlimited (written : ByteArray) (texts : List String) :
    Sink.writeAll (⟨written, none⟩ : Output) texts =
      ⟨written ++ (String.join texts).toUTF8, none⟩ := by
  induction texts generalizing written with
  | nil => exact congrArg (Output.mk · none) ByteArray.append_empty.symm
  | cons text rest ih =>
      have hbytes : (String.join (text :: rest)).toUTF8 =
          text.toUTF8 ++ (String.join rest).toUTF8 := by
        simp only [String.join_cons, String.toUTF8_eq_toByteArray, String.toByteArray_append]
      rw [hbytes, ← ByteArray.append_assoc]
      exact ih (written ++ text.toUTF8)

theorem Output.neverFails (written : ByteArray) : Sink.NeverFails (⟨written, none⟩ : Output) := by
  intro texts text
  rw [writeAll_unlimited]
  rfl

/-- A sink that takes everything and keeps the texts in the order they were written. -/
structure Transcript where
  texts : List String

namespace Transcript

def blank : Transcript := ⟨[]⟩

def write (transcript : Transcript) (text : String) : Transcript × Bool :=
  (⟨transcript.texts ++ [text]⟩, true)

instance : Sink Transcript := ⟨write⟩

theorem not_fails (transcript after : Transcript) : ¬Sink.Fails transcript after := by
  rintro ⟨sink, text, -, hwrite⟩
  cases hwrite

/-- A sink that never fails beside the transcript of what was written to it. -/
def besides {ω : Type} [Sink ω] (output : ω) (h : Sink.NeverFails output) :
    Coupling Transcript ω where
  inStep transcript sink := sink = Sink.writeAll output transcript.texts
  apart _ _ := False
  write_both {transcript sink} text hstep := by
    left
    rw [hstep, (h.writeAll transcript.texts).write_eq text]
    exact ⟨rfl, (Sink.writeAll_append output transcript.texts [text]).symm⟩
  write_first _ hapart := hapart
  write_second _ hapart := hapart

end Transcript

end Roundtable
