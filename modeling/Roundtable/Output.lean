/-!
The output of a session. Scripts and sessions are stated over any sink; the output here is the one
that counts bytes: what was written so far, and how many more bytes are taken. Once that room is
used up every write of at least one byte fails; the write that uses it up is cut off where it is
full.
-/

namespace Roundtable

/-- A place to write to, as a value: a write gives the sink after it, and whether the whole text was
taken. What a sink takes and when it fails is its own affair. -/
class Sink (ω : Type) where
  write : ω → String → ω × Bool

structure Output where
  /-- Everything that was taken. -/
  written : ByteArray
  /-- How many more bytes are taken; without a number, all of them. -/
  room : Option Nat

/-- Why the output takes no more. -/
inductive OutputFault where
  | full
  deriving DecidableEq, Repr

def OutputFault.message : OutputFault → String
  | .full => "sink full"

namespace Output

def unbounded : Output := ⟨.empty, none⟩

def bounded (room : Nat) : Output := ⟨.empty, some room⟩

/-- The output after a write, and whether the whole text was taken. -/
def write (output : Output) (text : String) : Output × Bool :=
  let ⟨written, room⟩ := output
  match room with
  | none => (⟨written ++ text.toUTF8, none⟩, true)
  | some room =>
    let bytes := text.toUTF8
    if bytes.size ≤ room then (⟨written ++ bytes, some (room - bytes.size)⟩, true)
    else (⟨written ++ bytes.extract 0 room, some 0⟩, false)

instance : Sink Output := ⟨write⟩

end Output

end Roundtable
