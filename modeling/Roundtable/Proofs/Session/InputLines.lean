import Mathlib.Data.List.DropRight
import Roundtable.Session.Run
/-!
The lines of an input. The input is read as bytes, cut behind the byte of each line feed, and every
piece is decoded on its own. For the bytes of a text this comes to the pieces of the text, since the
byte of a line feed is no part of the encoding of another character.
-/

namespace Roundtable

/-- The pieces of a text, of which the first begins with more characters. -/
def beginFirst (start : List Char) : List (List Char) → List (List Char)
  | [] => if start.isEmpty then [] else [start]
  | piece :: more => (start ++ piece) :: more

/-- The pieces of a text. A line feed ends a piece and belongs to it, and what follows the last line
feed is a piece too unless it is empty. -/
def piecesOf : List Char → List (List Char)
  | [] => []
  | c :: rest => if c = '\n' then [c] :: piecesOf rest else beginFirst [c] (piecesOf rest)

/-- The lines of a text: its pieces without the line feeds and carriage returns at their ends. -/
def linesOf (text : String) : List String :=
  (piecesOf text.toList).map fun piece =>
    String.ofList (piece.rdropWhile fun c => c = '\n' || c = '\r')

theorem beginFirst_nil (pieces : List (List Char)) : beginFirst [] pieces = pieces := by
  cases pieces <;> rfl

theorem beginFirst_beginFirst (first second : List Char) (pieces : List (List Char))
    (h : second ≠ []) :
    beginFirst first (beginFirst second pieces) = beginFirst (first ++ second) pieces := by
  cases pieces with
  | nil => simp [beginFirst, h]
  | cons piece more => simp [beginFirst]

/-! ### Cutting bytes -/

theorem toList_loop_eq (bytes : ByteArray) (i : Nat) (before : List UInt8) :
    ByteArray.toList.loop bytes i before = before.reverse ++ bytes.data.toList.drop i := by
  fun_induction ByteArray.toList.loop bytes i before with
  | case1 i before hi ih =>
      have hlength : i < bytes.data.toList.length := by simpa using hi
      rw [ih, List.drop_eq_getElem_cons hlength, List.reverse_cons, List.append_assoc]
      simp [ByteArray.get!, hi]
  | case2 i before hi =>
      have hlength : bytes.data.toList.length ≤ i := by simpa using hi
      rw [List.drop_eq_nil_of_le hlength, List.append_nil]

theorem toList_toByteArray (bytes : List UInt8) : bytes.toByteArray.toList = bytes := by
  rw [ByteArray.toList, toList_loop_eq, List.toList_data_toByteArray]
  rfl

theorem lineFeed_not_mem_utf8EncodeChar {c : Char} (h : c ≠ '\n') :
    (10 : UInt8) ∉ String.utf8EncodeChar c := by
  have hbyte {n : Nat} (hn : n % 256 ≠ 10) : 10 ≠ UInt8.ofNat n := fun heq =>
    hn (congrArg UInt8.toNat heq).symm
  fun_cases String.utf8EncodeChar c with
  | case1 v =>
      have hc : v ≠ 10 := fun hc => h (Char.ext (UInt32.toNat_inj.1 hc))
      simpa using hbyte (by omega)
  | case2 v | case3 v | case4 v =>
      -- An encoding of several bytes has none below 128.
      simp only [List.mem_cons, List.not_mem_nil, or_false, not_or]
      and_intros <;> exact hbyte (by omega)

/-- Bytes that are no line feeds only add to the piece that they belong to. -/
theorem inputPieces_append {bytes : List UInt8} (h : 10 ∉ bytes) (piece : ByteArray)
    (rest : List UInt8) :
    inputPieces piece (bytes ++ rest) = inputPieces (piece ++ bytes.toByteArray) rest := by
  induction bytes generalizing piece with
  | nil => rw [List.toByteArray_nil, ByteArray.append_empty]; rfl
  | cons byte bytes ih =>
      obtain ⟨hbyte, hbytes⟩ := not_or.1 fun hmem => h (List.mem_cons.2 hmem)
      rw [List.cons_append, inputPieces, if_neg (Ne.symm hbyte), ih hbytes,
        ← ByteArray.append_toByteArray_singleton, ByteArray.append_assoc, ← List.toByteArray_append]
      rfl

/-- Cutting the bytes of a text gives the bytes of its pieces, where `start` was read of the first. -/
theorem inputPieces_utf8 (start text : List Char) :
    inputPieces start.utf8Encode (text.flatMap String.utf8EncodeChar) =
      (beginFirst start (piecesOf text)).map List.utf8Encode := by
  induction text generalizing start with
  | nil =>
      change (if start.utf8Encode.isEmpty then [] else [start.utf8Encode]) = _
      cases start with
      | nil => rfl
      | cons c start =>
          have hsize : ¬(c :: start).utf8Encode.isEmpty := by
            simp [ByteArray.isEmpty, ByteArray.size_eq_zero_iff]
          rw [if_neg hsize]
          rfl
  | cons c rest ih =>
      rw [List.flatMap_cons, piecesOf]
      split
      · rename_i hfeed
        rw [hfeed]
        change (start.utf8Encode.push 10) :: inputPieces .empty (rest.flatMap _) = _
        rw [← List.utf8Encode_nil, ih, beginFirst_nil, ← ByteArray.append_toByteArray_singleton]
        change _ = (start ++ ['\n']).utf8Encode :: _
        rw [List.utf8Encode_append]
        rfl
      · rename_i hother
        rw [inputPieces_append (lineFeed_not_mem_utf8EncodeChar hother),
          ← List.utf8Encode_singleton, ← List.utf8Encode_append, ih,
          beginFirst_beginFirst _ _ _ (List.cons_ne_nil c [])]

theorem Read.ofPiece_utf8Encode (piece : List Char) :
    Read.ofPiece piece.utf8Encode =
      .line (String.ofList (piece.rdropWhile fun c => c = '\n' || c = '\r')) := by
  have hvalid : piece.utf8Encode.IsValidUTF8 := ⟨piece, rfl⟩
  have htext : String.fromUTF8? piece.utf8Encode = some (String.ofList piece) := by
    unfold String.fromUTF8?
    rw [dif_pos hvalid]
    rfl
  rw [Read.ofPiece, htext]
  change Read.line (chompLine (String.ofList piece)) = _
  rw [chompLine, String.toList_ofList, List.rdropWhile]

/-- Reading the bytes of a text gives the lines of the text. -/
theorem readsOf_toUTF8 (text : String) : readsOf text.toUTF8 = (linesOf text).map .line := by
  have hbytes : text.toUTF8.toList = text.toList.flatMap String.utf8EncodeChar := by
    rw [String.toUTF8_eq_toByteArray, ← String.utf8Encode_toList]
    exact toList_toByteArray _
  unfold readsOf linesOf
  rw [hbytes, ← List.utf8Encode_nil, inputPieces_utf8, beginFirst_nil, List.map_map, List.map_map]
  exact List.map_congr_left fun piece _ => Read.ofPiece_utf8Encode piece

example : linesOf "/join Ada\r\n\nx\ry" = ["/join Ada", "", "x\ry"] := by decide +kernel

end Roundtable
