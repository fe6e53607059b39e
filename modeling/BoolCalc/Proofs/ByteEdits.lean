import Mathlib.Data.List.Basic
import BoolCalc.Archive
import BoolCalc.Line

/-!
# Editing a line in its bytes

A line can be kept as the bytes of its text, with a cursor that still counts characters. The place
of a character is then found by decoding the characters before it, and a character is put in or
taken out at that place. No byte but those of the character is touched, the place is always one
where a character begins or the bytes end, and the edits are those of the line of characters.
-/

namespace BoolCalc

/-- A line as the bytes of its text. -/
structure ByteLine where
  bytes : ByteArray
  cursor : Nat

namespace ByteLine

/-- The places from byte `i` on at which characters begin. -/
def starts (b : ByteArray) (i : Nat) : List Nat :=
  if h : (b.utf8DecodeChar? i).isSome then
    i :: starts b (i + ((b.utf8DecodeChar? i).get h).utf8Size)
  else []
termination_by b.size - i
decreasing_by
  have hlt := ByteArray.lt_size_of_isSome_utf8DecodeChar? h
  have hpos := ((b.utf8DecodeChar? i).get h).utf8Size_pos
  omega

/-- The place at which the character with index `n` begins; the end if there is none. -/
def offset (b : ByteArray) (n : Nat) : Nat := (starts b 0)[n]?.getD b.size

/-- The bytes with a character more; `none` if its place is within a character. -/
def insertAt? (b : ByteArray) (i : Nat) (c : Char) : Option ByteArray :=
  if i = b.size ∨ (b.utf8DecodeChar? i).isSome then
    some (b.extract 0 i ++ encodeText [c] ++ b.extract i b.size)
  else none

/-- The bytes without the character that begins at a place; `none` if there is none. -/
def removeAt? (b : ByteArray) (i : Nat) : Option ByteArray :=
  (b.utf8DecodeChar? i).map fun c => b.extract 0 i ++ b.extract (i + c.utf8Size) b.size

/-- The line with a character before the cursor. -/
def insert? (l : ByteLine) (c : Char) : Option ByteLine :=
  (insertAt? l.bytes (offset l.bytes l.cursor) c).map fun b => ⟨b, l.cursor + 1⟩

/-- The line without the character before the cursor. -/
def deleteBefore? (l : ByteLine) : Option ByteLine :=
  match l.cursor with
  | 0 => some l
  | n + 1 => (removeAt? l.bytes (offset l.bytes n)).map fun b => ⟨b, n⟩

/-- The line without the character at the cursor, if there is one. -/
def deleteAt? (l : ByteLine) : Option ByteLine :=
  if l.cursor < (starts l.bytes 0).length then
    (removeAt? l.bytes (offset l.bytes l.cursor)).map fun b => ⟨b, l.cursor⟩
  else some l

/-! ### The place of a character -/

variable (cs ds : List Char) (c : Char)

lemma extract_left : (cs ++ ds).utf8Encode.extract 0 cs.utf8Encode.size = cs.utf8Encode := by
  rw [List.utf8Encode_append]
  exact ByteArray.extract_append_eq_left rfl

lemma extract_right :
    (cs ++ ds).utf8Encode.extract cs.utf8Encode.size (cs ++ ds).utf8Encode.size =
      ds.utf8Encode := by
  rw [List.utf8Encode_append]
  exact ByteArray.extract_append_eq_right rfl ByteArray.size_append

lemma decode_cons : (cs ++ c :: ds).utf8Encode.utf8DecodeChar? cs.utf8Encode.size = some c := by
  rw [ByteArray.utf8DecodeChar?_eq_utf8DecodeChar?_extract, extract_right]
  exact List.utf8DecodeChar?_utf8Encode_cons

lemma decode_end : cs.utf8Encode.utf8DecodeChar? cs.utf8Encode.size = none := by
  rw [← Option.not_isSome_iff_eq_none]
  exact fun h => Nat.lt_irrefl _ (ByteArray.lt_size_of_isSome_utf8DecodeChar? h)

lemma size_snoc : (cs ++ [c]).utf8Encode.size = cs.utf8Encode.size + c.utf8Size := by
  rw [List.utf8Encode_append, ByteArray.size_append, List.utf8Encode_singleton,
    List.size_toByteArray, String.length_utf8EncodeChar]

lemma starts_cons : starts (cs ++ c :: ds).utf8Encode cs.utf8Encode.size =
    cs.utf8Encode.size :: starts (cs ++ c :: ds).utf8Encode (cs ++ [c]).utf8Encode.size := by
  have hsome : ((cs ++ c :: ds).utf8Encode.utf8DecodeChar? cs.utf8Encode.size).isSome := by
    rw [decode_cons]
    rfl
  rw [starts, dif_pos hsome, size_snoc]
  simp only [decode_cons, Option.get_some]

lemma starts_end : starts cs.utf8Encode cs.utf8Encode.size = [] := by
  rw [starts, dif_neg]
  rw [decode_end]
  exact Bool.false_ne_true

/-- From any character on, as many places follow as characters, and each is where the characters
before end. -/
lemma starts_append : (starts (cs ++ ds).utf8Encode cs.utf8Encode.size).length = ds.length ∧
    ∀ n, (starts (cs ++ ds).utf8Encode cs.utf8Encode.size)[n]?.getD (cs ++ ds).utf8Encode.size =
      (cs ++ ds.take n).utf8Encode.size := by
  induction ds generalizing cs with
  | nil =>
    rw [List.append_nil, starts_end]
    exact ⟨rfl, fun n => by simp⟩
  | cons d ds ih =>
    obtain ⟨hlength, hplace⟩ := ih (cs ++ [d])
    rw [List.append_assoc] at hlength hplace
    rw [starts_cons]
    refine ⟨congrArg (· + 1) hlength, fun n => ?_⟩
    cases n with
    | zero => simp
    | succ n =>
      rw [List.getElem?_cons_succ, List.take_succ_cons]
      exact (hplace n).trans (by rw [List.append_assoc]; rfl)

lemma length_starts : (starts cs.utf8Encode 0).length = cs.length := (starts_append [] cs).1

/-- **The place of a character is where the bytes of those before it end.** -/
lemma offset_utf8Encode (n : ℕ) : offset cs.utf8Encode n = (cs.take n).utf8Encode.size :=
  (starts_append [] cs).2 n

/-! ### The edits -/

lemma insertAt?_encoded :
    insertAt? (cs ++ ds).utf8Encode cs.utf8Encode.size c = some (cs ++ c :: ds).utf8Encode := by
  have hplace : cs.utf8Encode.size = (cs ++ ds).utf8Encode.size ∨
      ((cs ++ ds).utf8Encode.utf8DecodeChar? cs.utf8Encode.size).isSome := by
    cases ds with
    | nil => exact .inl (by rw [List.append_nil])
    | cons d ds => exact .inr (by rw [decode_cons]; rfl)
  rw [insertAt?, if_pos hplace, extract_left, extract_right, encodeText_eq,
    ← List.utf8Encode_append, ← List.utf8Encode_append, List.append_assoc, List.singleton_append]

lemma removeAt?_encoded :
    removeAt? (cs ++ c :: ds).utf8Encode cs.utf8Encode.size = some (cs ++ ds).utf8Encode := by
  have hbehind := extract_right (cs ++ [c]) ds
  rw [size_snoc, List.append_assoc, List.singleton_append] at hbehind
  simp only [removeAt?, decode_cons, Option.map_some, extract_left, hbehind,
    ← List.utf8Encode_append]

lemma removeAt?_end : removeAt? cs.utf8Encode cs.utf8Encode.size = none := by
  rw [removeAt?, decode_end, Option.map_none]

/-- A character is taken out of its place, and from the end none. -/
lemma removeAt?_offset (n : ℕ) : removeAt? cs.utf8Encode (offset cs.utf8Encode n) =
    if n < cs.length then some (cs.eraseIdx n).utf8Encode else none := by
  rw [offset_utf8Encode]
  split
  · rename_i hn
    have hsplit : cs.take n ++ cs[n] :: cs.drop (n + 1) = cs := by
      rw [← List.drop_eq_getElem_cons hn, List.take_append_drop]
    have hremove := removeAt?_encoded (cs.take n) (cs.drop (n + 1)) cs[n]
    rw [hsplit] at hremove
    rw [hremove, List.eraseIdx_eq_take_drop_succ]
  · rename_i hn
    rw [List.take_of_length_le (Nat.le_of_not_lt hn), removeAt?_end]

end ByteLine

/-- The line in bytes. -/
def Line.encoded (l : Line) : ByteLine := ⟨encodeText l.chars, l.cursor⟩

open ByteLine in
/-- **Editing in bytes is editing in characters.** A character is put in at the cursor wherever the
cursor is; one is deleted before the cursor just if there is one, and one is deleted at the cursor
if there is one. -/
theorem Line.encoded_edits (l : Line) :
    (∀ c, l.encoded.insert? c = some (l.insert c).encoded) ∧
      l.encoded.deleteBefore? = l.deleteBefore?.map Line.encoded ∧
      l.encoded.deleteAt? = some l.deleteAt.encoded := by
  obtain ⟨cs, cursor⟩ := l
  refine ⟨fun c => ?_, ?_, ?_⟩
  · have hinsert := insertAt?_encoded (cs.take cursor) (cs.drop cursor) c
    rw [List.take_append_drop] at hinsert
    simp only [encoded, encodeText_eq, insert?, offset_utf8Encode, hinsert]
    rfl
  · cases cursor with
    | zero => rfl
    | succ n =>
      simp only [encoded, encodeText_eq, ByteLine.deleteBefore?, Line.deleteBefore?,
        removeAt?_offset]
      split <;> rfl
  · simp only [encoded, encodeText_eq, deleteAt?, Line.deleteAt, length_starts, removeAt?_offset]
    split
    · rfl
    · rename_i hn
      rw [List.eraseIdx_of_length_le (Nat.le_of_not_lt hn)]

example : ByteLine.offset (encodeText ['é', '真', 'T']) 2 = 5 := by
  rw [encodeText_eq, ByteLine.offset_utf8Encode]
  rfl

end BoolCalc
