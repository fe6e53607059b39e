import BoolCalc.Proofs.Files
import BoolCalc.Proofs.ReadBack

/-!
# Settings and sessions survive their files

The document of settings or of a session is read back as what it was written from, whatever
characters texts and symbols are made of and whatever number of entries is kept. So is the file.
-/

namespace BoolCalc

open Json (Reads readDocument)

/-! ### Documents -/

lemma Symbols.read_write (level : ℕ) (s : Symbols) : Reads read (s.write level) s := by
  have hpair : Reads shape.read (s.write level) (s.forTrue, s.forFalse) := by
    refine Json.Shape.read_object (d := ⟨some s.forTrue, some s.forFalse⟩) ?_ rfl level
    refine .option rfl rfl (Json.readCharacter_quote s.forTrue) ?_
    exact .option rfl rfl (Json.readCharacter_quote s.forFalse) (.nil _)
  intro w rest hw hrest
  rw [read, hpair w rest hw hrest]
  simp [bind, Except.bind, ofChars_self]

lemma Settings.read_write (level : ℕ) (s : Settings) : Reads read (s.write level) s := by
  refine Json.Shape.read_object (d := ⟨some s.symbols, some s.historyLimit⟩) ?_ rfl level
  refine .option rfl rfl (s.symbols.read_write (level + 1)) ?_
  exact .option rfl rfl (Json.readNatural_natural s.historyLimit) (.nil _)

lemma HistoryEntry.read_write (level : ℕ) (e : HistoryEntry) : Reads read (e.write level) e := by
  refine Json.Shape.read_object
    (d := ⟨some e.expression.toList, some e.rpn.toList, some e.value, some e.symbols⟩) ?_ ?_ level
  · refine .option rfl rfl (Json.readText_quote _) ?_
    refine .option rfl rfl (Json.readText_quote _) ?_
    refine .option rfl rfl (Json.readBoolean_boolean e.value) ?_
    exact .option rfl rfl (e.symbols.read_write (level + 1)) (.nil _)
  · simp [shape, needed, bind, Except.bind]

lemma Session.reads_document (s : Session) : Reads read s.document s := by
  refine Json.Shape.read_object (d := ⟨some s.settings, some s.history⟩) ?_ rfl 0
  refine .option rfl rfl (s.settings.read_write 1) ?_
  refine .option rfl rfl ?_ (.nil _)
  exact Json.readList_list (HistoryEntry.read_write 2) (fun e => Json.Shape.starts_object 2 _) 1
    s.history

/-- A document that consists of a value alone has this value. -/
lemma Json.readDocument_of_reads {α : Type} {reader : Json.Reader α} {t : List Char} {a : α}
    (h : Reads reader t a) : readDocument reader t = .ok a := by
  have ht := h [] [] Json.blank_nil Json.ends_nil
  rw [List.nil_append, List.append_nil] at ht
  rw [readDocument, ht]
  rfl

lemma Settings.ofDocument_document (s : Settings) : ofDocument s.document = .ok s :=
  Json.readDocument_of_reads (s.read_write 0)

lemma Session.ofDocument_document (s : Session) : ofDocument s.document = .ok s :=
  Json.readDocument_of_reads s.reads_document

/-! ### Files -/

lemma fromUTF8?_toUTF8 (s : String) : String.fromUTF8? s.toUTF8 = some s :=
  dif_pos s.isValidUTF8

lemma decodeText_encodeText (cs : List Char) : decodeText (encodeText cs) = .ok cs := by
  rw [decodeText, encodeText, fromUTF8?_toUTF8]
  simp

lemma decodeDocument_encodeText {α : Type} {reader : List Char → Except Json.Fault α}
    {cs : List Char} {a : α} (h : reader cs = .ok a) :
    decodeDocument reader (encodeText cs) = .ok a := by
  rw [decodeDocument, decodeText_encodeText]
  simp [h]

lemma Settings.decode_encode (s : Settings) : decode s.encode = .ok s :=
  decodeDocument_encodeText s.ofDocument_document

lemma Session.decode_encode (s : Session) : decode s.encode = .ok s :=
  decodeDocument_encodeText s.ofDocument_document

lemma Settings.load_write {st st' : Store} {name : String} {s : Settings}
    (h : st.write name s.encode = .ok st') : load st' name = .ok s := by
  rw [load, if_pos (Store.hasName_write h), Store.read_write h]
  exact s.decode_encode

lemma Session.load_write {st st' : Store} {name : String} {s : Session}
    (h : st.write name s.encode = .ok st') : load st' name = .ok s := by
  rw [load, Store.read_write h]
  exact s.decode_encode

/-- **Saving loses nothing.** The contents written for settings and sessions are read as the very
settings and sessions; and a file to which they are saved is loaded as them, and holds what saving
the loaded value would write. -/
theorem saved_value_loads :
    (∀ s : Settings, Settings.decode s.encode = .ok s) ∧
    (∀ s : Session, Session.decode s.encode = .ok s) ∧
    ∀ (st st' : Store) (name : String),
      (∀ s : Settings, st.write name s.encode = .ok st' →
        ∃ loaded, Settings.load st' name = .ok loaded ∧ loaded = s ∧
          st'.read name = .ok loaded.encode) ∧
      ∀ s : Session, st.write name s.encode = .ok st' →
        ∃ loaded, Session.load st' name = .ok loaded ∧ loaded = s ∧
          st'.read name = .ok loaded.encode := by
  refine ⟨Settings.decode_encode, Session.decode_encode, fun st st' name => ⟨?_, ?_⟩⟩
  · intro s h
    exact ⟨s, Settings.load_write h, rfl, Store.read_write h⟩
  · intro s h
    exact ⟨s, Session.load_write h, rfl, Store.read_write h⟩

/-- A quote and a backslash for symbols, an expression with every kind of escape and a character
beyond the sixteen-bit range, and the largest number of entries. -/
theorem saved_value_loads_escapes :
    let symbols : Symbols := ⟨'"', '\\', by decide, by decide, by decide⟩
    let settings : Settings := ⟨symbols, 18446744073709551615⟩
    let session : Session := ⟨settings, [⟨"\x00\t\"\\\x7f\u2028😀", "", true, symbols⟩]⟩
    (∃ st', Store.empty.write "a" settings.encode = .ok st' ∧
      ∃ loaded, Settings.load st' "a" = .ok loaded ∧ loaded = settings ∧
        st'.read "a" = .ok loaded.encode) ∧
    ∃ st', Store.empty.write "a" session.encode = .ok st' ∧
      ∃ loaded, Session.load st' "a" = .ok loaded ∧ loaded = session ∧
        st'.read "a" = .ok loaded.encode := by
  intro symbols settings session
  have hwrite (content : ByteArray) :
      Store.empty.write "a" content = .ok (Store.empty.put [['a']] content) := rfl
  exact ⟨⟨_, hwrite _, (saved_value_loads.2.2 _ _ _).1 settings (hwrite _)⟩,
    ⟨_, hwrite _, (saved_value_loads.2.2 _ _ _).2 session (hwrite _)⟩⟩

end BoolCalc
