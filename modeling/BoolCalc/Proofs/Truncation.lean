import BoolCalc.Proofs.EarlyEnd
import BoolCalc.Proofs.RoundTrip
import BoolCalc.Shell.Keys

/-!
# Files that break off

What was saved ends with the brace that closes the whole document, so a file that was cut short is
never taken for a whole one. If it breaks off within a character it is no text; if it breaks off
anywhere else, its reader comes to the end of the text and says so. A session that is loaded from
such a file leaves the shell as it was.
-/

namespace BoolCalc

open Json (Blank Breaks Cut EndsEarly readDocument)

/-! ### Documents -/

lemma Json.Starts.ne_nil {t : List Char} (ht : Json.Starts t) : t ≠ [] := by
  obtain ⟨c, cs, rfl, -, -⟩ := ht
  exact List.cons_ne_nil c cs

lemma Symbols.read_breaks (level : ℕ) (s : Symbols) : Breaks read (s.write level) := by
  intro w p hw hp
  refine .inl ((Json.Shape.read_object_breaks ?_ level hw hp).bind _)
  refine .option rfl rfl (Json.readCharacter_quote s.forTrue) (Json.readCharacter_breaks _)
    (List.cons_ne_nil _ _) ?_
  exact .option rfl rfl (Json.readCharacter_quote s.forFalse) (Json.readCharacter_breaks _)
    (List.cons_ne_nil _ _) (.nil _)

lemma Settings.endsEarly_read (level : ℕ) (s : Settings) {w p : List Char} (hw : Blank w)
    (hp : Cut p (s.write level)) : EndsEarly (read (w ++ p)) := by
  refine Json.Shape.read_object_breaks ?_ level hw hp
  refine .option rfl rfl (s.symbols.read_write (level + 1)) (s.symbols.read_breaks (level + 1))
    (Json.Shape.starts_object _ _).ne_nil ?_
  refine .option rfl rfl (Json.readNatural_natural s.historyLimit)
    (Json.readNatural_breaks s.historyLimit) ?_ (.nil _)
  obtain ⟨d, ds, hds, -⟩ := Json.natural_cons s.historyLimit.toNat
  exact hds ▸ List.cons_ne_nil d ds

lemma HistoryEntry.read_breaks (level : ℕ) (e : HistoryEntry) : Breaks read (e.write level) := by
  intro w p hw hp
  refine .inl (Json.Shape.read_object_breaks ?_ level hw hp)
  refine .option rfl rfl (Json.readText_quote _) (Json.readText_breaks _)
    (List.cons_ne_nil _ _) ?_
  refine .option rfl rfl (Json.readText_quote _) (Json.readText_breaks _)
    (List.cons_ne_nil _ _) ?_
  refine .option rfl rfl (Json.readBoolean_boolean e.value) (Json.readBoolean_breaks _) ?_ ?_
  · cases e.value <;> exact List.cons_ne_nil _ _
  · exact .option rfl rfl (e.symbols.read_write (level + 1)) (e.symbols.read_breaks (level + 1))
      (Json.Shape.starts_object _ _).ne_nil (.nil _)

lemma Session.endsEarly_read (s : Session) {p : List Char} (hp : Cut p s.document) :
    EndsEarly (read p) := by
  refine Json.Shape.read_object_breaks (w := []) ?_ 0 Json.blank_nil hp
  refine .option rfl rfl (s.settings.read_write 1)
    (fun w p hw hp => .inl (s.settings.endsEarly_read 1 hw hp))
    (Json.Shape.starts_object _ _).ne_nil ?_
  refine .option rfl rfl
    (Json.readList_list (HistoryEntry.read_write 2) (fun e => Json.Shape.starts_object 2 _) 1
      s.history)
    (Json.readList_breaks (HistoryEntry.read_write 2) (HistoryEntry.read_breaks 2)
      (fun e => Json.Shape.starts_object 2 _) 1 s.history) ?_ (.nil _)
  cases s.history <;> exact List.cons_ne_nil _ _

lemma Settings.endsEarly_ofDocument (s : Settings) {p : List Char} (hp : Cut p s.document) :
    EndsEarly (ofDocument p) :=
  (s.endsEarly_read 0 (w := []) Json.blank_nil hp).bind _

lemma Session.endsEarly_ofDocument (s : Session) {p : List Char} (hp : Cut p s.document) :
    EndsEarly (ofDocument p) :=
  (s.endsEarly_read hp).bind _

/-! ### Bytes -/

lemma size_encodeText (cs : List Char) : (encodeText cs).size = Store.byteLength cs := by
  induction cs with
  | nil => rfl
  | cons c cs ih =>
    rw [encodeText_eq] at ih ⊢
    have hc : [c].utf8Encode.size = c.utf8Size := by
      rw [List.utf8Encode_singleton, List.size_toByteArray, String.length_utf8EncodeChar]
    rw [List.utf8Encode_cons, ByteArray.size_append, hc, ih]
    rfl

/-- The first bytes of a text, as many as its first characters have, are the bytes of these. -/
lemma extract_encodeText (cs : List Char) (k : ℕ) :
    (encodeText cs).extract 0 (Store.byteLength (cs.take k)) = encodeText (cs.take k) := by
  have hsplit : encodeText cs = encodeText (cs.take k) ++ encodeText (cs.drop k) := by
    rw [encodeText_eq, encodeText_eq, encodeText_eq, ← List.utf8Encode_append,
      List.take_append_drop]
  rw [hsplit]
  exact ByteArray.extract_append_eq_left (size_encodeText _).symm

/-- The first bytes of a text are a text only if they end between two characters. -/
lemma exists_take_of_isValidUTF8 {cs : List Char} {n : ℕ} (hn : n ≤ (encodeText cs).size)
    (h : ((encodeText cs).extract 0 n).IsValidUTF8) : ∃ k, Store.byteLength (cs.take k) = n := by
  obtain ⟨m, hm⟩ := h
  have hwhole : m.utf8Encode ++ (encodeText cs).extract n (encodeText cs).size =
      cs.utf8Encode := by
    rw [← hm, ← ByteArray.extract_eq_extract_append_extract n (Nat.zero_le n) hn,
      ByteArray.extract_zero_size, encodeText_eq]
  have htake : m = cs.take m.length :=
    List.prefix_iff_eq_take.1 (List.isPrefix_of_utf8Encode_append_eq_utf8Encode _ hwhole)
  refine ⟨m.length, ?_⟩
  rw [← htake, ← size_encodeText, encodeText_eq, ← hm, ByteArray.size_extract]
  omega

/-- What comes of loading the first `n` bytes of a document. -/
structure Refused {α : Type} (loaded : Except LoadError α) (document : List Char) (n : ℕ) :
    Prop where
  /-- The bytes end within a character. -/
  within : (∀ k, Store.byteLength (document.take k) ≠ n) → loaded = .error (.file .notText)
  /-- The bytes are those of the first `k` characters. -/
  between : ∀ k, Store.byteLength (document.take k) = n →
    ∃ f, loaded = .error (.format f (document.take k)) ∧ f.cause.category = .eof

lemma Refused.exists_error {α : Type} {loaded : Except LoadError α} {document : List Char} {n : ℕ}
    (h : Refused loaded document n) : ∃ e, loaded = .error e := by
  by_cases hk : ∃ k, Store.byteLength (document.take k) = n
  · obtain ⟨k, hk⟩ := hk
    obtain ⟨f, hf, -⟩ := h.between k hk
    exact ⟨_, hf⟩
  · exact ⟨_, h.within fun k he => hk ⟨k, he⟩⟩

/-- **A document that breaks off is refused**, if its reader comes to the end of the text. -/
lemma refused_decodeDocument {α : Type} {reader : List Char → Except Json.Fault α}
    {document : List Char} (h : ∀ p, Cut p document → EndsEarly (reader p)) {n : ℕ}
    (hn : n < (encodeText document).size) :
    Refused (decodeDocument reader ((encodeText document).extract 0 n)) document n where
  within hwithin := by
    have hinvalid : ¬ ((encodeText document).extract 0 n).IsValidUTF8 := by
      intro hvalid
      obtain ⟨k, hk⟩ := exists_take_of_isValidUTF8 (Nat.le_of_lt hn) hvalid
      exact hwithin k hk
    have htext : decodeText ((encodeText document).extract 0 n) = .error .notText := by
      rw [decodeText, String.fromUTF8?, dif_neg hinvalid]
    rw [decodeDocument, htext]
  between k hk := by
    have hcut : Cut (document.take k) document := by
      refine ⟨List.take_prefix k document, fun he => ?_⟩
      rw [size_encodeText, ← hk, he] at hn
      exact Nat.lt_irrefl _ hn
    obtain ⟨f, hf, heof⟩ := h _ hcut
    refine ⟨f, ?_, heof⟩
    rw [← hk, extract_encodeText, decodeDocument, decodeText_encodeText]
    simp only [hf]

/-! ### Files -/

/-- Enter behind the name of a file that is no session leaves the shell as it was. -/
lemma Shell.carryOut_unloadable {sh : Shell} {p : Press} {st : Store} {bytes : ByteArray}
    {e : LoadError} (hm : sh.mode = .naming .loadSession) (hp : p.key = .enter)
    (hread : st.read sh.promptName = .ok bytes) (he : Session.decode bytes = .error e) :
    (sh.press p).carryOut st = some (sh.loaded (.error e.message), st) := by
  simp only [press, hm, namingKey, hp, submitName, Reaction.carryOut, hread, Session.ofReply, he]

/-- **A save that was cut short is never taken for a whole one.** Settings or a session whose file
holds the first bytes of what was saved, but not all, are refused: the file is no text if the bytes
end within a character, and else its document ends too early. Enter behind the name of such a
session tells of the failure and changes neither settings nor history nor the last outcome, in any
state of the shell. -/
theorem cut_save_refused :
    (∀ (s : Settings) (n : ℕ), n < s.encode.size → ∀ (st : Store) (name : String),
      st.read name = .ok (s.encode.extract 0 n) → Refused (Settings.load st name) s.document n) ∧
    ∀ (s : Session) (n : ℕ), n < s.encode.size → ∀ (st : Store) (name : String),
      st.read name = .ok (s.encode.extract 0 n) → Refused (Session.load st name) s.document n ∧
        ∀ (sh : Shell) (p : Press), sh.mode = .naming .loadSession → sh.promptName = name →
          p.key = .enter → ∃ sh' e, (sh.press p).carryOut st = some (sh', st) ∧
            sh'.settings = sh.settings ∧ sh'.history = sh.history ∧
            sh'.lastEvaluation = sh.lastEvaluation ∧ Session.load st name = .error e ∧
            sh'.status = some s!"Load failed: {e.message}" := by
  constructor
  · intro s n hn st name hread
    rw [Settings.load, if_pos (Store.hasName_of_read hread), hread]
    exact refused_decodeDocument (fun p hp => s.endsEarly_ofDocument hp) hn
  · intro s n hn st name hread
    have hrefused : Refused (Session.load st name) s.document n := by
      rw [Session.load, hread]
      exact refused_decodeDocument (fun p hp => s.endsEarly_ofDocument hp) hn
    refine ⟨hrefused, fun sh p hm hname hp => ?_⟩
    obtain ⟨e, he⟩ := hrefused.exists_error
    have hdecode : Session.decode (s.encode.extract 0 n) = .error e := by
      rwa [Session.load, hread] at he
    rw [← hname] at hread
    exact ⟨_, e, Shell.carryOut_unloadable hm hp hread hdecode, rfl, rfl, rfl, he, rfl⟩

/-- Settings that end two bytes into a symbol of four, and a session that ends behind this symbol,
whose name is entered at the prompt. -/
theorem cut_save_refused_symbol :
    let settings : Settings := ⟨⟨'😀', 'é', by decide, by decide, by decide⟩, 50⟩
    let session : Session := ⟨settings, []⟩
    let st : Store := ⟨[], [([['a']], settings.encode.extract 0 32),
      (["session.boolterm".toList], session.encode.extract 0 54)]⟩
    let sh := (Shell.start .standard none).beginNaming .loadSession
    Settings.load st "a" = .error (.file .notText) ∧
    (∃ f, Session.load st "session.boolterm" = .error (.format f (session.document.take 51)) ∧
      f.cause.category = .eof) ∧
    ∃ sh' e, (sh.press ⟨.enter, false⟩).carryOut st = some (sh', st) ∧
      sh'.settings = .standard ∧ sh'.history = [] ∧
      Session.load st "session.boolterm" = .error e ∧
      sh'.status = some s!"Load failed: {e.message}" := by
  intro settings session st sh
  have hsettings : 32 < settings.encode.size := by
    rw [Settings.encode, size_encodeText]
    decide +kernel
  have hsession : 54 < session.encode.size := by
    rw [Session.encode, size_encodeText]
    decide +kernel
  have hwithin (k : ℕ) : Store.byteLength (settings.document.take k) ≠ 32 := by
    have hall : ∀ k ≤ settings.document.length,
        Store.byteLength (settings.document.take k) ≠ 32 := by
      decide +kernel
    rw [List.take_eq_take_min]
    exact hall _ (Nat.min_le_right _ _)
  have hbetween : Store.byteLength (session.document.take 51) = 54 := by decide +kernel
  have hfirst := cut_save_refused.1 settings 32 hsettings st "a" rfl
  obtain ⟨hsecond, hshell⟩ :=
    cut_save_refused.2 session 54 hsession st "session.boolterm" rfl
  obtain ⟨sh', e, hcarry, hs, hh, -, he, hstatus⟩ := hshell sh ⟨.enter, false⟩ rfl rfl rfl
  exact ⟨hfirst.within hwithin, hsecond.between 51 hbetween,
    sh', e, hcarry, hs, hh, he, hstatus⟩

end BoolCalc
