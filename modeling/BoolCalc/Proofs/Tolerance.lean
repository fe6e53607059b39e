import BoolCalc.Proofs.RoundTrip
import BoolCalc.Proofs.Telling

/-!
# Documents that say the same

Settings and sessions are loaded not from what was saved alone but from every document that says the
same: with the members of its objects in another order and unknown members among them, with other
blanks and other escapes, with lists of fields for objects, and without the parts that have their
standard values.
-/

namespace BoolCalc

open Json (Drafts Part Record Spells SpellsDocument Takes Value drafted)

/-! ### Values -/

namespace Symbols

/-- The parts of a pair. -/
def parts (s : Symbols) : List Part :=
  [⟨"true", (· = .string [s.forTrue]), False⟩, ⟨"false", (· = .string [s.forFalse]), False⟩]

/-- The value tells the pair. -/
def ToldBy (s : Symbols) : Value → Prop := Record s.parts

end Symbols

namespace Settings

/-- The parts of settings. -/
def parts (s : Settings) : List Part :=
  [⟨"symbols", s.symbols.ToldBy, s.symbols = .standard⟩,
   ⟨"history_limit", (· = .integer s.historyLimit.toNat), s.historyLimit = 50⟩]

/-- The value tells the settings. -/
def ToldBy (s : Settings) : Value → Prop := Record s.parts

/-- The text is a document that says the same as what is saved for the settings. -/
def WrittenAs (s : Settings) (text : List Char) : Prop := ∃ v, s.ToldBy v ∧ SpellsDocument v text

end Settings

namespace HistoryEntry

/-- The parts of an entry. -/
def parts (e : HistoryEntry) : List Part :=
  [⟨"expression", (· = .string e.expression.toList), False⟩,
   ⟨"postfix", (· = .string e.rpn.toList), False⟩,
   ⟨"result", (· = .boolean e.value), False⟩,
   ⟨"symbols", e.symbols.ToldBy, False⟩]

/-- The value tells the entry. -/
def ToldBy (e : HistoryEntry) : Value → Prop := Record e.parts

end HistoryEntry

namespace Session

/-- The parts of a session. -/
def parts (s : Session) : List Part :=
  [⟨"settings", s.settings.ToldBy, s.settings = .standard⟩,
   ⟨"history", fun v => ∃ vs, v = .array vs ∧ List.Forall₂ HistoryEntry.ToldBy s.history vs,
     s.history = []⟩]

/-- The value tells the session. -/
def ToldBy (s : Session) : Value → Prop := Record s.parts

/-- The text is a document that says the same as what is saved for the session. -/
def WrittenAs (s : Session) (text : List Char) : Prop := ∃ v, s.ToldBy v ∧ SpellsDocument v text

end Session

/-! ### What is saved -/

lemma Symbols.exists_spells (level : ℕ) (s : Symbols) :
    ∃ v, s.ToldBy v ∧ Spells v (s.write level) := by
  refine ⟨.object [("true".toList, .string [s.forTrue]), ("false".toList, .string [s.forFalse])],
    Record.of_members (.cons ⟨rfl, rfl⟩ (.cons ⟨rfl, rfl⟩ .nil)) (by simp [parts]), ?_⟩
  refine Json.spells_object (Json.spellsMember_member (Json.spells_quote _)) ?_
  exact .cons (Json.spellsMember_member (Json.spells_quote _)) .nil

lemma Settings.exists_spells (level : ℕ) (s : Settings) :
    ∃ v, s.ToldBy v ∧ Spells v (s.write level) := by
  obtain ⟨v, hv, hspells⟩ := s.symbols.exists_spells (level + 1)
  refine ⟨.object [("symbols".toList, v), ("history_limit".toList, .integer s.historyLimit.toNat)],
    Record.of_members (.cons ⟨rfl, hv⟩ (.cons ⟨rfl, rfl⟩ .nil)) (by simp [parts]), ?_⟩
  refine Json.spells_object (Json.spellsMember_member hspells) ?_
  exact .cons (Json.spellsMember_member (Json.spells_natural _)) .nil

lemma HistoryEntry.exists_spells (level : ℕ) (e : HistoryEntry) :
    ∃ v, e.ToldBy v ∧ Spells v (e.write level) := by
  obtain ⟨v, hv, hspells⟩ := e.symbols.exists_spells (level + 1)
  refine ⟨.object [("expression".toList, .string e.expression.toList),
      ("postfix".toList, .string e.rpn.toList), ("result".toList, .boolean e.value),
      ("symbols".toList, v)],
    Record.of_members
      (.cons ⟨rfl, rfl⟩ (.cons ⟨rfl, rfl⟩ (.cons ⟨rfl, rfl⟩ (.cons ⟨rfl, hv⟩ .nil))))
      (by simp [parts]), ?_⟩
  refine Json.spells_object (Json.spellsMember_member (Json.spells_quote _)) ?_
  refine .cons (Json.spellsMember_member (Json.spells_quote _)) ?_
  refine .cons (Json.spellsMember_member (.boolean _)) ?_
  exact .cons (Json.spellsMember_member hspells) .nil

lemma HistoryEntry.exists_spells_all (level : ℕ) (es : List HistoryEntry) :
    ∃ vs, List.Forall₂ ToldBy es vs ∧ List.Forall₂ Spells vs (es.map (·.write level)) := by
  induction es with
  | nil => exact ⟨[], .nil, .nil⟩
  | cons e es ih =>
    obtain ⟨v, hv, hspells⟩ := e.exists_spells level
    obtain ⟨vs, hvs, hall⟩ := ih
    exact ⟨v :: vs, .cons hv hvs, .cons hspells hall⟩

lemma Settings.writtenAs_document (s : Settings) : s.WrittenAs s.document := by
  obtain ⟨v, hv, hspells⟩ := s.exists_spells 0
  exact ⟨v, hv, [], s.document, [], by simp, Json.blank_nil, hspells, Json.blank_nil⟩

lemma Session.writtenAs_document (s : Session) : s.WrittenAs s.document := by
  obtain ⟨v, hv, hspells⟩ := s.settings.exists_spells 1
  obtain ⟨vs, hvs, hall⟩ := HistoryEntry.exists_spells_all 2 s.history
  refine ⟨.object [("settings".toList, v), ("history".toList, .array vs)],
    Record.of_members (.cons ⟨rfl, hv⟩ (.cons ⟨rfl, vs, rfl, hvs⟩ .nil)) (by simp [parts]), ?_⟩
  refine ⟨[], s.document, [], by simp, Json.blank_nil, ?_, Json.blank_nil⟩
  refine Json.spells_object (Json.spellsMember_member hspells) ?_
  exact .cons (Json.spellsMember_member (Json.spells_list hall)) .nil

/-! ### Reading -/

lemma Symbols.drafts (s : Symbols) :
    Drafts shape s.parts
      (fun filled => ⟨drafted filled "true" s.forTrue, drafted filled "false" s.forFalse⟩)
      (s.forTrue, s.forFalse) := by
  refine ⟨rfl, ?_, by simp [parts], fun filled h => ?_⟩
  · refine .cons (.option (by simp) (by simp) (Json.readCharacter_takes _)) ?_
    exact .cons (.option (by simp) (by simp) (Json.readCharacter_takes _)) .nil
  · simp only [parts, List.forall_mem_cons, or_false] at h
    obtain ⟨htrue, hfalse, -⟩ := h
    simp [shape, drafted, htrue, hfalse, needed, bind, Except.bind]

lemma Symbols.read_takes (s : Symbols) : Takes read s.ToldBy s := by
  intro v t hv ht w rest hw hrest
  rw [read, Json.Shape.read_takes s.drafts v t hv ht w rest hw hrest]
  simp [bind, Except.bind, ofChars_self]

lemma Settings.drafts (s : Settings) :
    Drafts shape s.parts
      (fun filled =>
        ⟨drafted filled "symbols" s.symbols, drafted filled "history_limit" s.historyLimit⟩)
      s := by
  refine ⟨rfl, ?_, nofun, fun filled h => ?_⟩
  · refine .cons (.option (by simp) (by simp) s.symbols.read_takes) ?_
    exact .cons (.option (by simp) (by simp) (Json.readNatural_takes _)) .nil
  · simp only [parts, List.forall_mem_cons] at h
    obtain ⟨hsymbols, hlimit, -⟩ := h
    have hs : (drafted filled "symbols" s.symbols).getD standard.symbols = s.symbols :=
      Json.getD_drafted hsymbols
    have hl : (drafted filled "history_limit" s.historyLimit).getD standard.historyLimit =
        s.historyLimit := Json.getD_drafted hlimit
    simp only [shape, hs, hl]

lemma Settings.read_takes (s : Settings) : Takes read s.ToldBy s := Json.Shape.read_takes s.drafts

lemma HistoryEntry.drafts (e : HistoryEntry) :
    Drafts shape e.parts
      (fun filled => ⟨drafted filled "expression" e.expression.toList,
        drafted filled "postfix" e.rpn.toList, drafted filled "result" e.value,
        drafted filled "symbols" e.symbols⟩)
      e := by
  refine ⟨rfl, ?_, by simp [parts], fun filled h => ?_⟩
  · refine .cons (.option (by simp) (by simp) (Json.readText_takes _)) ?_
    refine .cons (.option (by simp) (by simp) (Json.readText_takes _)) ?_
    refine .cons (.option (by simp) (by simp) (Json.readBoolean_takes _)) ?_
    exact .cons (.option (by simp) (by simp) e.symbols.read_takes) .nil
  · simp only [parts, List.forall_mem_cons, or_false] at h
    obtain ⟨hexpression, hrpn, hvalue, hsymbols, -⟩ := h
    simp [shape, drafted, hexpression, hrpn, hvalue, hsymbols, needed, bind, Except.bind]

lemma HistoryEntry.read_takes (e : HistoryEntry) : Takes read e.ToldBy e :=
  Json.Shape.read_takes e.drafts

lemma Session.drafts (s : Session) :
    Drafts shape s.parts
      (fun filled =>
        ⟨drafted filled "settings" s.settings, drafted filled "history" s.history⟩)
      s := by
  refine ⟨rfl, ?_, nofun, fun filled h => ?_⟩
  · refine .cons (.option (by simp) (by simp) s.settings.read_takes) ?_
    exact .cons (.option (by simp) (by simp)
      (Json.readList_takes HistoryEntry.read_takes s.history)) .nil
  · simp only [parts, List.forall_mem_cons] at h
    obtain ⟨hsettings, hhistory, -⟩ := h
    have hs : (drafted filled "settings" s.settings).getD standard.settings = s.settings :=
      Json.getD_drafted hsettings
    have hh : (drafted filled "history" s.history).getD standard.history = s.history :=
      Json.getD_drafted hhistory
    simp only [shape, hs, hh]

lemma Session.read_takes (s : Session) : Takes read s.ToldBy s := Json.Shape.read_takes s.drafts

/-- A document is read as what its value tells. -/
lemma Json.readDocument_of_takes {α : Type} {reader : Json.Reader α} {told : Value → Prop} {a : α}
    (h : Takes reader told a) {v : Value} (hv : told v) {text : List Char}
    (htext : SpellsDocument v text) : readDocument reader text = .ok a := by
  obtain ⟨u, t, w, rfl, hu, ht, hw⟩ := htext
  rw [readDocument, h v t hv ht u w hu (ends_blank hw)]
  simp [bind, Except.bind, skipSpaces_blank hw]

lemma Settings.ofDocument_writtenAs {s : Settings} {text : List Char} (h : s.WrittenAs text) :
    ofDocument text = .ok s := by
  obtain ⟨v, hv, htext⟩ := h
  exact Json.readDocument_of_takes s.read_takes hv htext

lemma Session.ofDocument_writtenAs {s : Session} {text : List Char} (h : s.WrittenAs text) :
    ofDocument text = .ok s := by
  obtain ⟨v, hv, htext⟩ := h
  exact Json.readDocument_of_takes s.read_takes hv htext

/-- **What says the same loads the same.** What is saved for settings or a session is one of the
documents that say it, and each of these is read as the very settings or session. So is every file
with such a document. -/
theorem told_value_loads :
    (∀ s : Settings, s.WrittenAs s.document ∧ ∀ text, s.WrittenAs text →
      Settings.ofDocument text = .ok s ∧
      ∀ (st : Store) (name : String), st.read name = .ok (encodeText text) →
        Settings.load st name = .ok s) ∧
    ∀ s : Session, s.WrittenAs s.document ∧ ∀ text, s.WrittenAs text →
      Session.ofDocument text = .ok s ∧
      ∀ (st : Store) (name : String), st.read name = .ok (encodeText text) →
        Session.load st name = .ok s := by
  constructor
  · refine fun s => ⟨s.writtenAs_document, fun text h => ?_⟩
    have hread := Settings.ofDocument_writtenAs h
    refine ⟨hread, fun st name hfile => ?_⟩
    rw [Settings.load, if_pos (Store.hasName_of_read hfile), hfile]
    exact decodeDocument_encodeText hread
  · refine fun s => ⟨s.writtenAs_document, fun text h => ?_⟩
    have hread := Session.ofDocument_writtenAs h
    refine ⟨hread, fun st name hfile => ?_⟩
    rw [Session.load, hfile]
    exact decodeDocument_encodeText hread

/-- A session without its empty history, an unknown member before its settings, these in another
order, their symbols as a list, and escapes in a key and for a symbol; and settings without any
member. -/
theorem told_value_loads_rearranged :
    let text : List Char :=
      " \x7b\"x\": [null,\x7b\"\": -1\x7d],\n\"settings\": \x7b\"history_limit\": 7,".toList ++
        "\"\\u0073ymbols\": [\"\\uD83d\\ude00\",\"é\"]\x7d\x7d".toList
    let session : Session := ⟨⟨⟨'😀', 'é', by decide, by decide, by decide⟩, 7⟩, []⟩
    let st : Store :=
      ⟨[], [([['a']], encodeText text), ([['b']], encodeText ['\x7b', '\x7d'])]⟩
    Session.load st "a" = .ok session ∧ Settings.load st "b" = .ok .standard := by
  intro text session st
  have hnone : Json.Blank [] := Json.blank_nil
  have hspace : Json.Blank [' '] := by simp [Json.Blank, Json.isSpace]
  have hline : Json.Blank ['\n'] := by simp [Json.Blank, Json.isSpace]
  have hstandard : Settings.standard.WrittenAs ['\x7b', '\x7d'] := by
    refine ⟨.object [], .object ?_, [], _, [], rfl, hnone, .object (.close hnone), hnone⟩
    simp [Settings.parts, Part.Among, Part.Absent, Settings.standard]
  have htold : session.settings.ToldBy (.object [("history_limit".toList, .integer 7),
      ("symbols".toList, .array [.string ['😀'], .string ['é']])]) := by
    refine Record.of_perm (.of_members (.cons ⟨rfl, ?_⟩ (.cons ⟨rfl, rfl⟩ .nil)) ?_) (.swap _ _ _)
    · exact .array (List.append_nil _).symm (.cons rfl (.cons rfl .nil)) (List.forall_mem_nil _)
    · simp [Settings.parts]
  have hs : Json.SpellsUnit 0x73 ['0', '0', '7', '3'] :=
    .mk (i := 0) (j := 0) (k := 7) (l := 3) (by decide) (by decide) (by decide) (by decide)
  have hhigh : Json.SpellsUnit 0xD83D ['D', '8', '3', 'd'] :=
    .mk (i := 13) (j := 8) (k := 3) (l := 13) (by decide) (by decide) (by decide) (by decide)
  have hlow : Json.SpellsUnit 0xDE00 ['d', 'e', '0', '0'] :=
    .mk (i := 13) (j := 14) (k := 0) (l := 0) (by decide) (by decide) (by decide) (by decide)
  have hkey : Json.SpellsText "symbols".toList _ :=
    .cons (.unit (c := 's') hs) (Json.spellsText_plain (by decide))
  have hface : Json.SpellsText ['😀'] _ :=
    .cons (.pair hhigh hlow (by decide) (by decide) rfl) .nil
  have hsymbols : Spells (.array [.string ['😀'], .string ['é']]) _ :=
    .array (.first hnone (.string hface)
      (.next hnone hnone (.string (Json.spellsText_plain (by decide))) (.close hnone)))
  have hsettings : Spells (.object [("history_limit".toList, .integer 7),
      ("symbols".toList, .array [.string ['😀'], .string ['é']])]) _ :=
    .object (.first hnone (.mk (Json.spellsText_plain (by decide)) hnone hspace (.integer 7))
      (.next hnone hnone (.mk hkey hnone hspace hsymbols) (.close hnone)))
  have hunknown : Spells (.array [.null, .object [([], .integer (-1))]]) _ :=
    .array (.first hnone .null (.next hnone hnone
      (.object (.first hnone (.mk .nil hnone hspace (.integer (-1))) (.close hnone)))
      (.close hnone)))
  have hwritten : session.WrittenAs text := by
    refine ⟨.object [(['x'], _), ("settings".toList, _)], ?_, [' '], _, [], ?_, hspace,
      .object (.first hnone (.mk (Json.spellsText_plain (by decide)) hnone hspace hunknown)
        (.next hnone hline (.mk (Json.spellsText_plain (by decide)) hnone hspace hsettings)
          (.close hnone))), hnone⟩
    · refine Record.cons_unknown (.object ?_) (by simp [Session.parts])
      refine List.forall_mem_cons.2 ⟨.inl ⟨_, by simp, htold⟩, ?_⟩
      exact List.forall_mem_cons.2 ⟨.inr ⟨by simp [Part.Absent], rfl⟩, List.forall_mem_nil _⟩
    · decide +kernel
  exact ⟨((told_value_loads.2 session).2 text hwritten).2 st "a" rfl,
    ((told_value_loads.1 .standard).2 _ hstandard).2 st "b" rfl⟩

end BoolCalc
