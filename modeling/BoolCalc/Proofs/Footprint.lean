import BoolCalc.Proofs.CsvReading
import BoolCalc.Proofs.RoundTrip
import BoolCalc.Proofs.WriteBack

/-!
# What keys do to files

Four keys write a file, Enter behind a symbol that makes a new pair and Enter behind three of the
four names, and each of them writes one file with one content, which is told by reading it. All
other keys leave the files as they are, and so do these four when the file cannot be written.
Whether it was written can be told from the status: no text that tells of a failure is left where a
file has changed.
-/

namespace BoolCalc

/-- A reaction that wants no file to be written. -/
def Reaction.Spares (r : Reaction) : Prop := ∀ name content resume, r ≠ .write name content resume

lemma Reaction.store_of_spares {r : Reaction} (h : r.Spares) {st st' : Store} {sh' : Shell}
    (hr : r.carryOut st = some (sh', st')) : st' = st := by
  cases r with
  | write name content resume => exact absurd rfl (h name content resume)
  | settle next | read name resume | copy text resume =>
    cases hr
    rfl
  | stuck => cases hr

namespace Shell

variable {sh sh' : Shell} {p : Press} {name : String} {content : ByteArray} {st st' : Store}

/-- What the status begins with when something has failed. -/
def failureTexts : List String :=
  ["Error: ", "Invalid input: ", "Save failed: ", "Load failed: ", "Export failed: ",
    "Copy failed: ", "Symbols changed for this session only, save failed: ", "Could not read "]

/-- The status tells of a failure. -/
def TellsFailure (sh : Shell) : Prop :=
  ∃ text, sh.status = some text ∧ ∃ t ∈ failureTexts, t.toList <+: text.toList

lemma tellsFailure_of_append (t reason : String) (ht : t ∈ failureTexts)
    (h : sh.status = some (t ++ reason)) : sh.TellsFailure :=
  ⟨_, h, t, ht, by rw [String.toList_append]; exact List.prefix_append _ _⟩

/-- A text that begins as none of the failures do tells of none. -/
lemma not_tellsFailure (start rest : String) (h : sh.status = some (start ++ rest))
    (hstart : ∀ t ∈ failureTexts, ¬ t.toList <+: start.toList ∧ ¬ start.toList <+: t.toList) :
    ¬ sh.TellsFailure := by
  rintro ⟨text, htext, t, ht, hbegins⟩
  rw [h] at htext
  cases htext
  rw [String.toList_append] at hbegins
  obtain ⟨hshort, hlong⟩ := hstart t ht
  rcases List.prefix_or_prefix_of_prefix hbegins (List.prefix_append _ rest.toList) with h | h
  · exact hshort h
  · exact hlong h

/-! ### The keys that write -/

/-- What a key writes: under which name, and which content. -/
inductive Writes (sh : Shell) (p : Press) : String → ByteArray → Prop where
  | session (hm : sh.mode = .naming .saveSession) (hp : p.key = .enter) :
    Writes sh p sh.promptName sh.session.encode
  | history (hm : sh.mode = .naming .exportHistory) (hp : p.key = .enter)
    (hsome : sh.history ≠ []) :
    Writes sh p sh.promptName (encodeText (Csv.document (Csv.historyRecords sh.history)))
  | gates (hm : sh.mode = .naming .exportGates) (hp : p.key = .enter) :
    Writes sh p sh.promptName (Csv.encodeGates sh.symbols)
  | settings (hm : sh.mode = .falseSymbol) (hp : p.key = .enter) {s : Symbols}
    (hs : sh.typedSymbols = .ok s) (hnew : s ≠ sh.symbols) {name : String}
    (hname : sh.settingsName = some name) :
    Writes sh p name (Settings.encode ⟨s, sh.settings.historyLimit⟩)

lemma Writes.unique {name' : String} {content' : ByteArray} (h : sh.Writes p name content)
    (h' : sh.Writes p name' content') : name' = name ∧ content' = content := by
  cases h <;> cases h' <;> simp_all

/-- The truth table of the five gates over two inputs, under its headings. -/
def gateTable (s : Symbols) : List Csv.Record :=
  ["A", "B", "AND", "OR", "NAND", "XOR", "NOT A", "NOT B"].map String.toList ::
    [(false, false), (false, true), (true, false), (true, true)].map fun (a, b) =>
      [a, b, a && b, a || b, !(a && b), a != b, !a, !b].map fun v =>
        [if v then s.forTrue else s.forFalse]

/-- A history under its headings, each value in the symbols of its entry. -/
def historyTable (h : List HistoryEntry) : List Csv.Record :=
  ["expression", "postfix", "result"].map String.toList ::
    h.map fun e => [e.expression.toList, e.rpn.toList,
      [if e.value then e.symbols.forTrue else e.symbols.forFalse]]

/-- What a reader finds in the content that a key writes. -/
inductive Finds (sh : Shell) (content : ByteArray) : Prop where
  | session (hm : sh.mode = .naming .saveSession)
    (hread : Session.decode content = .ok ⟨sh.settings, sh.history⟩)
  | history (hm : sh.mode = .naming .exportHistory) {text : List Char}
    (htext : decodeText content = .ok text)
    (hread : Csv.read text = some (historyTable sh.history))
  | gates (hm : sh.mode = .naming .exportGates) {text : List Char}
    (htext : decodeText content = .ok text)
    (hread : Csv.read text = some (gateTable sh.symbols))
  | settings (hm : sh.mode = .falseSymbol) {s : Symbols} (hs : sh.typedSymbols = .ok s)
    (hread : Settings.decode content = .ok ⟨s, sh.settings.historyLimit⟩)

lemma gateRecords_eq_gateTable (s : Symbols) : Csv.gateRecords s = gateTable s := rfl

lemma historyRecords_eq_historyTable (h : List HistoryEntry) :
    Csv.historyRecords h = historyTable h := rfl

lemma ne_nil_of_mem_historyTable {h : List HistoryEntry} {fs : Csv.Record}
    (hfs : fs ∈ historyTable h) : fs ≠ [] := by
  rcases List.mem_cons.1 hfs with rfl | hfs
  · exact List.cons_ne_nil _ _
  · obtain ⟨e, -, rfl⟩ := List.mem_map.1 hfs
    exact List.cons_ne_nil _ _

lemma ne_nil_of_mem_gateTable {s : Symbols} {fs : Csv.Record} (hfs : fs ∈ gateTable s) :
    fs ≠ [] := by
  rcases List.mem_cons.1 hfs with rfl | hfs
  · exact List.cons_ne_nil _ _
  · obtain ⟨i, -, rfl⟩ := List.mem_map.1 hfs
    exact List.cons_ne_nil _ _

/-- **What a key writes is found again** by whoever reads the file. -/
lemma Writes.finds (h : sh.Writes p name content) : sh.Finds content := by
  cases h with
  | session hm hp => exact .session hm (Session.decode_encode _)
  | history hm hp hsome =>
    refine .history hm (decodeText_encodeText _) ?_
    rw [historyRecords_eq_historyTable]
    exact Csv.read_document fun fs => ne_nil_of_mem_historyTable
  | gates hm hp =>
    refine .gates hm (decodeText_encodeText _) ?_
    rw [gateRecords_eq_gateTable]
    exact Csv.read_document fun fs => ne_nil_of_mem_gateTable
  | settings hm hp hs hnew hname => exact .settings hm hs (Settings.decode_encode _)

/-- A reaction that writes a file, and tells afterwards whether it could. -/
def Reports (r : Reaction) (name : String) (content : ByteArray) : Prop :=
  ∃ resume, r = .write name content resume ∧ ¬ (resume (.ok ())).TellsFailure ∧
    ∀ e, (resume (.error e)).TellsFailure

lemma not_tellsFailure_saved (name : String) : ¬ (sh.saved (.ok name)).TellsFailure :=
  not_tellsFailure "Saved to " name rfl (by decide)

lemma tellsFailure_saved (reason : String) : (sh.saved (.error reason)).TellsFailure :=
  tellsFailure_of_append "Save failed: " reason (by decide) rfl

lemma not_tellsFailure_exported (name : String) : ¬ (sh.exported (.ok name)).TellsFailure :=
  not_tellsFailure "Exported to " name rfl (by decide)

lemma tellsFailure_exported (reason : String) : (sh.exported (.error reason)).TellsFailure :=
  tellsFailure_of_append "Export failed: " reason (by decide) rfl

lemma not_tellsFailure_define (s : Symbols) : ¬ (sh.define s).clearInput.TellsFailure := by
  refine not_tellsFailure "True representation set to: "
    (toString s.forTrue ++ " | False representation set to: " ++ toString s.forFalse) ?_ (by decide)
  simp only [define, clearInput, String.append_assoc]
  rfl

lemma tellsFailure_symbolsUnsaved (reason : String) : (sh.symbolsUnsaved reason).TellsFailure :=
  tellsFailure_of_append "Symbols changed for this session only, save failed: " reason (by decide)
    rfl

lemma encodeHistory_of_ne_nil {entries : List HistoryEntry} (h : entries ≠ []) :
    Csv.encodeHistory entries = .ok (encodeText (Csv.document (Csv.historyRecords entries))) := by
  rw [Csv.encodeHistory, if_neg (by simpa using h)]

/-- **A key that writes tells whether it could.** -/
lemma reports_press (h : sh.Writes p name content) : Reports (sh.press p) name content := by
  cases h with
  | session hm hp =>
    refine ⟨fun r => sh.saved (written sh.promptName r), ?_, not_tellsFailure_saved _, fun e =>
      tellsFailure_saved _⟩
    simp only [press, hm, namingKey, hp, submitName]
  | history hm hp hsome =>
    refine ⟨fun r => sh.exported (written sh.promptName r), ?_, not_tellsFailure_exported _,
      fun e => tellsFailure_exported _⟩
    simp only [press, hm, namingKey, hp, submitName, encodeHistory_of_ne_nil hsome]
  | gates hm hp =>
    refine ⟨fun r => sh.exported (written sh.promptName r), ?_, not_tellsFailure_exported _,
      fun e => tellsFailure_exported _⟩
    simp only [press, hm, namingKey, hp, submitName]
  | @settings hm hp s hs hnew name hname =>
    have hpress : sh.press p = sh.submitSymbolKey := by simp only [press, hm, symbolKey, hp]
    rw [hpress, submitSymbolKey_of_false hm hs hname, if_neg hnew]
    exact ⟨_, rfl, not_tellsFailure_define s, fun e => tellsFailure_symbolsUnsaved _⟩

/-! ### The keys that do not -/

lemma spares_settle (next : Shell) : (Reaction.settle next).Spares := nofun

lemma spares_editKey (key : Key) : (sh.editKey key).Spares := by
  unfold editKey
  split
  · split <;> nofun
  all_goals nofun

lemma spares_controlKey (key : Key) : (sh.controlKey key).Spares := by
  unfold controlKey copyResult
  split
  case h_5 => split <;> nofun
  all_goals nofun

/-- Of the symbols only the second makes a pair, and only a new pair is written. -/
lemma spares_submitSymbolKey (hm : sh.mode = .trueSymbol ∨ sh.mode = .falseSymbol)
    (hp : p.key = .enter) (h : ∀ name content, ¬ sh.Writes p name content) :
    sh.submitSymbolKey.Spares := by
  by_cases hsame : sh.submitSymbol.symbols = sh.symbols
  · rw [submitSymbolKey, if_pos hsame]
    exact spares_settle _
  · have hframe : sh.Frame p ⟨.error .missing, .ok (), .ok ()⟩ sh.submitSymbol :=
      frame_submitSymbol hm hp
    obtain ⟨hload, -⟩ | ⟨hfalse, -, s, hs⟩ := hframe.symbols hsame
    · rw [hload] at hm
      simp at hm
    · rw [submitSymbol_of_false hfalse hs] at hsame
      have hnext : sh.submitSymbol.settingsName = sh.settingsName := hframe.settingsName
      cases hname : sh.settingsName with
      | none =>
        rw [submitSymbolKey, hnext, hname]
        split <;> exact spares_settle _
      | some name => exact absurd (.settings hfalse hp hs hsame hname) (h _ _)

lemma spares_submitName {purpose : Purpose} (hm : sh.mode = .naming purpose) (hp : p.key = .enter)
    (h : ∀ name content, ¬ sh.Writes p name content) : (sh.submitName purpose).Spares := by
  cases purpose with
  | saveSession => exact absurd (.session hm hp) (h _ _)
  | loadSession => exact nofun
  | exportHistory =>
    have hnone : sh.history = [] := by_contra fun hsome => h _ _ (.history hm hp hsome)
    simp only [submitName, hnone]
    exact spares_settle _
  | exportGates => exact absurd (.gates hm hp) (h _ _)

/-- **No other key writes.** -/
lemma spares_press (h : ∀ name content, ¬ sh.Writes p name content) : (sh.press p).Spares := by
  unfold press
  split
  · split
    · exact spares_controlKey p.key
    · exact spares_settle _
  · unfold expressionKey
    split
    case h_5 => exact spares_editKey p.key
    all_goals exact spares_settle _
  · unfold symbolKey
    split
    · exact spares_submitSymbolKey (.inl ‹_›) ‹_› h
    · exact spares_settle _
    · exact spares_editKey p.key
  · unfold symbolKey
    split
    · exact spares_submitSymbolKey (.inr ‹_›) ‹_› h
    · exact spares_settle _
    · exact spares_editKey p.key
  · exact spares_settle _
  · exact spares_settle _
  · unfold namingKey
    split
    · exact spares_submitName ‹_› ‹_› h
    · exact spares_settle _
    · exact spares_editKey p.key

/-! ### The files after a key -/

/-- What a key makes of the files, and what it tells of that. -/
structure Footprint (sh : Shell) (p : Press) (st : Store) (sh' : Shell) (st' : Store) : Prop where
  directories : st'.directories = st.directories
  /-- A file that differs is the one that the key writes, and holds what it is meant to hold. -/
  written : ∀ q, st'.content? q ≠ st.content? q → ∃ name content, sh.Writes p name content ∧
    st.target name = .ok q ∧ st'.content? q = some content ∧ sh.Finds content
  /-- No two files differ. -/
  single : ∀ q q', st'.content? q ≠ st.content? q → st'.content? q' ≠ st.content? q' → q = q'
  failed : sh'.TellsFailure → st' = st
  /-- A key that writes succeeds, or it tells that it does not. -/
  outcome : ∀ name content, sh.Writes p name content →
    st.write name content = .ok st' ∧ st'.read name = .ok content ∧ sh.Finds content ∧
        ¬ sh'.TellsFailure ∨
      ∃ e, st.write name content = .error e ∧ st' = st ∧ sh'.TellsFailure

lemma footprint_of_write (hw : sh.Writes p name content) (hwrite : st.write name content = .ok st')
    (htold : ¬ sh'.TellsFailure) : sh.Footprint p st sh' st' := by
  obtain ⟨path, htarget, hput⟩ := Store.write_eq_ok hwrite
  have hpath (q : Path) (hq : st'.content? q ≠ st.content? q) : q = path := by
    by_contra hne
    rw [hput] at hq
    exact hq (Store.content?_put_of_ne st hne content)
  refine ⟨by rw [hput]; rfl, fun q hq => ?_, fun q q' hq hq' => ?_, fun h => absurd h htold, ?_⟩
  · rw [hpath q hq, hput]
    exact ⟨name, content, hw, htarget, Store.content?_put st path content, hw.finds⟩
  · rw [hpath q hq, hpath q' hq']
  · intro name' content' hw'
    obtain ⟨rfl, rfl⟩ := hw.unique hw'
    exact .inl ⟨hwrite, Store.read_write hwrite, hw.finds, htold⟩

/-- The files are as they were. -/
lemma footprint_of_same (h : ∀ name content, sh.Writes p name content →
    ∃ e, st.write name content = .error e ∧ sh'.TellsFailure) : sh.Footprint p st sh' st := by
  refine ⟨rfl, fun q hq => absurd rfl hq, fun q q' hq => absurd rfl hq, fun _ => rfl, ?_⟩
  intro name content hw
  obtain ⟨e, hwrite, htold⟩ := h name content hw
  exact .inr ⟨e, hwrite, rfl, htold⟩

lemma footprint_press (hcarry : (sh.press p).carryOut st = some (sh', st')) :
    sh.Footprint p st sh' st' := by
  by_cases hw : ∃ name content, sh.Writes p name content
  · obtain ⟨name, content, hw⟩ := hw
    obtain ⟨resume, hpress, hsuccess, hfailure⟩ := reports_press hw
    rw [hpress, Reaction.carryOut] at hcarry
    cases hwrite : st.write name content with
    | ok next =>
      rw [hwrite] at hcarry
      cases hcarry
      exact footprint_of_write hw hwrite hsuccess
    | error e =>
      rw [hwrite] at hcarry
      cases hcarry
      refine footprint_of_same fun name' content' hw' => ?_
      obtain ⟨rfl, rfl⟩ := hw.unique hw'
      exact ⟨e, hwrite, hfailure e⟩
  · have hnone (name : String) (content : ByteArray) : ¬ sh.Writes p name content :=
      fun h => hw ⟨name, content, h⟩
    obtain rfl : st' = st := Reaction.store_of_spares (spares_press hnone) hcarry
    exact footprint_of_same fun name content h => absurd h (hnone name content)

/-- An empty history is not exported, and that is told. -/
lemma tellsFailure_export_nothing (hm : sh.mode = .naming .exportHistory) (hp : p.key = .enter)
    (hnone : sh.history = []) (hcarry : (sh.press p).carryOut st = some (sh', st')) :
    sh'.TellsFailure := by
  simp only [press, hm, namingKey, hp, submitName, hnone] at hcarry
  cases hcarry
  exact tellsFailure_exported _

/-- **Each key changes one file at most, and tells of every failure.** In every state that keys lead
to, for every key and all files, there is a next state. A file that differs afterwards is the one
that the key writes, with the content that the key writes there, both told from the state before:
the session, the history or the gate table under the name at the prompt, or the settings with a new
pair of symbols. Reading that content gives the session, the records of the history or those of the
truth table, or the settings. A key that writes either succeeds, or all files are as they were and
the status tells of a failure; and whenever the status tells of a failure all files are as they
were. So they are when an empty history is to be exported, which is told as a failure. -/
theorem keys_change_one_file {sh : Shell} (h : sh.Reached) (p : Press) (st : Store) :
    ∃ sh' st', (sh.press p).carryOut st = some (sh', st') ∧ sh.Footprint p st sh' st' ∧
      (sh.mode = .naming .exportHistory → p.key = .enter → sh.history = [] →
        st' = st ∧ sh'.TellsFailure) := by
  obtain ⟨sh', st', hcarry, -⟩ := (keys_keep_frame h p).2 st
  have hfoot : sh.Footprint p st sh' st' := footprint_press hcarry
  refine ⟨sh', st', hcarry, hfoot, fun hm hp hnone => ?_⟩
  have htold : sh'.TellsFailure := tellsFailure_export_nothing hm hp hnone hcarry
  exact ⟨hfoot.failed htold, htold⟩

/-- An empty history is not exported onto a file, and the file keeps what it holds. The gate table
is exported onto another one, and that file still keeps what it holds. -/
theorem keys_change_one_file_export :
    let history : Path := ["history.csv".toList]
    let gates : Path := ["truth_table.csv".toList]
    let st : Store := ⟨[], [(history, "1".toUTF8), (gates, "2".toUTF8)]⟩
    let enter : Press := ⟨.enter, false⟩
    let naming := (start .standard none).beginNaming
    (∃ sh', ((naming .exportHistory).press enter).carryOut st = some (sh', st) ∧
      sh'.TellsFailure) ∧
    ∃ sh' st', ((naming .exportGates).press enter).carryOut st = some (sh', st') ∧
      st'.content? gates = some (Csv.encodeGates .standard) ∧
      (∃ text, decodeText (Csv.encodeGates .standard) = .ok text ∧
        Csv.read text = some
          (["A", "B", "AND", "OR", "NAND", "XOR", "NOT A", "NOT B"].map String.toList ::
            ["FFFFTFTT", "FTFTTTTF", "TFFTTTFT", "TTTTFFFF"].map fun r =>
              r.toList.map fun c => [c])) ∧
      st'.content? history = some "1".toUTF8 ∧ ¬ sh'.TellsFailure := by
  intro history gates st enter naming
  have hexport : (naming .exportHistory).Reached :=
    ⟨.standard, none, none, [(⟨.char 'e', true⟩, (unread .other).2)], rfl⟩
  have htable : (naming .exportGates).Reached :=
    ⟨.standard, none, none, [(⟨.char 't', true⟩, (unread .other).2)], rfl⟩
  constructor
  · obtain ⟨sh', st', hcarry, -, hempty⟩ := keys_change_one_file hexport enter st
    obtain ⟨rfl, htold⟩ := hempty rfl rfl rfl
    exact ⟨sh', hcarry, htold⟩
  · obtain ⟨sh', st', hcarry, hfoot, -⟩ := keys_change_one_file htable enter st
    have hwrites : (naming .exportGates).Writes enter "truth_table.csv"
        (Csv.encodeGates .standard) := .gates rfl rfl
    have htarget : st.target "truth_table.csv" = .ok gates := rfl
    obtain ⟨hwrite, hread, hfinds, htold⟩ | ⟨e, hwrite, -⟩ := hfoot.outcome _ _ hwrites
    · have hgates : st'.content? gates = some (Csv.encodeGates .standard) := by
        obtain ⟨path, hpath, rfl⟩ := Store.write_eq_ok hwrite
        rw [htarget] at hpath
        cases hpath
        exact Store.content?_put st _ _
      have htext : ∃ text, decodeText (Csv.encodeGates .standard) = .ok text ∧
          Csv.read text = some (gateTable .standard) := by
        rcases hfinds with ⟨hm, -⟩ | ⟨hm, -, -⟩ | ⟨-, htext, hread⟩ | ⟨hm, -, -⟩
        · cases hm
        · cases hm
        · exact ⟨_, htext, hread⟩
        · cases hm
      refine ⟨sh', st', hcarry, hgates, htext, ?_, htold⟩
      by_contra hne
      obtain ⟨name, content, hw, hpath, -⟩ := hfoot.written history hne
      obtain ⟨rfl, -⟩ := hwrites.unique hw
      rw [htarget] at hpath
      exact absurd (Except.ok.inj hpath) (by decide)
    · rw [Store.write, htarget] at hwrite
      cases hwrite

end Shell

end BoolCalc
