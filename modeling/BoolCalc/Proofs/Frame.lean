import BoolCalc.Proofs.Coherence

/-!
# What a key leaves alone

Modes, lines and messages come and go with every key. Settings, history, last outcome and the names
of files do not: they change behind four keys only, Enter behind an expression that is accepted,
behind a symbol for false that is accepted, behind the name under which a session is saved, and
behind the name of a session that can be loaded. Each of these changes its own part, and no key
changes the file of settings.
-/

namespace BoolCalc.Shell

variable {sh sh' : Shell} {p : Press} {a : Answers}

/-! ### The keys that change something -/

/-- Enter behind an expression that is accepted. -/
def Evaluates (sh : Shell) (p : Press) : Prop :=
  sh.mode = .expression ∧ p.key = .enter ∧
    ∃ e, evaluate sh.symbols (String.ofList sh.input) = .ok e

/-- Enter behind a symbol for false that is accepted. -/
def Defines (sh : Shell) (p : Press) : Prop :=
  sh.mode = .falseSymbol ∧ p.key = .enter ∧ ∃ s, sh.typedSymbols = .ok s

/-- Enter behind the name under which a session is saved. -/
def Stores (sh : Shell) (p : Press) (a : Answers) : Prop :=
  sh.mode = .naming .saveSession ∧ p.key = .enter ∧ a.written = .ok ()

/-- Enter behind the name of a session that can be loaded. -/
def Loads (sh : Shell) (p : Press) (a : Answers) : Prop :=
  sh.mode = .naming .loadSession ∧ p.key = .enter ∧ ∃ s, Session.ofReply a.read = .ok s

/-- What differs after a key differs because of one of these. -/
structure Frame (sh : Shell) (p : Press) (a : Answers) (sh' : Shell) : Prop where
  limit : sh'.settings.historyLimit ≠ sh.settings.historyLimit → sh.Loads p a
  symbols : sh'.symbols ≠ sh.symbols → sh.Loads p a ∨ sh.Defines p
  history : sh'.history ≠ sh.history → sh.Loads p a ∨ sh.Evaluates p
  last : sh'.lastEvaluation ≠ sh.lastEvaluation → sh.Loads p a ∨ sh.Evaluates p
  error : sh'.lastError ≠ sh.lastError → sh.Loads p a ∨ sh.mode = .expression ∧ p.key = .enter
  sessionName : sh'.sessionName ≠ sh.sessionName → sh.Loads p a ∨ sh.Stores p a
  settingsName : sh'.settingsName = sh.settingsName

/-! ### Moves -/

/-- Only modes, lines and messages differ. -/
structure SameData (sh sh' : Shell) : Prop where
  settings : sh'.settings = sh.settings
  history : sh'.history = sh.history
  last : sh'.lastEvaluation = sh.lastEvaluation
  error : sh'.lastError = sh.lastError
  sessionName : sh'.sessionName = sh.sessionName
  settingsName : sh'.settingsName = sh.settingsName

lemma SameData.frame (h : SameData sh sh') : sh.Frame p a sh' where
  limit := absurd (congrArg Settings.historyLimit h.settings)
  symbols := absurd (congrArg Settings.symbols h.settings)
  history := absurd h.history
  last := absurd h.last
  error := absurd h.error
  sessionName := absurd h.sessionName
  settingsName := h.settingsName

lemma sameData_withLine (sh : Shell) (l : Line) : SameData sh (sh.withLine l) := by
  rw [withLine_eq]
  exact ⟨rfl, rfl, rfl, rfl, rfl, rfl⟩

lemma Retyped.sameData (h : Retyped sh sh') : SameData sh sh' := by
  obtain ⟨_, _, _, rfl⟩ := h
  exact ⟨rfl, rfl, rfl, rfl, rfl, rfl⟩

lemma frame_submitExpression (hm : sh.mode = .expression) (hp : p.key = .enter) :
    sh.Frame p a sh.submitExpression := by
  have henter : sh.Loads p a ∨ sh.mode = .expression ∧ p.key = .enter := .inr ⟨hm, hp⟩
  cases he : evaluate sh.symbols (String.ofList sh.input) with
  | ok e =>
    have haccepted : sh.Loads p a ∨ sh.Evaluates p := .inr ⟨hm, hp, e, he⟩
    rw [submitExpression, he]
    exact ⟨absurd rfl, absurd rfl, fun _ => haccepted, fun _ => haccepted, fun _ => henter,
      absurd rfl, rfl⟩
  | error r =>
    rw [submitExpression, he]
    exact ⟨absurd rfl, absurd rfl, absurd rfl, absurd rfl, fun _ => henter, absurd rfl, rfl⟩

/-- Of the two symbols only the second puts a pair in force. -/
lemma frame_submitSymbol (hm : sh.mode = .trueSymbol ∨ sh.mode = .falseSymbol)
    (hp : p.key = .enter) : sh.Frame p a sh.submitSymbol := by
  rw [submitSymbol]
  cases hs : sh.typedSymbols with
  | error e => exact SameData.frame ⟨rfl, rfl, rfl, rfl, rfl, rfl⟩
  | ok s =>
    rcases hm with hm | hm
    · simp only [hm]
      exact SameData.frame ⟨rfl, rfl, rfl, rfl, rfl, rfl⟩
    · have haccepted : sh.Loads p a ∨ sh.Defines p := .inr ⟨hm, hp, s, hs⟩
      simp only [hm]
      exact ⟨absurd rfl, fun _ => haccepted, absurd rfl, absurd rfl, absurd rfl, absurd rfl, rfl⟩

lemma frame_saved (hm : sh.mode = .naming .saveSession) (hp : p.key = .enter) :
    sh.Frame p a (sh.saved (written sh.promptName a.written)) := by
  cases hw : a.written with
  | ok _ =>
    have hsaved : sh.Loads p a ∨ sh.Stores p a := .inr ⟨hm, hp, hw⟩
    exact ⟨absurd rfl, absurd rfl, absurd rfl, absurd rfl, absurd rfl, fun _ => hsaved, rfl⟩
  | error e => exact SameData.frame ⟨rfl, rfl, rfl, rfl, rfl, rfl⟩

/-- **A move keeps the frame.** -/
lemma Move.frame (hm : Move sh p a sh') : sh.Frame p a sh' := by
  cases hm with
  | submitExpression hmode hp => exact frame_submitExpression hmode hp
  | submitSymbol hmode hp => exact frame_submitSymbol hmode hp
  | symbolsUnsaved hmode hp =>
    obtain ⟨hlimit, hsymbols, hhistory, hlast, herror, hname, hfile⟩ :=
      frame_submitSymbol (a := a) hmode hp
    exact ⟨hlimit, hsymbols, hhistory, hlast, herror, hname, hfile⟩
  | saved hmode hp => exact frame_saved hmode hp
  | loaded hmode hp hs =>
    have hloads : sh.Loads p a := ⟨hmode, hp, _, hs⟩
    exact ⟨fun _ => hloads, fun _ => .inl hloads, fun _ => .inl hloads, fun _ => .inl hloads,
      fun _ => .inl hloads, fun _ => .inl hloads, rfl⟩
  | edit => exact (sameData_withLine sh _).frame
  | deleteBefore _ hn =>
    obtain ⟨l, -, rfl⟩ := Option.map_eq_some_iff.1 hn
    exact (sameData_withLine sh l).frame
  | recallOlder => exact (retyped_recallOlder sh).sameData.frame
  | recallNewer => exact (retyped_recallNewer sh).sameData.frame
  | _ => exact SameData.frame ⟨rfl, rfl, rfl, rfl, rfl, rfl⟩

/-! ### What the four keys do -/

/-- What the four keys make of the parts that they may change. -/
structure Effects (sh : Shell) (p : Press) (a : Answers) (sh' : Shell) : Prop where
  evaluated : sh.Evaluates p → ∃ e, evaluate sh.symbols (String.ofList sh.input) = .ok e ∧
    sh'.history = trim sh.settings.historyLimit (sh.history ++ [.ofEvaluation e]) ∧
    sh'.lastEvaluation = some e ∧ sh'.lastError = none
  defined : sh.Defines p → ∃ s, sh.typedSymbols = .ok s ∧ sh'.symbols = s
  stored : sh.Stores p a → sh'.sessionName = some sh.promptName
  loaded : sh.Loads p a → ∃ s, Session.ofReply a.read = .ok s ∧ sh'.settings = s.settings ∧
    sh'.history = trim s.settings.historyLimit s.history ∧ sh'.lastEvaluation = none ∧
    sh'.lastError = none ∧ sh'.sessionName = some sh.promptName

lemma effects_of_resume (hr : (sh.press p).resume a = some sh') : sh.Effects p a sh' where
  evaluated := by
    rintro ⟨hm, hp, e, he⟩
    have hpress : sh.press p = .settle sh.submitExpression := by
      simp only [press, hm, expressionKey, hp]
    rw [hpress, submitExpression, he] at hr
    cases hr
    exact ⟨e, he, rfl, rfl, rfl⟩
  defined := by
    rintro ⟨hm, hp, s, hs⟩
    have hpress : sh.press p = sh.submitSymbolKey := by simp only [press, hm, symbolKey, hp]
    have hnext : sh.submitSymbol.symbols = s := by
      simp only [submitSymbol, hs, hm]
      rfl
    refine ⟨s, hs, ?_⟩
    simp only [hpress, submitSymbolKey] at hr
    -- The pair is in force whether it is written or not, and whether the file takes it or not.
    split at hr
    · cases hr
      exact hnext
    · split at hr
      · cases hr
        exact hnext
      · rw [Reaction.resume] at hr
        cases hw : a.written <;> rw [hw] at hr <;> cases hr <;> exact hnext
  stored := by
    rintro ⟨hm, hp, hw⟩
    simp only [press, hm, namingKey, hp, submitName, Reaction.resume, hw] at hr
    cases hr
    rfl
  loaded := by
    rintro ⟨hm, hp, s, hs⟩
    simp only [press, hm, namingKey, hp, submitName, Reaction.resume, hs] at hr
    cases hr
    exact ⟨s, hs, rfl, rfl, rfl, rfl, rfl⟩

/-! ### Keys that fail, cancel or only show -/

/-- A key that comes to nothing: at the menu or in a view, one that leaves a mode, or Enter behind
what is rejected or fails, for whatever reason. -/
inductive Idle (sh : Shell) (p : Press) (a : Answers) : Prop where
  | menu (h : sh.mode = .menu)
  | view (h : sh.mode = .gates ∨ sh.mode = .help)
  | cancelled (h : p.key = .escape)
  | rejectedExpression (h : sh.mode = .expression) {r : Rejection}
    (hr : evaluate sh.symbols (String.ofList sh.input) = .error r)
  | rejectedSymbol (h : sh.mode = .trueSymbol ∨ sh.mode = .falseSymbol) {e : SymbolError}
    (he : sh.typedSymbols = .error e)
  | unsaved (h : sh.mode = .naming .saveSession) {e : FileError} (he : a.written = .error e)
  | unloaded (h : sh.mode = .naming .loadSession) {e : LoadError}
    (he : Session.ofReply a.read = .error e)
  /-- Whether the export fails or not. -/
  | exported (h : sh.mode = .naming .exportHistory ∨ sh.mode = .naming .exportGates)

lemma Idle.not_evaluates (h : sh.Idle p a) : ¬ sh.Evaluates p := by
  rintro ⟨hmode, hkey, e, he⟩
  cases h <;> simp_all

lemma Idle.not_defines (h : sh.Idle p a) : ¬ sh.Defines p := by
  rintro ⟨hmode, hkey, s, hs⟩
  cases h <;> simp_all

lemma Idle.not_stores (h : sh.Idle p a) : ¬ sh.Stores p a := by
  rintro ⟨hmode, hkey, hw⟩
  cases h <;> simp_all

lemma Idle.not_loads (h : sh.Idle p a) : ¬ sh.Loads p a := by
  rintro ⟨hmode, hkey, s, hs⟩
  cases h <;> simp_all

lemma Frame.of_idle (h : sh.Frame p a sh') (hidle : sh.Idle p a) :
    sh'.settings = sh.settings ∧ sh'.history = sh.history ∧
      sh'.lastEvaluation = sh.lastEvaluation ∧ sh'.sessionName = sh.sessionName := by
  have hloads := hidle.not_loads
  have hevaluates := hidle.not_evaluates
  have hlimit : sh'.settings.historyLimit = sh.settings.historyLimit :=
    not_not.1 fun hne => hloads (h.limit hne)
  have hsymbols : sh'.settings.symbols = sh.settings.symbols :=
    not_not.1 fun hne => (h.symbols hne).elim hloads hidle.not_defines
  have hsettings : sh'.settings = sh.settings := by
    calc sh'.settings = ⟨sh'.settings.symbols, sh'.settings.historyLimit⟩ := rfl
      _ = ⟨sh.settings.symbols, sh.settings.historyLimit⟩ := by rw [hlimit, hsymbols]
  refine ⟨hsettings, ?_, ?_, ?_⟩
  · exact not_not.1 fun hne => (h.history hne).elim hloads hevaluates
  · exact not_not.1 fun hne => (h.last hne).elim hloads hevaluates
  · exact not_not.1 fun hne => (h.sessionName hne).elim hloads hidle.not_stores

/-- **Each key changes its own part only.** In every state that keys lead to, for every key and
whatever the outside answers, there is a next state, and what it differs in it owes to one of the
four keys that may change that; and these do what they are for. A key that is rejected, fails,
cancels or only shows something leaves settings, history, last outcome and the name of the session
as they are. With the files of a store the next state is the one for the answers of the store. -/
theorem keys_keep_frame {sh : Shell} (h : sh.Reached) (p : Press) :
    (∀ a : Answers, ∃ sh', (sh.press p).resume a = some sh' ∧ sh.Frame p a sh' ∧
      sh.Effects p a sh' ∧
      (sh.Idle p a → sh'.settings = sh.settings ∧ sh'.history = sh.history ∧
        sh'.lastEvaluation = sh.lastEvaluation ∧ sh'.sessionName = sh.sessionName)) ∧
    ∀ st : Store, ∃ sh' st', (sh.press p).carryOut st = some (sh', st') ∧
      (sh.press p).resume ((sh.press p).answers st) = some sh' := by
  constructor
  · intro a
    obtain ⟨sh', hresume, hmove, -⟩ := h.coherent.press p a
    exact ⟨sh', hresume, hmove.frame, effects_of_resume hresume, hmove.frame.of_idle⟩
  · intro st
    obtain ⟨sh', hresume, -⟩ := h.coherent.press p ((sh.press p).answers st)
    have hcarry := (sh.press p).map_carryOut st
    rw [hresume, Option.map_eq_some_iff] at hcarry
    obtain ⟨⟨_, st'⟩, hcarry, rfl⟩ := hcarry
    exact ⟨_, st', hcarry, hresume⟩

/-- A file breaks off behind settings that are sound, and they do not come into force. -/
theorem keys_keep_frame_broken_file :
    let content := "[[[\"1\", \"0\"], 5], [".toUTF8
    let sh := (start .standard none).beginNaming .loadSession
    Settings.decode "[[\"1\", \"0\"], 5]".toUTF8 =
        .ok ⟨⟨'1', '0', by decide, by decide, by decide⟩, 5⟩ ∧
      ∃ sh', (sh.press ⟨.enter, false⟩).resume ⟨.ok content, .ok (), .ok ()⟩ = some sh' ∧
        sh'.settings = .standard ∧ sh'.sessionName = none := by
  intro content sh
  have hsettings : Settings.decode "[[\"1\", \"0\"], 5]".toUTF8 =
      .ok ⟨⟨'1', '0', by decide, by decide, by decide⟩, 5⟩ := by decide +kernel
  have hbroken : (Session.ofReply (.ok content)).isOk = false := by decide +kernel
  obtain ⟨e, he⟩ : ∃ e, Session.ofReply (.ok content) = .error e := by
    cases hs : Session.ofReply (.ok content) with
    | error e => exact ⟨e, rfl⟩
    | ok s =>
      rw [hs] at hbroken
      cases hbroken
  have hreached : sh.Reached :=
    ⟨.standard, none, none, [(⟨.char 'o', true⟩, (unread .other).2)], rfl⟩
  obtain ⟨sh', hresume, -, -, hidle⟩ := (keys_keep_frame hreached ⟨.enter, false⟩).1
    ⟨.ok content, .ok (), .ok ()⟩
  obtain ⟨hkept, -, -, hname⟩ := hidle (.unloaded rfl he)
  exact ⟨hsettings, sh', hresume, hkept, hname⟩

end BoolCalc.Shell
