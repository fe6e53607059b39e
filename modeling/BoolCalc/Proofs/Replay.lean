import BoolCalc.Proofs.Ledger
import BoolCalc.Proofs.Recall
import BoolCalc.Proofs.RoundTrip

/-!
# Entries can be evaluated again

An entry keeps the text of its expression and the symbols it was written in, so evaluating it again
gives the same, however often the symbols in force have changed. This holds for every entry of a
shell that takes over only sessions which such shells have saved. And where its symbols are in
force, the entry can be recalled with the arrow keys and entered once more.
-/

namespace BoolCalc

variable {sh sh' : Shell} {p : Press} {a : Answers}

/-- Evaluated in its own symbols, the expression of the entry gives what the entry says. -/
def HistoryEntry.Replays (e : HistoryEntry) : Prop :=
  evaluate e.symbols e.expression = .ok ⟨e.expression, e.rpn, e.value, e.symbols⟩

namespace Shell

/-- The shell asks for the name of a session to be saved, and the key makes it write this content.
-/
def Saves (sh : Shell) (p : Press) (content : ByteArray) : Prop :=
  sh.mode = .naming .saveSession ∧ ∃ name resume, sh.press p = .write name content resume

/-- The shell is driven by keys from its start, and every session it takes over was saved by a shell
of this kind. -/
inductive Authentic : Shell → Prop
  | start (settings : Settings) (name : Option String) : Authentic (start settings name)
  | key {sh next : Shell} {p : Press} {a : Answers} (h : Authentic sh)
    (hr : (sh.press p).resume a = some next) (hn : sh.takesOver p a = none) : Authentic next
  | load {sh saver next : Shell} {p q : Press} {a : Answers} {content : ByteArray}
    (h : Authentic sh) (hs : Authentic saver) (hw : saver.Saves q content)
    (ha : a.read = .ok content) (hr : (sh.press p).resume a = some next) : Authentic next

/-! ### Entries and where they come from -/

/-- An entry was there before, or is that of the line, or comes with a session. -/
lemma mem_history_of_press (hr : (sh.press p).resume a = some sh') {e : HistoryEntry}
    (he : e ∈ sh'.history) :
    e ∈ sh.history ∨ sh.accepts p = some e ∨ ∃ s, sh.takesOver p a = some s ∧ e ∈ s.history := by
  obtain ⟨s, hs, rfl⟩ | ⟨-, ev, hev, hhistory, -⟩ | ⟨-, -, hsame⟩ := memory_cases hr
  · exact .inr (.inr ⟨s, hs, List.mem_of_mem_drop he⟩)
  · rw [hhistory] at he
    rcases List.mem_append.1 (List.mem_of_mem_drop he) with he | he
    · exact .inl he
    · rw [List.mem_singleton.1 he]
      exact .inr (.inl hev)
  · rw [hsame.history] at he
    exact .inl he

/-- The entry of the line is evaluated from what it says. -/
lemma replays_of_accepts {e : HistoryEntry} (h : sh.accepts p = some e) : e.Replays := by
  unfold accepts at h
  split at h
  · cases hc : compute sh.symbols sh.input with
    | error r =>
      rw [hc] at h
      cases h
    | ok r =>
      rw [hc] at h
      cases h
      simp [HistoryEntry.Replays, evaluate_eq, hc, Except.map]
  · cases h

lemma content_of_saves {content : ByteArray} (h : sh.Saves p content) :
    content = sh.session.encode := by
  obtain ⟨hm, name, resume, hw⟩ := h
  simp only [press, hm, namingKey] at hw
  split at hw
  · cases hw
    rfl
  · cases hw
  · unfold editKey at hw
    split at hw
    · split at hw <;> cases hw
    all_goals cases hw

/-- What is taken over from a saved session is the session of the moment when it was saved. -/
lemma takesOver_saved {saver : Shell} {q : Press} {content : ByteArray}
    (hw : saver.Saves q content) (ha : a.read = .ok content) {s : Session}
    (hs : sh.takesOver p a = some s) : s = saver.session := by
  unfold takesOver at hs
  split at hs
  · rw [ha, content_of_saves hw] at hs
    simp only [Session.ofReply, Session.decode_encode] at hs
    cases hs
    rfl
  · cases hs

/-- **Every entry replays**, by what a key can bring in. -/
lemma Authentic.replays (h : Authentic sh) : ∀ e ∈ sh.history, e.Replays := by
  -- Where a session is loaded, its entries replay because those of the saver do.
  induction h with
  | start settings name => exact fun e he => absurd he List.not_mem_nil
  | key _ hr hn ih =>
    intro e he
    rcases mem_history_of_press hr he with he | he | ⟨s, hs, -⟩
    · exact ih e he
    · exact replays_of_accepts he
    · rw [hn] at hs
      cases hs
  | load _ _ hw ha hr ih ihsaver =>
    intro e he
    rcases mem_history_of_press hr he with he | he | ⟨s, hs, he⟩
    · exact ih e he
    · exact replays_of_accepts he
    · rw [takesOver_saved hw ha hs] at he
      exact ihsaver e he

lemma Authentic.coherent (h : Authentic sh) : sh.Coherent := by
  induction h with
  | start settings name => exact coherent_start settings name
  | key _ hr _ ih => exact ih.move ((moves_press _ _ _).move hr)
  | load _ _ _ _ hr ih _ => exact ih.move ((moves_press _ _ _).move hr)

/-- A run that reads no file takes over nothing. -/
lemma Authentic.pressed (h : Authentic sh) {qs : List (Press × Answers)}
    (hqs : ∀ q ∈ qs, ∃ e, q.2.read = .error e) (hr : sh.pressed qs = some sh') :
    Authentic sh' := by
  induction qs generalizing sh with
  | nil =>
    cases hr
    exact h
  | cons q qs ih =>
    obtain ⟨next, hnext, hr⟩ := pressed_cons_eq_some.1 hr
    obtain ⟨e, he⟩ := hqs q List.mem_cons_self
    have hnone : sh.takesOver q.1 q.2 = none := by
      unfold takesOver
      rw [he]
      split <;> rfl
    exact ih (h.key hnext hnone) (fun q' hq' => hqs q' (List.mem_cons_of_mem q hq')) hr

/-! ### Entering an entry again -/

/-- An entry that replays in the symbols in force is accepted when its expression is entered. -/
lemma accepts_of_replays {e : HistoryEntry} (he : e.Replays) (hs : e.symbols = sh.symbols)
    (hinput : sh.input = e.expression.toList) (hm : sh.mode = .expression)
    (hp : p.key = .enter) : sh.accepts p = some e := by
  obtain ⟨text, rpn, value, symbols⟩ := e
  simp only at hs hinput
  subst hs
  simp only [HistoryEntry.Replays, evaluate_eq] at he
  rw [← hinput] at he
  cases hc : compute sh.symbols sh.input with
  | error r =>
    rw [hc] at he
    cases he
  | ok r =>
    rw [hc] at he
    simp only [Except.map, Except.ok.injEq, Evaluation.mk.injEq] at he
    obtain ⟨-, hrpn, hvalue, -⟩ := he
    have htext : String.ofList sh.input = text := by rw [hinput, String.ofList_toList]
    simp [accepts, hm, hp, hc, htext, hrpn, hvalue]

lemma history_of_accepts {e : HistoryEntry} (he : sh.accepts p = some e)
    (hm : sh.mode = .expression) (hp : p.key = .enter)
    (hr : (sh.press p).resume a = some sh') :
    sh'.history = (sh.history ++ [e]).rtake sh.settings.historyLimit.toNat := by
  obtain ⟨ev, hev, hhistory, -⟩ | ⟨hnone, -⟩ := memory_of_expression hm hp hr
  · rw [he] at hev
    rw [hhistory, Option.some.inj hev]
  · rw [he] at hnone
    cases hnone

/-- **Every entry can be evaluated again**, and gives the same reverse Polish form and value, in a
shell that takes over only what such shells have saved. Where expressions are taken, arrows lead to
every entry, and to whatever entry they lead, if its symbols are in force then Enter adds the same
entry once more, as far as the limit allows. -/
theorem entries_replay {sh : Shell} (h : Authentic sh) :
    (∀ e ∈ sh.history,
      evaluate e.symbols e.expression = .ok ⟨e.expression, e.rpn, e.value, e.symbols⟩) ∧
    (sh.mode = .expression →
      (∀ i < sh.history.length, ∃ qs sh', qs ≠ [] ∧ Browses qs ∧ sh.pressed qs = some sh' ∧
        sh'.recalled = some i) ∧
      ∀ qs, qs ≠ [] → Browses qs → ∃ sh', sh.pressed qs = some sh' ∧
        ∀ i, sh'.recalled = some i → ∃ e, sh.history.reverse[i]? = some e ∧
          (e.symbols = sh.symbols → ∀ p a, p.key = .enter →
            ∃ next, (sh'.press p).resume a = some next ∧
              next.history = (sh.history ++ [e]).rtake sh.settings.historyLimit.toNat)) := by
  refine ⟨h.replays, fun hm => ⟨fun i hi => ?_, fun qs hne hqs => ?_⟩⟩
  · obtain ⟨sh', ⟨qs, hne, hqs, hsh'⟩, hplace⟩ := h.coherent.exists_walk hm hi
    exact ⟨qs, sh', hne, hqs, hsh', hplace⟩
  · obtain ⟨sh', hsh', hretyped, hcoherent, hshows⟩ := h.coherent.browse hm hqs
    refine ⟨sh', hsh', fun i hi => ?_⟩
    obtain ⟨e, he, hinput⟩ := hshows (.inl hne) i hi
    rw [hretyped.history] at he
    refine ⟨e, he, fun hs p a hp => ?_⟩
    have hmem : e ∈ sh.history := List.mem_reverse.1 (List.mem_of_getElem? he)
    have hm' : sh'.mode = .expression := hretyped.mode.trans hm
    have hs' : e.symbols = sh'.symbols := by rw [hs, symbols, symbols, hretyped.settings]
    have haccepts : sh'.accepts p = some e :=
      accepts_of_replays (h.replays e hmem) hs' hinput hm' hp
    obtain ⟨next, hnext, -⟩ := hcoherent.press p a
    refine ⟨next, hnext, ?_⟩
    rw [history_of_accepts haccepts hm' hp hnext, hretyped.history, hretyped.settings]

/-- The expression `T` is saved, and loaded by a shell with other symbols. There it is recalled, and
entered in the symbols that came with the file. -/
theorem entries_replay_reloaded :
    let e : HistoryEntry := ⟨"T", "T", true, .standard⟩
    ∃ sh, Authentic sh ∧ sh.history = [e] ∧ sh.mode = .expression ∧
      evaluate .standard "T" = .ok ⟨"T", "T", true, .standard⟩ ∧
      ∃ sh', sh.pressed [unread .up] = some sh' ∧ sh'.recalled = some 0 ∧
        ∃ next, (sh'.press ⟨.enter, false⟩).resume (unread .enter).2 = some next ∧
          next.history = [e, e] := by
  intro e
  let digits : Symbols := ⟨'1', '0', by decide, by decide, by decide⟩
  -- The shell that saves: an expression is entered, and the prompt for the name comes up.
  have htyping : ∀ q ∈ ([.char 'e', .char 'T', .enter, .escape] : List Key).map unread,
      ∃ f, q.2.read = .error f := by
    intro q hq
    obtain ⟨k, -, rfl⟩ := List.mem_map.1 hq
    exact ⟨_, rfl⟩
  obtain ⟨typed, htyped, hmenu, hsettings, hhistory⟩ : ∃ typed,
      (start ⟨.standard, 9⟩ none).pressed
        (([.char 'e', .char 'T', .enter, .escape] : List Key).map unread) = some typed ∧
      typed.mode = .menu ∧ typed.settings = ⟨.standard, 9⟩ ∧ typed.history = [e] :=
    ⟨_, rfl, rfl, rfl, rfl⟩
  have hsaver : Authentic (typed.beginNaming .saveSession) :=
    ((Authentic.start _ _).pressed htyping htyped).key (p := ⟨.char 's', true⟩)
      (a := (unread .other).2) (by simp [press, hmenu, controlKey, Reaction.resume])
      (by simp [takesOver, hmenu])
  have hsaves : (typed.beginNaming .saveSession).Saves ⟨.enter, false⟩ typed.session.encode :=
    ⟨rfl, _, _, rfl⟩
  -- The shell that loads, from its prompt for the name to the line for expressions.
  have hloader : Authentic ((start ⟨digits, 3⟩ none).beginNaming .loadSession) :=
    (Authentic.start _ _).key (p := ⟨.char 'o', true⟩) (a := (unread .other).2) rfl rfl
  have hread : Session.ofReply (.ok typed.session.encode) = .ok typed.session :=
    Session.decode_encode _
  obtain ⟨loaded, hloaded, hmenu', hsettings', hhistory'⟩ : ∃ loaded,
      (((start ⟨digits, 3⟩ none).beginNaming .loadSession).press ⟨.enter, false⟩).resume
        ⟨.ok typed.session.encode, .ok (), .ok ()⟩ = some loaded ∧
      loaded.mode = .menu ∧ loaded.settings = ⟨.standard, 9⟩ ∧ loaded.history = [e] := by
    rw [resume_load rfl rfl, hread]
    refine ⟨_, rfl, rfl, hsettings, ?_⟩
    change trim typed.settings.historyLimit typed.history = [e]
    rw [hsettings, hhistory]
    rfl
  have hauthentic : Authentic loaded := hloader.load hsaver hsaves rfl hloaded
  have hbegun : Authentic { loaded with status := none }.beginExpression :=
    hauthentic.key (p := ⟨.char 'e', false⟩) (a := (unread .other).2)
      (by simp [press, hmenu', menuKey, Reaction.resume]) (by simp [takesOver, hmenu'])
  -- The arrow up leads to the entry.
  obtain ⟨hreplays, hrecall⟩ := entries_replay hbegun
  obtain ⟨sh', hsh', henter⟩ := (hrecall rfl).2 [unread .up] (List.cons_ne_nil _ _)
    fun q hq => .inl (by rw [List.mem_singleton.1 hq]; rfl)
  have hbegun' : { loaded with status := none }.beginExpression.history = [e] := hhistory'
  have hplace : sh'.recalled = some 0 := by
    rw [pressed_cons (resume_up rfl rfl)] at hsh'
    cases hsh'
    rw [recallOlder_eq (by rw [hbegun']; exact Nat.one_pos)]
    exact recalled_recallEntry (by rw [hbegun']; exact Nat.one_pos)
  obtain ⟨e', he', hsame⟩ := henter 0 hplace
  obtain rfl : e = e' := by
    rw [hbegun'] at he'
    exact Option.some.inj he'
  obtain ⟨next, hnext, hadded⟩ := hsame (congrArg Settings.symbols hsettings').symm ⟨.enter, false⟩
    (unread .enter).2 rfl
  refine ⟨_, hbegun, hbegun', rfl, hreplays e (by rw [hbegun']; exact List.mem_singleton_self e),
    sh', hsh', hplace, next, hnext, ?_⟩
  rw [hadded, hbegun']
  change [e, e].rtake loaded.settings.historyLimit.toNat = [e, e]
  rw [hsettings']
  rfl

end Shell

end BoolCalc
