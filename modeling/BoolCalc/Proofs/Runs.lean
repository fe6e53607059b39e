import Mathlib.Data.List.Basic
import BoolCalc.Shell.Keys

/-!
# Runs of the shell

The shell is driven by keys and by direct calls. A key may ask the outside for something, and a run
says what the outside answers each time: which bytes a file holds, whether it can be written,
whether there is a clipboard. Nothing ties the answers to each other, so that a statement about all
runs is one about every file system, also one that others change in the meantime; a run on a store
is one of them. What a key can do is told once, by the relation `Move`.
-/

namespace BoolCalc

/-- The answers of the outside to whatever a key asks for. -/
structure Answers where
  read : Except FileError ByteArray
  written : Except FileError Unit
  copied : Except String Unit

/-- The state after a reaction that is given answers; `none` if the shell is stuck. -/
def Reaction.resume (a : Answers) : Reaction → Option Shell
  | .settle next => some next
  | .read _ resume => some (resume a.read)
  | .write _ _ resume => some (resume a.written)
  | .copy _ resume => some (resume a.copied)
  | .stuck => none

/-- The calls that change the shell directly. -/
inductive Call where
  | beginExpression
  | submitExpression
  | leaveExpression
  | recallOlder
  | recallNewer
  | beginSymbols
  | submitSymbol
  | symbolsUnsaved (reason : String)
  | leaveSymbols
  | showGates
  | showHelp
  | closeView
  | beginNaming (purpose : Purpose)
  | leaveNaming
  | saved (outcome : Except String String)
  | loaded (outcome : Except String (Session × String))
  | exported (outcome : Except String String)
  | copied (outcome : Except String Unit)
  | insert (c : Char)
  | deleteBefore
  | deleteAt
  | left
  | right
  | home
  | toEnd

/-- What drives the shell: a key with the answers to what it asks for, or a call. -/
inductive Input where
  | key (p : Press) (a : Answers)
  | call (c : Call)

namespace Shell

/-- The state after a call; `none` if the shell is stuck. -/
def call (sh : Shell) : Call → Option Shell
  | .beginExpression => some sh.beginExpression
  | .submitExpression => some sh.submitExpression
  | .leaveExpression => some sh.leaveExpression
  | .recallOlder => some sh.recallOlder
  | .recallNewer => some sh.recallNewer
  | .beginSymbols => some sh.beginSymbols
  | .submitSymbol => some sh.submitSymbol
  | .symbolsUnsaved reason => some (sh.symbolsUnsaved reason)
  | .leaveSymbols => some sh.leaveSymbols
  | .showGates => some sh.showGates
  | .showHelp => some sh.showHelp
  | .closeView => some sh.closeView
  | .beginNaming purpose => some (sh.beginNaming purpose)
  | .leaveNaming => some sh.leaveNaming
  | .saved outcome => some (sh.saved outcome)
  | .loaded outcome => some (sh.loaded outcome)
  | .exported outcome => some (sh.exported outcome)
  | .copied outcome => some (sh.copied outcome)
  | .insert c => some (sh.edit (·.insert c))
  | .deleteBefore => sh.deleteBefore?
  | .deleteAt => some (sh.edit Line.deleteAt)
  | .left => some (sh.edit Line.left)
  | .right => some (sh.edit Line.right)
  | .home => some (sh.edit Line.home)
  | .toEnd => some (sh.edit Line.toEnd)

/-- The state after an input; `none` if the shell is stuck. -/
def take (sh : Shell) : Input → Option Shell
  | .key p a => (sh.press p).resume a
  | .call c => sh.call c

/-- The state after a run of inputs; `none` if the shell gets stuck. -/
def takeAll (sh : Shell) (is : List Input) : Option Shell := is.foldlM take sh

@[simp] lemma takeAll_nil (sh : Shell) : sh.takeAll [] = some sh := rfl

@[simp] lemma takeAll_cons (sh : Shell) (i : Input) (is : List Input) :
    sh.takeAll (i :: is) = (sh.take i).bind fun sh' => sh'.takeAll is := rfl

/-- The state after a run of keys; `none` if the shell gets stuck. -/
def pressed (sh : Shell) (ps : List (Press × Answers)) : Option Shell :=
  sh.takeAll (ps.map fun p => .key p.1 p.2)

/-- A plain key, with no file to be read. -/
def unread (k : Key) : Press × Answers := (⟨k, false⟩, ⟨.error .missing, .ok (), .ok ()⟩)

lemma pressed_cons_eq_some {sh sh' : Shell} {q : Press × Answers} {qs : List (Press × Answers)} :
    sh.pressed (q :: qs) = some sh' ↔
      ∃ next, (sh.press q.1).resume q.2 = some next ∧ next.pressed qs = some sh' := by
  rw [pressed, List.map_cons, takeAll_cons, Option.bind_eq_some_iff]
  rfl

end Shell

/-! ### Runs on a store -/

/-- The answers of a store to a reaction. -/
def Reaction.answers (st : Store) : Reaction → Answers
  | .read name _ => ⟨st.read name, .ok (), .ok ()⟩
  | .write name content _ => ⟨.error .missing, (st.write name content).map fun _ => (), .ok ()⟩
  | .settle _ | .copy _ _ | .stuck => ⟨.error .missing, .ok (), .ok ()⟩

lemma Reaction.map_carryOut (r : Reaction) (st : Store) :
    (r.carryOut st).map Prod.fst = r.resume (r.answers st) := by
  cases r with
  | write name content resume =>
    simp only [carryOut, Reaction.resume, answers]
    cases st.write name content <;> rfl
  | settle | read | copy | stuck => rfl

/-- **A run on a store is a run with some answers.** -/
lemma map_pressAll (sh : Shell) (st : Store) (ps : List Press) :
    ∃ as : List (Press × Answers), as.map Prod.fst = ps ∧
      (pressAll sh st ps).map Prod.fst = sh.pressed as := by
  induction ps generalizing sh st with
  | nil => exact ⟨[], rfl, rfl⟩
  | cons p ps ih =>
    have hstep := (sh.press p).map_carryOut st
    cases hout : (sh.press p).carryOut st with
    | none =>
      rw [hout] at hstep
      refine ⟨(p, (sh.press p).answers st) :: ps.map (·, (sh.press p).answers st), ?_, ?_⟩
      · simp [Function.comp_def]
      · simp only [pressAll, hout, Shell.pressed, List.map_cons, Shell.takeAll_cons, Shell.take,
          ← hstep]
        rfl
    | some r =>
      rw [hout] at hstep
      obtain ⟨as, rfl, has⟩ := ih r.1 r.2
      refine ⟨(p, (sh.press p).answers st) :: as, rfl, ?_⟩
      simp only [pressAll, hout, Shell.pressed, List.map_cons, Shell.takeAll_cons, Shell.take,
        ← hstep]
      exact has

section

variable {sh sh' next : Shell} {st st' : Store} {p : Press} {ps : List Press}

lemma pressAll_cons (h : (sh.press p).carryOut st = some (next, st')) :
    pressAll sh st (p :: ps) = pressAll next st' ps := by
  rw [pressAll, h]

lemma pressAll_cons_eq_some {r : Shell × Store} :
    pressAll sh st (p :: ps) = some r ↔
      ∃ next st', (sh.press p).carryOut st = some (next, st') ∧ pressAll next st' ps = some r := by
  constructor
  · intro h
    rw [pressAll] at h
    cases hout : (sh.press p).carryOut st with
    | none =>
      rw [hout] at h
      cases h
    | some o =>
      rw [hout] at h
      exact ⟨o.1, o.2, rfl, h⟩
  · rintro ⟨next, st', hout, h⟩
    rwa [pressAll_cons hout]

lemma pressAll_append (hps : pressAll sh st ps = some (sh', st')) (qs : List Press) :
    pressAll sh st (ps ++ qs) = pressAll sh' st' qs := by
  induction ps generalizing sh st with
  | nil =>
    cases hps
    rfl
  | cons p ps ih =>
    obtain ⟨next, st₁, hnext, hps⟩ := pressAll_cons_eq_some.1 hps
    rw [List.cons_append, pressAll_cons hnext]
    exact ih hps

end

/-! ### What a key can do -/

/-- The modes in which the line for expressions and symbols is edited. -/
def Mode.takesText : Mode → Bool
  | .expression | .trueSymbol | .falseSymbol => true
  | .menu | .gates | .help | .naming _ => false

/-- The modes in which the other line, for file names, is edited. -/
def Mode.takesName : Mode → Bool
  | .naming _ => true
  | .menu | .gates | .help | .expression | .trueSymbol | .falseSymbol => false

/-- The edits of a line that cannot fail. -/
inductive Line.Edit : (Line → Line) → Prop where
  | insert (c : Char) : Edit (·.insert c)
  | deleteAt : Edit deleteAt
  | left : Edit left
  | right : Edit right
  | home : Edit home
  | toEnd : Edit toEnd

namespace Shell

/-- What a key `p` that is given answers can make of the shell. -/
inductive Move (sh : Shell) (p : Press) (a : Answers) : Shell → Prop where
  /-- The key has no meaning where the shell is. -/
  | stay : Move sh p a sh
  | silence (h : sh.mode = .menu) : Move sh p a { sh with status := none }
  | beginExpression (h : sh.mode = .menu) : Move sh p a sh.beginExpression
  | beginSymbols (h : sh.mode = .menu) : Move sh p a sh.beginSymbols
  | showGates (h : sh.mode = .menu) : Move sh p a sh.showGates
  | showHelp (h : sh.mode = .menu) : Move sh p a { sh with status := none }.showHelp
  | beginNaming (purpose : Purpose)
    (h : sh.mode = .menu ∨ sh.mode = .gates ∧ purpose = .exportGates) :
    Move sh p a (sh.beginNaming purpose)
  | nothingToCopy (h : sh.mode = .menu) (hl : sh.lastEvaluation = none) :
    Move sh p a { sh with status := some "Nothing to copy yet" }
  | copied (h : sh.mode = .menu) : Move sh p a (sh.copied a.copied)
  | closeView (h : sh.mode = .gates ∨ sh.mode = .help) : Move sh p a sh.closeView
  | scroll (h : sh.mode = .help) (n : ℕ) (hn : n ≤ sh.helpScroll + 5) :
    Move sh p a { sh with helpScroll := n }
  | edit (h : sh.mode.takesText ∨ sh.mode.takesName) {f : Line → Line} (hf : Line.Edit f) :
    Move sh p a (sh.edit f)
  | deleteBefore (h : sh.mode.takesText ∨ sh.mode.takesName) {next : Shell}
    (hn : sh.deleteBefore? = some next) : Move sh p a next
  | submitExpression (h : sh.mode = .expression) (hp : p.key = .enter) :
    Move sh p a sh.submitExpression
  | leaveExpression (h : sh.mode = .expression) (hp : p.key = .escape) :
    Move sh p a sh.leaveExpression
  | recallOlder (h : sh.mode = .expression) (hp : p.key = .up) : Move sh p a sh.recallOlder
  | recallNewer (h : sh.mode = .expression) (hp : p.key = .down) : Move sh p a sh.recallNewer
  | submitSymbol (h : sh.mode = .trueSymbol ∨ sh.mode = .falseSymbol) (hp : p.key = .enter) :
    Move sh p a sh.submitSymbol
  /-- The symbols change, but the file of settings refuses them. -/
  | symbolsUnsaved (h : sh.mode = .trueSymbol ∨ sh.mode = .falseSymbol) (hp : p.key = .enter)
    {e : FileError} (he : a.written = .error e) :
    Move sh p a (sh.submitSymbol.symbolsUnsaved e.message)
  | leaveSymbols (h : sh.mode = .trueSymbol ∨ sh.mode = .falseSymbol) (hp : p.key = .escape) :
    Move sh p a sh.leaveSymbols
  | saved (h : sh.mode = .naming .saveSession) (hp : p.key = .enter) :
    Move sh p a (sh.saved (written sh.promptName a.written))
  | loaded (h : sh.mode = .naming .loadSession) (hp : p.key = .enter) {s : Session}
    (hs : Session.ofReply a.read = .ok s) : Move sh p a (sh.loaded (.ok (s, sh.promptName)))
  | unloaded (h : sh.mode = .naming .loadSession) (hp : p.key = .enter) {e : LoadError}
    (he : Session.ofReply a.read = .error e) : Move sh p a (sh.loaded (.error e.message))
  | exported (h : sh.mode = .naming .exportHistory ∨ sh.mode = .naming .exportGates)
    (hp : p.key = .enter) (outcome : Except String String) : Move sh p a (sh.exported outcome)
  | leaveNaming {purpose : Purpose} (h : sh.mode = .naming purpose) (hp : p.key = .escape) :
    Move sh p a sh.leaveNaming

variable {sh next : Shell} {p : Press} {a : Answers}

/-- A reaction comes to a move, or the shell is stuck because there is nothing to delete before the
cursor. -/
def Moves (sh : Shell) (p : Press) (a : Answers) (r : Reaction) : Prop :=
  match r.resume a with
  | some sh' => Move sh p a sh'
  | none => sh.deleteBefore? = none

lemma moves_settle (h : Move sh p a next) : Moves sh p a (.settle next) := h

lemma moves_read {name : String} {resume : Except FileError ByteArray → Shell}
    (h : Move sh p a (resume a.read)) : Moves sh p a (.read name resume) := h

lemma moves_write {name : String} {content : ByteArray} {resume : Except FileError Unit → Shell}
    (h : Move sh p a (resume a.written)) : Moves sh p a (.write name content resume) := h

lemma moves_copy {text : String} {resume : Except String Unit → Shell}
    (h : Move sh p a (resume a.copied)) : Moves sh p a (.copy text resume) := h

lemma moves_stuck (h : sh.deleteBefore? = none) : Moves sh p a .stuck := h

lemma Moves.move {r : Reaction} (h : Moves sh p a r) {sh' : Shell} (hr : r.resume a = some sh') :
    Move sh p a sh' := by
  rw [Moves, hr] at h
  exact h

lemma Moves.exists_resume {r : Reaction} (h : Moves sh p a r) (hd : sh.deleteBefore? = some next) :
    ∃ sh', r.resume a = some sh' := by
  cases hr : r.resume a with
  | some sh' => exact ⟨sh', rfl⟩
  | none =>
    rw [Moves, hr, hd] at h
    cases h

lemma moves_editKey (h : sh.mode.takesText ∨ sh.mode.takesName) (key : Key) :
    Moves sh p a (sh.editKey key) := by
  unfold editKey
  split
  · split
    · exact moves_settle (.deleteBefore h ‹_›)
    · exact moves_stuck ‹_›
  · exact moves_settle (.edit h .deleteAt)
  · exact moves_settle (.edit h .left)
  · exact moves_settle (.edit h .right)
  · exact moves_settle (.edit h .home)
  · exact moves_settle (.edit h .toEnd)
  · exact moves_settle (.edit h (.insert _))
  · exact moves_settle .stay

lemma moves_copyResult (h : sh.mode = .menu) : Moves sh p a sh.copyResult := by
  unfold copyResult
  split
  · exact moves_copy (.copied h)
  · rename_i hc
    exact moves_settle (.nothingToCopy h (Option.map_eq_none_iff.1 hc))

lemma moves_controlKey (h : sh.mode = .menu) (key : Key) :
    Moves sh p a (sh.controlKey key) := by
  unfold controlKey
  split
  · exact moves_settle (.beginNaming .saveSession (.inl h))
  · exact moves_settle (.beginNaming .loadSession (.inl h))
  · exact moves_settle (.beginNaming .exportHistory (.inl h))
  · exact moves_settle (.beginNaming .exportGates (.inl h))
  · exact moves_copyResult h
  · exact moves_settle .stay

lemma move_menuKey (h : sh.mode = .menu) (key : Key) : Move sh p a (sh.menuKey key) := by
  unfold menuKey
  split
  · exact .beginExpression h
  · exact .beginExpression h
  · exact .beginExpression h
  · exact .showGates h
  · exact .showGates h
  · exact .beginSymbols h
  · exact .beginSymbols h
  · exact .showHelp h
  · exact .showHelp h
  · exact .silence h

lemma moves_expressionKey (h : sh.mode = .expression) :
    Moves sh p a (sh.expressionKey p.key) := by
  unfold expressionKey
  split
  · exact moves_settle (.submitExpression h ‹_›)
  · exact moves_settle (.leaveExpression h ‹_›)
  · exact moves_settle (.recallOlder h ‹_›)
  · exact moves_settle (.recallNewer h ‹_›)
  · exact moves_editKey (.inl (by rw [h]; rfl)) p.key

lemma moves_submitSymbolKey (h : sh.mode = .trueSymbol ∨ sh.mode = .falseSymbol)
    (hp : p.key = .enter) : Moves sh p a sh.submitSymbolKey := by
  simp only [submitSymbolKey]
  split
  · exact moves_settle (.submitSymbol h hp)
  · split
    · exact moves_settle (.submitSymbol h hp)
    · refine moves_write ?_
      split
      · exact .submitSymbol h hp
      · exact .symbolsUnsaved h hp ‹_›

lemma moves_symbolKey (h : sh.mode = .trueSymbol ∨ sh.mode = .falseSymbol) :
    Moves sh p a (sh.symbolKey p.key) := by
  unfold symbolKey
  split
  · exact moves_submitSymbolKey h ‹_›
  · exact moves_settle (.leaveSymbols h ‹_›)
  · refine moves_editKey (.inl ?_) p.key
    rcases h with h | h <;> rw [h] <;> rfl

lemma move_gatesKey (h : sh.mode = .gates) : Move sh p a (sh.gatesKey p) := by
  unfold gatesKey
  split
  · split
    · exact .beginNaming .exportGates (.inr ⟨h, rfl⟩)
    · exact .closeView (.inl h)
  · exact .closeView (.inl h)
  · exact .closeView (.inl h)
  · exact .closeView (.inl h)
  · exact .stay

lemma move_helpKey (h : sh.mode = .help) (key : Key) : Move sh p a (sh.helpKey key) := by
  unfold helpKey
  split
  · exact .closeView (.inr h)
  · exact .closeView (.inr h)
  · exact .closeView (.inr h)
  · exact .closeView (.inr h)
  · exact .scroll h _ (by omega)
  · exact .scroll h _ (by omega)
  · exact .scroll h _ (by omega)
  · exact .scroll h _ (by omega)
  · exact .scroll h _ (by omega)
  · exact .scroll h _ (by omega)
  · exact .scroll h _ (by omega)
  · exact .stay

lemma moves_submitName {purpose : Purpose} (h : sh.mode = .naming purpose) (hp : p.key = .enter) :
    Moves sh p a (sh.submitName purpose) := by
  cases purpose with
  | saveSession => exact moves_write (.saved h hp)
  | loadSession =>
    refine moves_read ?_
    split
    · exact .loaded h hp ‹_›
    · exact .unloaded h hp ‹_›
  | exportHistory =>
    simp only [submitName]
    split
    · exact moves_write (.exported (.inl h) hp _)
    · exact moves_settle (.exported (.inl h) hp _)
  | exportGates => exact moves_write (.exported (.inr h) hp _)

lemma moves_namingKey {purpose : Purpose} (h : sh.mode = .naming purpose) :
    Moves sh p a (sh.namingKey purpose p.key) := by
  unfold namingKey
  split
  · exact moves_submitName h ‹_›
  · exact moves_settle (.leaveNaming h ‹_›)
  · exact moves_editKey (.inr (by rw [h]; rfl)) p.key

/-- **A key only makes moves**, whatever the outside answers. -/
lemma moves_press (sh : Shell) (p : Press) (a : Answers) : Moves sh p a (sh.press p) := by
  unfold press
  split
  · split
    · exact moves_controlKey ‹_› p.key
    · exact moves_settle (move_menuKey ‹_› p.key)
  · exact moves_expressionKey ‹_›
  · exact moves_symbolKey (.inl ‹_›)
  · exact moves_symbolKey (.inr ‹_›)
  · exact moves_settle (move_gatesKey ‹_›)
  · exact moves_settle (move_helpKey ‹_› p.key)
  · exact moves_namingKey ‹_›

/-! ### What is left alone -/

lemma withLine_eq (sh : Shell) (l : Line) :
    sh.withLine l =
      { sh with
        input := if sh.mode.takesName then sh.input else l.chars
        nameInput := if sh.mode.takesName then l.chars else sh.nameInput
        cursor := l.cursor } := by
  cases hm : sh.mode <;> simp [withLine, hm, Mode.takesName]

/-- An evaluation touches history, last outcome and status, and empties the line. -/
lemma submitExpression_eq (sh : Shell) : ∃ history last error text,
    sh.submitExpression =
      { sh with
        input := [], cursor := 0, recalled := none
        history := history, lastEvaluation := last, lastError := error, status := text } := by
  unfold submitExpression
  cases evaluate sh.symbols (String.ofList sh.input) with
  | ok e => exact ⟨_, _, _, _, rfl⟩
  | error r => exact ⟨_, _, _, _, rfl⟩

lemma saved_eq (sh : Shell) (outcome : Except String String) : ∃ text name,
    sh.saved outcome =
      { sh with
        mode := .menu, nameInput := [], cursor := 0, status := text, sessionName := name } := by
  cases outcome with
  | ok name => exact ⟨_, _, rfl⟩
  | error reason => exact ⟨_, _, rfl⟩

/-- Only the line for expressions and what is recalled into it differ. -/
def Retyped (sh sh' : Shell) : Prop :=
  ∃ chars n i, sh' = { sh with input := chars, cursor := n, recalled := i }

lemma retyped_recallEntry (sh : Shell) (i : ℕ) : Retyped sh (sh.recallEntry i) := by
  unfold recallEntry
  split
  · exact ⟨_, _, _, rfl⟩
  · exact ⟨_, _, _, rfl⟩

lemma retyped_recallOlder (sh : Shell) : Retyped sh sh.recallOlder := by
  unfold recallOlder
  split
  · exact ⟨_, _, _, rfl⟩
  · split
    · exact retyped_recallEntry sh _
    · exact retyped_recallEntry sh _

lemma retyped_recallNewer (sh : Shell) : Retyped sh sh.recallNewer := by
  unfold recallNewer
  split
  · exact ⟨_, _, _, rfl⟩
  · exact ⟨_, _, _, rfl⟩
  · exact retyped_recallEntry sh _

end Shell

end BoolCalc
