import Mathlib.Data.List.DropRight
import BoolCalc.Proofs.Frame

/-!
# The history over a whole run

A run is watched from outside, and a ledger is kept of it that knows nothing of limits: the history
of the last session that was taken over, and behind it one entry for each expression accepted since.
The history of the shell is the end of this ledger, as long as the limit in force allows, whatever
was rejected, recalled or failed to load in between.
-/

namespace BoolCalc

/-- What a run has brought in for the history. -/
structure Ledger where
  /-- The history of the session that was taken over last. -/
  loaded : List HistoryEntry
  /-- The entries of the expressions accepted since, in order. -/
  accepted : List HistoryEntry

namespace Ledger

def empty : Ledger := ⟨[], []⟩

def entries (l : Ledger) : List HistoryEntry := l.loaded ++ l.accepted

end Ledger

variable {sh sh' : Shell} {p : Press} {a : Answers} {l : Ledger}

namespace Shell

/-- The session that the shell takes over when the key is pressed: it asks for the name of one, and
what it then reads is one. -/
def takesOver (sh : Shell) (p : Press) (a : Answers) : Option Session :=
  match sh.mode, p.key with
  | .naming .loadSession, .enter => (Session.ofReply a.read).toOption
  | _, _ => none

/-- The entry for the line when the key is pressed: the shell takes expressions, and the line, as it
was typed, is one in the symbols in force. -/
def accepts (sh : Shell) (p : Press) : Option HistoryEntry :=
  match sh.mode, p.key with
  | .expression, .enter =>
    match compute sh.symbols sh.input with
    | .ok (ts, b) =>
      some ⟨String.ofList sh.input, String.ofList (Rpn.format sh.symbols ts), b, sh.symbols⟩
    | .error _ => none
  | _, _ => none

end Shell

/-- The ledger after a key that is pressed in the state `sh`. -/
def Ledger.note (l : Ledger) (sh : Shell) (p : Press) (a : Answers) : Ledger :=
  match sh.takesOver p a with
  | some s => ⟨s.history, []⟩
  | none => { l with accepted := l.accepted ++ (sh.accepts p).toList }

namespace Shell

/-- The ledger of a run, continued from `l`. -/
def ledgerFrom (l : Ledger) (sh : Shell) : List (Press × Answers) → Ledger
  | [] => l
  | q :: qs =>
    match (sh.press q.1).resume q.2 with
    | some next => next.ledgerFrom (l.note sh q.1 q.2) qs
    | none => l

/-- The ledger of a run. -/
def ledger (sh : Shell) (qs : List (Press × Answers)) : Ledger := sh.ledgerFrom .empty qs

/-! ### What other keys leave alone -/

/-- What is remembered of evaluations is the same, and how much of it is kept. -/
structure SameMemory (sh sh' : Shell) : Prop where
  history : sh'.history = sh.history
  last : sh'.lastEvaluation = sh.lastEvaluation
  limit : sh'.settings.historyLimit = sh.settings.historyLimit

/-- **Only two keys touch the memory**: Enter behind an expression and Enter behind the name of a
session. -/
lemma Move.sameMemory (hm : Move sh p a sh') (hexpr : ¬ (sh.mode = .expression ∧ p.key = .enter))
    (hload : ¬ (sh.mode = .naming .loadSession ∧ p.key = .enter)) : SameMemory sh sh' := by
  have hloads : ¬ sh.Loads p a := fun h => hload ⟨h.1, h.2.1⟩
  have hevaluates : ¬ sh.Evaluates p := fun h => hexpr ⟨h.1, h.2.1⟩
  constructor
  · exact not_not.1 fun hne => (hm.frame.history hne).elim hloads hevaluates
  · exact not_not.1 fun hne => (hm.frame.last hne).elim hloads hevaluates
  · exact not_not.1 fun hne => hloads (hm.frame.limit hne)

/-! ### What the two keys do -/

lemma takesOver_eq_none (h : ¬ (sh.mode = .naming .loadSession ∧ p.key = .enter)) :
    sh.takesOver p a = none := by
  unfold takesOver
  split
  · exact absurd ⟨‹_›, ‹_›⟩ h
  · rfl

lemma accepts_eq_none (h : ¬ (sh.mode = .expression ∧ p.key = .enter)) : sh.accepts p = none := by
  unfold accepts
  split
  · exact absurd ⟨‹_›, ‹_›⟩ h
  · rfl

lemma resume_load (hm : sh.mode = .naming .loadSession) (hp : p.key = .enter) :
    (sh.press p).resume a =
      match Session.ofReply a.read with
      | .ok s => some (sh.loaded (.ok (s, sh.promptName)))
      | .error e => some (sh.loaded (.error e.message)) := by
  simp only [press, hm, namingKey, hp, submitName, Reaction.resume]
  cases Session.ofReply a.read <;> rfl

/-- Enter behind the name of a session takes over what is read, or leaves the memory as it is. -/
lemma memory_of_load (hm : sh.mode = .naming .loadSession) (hp : p.key = .enter)
    (hr : (sh.press p).resume a = some sh') :
    (∃ s, sh.takesOver p a = some s ∧ sh' = sh.loaded (.ok (s, sh.promptName))) ∨
      sh.takesOver p a = none ∧ SameMemory sh sh' := by
  rw [resume_load hm hp] at hr
  cases hs : Session.ofReply a.read with
  | ok s =>
    rw [hs] at hr
    cases hr
    exact .inl ⟨s, by simp [takesOver, hm, hp, hs, Except.toOption], rfl⟩
  | error e =>
    rw [hs] at hr
    cases hr
    exact .inr ⟨by simp [takesOver, hm, hp, hs, Except.toOption], rfl, rfl, rfl⟩

/-- Enter behind an expression adds its entry, or leaves the memory as it is. -/
lemma memory_of_expression (hm : sh.mode = .expression) (hp : p.key = .enter)
    (hr : (sh.press p).resume a = some sh') :
    (∃ e, sh.accepts p = some (.ofEvaluation e) ∧
      sh'.history =
        (sh.history ++ [HistoryEntry.ofEvaluation e]).rtake sh.settings.historyLimit.toNat ∧
      sh'.lastEvaluation = some e ∧ sh'.settings.historyLimit = sh.settings.historyLimit) ∨
      sh.accepts p = none ∧ SameMemory sh sh' := by
  simp only [press, hm, expressionKey, hp, Reaction.resume, Option.some.injEq, submitExpression,
    evaluate_eq, String.toList_ofList] at hr
  cases hc : compute sh.symbols sh.input with
  | ok r =>
    have he : sh.accepts p = some (.ofEvaluation
        ⟨String.ofList sh.input, String.ofList (Rpn.format sh.symbols r.1), r.2, sh.symbols⟩) := by
      simp [accepts, hm, hp, hc, HistoryEntry.ofEvaluation]
    rw [hc] at hr
    subst hr
    exact .inl ⟨_, he, rfl, rfl, rfl⟩
  | error e =>
    have he : sh.accepts p = none := by simp [accepts, hm, hp, hc]
    rw [hc] at hr
    subst hr
    exact .inr ⟨he, rfl, rfl, rfl⟩

/-- **What a key can do to the memory**: exchange it for that of a session, add an entry, or leave
it alone. -/
lemma memory_cases (hr : (sh.press p).resume a = some sh') :
    (∃ s, sh.takesOver p a = some s ∧ sh' = sh.loaded (.ok (s, sh.promptName))) ∨
      (sh.takesOver p a = none ∧ ∃ e, sh.accepts p = some (.ofEvaluation e) ∧
        sh'.history = (sh.history ++ [HistoryEntry.ofEvaluation e]).rtake
          sh.settings.historyLimit.toNat ∧
        sh'.lastEvaluation = some e ∧ sh'.settings.historyLimit = sh.settings.historyLimit) ∨
      sh.takesOver p a = none ∧ sh.accepts p = none ∧ SameMemory sh sh' := by
  by_cases hload : sh.mode = .naming .loadSession ∧ p.key = .enter
  · have hexpr : sh.accepts p = none := accepts_eq_none fun he => by
      rw [hload.1] at he
      cases he.1
    obtain hs | ⟨hnone, hsame⟩ := memory_of_load hload.1 hload.2 hr
    · exact .inl hs
    · exact .inr (.inr ⟨hnone, hexpr, hsame⟩)
  · have hnone : sh.takesOver p a = none := takesOver_eq_none hload
    by_cases hexpr : sh.mode = .expression ∧ p.key = .enter
    · obtain he | ⟨he, hsame⟩ := memory_of_expression hexpr.1 hexpr.2 hr
      · exact .inr (.inl ⟨hnone, he⟩)
      · exact .inr (.inr ⟨hnone, he, hsame⟩)
    · have hsame := ((moves_press sh p a).move hr).sameMemory hexpr hload
      exact .inr (.inr ⟨hnone, accepts_eq_none hexpr, hsame⟩)

end Shell

/-! ### The invariant -/

/-- The memory of the shell is what the ledger says. -/
structure Ledger.Tells (l : Ledger) (sh : Shell) : Prop where
  history : sh.history = l.entries.rtake sh.settings.historyLimit.toNat
  last : sh.lastEvaluation.map .ofEvaluation = l.accepted.getLast?

/-- What was cut off already does not come back. -/
lemma rtake_rtake_append {α : Type} (n : ℕ) (xs ys : List α) :
    (xs.rtake n ++ ys).rtake n = (xs ++ ys).rtake n := by
  simp only [List.rtake_eq_reverse_take_reverse, List.reverse_append, List.reverse_reverse]
  rw [List.take_append, List.take_append, List.take_take, Nat.min_eq_left (Nat.sub_le _ _)]

lemma getLast?_rtake {α : Type} {n : ℕ} (hn : 0 < n) (xs : List α) :
    (xs.rtake n).getLast? = xs.getLast? := by
  rw [List.rtake, List.getLast?_drop]
  split
  · have hlen : xs.length = 0 := by omega
    rw [List.length_eq_zero_iff.1 hlen]
    rfl
  · rfl

namespace Ledger

open Shell

lemma note_of_takesOver {s : Session} (h : sh.takesOver p a = some s) :
    l.note sh p a = ⟨s.history, []⟩ := by
  simp [note, h]

lemma note_of_none (h : sh.takesOver p a = none) :
    l.note sh p a = ⟨l.loaded, l.accepted ++ (sh.accepts p).toList⟩ := by
  simp [note, h]

/-- **What a key does to the memory is noted in the ledger.** -/
lemma Tells.press (h : l.Tells sh) (hr : (sh.press p).resume a = some sh') :
    (l.note sh p a).Tells sh' := by
  obtain ⟨s, hs, rfl⟩ | ⟨hnone, e, he, hhistory, hlast, hlimit⟩ | ⟨hnone, he, hsame⟩ :=
    memory_cases hr
  · -- A session takes the place of all that was noted.
    rw [note_of_takesOver hs]
    refine ⟨?_, rfl⟩
    rw [entries, List.append_nil]
    rfl
  · -- The history was cut before the entry came, the ledger is cut behind it.
    rw [note_of_none hnone, he]
    constructor
    · rw [hhistory, hlimit, h.history, rtake_rtake_append]
      simp [entries]
    · simp [hlast]
  · -- Nothing is noted.
    rw [note_of_none hnone, he]
    constructor
    · rw [hsame.history, hsame.limit, h.history]
      simp [entries]
    · rw [hsame.last, h.last]
      simp

lemma tells_start (settings : Settings) (name : Option String) :
    Ledger.empty.Tells (start settings name) where
  history := (List.rtake_nil _).symm
  last := rfl

lemma Tells.pressed {qs : List (Press × Answers)} (h : l.Tells sh)
    (hr : sh.pressed qs = some sh') : (sh.ledgerFrom l qs).Tells sh' := by
  induction qs generalizing sh l with
  | nil =>
    cases hr
    exact h
  | cons q qs ih =>
    obtain ⟨next, hnext, hr⟩ := pressed_cons_eq_some.1 hr
    simp only [ledgerFrom, hnext]
    exact ih (h.press hnext) hr

end Ledger

namespace Shell

/-- **The history is the end of the ledger**, of as many entries as the limit in force allows: after
any run of keys, with any settings at its start and whatever the files hold, it consists of the last
entries of what the session that was loaded last had and of what was accepted since. There is a last
outcome if and only if something was accepted since, and then, unless no entries are kept at all,
the newest entry is its entry. -/
theorem history_is_end_of_ledger (settings : Settings) (name : Option String)
    (qs : List (Press × Answers)) :
    ∃ sh, (start settings name).pressed qs = some sh ∧
      let l := (start settings name).ledger qs
      sh.history = (l.loaded ++ l.accepted).rtake sh.settings.historyLimit.toNat ∧
      (sh.lastEvaluation = none ↔ l.accepted = []) ∧
      ∀ e, sh.lastEvaluation = some e → 0 < sh.settings.historyLimit →
        sh.history.getLast? = some ⟨e.expression, e.rpn, e.value, e.symbols⟩ := by
  obtain ⟨sh, hsh, -⟩ := (coherent_start settings name).pressed qs
  have h : ((start settings name).ledger qs).Tells sh :=
    (Ledger.tells_start settings name).pressed hsh
  refine ⟨sh, hsh, h.history, ?_, fun e he hlimit => ?_⟩
  · rw [← List.getLast?_eq_none_iff, ← h.last, Option.map_eq_none_iff]
  · have hlast : ((start settings name).ledger qs).accepted.getLast? = some (.ofEvaluation e) := by
      rw [← h.last, he]
      rfl
    have hpos : 0 < sh.settings.historyLimit.toNat := UInt64.lt_iff_toNat_lt.1 hlimit
    rw [h.history, getLast?_rtake hpos, Ledger.entries, List.getLast?_append, hlast]
    rfl

/-- Of two expressions the second is kept where there is room for one entry. -/
theorem history_is_end_of_ledger_one :
    let qs := ([.char 'e', .char 'T', .enter, .char '!', .enter, .char '!', .char 'T', .enter] :
      List Key).map unread
    let last : HistoryEntry := ⟨"!T", "T !", false, .standard⟩
    ∃ sh, (start ⟨.standard, 1⟩ none).pressed qs = some sh ∧
      ((start ⟨.standard, 1⟩ none).ledger qs).accepted = [⟨"T", "T", true, .standard⟩, last] ∧
      sh.lastEvaluation = some ⟨"!T", "T !", false, .standard⟩ ∧ 0 < sh.settings.historyLimit ∧
      sh.history = [last] ∧ sh.history.getLast? = some last := by
  intro qs last
  obtain ⟨sh, hsh, hlimit, hlast⟩ : ∃ sh, (start ⟨.standard, 1⟩ none).pressed qs = some sh ∧
      sh.settings.historyLimit = 1 ∧
      sh.lastEvaluation = some ⟨"!T", "T !", false, .standard⟩ := ⟨_, rfl, rfl, rfl⟩
  obtain ⟨sh', hsh', hhistory, -, hnewest⟩ := history_is_end_of_ledger ⟨.standard, 1⟩ none qs
  obtain rfl : sh = sh' := Option.some.inj (hsh.symm.trans hsh')
  have hpos : 0 < sh.settings.historyLimit := by rw [hlimit]; decide
  refine ⟨sh, hsh, rfl, hlast, hpos, ?_, hnewest _ hlast hpos⟩
  rw [hhistory, hlimit]
  rfl

end Shell

end BoolCalc
