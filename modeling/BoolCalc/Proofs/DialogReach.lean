import Mathlib.Data.List.Perm.Subperm
import BoolCalc.Proofs.Dialog
import BoolCalc.Proofs.Frame

/-!
# Which symbols a dialog reaches

The dialog asks for the symbol for true first and refuses the one that stands for false at that
time, although it is to be replaced. So one dialog reaches every pair but those that turn the old
symbol for false into the one for true, however often its questions are answered. A dialog before it
can put another symbol for false out of the way, and then every pair is within reach.
-/

namespace BoolCalc

/-- Of three usable symbols one is neither of two characters. -/
lemma exists_usable_apart (a b : Char) : ∃ c, Usable c ∧ c ≠ a ∧ c ≠ b := by
  obtain ⟨c, hc, hapart⟩ : ∃ c ∈ ['A', 'B', 'C'], c ∉ [a, b] := by
    by_contra hall
    push Not at hall
    have hnodup : ['A', 'B', 'C'].Nodup := by decide
    have hle := (hnodup.subperm hall).length_le
    simp at hle
  have husable : ['A', 'B', 'C'].all (fun c => decide (Usable c)) = true := by decide
  refine ⟨c, of_decide_eq_true (List.all_eq_true.1 husable c hc), ?_, ?_⟩
  · exact fun he => hapart (he ▸ List.mem_cons_self)
  · exact fun he => hapart (he ▸ List.mem_cons_of_mem a List.mem_cons_self)

namespace Shell

/-- A symbol is asked for. -/
def Asks (sh : Shell) : Prop := sh.mode = .trueSymbol ∨ sh.mode = .falseSymbol

/-- The keys take a shell that asks for a symbol to the menu, and it asks for one all the way. -/
inductive Answering : Shell → List (Press × Answers) → Shell → Prop where
  | last {sh sh' : Shell} {q : Press × Answers} (h : sh.Asks)
    (hq : (sh.press q.1).resume q.2 = some sh') (hm : sh'.mode = .menu) : Answering sh [q] sh'
  | more {sh next sh' : Shell} {q : Press × Answers} {qs : List (Press × Answers)} (h : sh.Asks)
    (hq : (sh.press q.1).resume q.2 = some next) (hqs : Answering next qs sh') :
    Answering sh (q :: qs) sh'

/-- The keys are those of one dialog, from the menu, where the first begins it, to the menu. -/
def Dialog (sh : Shell) : List (Press × Answers) → Shell → Prop
  | [], _ => False
  | q :: qs, sh' =>
    sh.mode = .menu ∧ ∃ next, (sh.press q.1).resume q.2 = some next ∧ next.Answering qs sh'

/-- One dialog after the other ends with the symbols in force, whatever the outside answers. -/
def DialogsTo (s : Symbols) (sh : Shell) : List (List Press) → Prop
  | [] => sh.symbols = s
  | ps :: pss => ∀ qs : List (Press × Answers), qs.map Prod.fst = ps →
    ∃ sh', sh.Dialog qs sh' ∧ DialogsTo s sh' pss

/-- The keys of the shortest dialog that defines the symbols. -/
def defining (s : Symbols) : List Press :=
  [.char 'd', .char s.forTrue, .enter, .char s.forFalse, .enter].map (⟨·, false⟩)

variable {sh sh' next : Shell} {s r : Symbols} {q : Press × Answers} {qs : List (Press × Answers)}

lemma Answering.asks (h : sh.Answering qs sh') : sh.Asks := by
  cases h with
  | last h _ _ => exact h
  | more h _ _ => exact h

/-! ### What no dialog reaches -/

lemma symbols_of_menu (hm : sh.mode = .menu)
    (hq : (sh.press q.1).resume q.2 = some next) : next.symbols = sh.symbols :=
  congrArg Settings.symbols (((moves_press sh q.1 q.2).move hq).frame.of_idle (.menu hm)).1

/-- A key that answers keeps the symbols, or it defines a pair and closes the dialog. -/
lemma symbols_of_answer (h : sh.Coherent) (ha : sh.Asks)
    (hq : (sh.press q.1).resume q.2 = some next) :
    next.symbols = sh.symbols ∨
      next.mode = .menu ∧ next.symbols.forTrue ≠ sh.symbols.forFalse := by
  have hframe := ((moves_press sh q.1 q.2).move hq).frame
  refine or_iff_not_imp_left.2 fun hne => ?_
  obtain ⟨hload, -⟩ | ⟨hm, henter, s, hs⟩ := hframe.symbols hne
  · rcases ha with ha | ha <;> rw [ha] at hload <;> cases hload
  · obtain ⟨r, hr⟩ := Option.isSome_iff_exists.1 (h.pending_isSome.2 hm)
    have htrue : s.forTrue ≠ sh.symbols.forFalse := by
      rw [((typedSymbols_false hm hr).1 hs).2, ← h.pending_forFalse r hr]
      exact r.distinct
    obtain ⟨_, hnext, htold⟩ := resume_submitSymbol ha henter
    rw [hq] at hnext
    cases hnext
    rw [submitSymbol_of_false hm hs] at htold
    -- The pair is in force whether the file takes it or not.
    obtain rfl | ⟨-, reason, rfl⟩ := htold
    · exact ⟨rfl, htrue⟩
    · exact ⟨rfl, htrue⟩

lemma Answering.forTrue_ne (h : sh.Coherent) (ha : sh.Answering qs sh') :
    sh'.symbols.forTrue ≠ sh.symbols.forFalse := by
  induction ha with
  | last ha hq _ =>
    obtain hkept | ⟨-, hne⟩ := symbols_of_answer h ha hq
    · rw [hkept]
      exact Symbols.distinct _
    · exact hne
  | more ha hq hqs ih =>
    -- The question is still open, so no pair was defined yet.
    have hcoherent := h.move ((moves_press _ _ _).move hq)
    obtain hkept | ⟨hm, -⟩ := symbols_of_answer h ha hq
    · rw [← hkept]
      exact ih hcoherent
    · rcases hqs.asks with hasks | hasks <;> rw [hm] at hasks <;> cases hasks

/-- **No dialog turns the symbol for false into the one for true**, whatever is tried in it. -/
lemma Dialog.forTrue_ne (h : sh.Coherent) (hd : sh.Dialog qs sh') :
    sh'.symbols.forTrue ≠ sh.symbols.forFalse := by
  cases qs with
  | nil => exact hd.elim
  | cons q qs =>
    obtain ⟨hm, next, hq, ha⟩ := hd
    rw [← symbols_of_menu hm hq]
    exact ha.forTrue_ne (h.move ((moves_press _ _ _).move hq))

/-! ### What dialogs reach -/

lemma dialog_defining (hm : sh.mode = .menu) (hne : s.forTrue ≠ sh.symbols.forFalse)
    (hqs : qs.map Prod.fst = defining s) :
    ∃ sh', sh.Dialog qs sh' ∧ sh'.mode = .menu ∧ sh'.symbols = s := by
  simp only [defining, List.map_cons, List.map_nil, List.map_eq_cons_iff,
    List.map_eq_nil_iff] at hqs
  obtain ⟨q₀, _, rfl, h₀, q₁, _, rfl, h₁, q₂, _, rfl, h₂, q₃, _, rfl, h₃, q₄, _, rfl, h₄, rfl⟩ :=
    hqs
  have htrue : symbolBeside sh.symbols.forFalse [s.forTrue] = some s.forTrue :=
    symbolBeside_eq_some.2 ⟨rfl, s.true_usable, hne⟩
  obtain ⟨r, hr, -, hsecond⟩ := resume_forTrue none htrue (congrArg Press.key h₂)
  have hfalse : symbolBeside r.forTrue [s.forFalse] = some s.forFalse :=
    symbolBeside_eq_some.2 ⟨rfl, s.false_usable, by rw [hr]; exact s.distinct.symm⟩
  obtain ⟨s', text, htrue', hfalse', hlast⟩ :=
    resume_forFalse sh none hfalse (congrArg Press.key h₄)
  have hs : s' = s := by
    have hpair : Symbols.ofChars s.forTrue s.forFalse = .ok s' :=
      Symbols.ofChars_eq_ok.2 ⟨htrue'.trans hr, hfalse'⟩
    exact Except.ok.inj (hpair.symm.trans s.ofChars_self)
  subst hs
  have hfirst : ((sh.asking none [] none).press q₁.1).resume q₁.2 =
      some (sh.asking none [s'.forTrue] none) := resume_char (congrArg Press.key h₁)
  have hthird : ((sh.asking (some r) [] none).press q₃.1).resume q₃.2 =
      some (sh.asking (some r) [s'.forFalse] none) := resume_char (congrArg Press.key h₃)
  have hanswers := Answering.more (mode_asking sh none [] none) hfirst
    (.more (mode_asking sh none _ none) hsecond
      (.more (mode_asking sh (some r) [] none) hthird
        (.last (mode_asking sh (some r) _ none) hlast rfl)))
  exact ⟨_, ⟨hm, _, resume_begin hm h₀, hanswers⟩, rfl, rfl⟩

/-- The shortest dialog, and whatever dialogs follow it. -/
lemma dialogsTo_defining {pss : List (List Press)} (hm : sh.mode = .menu)
    (hne : r.forTrue ≠ sh.symbols.forFalse)
    (hnext : ∀ sh', sh'.mode = .menu → sh'.symbols = r → DialogsTo s sh' pss) :
    DialogsTo s sh (defining r :: pss) := by
  intro qs hqs
  obtain ⟨sh', hd, hm', hr⟩ := dialog_defining hm hne hqs
  exact ⟨sh', hd, hnext sh' hm' hr⟩

lemma dialogsTo_one (hm : sh.mode = .menu) (hne : s.forTrue ≠ sh.symbols.forFalse) :
    DialogsTo s sh [defining s] :=
  dialogsTo_defining hm hne fun _ _ hs => hs

/-- The first dialog keeps the symbol for true and takes one for false that is in nobody's way. -/
lemma exists_dialogsTo_two (hm : sh.mode = .menu) (s : Symbols) :
    ∃ ps ps', DialogsTo s sh [ps, ps'] := by
  obtain ⟨c, husable, hnot, hne⟩ := exists_usable_apart sh.symbols.forTrue s.forTrue
  let r : Symbols := ⟨sh.symbols.forTrue, c, hnot.symm, sh.symbols.true_usable, husable⟩
  refine ⟨defining r, defining s, dialogsTo_defining hm sh.symbols.distinct ?_⟩
  intro sh' hm' hr
  refine dialogsTo_one hm' ?_
  rw [hr]
  exact hne.symm

/-- **No symbols are a trap.** At the menu, in every state that keys lead to, some dialog ends with
given symbols in force if and only if their symbol for true is not the one that stands for false so
far. This takes in all the strings that may be tried and refused in the dialog, and if there is such
a dialog, there are keys that make it whatever the files answer. Two dialogs, one after the other,
always suffice. -/
theorem symbols_within_two_dialogs {sh : Shell} (h : sh.Reached) (hm : sh.mode = .menu)
    (s : Symbols) :
    ((∃ qs sh', sh.Dialog qs sh' ∧ sh'.symbols = s) ↔ s.forTrue ≠ sh.symbols.forFalse) ∧
      (s.forTrue ≠ sh.symbols.forFalse → ∃ ps, DialogsTo s sh [ps]) ∧
      ∃ pss, pss.length ≤ 2 ∧ DialogsTo s sh pss := by
  refine ⟨⟨?_, fun hne => ?_⟩, fun hne => ⟨_, dialogsTo_one hm hne⟩, ?_⟩
  · rintro ⟨qs, sh', hd, rfl⟩
    exact hd.forTrue_ne h.coherent
  · obtain ⟨sh', hd, hs⟩ := dialogsTo_one hm hne
      ((defining s).map fun p => (p, (unread .other).2)) (by rw [List.map_map]; rfl)
    exact ⟨_, sh', hd, hs⟩
  · obtain ⟨ps, ps', hdialogs⟩ := exists_dialogsTo_two hm s
    exact ⟨[ps, ps'], Nat.le_refl 2, hdialogs⟩

/-- Symbols that were defined before change places, in two dialogs and not in one. -/
theorem symbols_within_two_dialogs_swapped :
    let keys := ([.char 'd', .char '1', .enter, .char '0', .enter] : List Key).map unread
    let s : Symbols := ⟨'0', '1', by decide, by decide, by decide⟩
    ∃ sh, (start .standard none).pressed keys = some sh ∧ sh.mode = .menu ∧
      sh.symbols.forTrue = '1' ∧ sh.symbols.forFalse = '0' ∧
      (¬ ∃ qs sh', sh.Dialog qs sh' ∧ sh'.symbols = s) ∧
      ∃ pss, pss.length ≤ 2 ∧ DialogsTo s sh pss := by
  intro keys s
  obtain ⟨sh, hkeys, hm, htrue, hfalse⟩ : ∃ sh, (start .standard none).pressed keys = some sh ∧
      sh.mode = .menu ∧ sh.symbols.forTrue = '1' ∧ sh.symbols.forFalse = '0' :=
    ⟨_, rfl, rfl, rfl, rfl⟩
  have hreached : sh.Reached := ⟨_, _, none, _, hkeys⟩
  obtain ⟨hone, -, htwo⟩ := symbols_within_two_dialogs hreached hm s
  exact ⟨sh, hkeys, hm, htrue, hfalse, fun hd => hone.1 hd hfalse.symm, htwo⟩

end Shell

end BoolCalc
