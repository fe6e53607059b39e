import Mathlib.Data.List.Basic
import BoolCalc.Evaluation
import BoolCalc.Proofs.Grammar

/-!
# Conversion follows the layered grammar

The conversion emits the post-order listing of the tree that the layered grammar gives to an
expression. The proof follows a derivation: after a phrase of some layer the operators of the
phrase that still wait lie on top of what waited before, they bind at least as tightly as the
layer, and the tokens emitted with these operators behind them list the tree of the phrase. It
follows which texts are expressions, that each has one tree, and that evaluating it gives the
value of the tree.
-/

namespace BoolCalc

open Text (isBlank)

lemma Connective.yieldsTo_iff (c : Connective) (top : Operator) :
    c.op.yieldsTo top = true ↔ c.tier.level ≤ top.precedence := by
  cases c <;> cases top <;> decide

lemma Connective.precedence_op (c : Connective) : c.op.precedence = c.tier.level := by
  cases c <;> rfl

lemma Connective.tier_ne_unary (c : Connective) : c.tier ≠ .unary := by cases c <;> decide

lemma Operator.not_yieldsTo (top : Operator) : Operator.not.yieldsTo top = false := by
  cases top <;> rfl

namespace Pending

lemma filterMap_operator? (ops : List Operator) :
    (ops.map operator).filterMap operator? = ops := by
  rw [List.filterMap_map]
  exact List.filterMap_some

/-- Operators on top of what stays leave all together, and nothing else leaves. -/
lemma leave_stay {p : Pending → Bool} {ops : List Operator} {ps : List Pending}
    (hops : ∀ op ∈ ops, p (.operator op) = true) (hps : ps.takeWhile p = []) :
    ((ops.map operator ++ ps).takeWhile p).filterMap operator? = ops ∧
      (ops.map operator ++ ps).dropWhile p = ps := by
  have hleave : ∀ x ∈ ops.map operator, p x = true := by
    intro x hx
    obtain ⟨op, hop, rfl⟩ := List.mem_map.1 hx
    exact hops op hop
  have hstay : ps.dropWhile p = ps := by
    have := List.takeWhile_append_dropWhile (p := p) (l := ps)
    rwa [hps, List.nil_append] at this
  constructor
  · rw [List.takeWhile_append_of_pos hleave, hps, List.append_nil, filterMap_operator?]
  · rw [List.dropWhile_append_of_pos hleave, hstay]

end Pending

namespace Conversion

/-- No connective of layer `k` or of a tighter one sends off what waits. -/
def Rests (k : Tier) (ps : List Pending) : Prop :=
  ∀ c : Connective, k.level ≤ c.tier.level → ps.takeWhile (·.leavesFor c.op) = []

lemma rests_unary (ps : List Pending) : Rests .unary ps := by
  intro c hc
  cases c <;> simp [Tier.level, Connective.tier] at hc

lemma rests_opening (k : Tier) (p : ℕ) (ps : List Pending) : Rests k (.opening p :: ps) :=
  fun _ _ => rfl

lemma Rests.tighter {k : Tier} {ps : List Pending} (h : Rests k ps) : Rests k.tighter ps :=
  fun c hc => h c (Nat.le_trans k.level_le_tighter hc)

/-- A connective that waits rests while tighter ones arrive. -/
lemma rests_connective (c : Connective) (ps : List Pending) :
    Rests c.tier.tighter (.operator c.op :: ps) := by
  intro d hd
  have hlt : c.op.precedence < d.tier.level := by
    rw [c.precedence_op]
    exact Nat.lt_of_lt_of_le (Tier.level_lt_tighter c.tier_ne_unary) hd
  have hno : ¬ d.op.yieldsTo c.op = true := by
    rw [d.yieldsTo_iff]
    omega
  exact List.takeWhile_cons_of_neg hno

/-- `st'` is `st` after a phrase of layer `k` with the tree `t`, of which the operators `ops` still
wait. -/
structure Absorbs (k : Tier) (t : Tree) (st st' : Conversion) (ops : List Operator) : Prop where
  settled : st'.wantsOperand = false
  pending : st'.pending = ops.map .operator ++ st.pending
  tight : ∀ op ∈ ops, k.level ≤ op.precedence
  emitted : st'.emitted.reverse ++ ops.map .operator = st.emitted.reverse ++ t.postorder

/-- A connective sends off the waiting operators of its left operand, and no others. -/
lemma push_connective {st : Conversion} {ops : List Operator} {ps : List Pending} (c : Connective)
    (hp : st.pending = ops.map .operator ++ ps) (ho : ∀ op ∈ ops, c.tier.level ≤ op.precedence)
    (hr : ps.takeWhile (·.leavesFor c.op) = []) :
    (st.push c.op).pending = .operator c.op :: ps ∧
      (st.push c.op).emitted.reverse = st.emitted.reverse ++ ops.map .operator := by
  obtain ⟨htake, hdrop⟩ := Pending.leave_stay (p := (·.leavesFor c.op))
    (fun op hop => (c.yieldsTo_iff op).2 (ho op hop)) hr
  constructor
  · simp only [push, hp, hdrop]
  · simp only [push, leaving, hp, htake, List.reverse_append, List.reverse_reverse]

lemma push_not (st : Conversion) :
    (st.push .not).pending = .operator .not :: st.pending ∧
      (st.push .not).emitted = st.emitted := by
  have hnone : ∀ x : Pending, x.leavesFor .not = false := by
    intro x
    cases x with
    | operator op => exact op.not_yieldsTo
    | opening _ => rfl
  cases hp : st.pending <;> simp [push, leaving, hp, hnone]

/-- A closing parenthesis sends off what waits above the innermost open one. -/
lemma close_group {st : Conversion} {ops : List Operator} {q : ℕ} {ps : List Pending} (p : ℕ)
    (hp : st.pending = ops.map .operator ++ .opening q :: ps) :
    ∃ st', st.close p = .ok st' ∧ st'.wantsOperand = false ∧ st'.pending = ps ∧
      st'.emitted.reverse = st.emitted.reverse ++ ops.map .operator := by
  have hstay : (Pending.opening q :: ps).takeWhile (·.opening?.isNone) = [] := rfl
  obtain ⟨htake, hdrop⟩ := Pending.leave_stay (fun op (_ : op ∈ ops) => rfl) hstay
  simp only [close, hp, htake, hdrop]
  exact ⟨_, rfl, rfl, rfl, by simp⟩

lemma step_token {st : Conversion} {x : Lexeme} {t : Token} (h : x.token? = some t) :
    st.step x = st.read x.position t := by
  simp only [step, Lexeme.read, h]
  rfl

/-- A phrase after a waiting operator makes a larger phrase, of which the operator waits last. -/
lemma Absorbs.snoc {j k : Tier} {t u : Tree} {st st₀ st' : Conversion} {ops : List Operator}
    {op : Operator} (h : Absorbs k t st₀ st' ops) (hp : st₀.pending = .operator op :: st.pending)
    (hjk : j.level ≤ k.level) (hop : j.level ≤ op.precedence)
    (he : st₀.emitted.reverse ++ t.postorder ++ [.operator op] =
      st.emitted.reverse ++ u.postorder) :
    Absorbs j u st st' (ops ++ [op]) where
  settled := h.settled
  pending := by
    rw [h.pending, hp]
    simp
  tight := by
    intro o ho
    rcases List.mem_append.1 ho with ho | ho
    · exact Nat.le_trans hjk (h.tight o ho)
    · rw [List.mem_singleton.1 ho]
      exact hop
  emitted := by
    rw [List.map_append, ← List.append_assoc, h.emitted]
    exact he

/-- **A run over a phrase absorbs the phrase.** -/
lemma run_derives {k : Tier} {ts : List Token} {t : Tree} (h : Derives k ts t) :
    ∀ (st : Conversion) (xs : List Lexeme), xs.map (·.token?) = ts.map some →
      st.wantsOperand = true → Rests k st.pending →
      ∃ st' ops, st.run xs = .ok st' ∧ Absorbs k t st st' ops := by
  induction h with
  | literal b =>
    intro st xs hxs hw _
    obtain ⟨x, rfl, hx⟩ := List.map_eq_singleton_iff.1 hxs
    refine ⟨⟨.literal b :: st.emitted, st.pending, false, some (.literal b)⟩, [],
      ?_, rfl, rfl, by simp, ?_⟩
    · rw [run_cons, step_token hx, read, if_pos hw]
      rfl
    · simp [Tree.postorder]
  | @group ts t h ih =>
    intro st xs hxs hw _
    obtain ⟨x, xs', rfl, hx, hxs'⟩ := List.map_eq_cons_iff.1 hxs
    obtain ⟨ys, zs, rfl, hys, hzs⟩ := List.map_eq_append_iff.1 (hxs'.trans (List.map_append ..))
    obtain ⟨z, rfl, hz⟩ := List.map_eq_singleton_iff.1 hzs
    obtain ⟨st₁, ops, hrun, habs⟩ := ih
      { st with pending := .opening x.position :: st.pending, previous := some .opening } ys hys hw
      (rests_opening _ _ _)
    obtain ⟨st', hclose, hsettled, hpend, hemit⟩ := close_group z.position habs.pending
    refine ⟨st', [], ?_, hsettled, hpend, by simp, ?_⟩
    · rw [run_cons, step_token hx, read, if_pos hw, Except.bind, run_append, hrun, Except.bind,
        run_cons, step_token hz, read, if_neg (by simp [habs.settled]), hclose]
      rfl
    · rw [hemit, habs.emitted]
      simp
  | not h ih =>
    intro st xs hxs hw hr
    obtain ⟨x, ys, rfl, hx, hys⟩ := List.map_eq_cons_iff.1 hxs
    obtain ⟨hpend, hemit⟩ := st.push_not
    obtain ⟨st', ops, hrun, habs⟩ := ih (st.push .not) ys hys rfl (rests_unary _)
    refine ⟨st', ops ++ [.not], ?_, habs.snoc hpend (Nat.le_refl _) (Nat.le_refl _) ?_⟩
    · rw [run_cons, step_token hx, read, if_pos (by rfl), if_pos hw]
      exact hrun
    · rw [hemit, Tree.postorder, List.append_assoc]
  | @tighter k ts t hk h ih =>
    intro st xs hx hw hr
    obtain ⟨st', ops, hrun, habs⟩ := ih st xs hx hw hr.tighter
    exact ⟨st', ops, hrun, habs.settled, habs.pending,
      fun op hop => Nat.le_trans k.level_le_tighter (habs.tight op hop), habs.emitted⟩
  | @chain k ts us t u c hc h h' ih ih' =>
    intro st zs hzs hw hr
    subst hc
    obtain ⟨xs, ys', rfl, hxs, hys'⟩ := List.map_eq_append_iff.1 (hzs.trans (List.map_append ..))
    obtain ⟨y, ys, rfl, hy, hys⟩ := List.map_eq_cons_iff.1 hys'
    -- the left operand, then the connective, then the right operand
    obtain ⟨st₁, ops₁, hrun₁, habs₁⟩ := ih st xs hxs hw hr
    obtain ⟨hpend, hemit⟩ :=
      push_connective c habs₁.pending habs₁.tight (hr c (Nat.le_refl _))
    obtain ⟨st', ops₂, hrun₂, habs₂⟩ := ih' (st₁.push c.op) ys hys rfl
      (hpend ▸ rests_connective c st.pending)
    refine ⟨st', ops₂ ++ [c.op], ?_, habs₂.snoc hpend c.tier.level_le_tighter ?_ ?_⟩
    · rw [run_append, hrun₁, Except.bind, run_cons, step_token hy, read,
        if_neg (by simp), if_neg (by simp [habs₁.settled])]
      exact hrun₂
    · exact Nat.le_of_eq c.precedence_op.symm
    · rw [hemit, habs₁.emitted, Tree.postorder]
      simp only [List.append_assoc]

/-- A run over a whole expression ends with the listing of its tree. -/
lemma start_run_derives {ts : List Token} {t : Tree} {xs : List Lexeme} (h : Derives .low ts t)
    (hxs : xs.map (·.token?) = ts.map some) : start.run xs >>= finish = .ok t.postorder := by
  obtain ⟨st, ops, hrun, habs⟩ := run_derives h start xs hxs rfl (fun _ _ => rfl)
  have hpend : st.pending = ops.map .operator := by simpa [start] using habs.pending
  have hemit : st.emitted.reverse ++ ops.map .operator = t.postorder := by
    simpa [start] using habs.emitted
  have hopen : st.pending.findSome? Pending.opening? = none := by
    rw [hpend, List.findSome?_map, List.findSome?_eq_none_iff]
    exact fun _ _ => rfl
  rw [hrun]
  change st.finish = _
  rw [finish, if_neg (by simp [habs.settled]), hopen, hpend, Pending.filterMap_operator?, hemit]

end Conversion

variable {s : Symbols}

lemma toRpn_of_derives {cs : List Char} {ts : List Token} {t : Tree} (h : Derives .low ts t)
    (hcs : (Lexeme.scan s cs).map (·.token?) = ts.map some) : toRpn s cs = .ok t.postorder := by
  have hrun := Conversion.start_run_derives h hcs
  rw [toRpn_eq]
  split
  · rename_i hnil
    rw [hnil] at hcs
    exact absurd (List.map_eq_nil_iff.1 hcs.symm) h.ne_nil
  · exact hrun

/-- The tokens of a text that a sentence spells. -/
lemma scan_spelled {cs : List Char} {ts : List Token}
    (h : (cs.filter fun c => !isBlank c) = ts.map (Token.spell s)) :
    (Lexeme.scan s cs).map (·.token?) = ts.map some := by
  rw [Lexeme.scan, Lexeme.map_token?_scanFrom, h, List.map_map]
  exact List.map_congr_left fun t _ => Token.ofChar?_spell s t

/-- A sentence converts to the listing of its tree. -/
lemma toRpn_of_written {cs : List Char}
    (h : Written s .expression (cs.filter fun c => !isBlank c)) :
    ∃ us t, (Lexeme.scan s cs).map (·.token?) = us.map some ∧ Derives .low us t ∧
      toRpn s cs = .ok t.postorder := by
  obtain ⟨us, t, hcs, ht⟩ := h.derives
  exact ⟨us, t, scan_spelled hcs, ht, toRpn_of_derives ht (scan_spelled hcs)⟩

/-- What converts has a tree, and only one. -/
lemma tree_of_toRpn {cs : List Char} {ts : List Token} (h : toRpn s cs = .ok ts) :
    ∃ us t, Lexeme.tokens (Lexeme.scan s cs) = .ok us ∧ (∀ u, Derives .low us u ↔ u = t) ∧
      ts = t.postorder := by
  obtain ⟨us, t, hus, ht, hrpn⟩ := toRpn_of_written (Written.of_toRpn h)
  refine ⟨us, t, Lexeme.tokens_eq_ok_iff.2 hus, fun u => ⟨fun hu => ?_, fun hu => hu ▸ ht⟩,
    Except.ok.inj (h.symm.trans hrpn)⟩
  have hrpn' := toRpn_of_derives hu hus
  exact Tree.postorder_injective (Except.ok.inj (hrpn'.symm.trans hrpn))

lemma compute_of_toRpn {cs : List Char} {t : Tree} (h : toRpn s cs = .ok t.postorder) :
    compute s cs = .ok (t.postorder, t.value) := by
  simp only [compute_eq, h, t.eval_postorder]

/-- The run of a converted text never fails. -/
lemma kind_of_compute_map {α : Type} {f : List Token × Bool → α} {cs : List Char} {r : Rejection}
    (h : (compute s cs).map f = .error r) : r.kind ≠ .evaluation := by
  cases hrpn : toRpn s cs with
  | error e =>
    simp only [compute_eq, hrpn, Except.map, Except.error.injEq] at h
    subst h
    cases e <;> simp [Rejection.kind, Malformed.kind]
  | ok ts =>
    obtain ⟨-, t, -, -, rfl⟩ := tree_of_toRpn hrpn
    rw [compute_of_toRpn hrpn] at h
    cases h

/-- **A text converts exactly if what is left without its blanks is a sentence.** -/
theorem toRpn_ok_iff_written (s : Symbols) (cs : List Char) :
    (∃ ts, toRpn s cs = .ok ts) ↔ Written s .expression (cs.filter fun c => !isBlank c) := by
  constructor
  · rintro ⟨ts, h⟩
    exact Written.of_toRpn h
  · intro h
    obtain ⟨us, t, -, -, hrpn⟩ := toRpn_of_written h
    exact ⟨_, hrpn⟩

/-- **Conversion and evaluation follow the layered grammar**: what converts has one tree there,
its reverse Polish sequence lists the tree, and its value is the value of the tree. No text is
rejected for its evaluation. -/
theorem evaluate_follows_layers (s : Symbols) (text : String) :
    (∀ ts, toRpn s text.toList = .ok ts →
      ∃ us t, Lexeme.tokens (Lexeme.scan s text.toList) = .ok us ∧
        (∀ u, Derives .low us u ↔ u = t) ∧ ts = t.postorder ∧
        evaluate s text = .ok ⟨text, String.ofList (Rpn.format s ts), t.value, s⟩ ∧
        evaluateValue s text = .ok t.value) ∧
    (∀ r, evaluate s text = .error r → r.kind ≠ .evaluation) ∧
    (∀ r, evaluateValue s text = .error r → r.kind ≠ .evaluation) := by
  refine ⟨fun ts h => ?_, fun r h => kind_of_compute_map (evaluate_eq s text ▸ h),
    fun r h => kind_of_compute_map h⟩
  obtain ⟨us, t, hus, ht, rfl⟩ := tree_of_toRpn h
  refine ⟨us, t, hus, ht, rfl, ?_, ?_⟩
  · rw [evaluate_eq, compute_of_toRpn h]
    rfl
  · rw [evaluateValue, compute_of_toRpn h]
    rfl

/-- NOT binds to its group, AND before OR and NAND, and OR and NAND from the left. -/
theorem evaluate_follows_layers_mixed :
    toRpn .standard "!(T|F)&T@F|T".toList =
        .ok [.literal true, .literal false, .operator .or, .operator .not, .literal true,
          .operator .and, .literal false, .operator .nand, .literal true, .operator .or] ∧
      ∃ us t, Lexeme.tokens (Lexeme.scan .standard "!(T|F)&T@F|T".toList) = .ok us ∧
        (∀ u, Derives .low us u ↔ u = t) ∧
        [.literal true, .literal false, .operator .or, .operator .not, .literal true,
          .operator .and, .literal false, .operator .nand, .literal true, .operator .or] =
            t.postorder ∧
        evaluate .standard "!(T|F)&T@F|T" =
          .ok ⟨"!(T|F)&T@F|T", "T F | ! T & F @ T |", t.value, .standard⟩ ∧
        evaluateValue .standard "!(T|F)&T@F|T" = .ok t.value :=
  ⟨rfl, (evaluate_follows_layers .standard "!(T|F)&T@F|T").1 _ rfl⟩

end BoolCalc
