import Mathlib.Data.List.Chain
import Mathlib.Data.List.TakeWhile
import BoolCalc.Proofs.LogTrail

/-!
# What waits while an expression is read

Between two lexemes the stack of the conversion is told by what has been read. An operator never
waits on one that it would have sent off, so operators that wait side by side bind tighter and
tighter: one of each layer at most, and then NOTs. The parentheses that wait are those that nothing
has closed yet. No other token is lost: it is emitted or it waits, and literals never wait.
-/

namespace BoolCalc

namespace Token

/-- Whether a token only groups others. -/
def isParen : Token → Bool
  | .opening | .closing => true
  | .literal _ | .operator _ => false

/-- The value of a literal. -/
def literal? : Token → Option Bool
  | .literal b => some b
  | .operator _ | .opening | .closing => none

lemma filterMap_literal?_operators (ops : List Operator) :
    (ops.map operator).filterMap literal? = [] := by
  rw [List.filterMap_map, List.filterMap_eq_nil_iff]
  exact fun _ _ => rfl

end Token

/-! ### Layers of operators -/

/-- Operators in order of binding: at most one of the low layer, then at most one of the middle
layer, and then any number of NOTs. -/
def Operator.Layered (ops : List Operator) : Prop :=
  ∃ (low mid : Option Connective) (n : ℕ),
    (∀ c ∈ low, c.tier = .low) ∧ (∀ c ∈ mid, c.tier = .mid) ∧
      ops = (low.map Connective.op).toList ++ (mid.map Connective.op).toList ++
        List.replicate n .not

lemma Connective.tier_eq_low_or_mid (c : Connective) : c.tier = .low ∨ c.tier = .mid := by
  cases c <;> decide

/-- An operator that does not yield to the last one may come behind it. -/
lemma Operator.Layered.snoc {ops : List Operator} (h : Layered ops) {op : Operator}
    (hlast : ∀ o ∈ ops.getLast?, op.yieldsTo o = false) : Layered (ops ++ [op]) := by
  obtain ⟨low, mid, n, hlow, hmid, rfl⟩ := h
  rcases op.eq_not_or_connective with rfl | ⟨c, rfl⟩
  · exact ⟨low, mid, n + 1, hlow, hmid, by rw [List.replicate_succ', ← List.append_assoc]⟩
  -- A connective yields to NOT and to its own layer, so only a looser one can be the last.
  have htight : ∀ o, c.op.yieldsTo o = false → o.precedence < c.tier.level := by
    intro o ho
    rw [← Bool.not_eq_true, c.yieldsTo_iff] at ho
    omega
  have hmost : c.tier.level ≤ Tier.mid.level := by cases c <;> decide
  cases n with
  | succ n =>
    have := htight .not (hlast _ (by simp [List.replicate_succ']))
    have : Operator.not.precedence = 3 := rfl
    have : Tier.mid.level = 2 := rfl
    omega
  | zero =>
    cases mid with
    | some m =>
      have := htight m.op (hlast _ (by simp))
      rw [m.precedence_op, hmid m rfl] at this
      omega
    | none =>
      cases low with
      | some l =>
        have := htight l.op (hlast _ (by simp))
        rw [l.precedence_op, hlow l rfl] at this
        have hc : c.tier = .mid := c.tier_eq_low_or_mid.resolve_left fun hc => by
          rw [hc] at this
          omega
        exact ⟨some l, some c, 0, hlow, fun _ hd => Option.mem_some.1 hd ▸ hc, rfl⟩
      | none =>
        rcases c.tier_eq_low_or_mid with hc | hc
        · exact ⟨some c, none, 0, fun _ hd => Option.mem_some.1 hd ▸ hc, hmid, rfl⟩
        · exact ⟨none, some c, 0, hlow, fun _ hd => Option.mem_some.1 hd ▸ hc, rfl⟩

/-! ### Open parentheses -/

namespace Lexeme

/-- Every parenthesis has its partner. -/
inductive Balanced : List Lexeme → Prop where
  | nil : Balanced []
  | other {xs : List Lexeme} {x : Lexeme} {t : Token} (h : Balanced xs) (hx : x.token? = some t)
    (ht : t.isParen = false) : Balanced (xs ++ [x])
  | group {xs ys : List Lexeme} {x y : Lexeme} (h : Balanced xs) (hx : x.token? = some .opening)
    (h' : Balanced ys) (hy : y.token? = some .closing) : Balanced (xs ++ x :: (ys ++ [y]))

/-- The opening parentheses at the places `ps`, in this order, have no partner, and all else is
balanced before, between and behind them. -/
inductive Unclosed : List Lexeme → List ℕ → Prop where
  | balanced {xs : List Lexeme} (h : Balanced xs) : Unclosed xs []
  | opening {xs ys : List Lexeme} {ps : List ℕ} {x : Lexeme} (h : Unclosed xs ps)
    (hx : x.token? = some .opening) (h' : Balanced ys) :
    Unclosed (xs ++ x :: ys) (ps ++ [x.position])

variable {xs ys : List Lexeme} {ps : List ℕ} {x : Lexeme} {p : ℕ} {t : Token}

lemma Unclosed.other (h : Unclosed xs ps) (hx : x.token? = some t) (ht : t.isParen = false) :
    Unclosed (xs ++ [x]) ps := by
  cases h with
  | balanced h => exact .balanced (h.other hx ht)
  | opening h hy h' =>
    rw [List.append_assoc]
    exact .opening h hy (h'.other hx ht)

lemma Unclosed.open (h : Unclosed xs ps) (hx : x.token? = some .opening) :
    Unclosed (xs ++ [x]) (ps ++ [x.position]) := .opening h hx .nil

lemma Unclosed.group {y : Lexeme} (h : Unclosed xs ps) (hx : x.token? = some .opening)
    (h' : Balanced ys) (hy : y.token? = some .closing) : Unclosed (xs ++ x :: (ys ++ [y])) ps := by
  cases h with
  | balanced h => exact .balanced (h.group hx h' hy)
  | opening h hz h'' =>
    rw [List.append_assoc, List.cons_append]
    exact .opening h hz (h''.group hx h' hy)

/-- A closing parenthesis takes the last one of those that are open. -/
lemma Unclosed.close (h : Unclosed xs (ps ++ [p])) (hx : x.token? = some .closing) :
    Unclosed (xs ++ [x]) ps := by
  generalize hqs : ps ++ [p] = qs at h
  cases h with
  | balanced => simp at hqs
  | opening h hy h' =>
    obtain ⟨rfl, -⟩ := List.append_singleton_inj.1 hqs
    rw [List.append_assoc, List.cons_append]
    exact h.group hy h' hx

/-- The places of the open parentheses after one more lexeme, last one first. -/
def track (ps : List ℕ) (x : Lexeme) : List ℕ :=
  match x.token? with
  | some .opening => x.position :: ps
  | some .closing => ps.tail
  | _ => ps

lemma Balanced.foldl_track (h : Balanced xs) (ps : List ℕ) : xs.foldl track ps = ps := by
  induction h generalizing ps with
  | nil => rfl
  | @other xs x t _ hx ht ih =>
    rw [List.foldl_append, ih, List.foldl_cons, track, hx]
    cases t with
    | literal | operator => rfl
    | opening | closing => cases ht
  | group _ hx _ hy ih ih' =>
    simp only [List.foldl_append, List.foldl_cons, List.foldl_nil, ih, ih', track, hx, hy,
      List.tail_cons]

lemma Unclosed.foldl_track (h : Unclosed xs ps) : xs.foldl track [] = ps.reverse := by
  induction h with
  | balanced h => exact h.foldl_track []
  | opening _ hx h' ih =>
    rw [List.foldl_append, ih, List.foldl_cons, h'.foldl_track, track, hx, List.reverse_append]
    rfl

/-- Which parentheses have no partner is determined by what was read. -/
lemma Unclosed.unique {qs : List ℕ} (h : Unclosed xs ps) (h' : Unclosed xs qs) : ps = qs :=
  List.reverse_injective (h.foldl_track.symm.trans h'.foldl_track)

/-- What is open has been read, in this order. -/
lemma Unclosed.sublist (h : Unclosed xs ps) : ps.Sublist (xs.map (·.position)) := by
  induction h with
  | balanced => exact List.nil_sublist _
  | opening _ _ _ ih =>
    rw [List.map_append, List.map_cons]
    exact ih.append ((List.nil_sublist _).cons_cons _)

lemma le_position_of_mem_scanFrom (s : Symbols) {cs : List Char} {position : ℕ}
    (h : x ∈ scanFrom s position cs) : position ≤ x.position := by
  induction cs generalizing position with
  | nil => cases h
  | cons c cs ih =>
    rw [scanFrom] at h
    split at h
    · exact Nat.le_of_succ_le (ih h)
    · rcases List.mem_cons.1 h with rfl | h
      · exact Nat.le_refl _
      · exact Nat.le_of_succ_le (ih h)

/-- Lexemes follow one another in the text. -/
lemma pairwise_position_scanFrom (s : Symbols) (position : ℕ) (cs : List Char) :
    ((scanFrom s position cs).map (·.position)).Pairwise (· < ·) := by
  induction cs generalizing position with
  | nil => exact .nil
  | cons c cs ih =>
    rw [scanFrom]
    split
    · exact ih _
    · refine .cons (fun q hq => ?_) (ih _)
      obtain ⟨y, hy, rfl⟩ := List.mem_map.1 hq
      exact le_position_of_mem_scanFrom s hy

end Lexeme

/-! ### The stack -/

namespace Pending

/-- Whether an entry may wait on the one below it: an operator waits only on what it does not send
off. -/
def RestsOn : Pending → Pending → Prop
  | .operator op, below => below.leavesFor op = false
  | .opening _, _ => True

lemma layered_of_restsOn {ops : List Operator} (h : (ops.map operator).IsChain RestsOn) :
    Operator.Layered ops.reverse := by
  induction ops with
  | nil => exact ⟨none, none, 0, nofun, nofun, rfl⟩
  | cons op ops ih =>
    rw [List.map_cons, List.isChain_cons, List.head?_map] at h
    rw [List.reverse_cons]
    refine (ih h.2).snoc fun o ho => ?_
    rw [List.getLast?_reverse] at ho
    exact h.1 (.operator o) (Option.mem_map_of_mem _ ho)

/-- Entries that are no parentheses are operators. -/
lemma map_filterMap_operator? {ps : List Pending} (h : ∀ x ∈ ps, x.opening? = none) :
    (ps.filterMap operator?).map operator = ps := by
  induction ps with
  | nil => rfl
  | cons x ps ih =>
    obtain ⟨hx, hps⟩ := List.forall_mem_cons.1 h
    cases x with
    | operator op => exact congrArg (operator op :: ·) (ih hps)
    | opening p => cases hx

/-- The entries at the top that pass a test which parentheses fail are the operators that leave. -/
lemma eq_leaving_append {p : Pending → Bool} (hp : ∀ x, p x = true → x.opening? = none)
    (ps : List Pending) :
    ps = ((ps.takeWhile p).filterMap operator?).map operator ++ ps.dropWhile p := by
  rw [map_filterMap_operator? fun x hx => hp x (List.mem_takeWhile_imp hx),
    List.takeWhile_append_dropWhile]

end Pending

namespace Conversion

variable {st st' : Conversion} {xs : List Lexeme} {ts : List Token} {x : Lexeme} {t : Token}

/-- The operators that wait, last one first. -/
def waiting (st : Conversion) : List Operator := st.pending.filterMap Pending.operator?

/-- The places of the parentheses that wait, first one first. -/
def openPlaces (st : Conversion) : List ℕ := (st.pending.filterMap Pending.opening?).reverse

/-- Some operators leave the stack, those on top, and are emitted one after the other. -/
structure Sends (st : Conversion) (ops : List Operator) (rest : List Pending)
    (emitted : List Token) : Prop where
  pending : st.pending = ops.map .operator ++ rest
  emitted : emitted = (ops.map Token.operator).reverse ++ st.emitted

lemma sends_push (st : Conversion) (op : Operator) : ∃ ops rest,
    st.Sends ops rest (st.push op).emitted ∧ (st.push op).pending = .operator op :: rest ∧
      ∀ y ∈ rest.head?, y.leavesFor op = false := by
  refine ⟨_, _, ⟨Pending.eq_leaving_append (p := (·.leavesFor op))
    (fun _ => Pending.opening?_of_leavesFor) st.pending, rfl⟩, rfl, fun y hy => ?_⟩
  have hstays := List.head?_dropWhile_not (·.leavesFor op) st.pending
  rw [Option.mem_def.1 hy] at hstays
  exact hstays

lemma sends_close {position : ℕ} (h : st.close position = .ok st') :
    ∃ ops q, st.Sends ops (.opening q :: st'.pending) st'.emitted := by
  have hleave := Pending.eq_leaving_append (p := fun x => x.opening?.isNone)
    (fun _ => Option.isNone_iff_eq_none.1) st.pending
  have hstays := List.head?_dropWhile_not (fun x : Pending => x.opening?.isNone) st.pending
  simp only [close] at h
  split at h
  · cases h
  · rename_i y rest hdrop
    cases h
    rw [hdrop] at hleave hstays
    cases y with
    | operator op => cases hstays
    | opening q => exact ⟨_, q, hleave, rfl⟩

namespace Sends

variable {ops : List Operator} {rest : List Pending} {emitted : List Token}

lemma waiting (h : st.Sends ops rest emitted) :
    st.waiting = ops ++ rest.filterMap Pending.operator? := by
  rw [Conversion.waiting, h.pending, List.filterMap_append, Pending.filterMap_operator?]

lemma openPlaces (h : st.Sends ops rest emitted) :
    st.openPlaces = (rest.filterMap Pending.opening?).reverse := by
  have hnone : (ops.map Pending.operator).filterMap Pending.opening? = [] := by
    rw [List.filterMap_map, List.filterMap_eq_nil_iff]
    exact fun _ _ => rfl
  rw [Conversion.openPlaces, h.pending, List.filterMap_append, hnone, List.nil_append]

/-- What leaves the stack is emitted, and nothing else. -/
lemma perm (h : st.Sends ops rest emitted) :
    (emitted ++ (rest.filterMap Pending.operator?).map Token.operator).Perm
      (st.emitted ++ st.waiting.map Token.operator) := by
  rw [h.emitted, h.waiting, List.map_append, ← List.append_assoc st.emitted]
  exact ((List.reverse_perm _).append_right _).trans List.perm_append_comm |>.append_right _

lemma literals (h : st.Sends ops rest emitted) :
    emitted.reverse.filterMap Token.literal? = st.emitted.reverse.filterMap Token.literal? := by
  rw [h.emitted, List.reverse_append, List.reverse_reverse, List.filterMap_append,
    Token.filterMap_literal?_operators, List.append_nil]

end Sends

/-- What has been read accounts for what a conversion holds. -/
structure Accounts (st : Conversion) (xs : List Lexeme) (ts : List Token) : Prop where
  tokens : xs.map (·.token?) = ts.map some
  rests : st.pending.IsChain Pending.RestsOn
  unclosed : Lexeme.Unclosed xs st.openPlaces
  kept : (ts.filter (!·.isParen)).Perm (st.emitted ++ st.waiting.map .operator)
  literals : st.emitted.reverse.filterMap Token.literal? = ts.filterMap Token.literal?

lemma accounts_start : start.Accounts [] [] where
  tokens := rfl
  rests := .nil
  unclosed := .balanced .nil
  kept := .nil
  literals := rfl

lemma Accounts.tokens_snoc (h : st.Accounts xs ts) (hx : x.token? = some t) :
    (xs ++ [x]).map (·.token?) = (ts ++ [t]).map some := by
  rw [List.map_append, List.map_append, h.tokens, List.map_singleton, List.map_singleton, hx]

lemma Accounts.literal (h : st.Accounts xs ts) {b : Bool} (hx : x.token? = some (.literal b)) :
    Accounts ⟨.literal b :: st.emitted, st.pending, false, some (.literal b)⟩
      (xs ++ [x]) (ts ++ [.literal b]) where
  tokens := h.tokens_snoc hx
  rests := h.rests
  unclosed := h.unclosed.other hx rfl
  kept := by
    rw [List.filter_append]
    exact (h.kept.append_right _).trans (List.perm_append_singleton _ _)
  literals := by
    rw [List.reverse_cons, List.filterMap_append, List.filterMap_append, h.literals]

lemma Accounts.push (h : st.Accounts xs ts) {op : Operator} (hx : x.token? = some (.operator op)) :
    (st.push op).Accounts (xs ++ [x]) (ts ++ [.operator op]) := by
  obtain ⟨ops, rest, hsends, hpending, hstays⟩ := st.sends_push op
  exact
    { tokens := h.tokens_snoc hx
      rests := by
        have hrest : rest <:+ st.pending := hsends.pending ▸ List.suffix_append _ _
        rw [hpending]
        exact List.isChain_cons.2 ⟨hstays, h.rests.suffix hrest⟩
      unclosed := by
        have hopen : (st.push op).openPlaces = st.openPlaces := by
          rw [hsends.openPlaces, openPlaces, hpending]
          rfl
        rw [hopen]
        exact h.unclosed.other hx rfl
      kept := by
        have hwaiting : (st.push op).waiting = op :: rest.filterMap Pending.operator? := by
          rw [waiting, hpending]
          rfl
        rw [List.filter_append, hwaiting, List.map_cons]
        exact ((h.kept.trans hsends.perm.symm).append_right _).trans
          ((List.perm_append_singleton _ _).trans List.perm_middle.symm)
      literals := by
        rw [hsends.literals, h.literals, List.filterMap_append]
        exact (List.append_nil _).symm }

lemma Accounts.opening (h : st.Accounts xs ts) (hx : x.token? = some .opening) :
    Accounts { st with pending := .opening x.position :: st.pending, previous := some .opening }
      (xs ++ [x]) (ts ++ [.opening]) where
  tokens := h.tokens_snoc hx
  rests := List.isChain_cons.2 ⟨fun _ _ => trivial, h.rests⟩
  unclosed := by
    have hopen := h.unclosed.open hx
    rwa [openPlaces, ← List.reverse_cons] at hopen
  kept := by
    rw [List.filter_append]
    exact (List.append_nil _).symm ▸ h.kept
  literals := by
    rw [h.literals, List.filterMap_append]
    exact (List.append_nil _).symm

lemma Accounts.close (h : st.Accounts xs ts) (hx : x.token? = some .closing) {position : ℕ}
    (hc : st.close position = .ok st') : st'.Accounts (xs ++ [x]) (ts ++ [.closing]) := by
  obtain ⟨ops, q, hsends⟩ := sends_close hc
  exact
    { tokens := h.tokens_snoc hx
      rests := by
        have hrest : st'.pending <:+ st.pending :=
          (List.suffix_cons _ _).trans (hsends.pending ▸ List.suffix_append _ _)
        exact h.rests.suffix hrest
      unclosed := by
        have hopen : st.openPlaces = st'.openPlaces ++ [q] := by
          rw [hsends.openPlaces, openPlaces, ← List.reverse_cons]
          rfl
        exact (hopen ▸ h.unclosed).close hx
      kept := by
        rw [List.filter_append]
        exact (List.append_nil _).symm ▸ h.kept.trans hsends.perm.symm
      literals := by
        rw [hsends.literals, h.literals, List.filterMap_append]
        exact (List.append_nil _).symm }

/-- **Step**: whatever token may stand where it stands, the account goes on. -/
lemma Accounts.read (h : st.Accounts xs ts) (hx : x.token? = some t)
    (ht : st.read x.position t = .ok st') : st'.Accounts (xs ++ [x]) (ts ++ [t]) := by
  cases t with
  | literal b =>
    rw [Conversion.read] at ht
    split_ifs at ht
    cases ht
    exact h.literal hx
  | operator op =>
    rw [Conversion.read] at ht
    split_ifs at ht
    · cases ht
      exact h.push hx
    · cases ht
      exact h.push hx
  | opening =>
    rw [Conversion.read] at ht
    split_ifs at ht
    cases ht
    exact h.opening hx
  | closing =>
    rw [Conversion.read] at ht
    split_ifs at ht
    exact h.close hx ht

/-- **Run**: the account holds after every token. -/
lemma Accounts.run {ys : List Lexeme} (h : st.Accounts xs ts) (hys : st.run ys = .ok st') :
    ∃ us, st'.Accounts (xs ++ ys) (ts ++ us) := by
  induction ys generalizing st xs ts with
  | nil =>
    cases hys
    exact ⟨[], by rwa [List.append_nil, List.append_nil]⟩
  | cons y ys ih =>
    rw [run_cons, step, Lexeme.read] at hys
    cases hy : y.token? with
    | none =>
      rw [hy] at hys
      cases hys
    | some t =>
      cases hread : st.read y.position t with
      | error e =>
        simp only [hy, bind, Except.bind, hread] at hys
        cases hys
      | ok next =>
        simp only [hy, bind, Except.bind, hread] at hys
        obtain ⟨us, hus⟩ := ih (h.read hy hread) hys
        refine ⟨t :: us, ?_⟩
        rwa [List.append_assoc, List.append_assoc] at hus

end Conversion

/-- **What waits is told by what was read.** Let the lexemes `xs` at the start of a text be read
without a fault. Then they have tokens, and the rest of the text is read from the state `st` that
they lead to. Operators that wait side by side there, as between two open parentheses, are in order
of binding from the bottom to the top: at most one of OR and NAND, at most one of AND and XOR, and
then NOTs. The parentheses that wait are just those without a partner, in the order of their places.
All other tokens are emitted or wait, each as often as it was read, and the literals are emitted in
their order. -/
theorem stack_told_by_reading (s : Symbols) {cs : List Char} {xs ys : List Lexeme}
    {st : Conversion} (hscan : Lexeme.scan s cs = xs ++ ys)
    (hrun : Conversion.start.run xs = .ok st) :
    ∃ ts, Lexeme.tokens xs = .ok ts ∧
      Conversion.start.run (Lexeme.scan s cs) = st.run ys ∧
      (∀ ops : List Operator, ops.map .operator <:+: st.pending → Operator.Layered ops.reverse) ∧
      (∀ ps, Lexeme.Unclosed xs ps ↔ ps = st.openPlaces) ∧ st.openPlaces.Pairwise (· < ·) ∧
      (ts.filter (!·.isParen)).Perm (st.emitted ++ st.waiting.map .operator) ∧
      st.emitted.reverse.filterMap Token.literal? = ts.filterMap Token.literal? := by
  obtain ⟨ts, h⟩ := Conversion.accounts_start.run hrun
  rw [List.nil_append, List.nil_append] at h
  have hordered : (xs.map (·.position)).Pairwise (· < ·) := by
    have hall := Lexeme.pairwise_position_scanFrom s 0 cs
    rw [← Lexeme.scan, hscan, List.map_append] at hall
    exact (List.pairwise_append.1 hall).1
  refine ⟨ts, Lexeme.tokens_eq_ok_iff.2 h.tokens, ?_, fun ops hops => ?_, fun ps => ?_,
    hordered.sublist h.unclosed.sublist, h.kept, h.literals⟩
  · rw [hscan, Conversion.run_append, hrun]
    rfl
  · exact Pending.layered_of_restsOn <| List.IsChain.infix h.rests hops
  · exact ⟨fun hps => hps.unique h.unclosed, fun hps => hps ▸ h.unclosed⟩

/-- Two parentheses are open, and operators wait below each of them. -/
theorem stack_told_by_reading_nested :
    let xs := (Lexeme.scan .standard "T|!(F&!(T@T))".toList).take 8
    ∃ st ts, Conversion.start.run xs = .ok st ∧ Lexeme.tokens xs = .ok ts ∧
      st.pending = [.opening 7, .operator .not, .operator .and, .opening 3, .operator .not,
        .operator .or] ∧
      Operator.Layered [.and, .not] ∧ Operator.Layered [.or, .not] ∧
      Lexeme.Unclosed xs [3, 7] ∧
      (ts.filter (!·.isParen)).Perm [.literal false, .literal true, .operator .not, .operator .and,
        .operator .not, .operator .or] := by
  intro xs
  have hrun : Conversion.start.run xs =
      .ok ⟨[.literal false, .literal true], [.opening 7, .operator .not, .operator .and, .opening 3,
        .operator .not, .operator .or], true, some .opening⟩ := rfl
  obtain ⟨ts, htokens, -, hlayered, hunclosed, -, hkept, -⟩ :=
    stack_told_by_reading .standard (List.take_append_drop 8 _).symm hrun
  refine ⟨_, ts, hrun, htokens, rfl, ?_, ?_, (hunclosed _).2 rfl, hkept⟩
  · exact hlayered [.not, .and] ⟨[.opening 7], [.opening 3, .operator .not, .operator .or], rfl⟩
  · exact hlayered [.not, .or]
      ⟨[.opening 7, .operator .not, .operator .and, .opening 3], [], rfl⟩

end BoolCalc
