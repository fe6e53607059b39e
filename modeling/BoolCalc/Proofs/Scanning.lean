import Mathlib.Data.List.Basic
import BoolCalc.Scanner

/-!
# What a scanner tells of a text

Under any symbols the characters fall into classes that have nothing in common: blanks, the two
literals, operators and parentheses. So the tests for them can be made in any order. A scanner that
is asked until the text ends tells of each character that is not blank once, in order and with its
place: the token that it spells, or that it belongs to no class. It tells no more and no less than
the lexemes from which expressions are converted.
-/

namespace BoolCalc

open Text (isBlank)

/-- The classes of characters that mean something in an expression. -/
inductive CharClass where
  | blank
  | literal (value : Bool)
  | operator
  | parenthesis
deriving DecidableEq, Repr

/-- What a test says of a character. -/
inductive Verdict where
  /-- It is passed over. -/
  | passed
  | token (t : Token)
deriving DecidableEq, Repr

namespace CharClass

variable (s : Symbols) {k k' : CharClass} {c : Char}

/-- The character is of the class. -/
def Has (c : Char) : CharClass → Prop
  | blank => isBlank c = true
  | literal b => c = s.spell b
  | operator => ∃ op : Operator, c = op.symbol
  | parenthesis => c = '(' ∨ c = ')'

/-- The test for the class. -/
def test (c : Char) : CharClass → Option Verdict
  | blank => if isBlank c then some .passed else none
  | literal b => if c = s.spell b then some (.token (.literal b)) else none
  | operator => (Operator.ofChar? c).map fun op => .token (.operator op)
  | parenthesis => (Token.paren? c).map .token

/-- What scanning makes of a character: blanks are passed over, and what is no token is refused. -/
def verdict (c : Char) : Option Verdict :=
  if isBlank c then some .passed else (Token.ofChar? s c).map .token

/-- The class of what spells a token. -/
def ofToken : Token → CharClass
  | .literal b => literal b
  | .operator _ => operator
  | .opening | .closing => parenthesis

/-- The class of a character. -/
def ofChar? (c : Char) : Option CharClass :=
  if isBlank c then some blank else (Token.ofChar? s c).map ofToken

/-! ### One class for each character -/

lemma has_ofToken (t : Token) : (ofToken t).Has s (t.spell s) := by
  cases t with
  | literal b => rfl
  | operator op => exact ⟨op, rfl⟩
  | opening => exact .inl rfl
  | closing => exact .inr rfl

variable {s} in
lemma Has.exists_token (h : k.Has s c) (hk : k ≠ blank) :
    ∃ t : Token, c = t.spell s ∧ ofToken t = k := by
  cases k with
  | blank => exact absurd rfl hk
  | literal b => exact ⟨.literal b, h, rfl⟩
  | operator =>
    obtain ⟨op, rfl⟩ := h
    exact ⟨.operator op, rfl, rfl⟩
  | parenthesis =>
    rcases h with rfl | rfl
    · exact ⟨.opening, rfl, rfl⟩
    · exact ⟨.closing, rfl, rfl⟩

variable {s} in
lemma Has.ofChar? (h : k.Has s c) : CharClass.ofChar? s c = some k := by
  by_cases hk : k = blank
  · subst hk
    exact if_pos h
  · obtain ⟨t, rfl, rfl⟩ := h.exists_token hk
    simp [CharClass.ofChar?]

variable {s} in
/-- **No character is of two classes.** -/
lemma Has.unique (h : k.Has s c) (h' : k'.Has s c) : k = k' :=
  Option.some.inj (h.ofChar?.symm.trans h'.ofChar?)

lemma not_has_iff :
    (∀ k : CharClass, ¬ k.Has s c) ↔ isBlank c = false ∧ Token.ofChar? s c = none := by
  constructor
  · intro h
    refine ⟨Bool.eq_false_iff.2 (h blank), Option.eq_none_iff_forall_ne_some.2 fun t ht => ?_⟩
    rw [Token.eq_spell_of_ofChar? s ht] at h
    exact h _ (has_ofToken s t)
  · rintro ⟨hblank, hnone⟩ k hk
    have := hk.ofChar?
    simp [CharClass.ofChar?, hblank, hnone] at this

/-! ### The order of the tests -/

/-- A test answers for its own class alone, and says what scanning makes of the character. -/
lemma test_eq_some {v : Verdict} (h : k.test s c = some v) : k.Has s c ∧ verdict s c = some v := by
  have htoken {t : Token} (hc : c = t.spell s) : verdict s c = some (.token t) := by
    simp [verdict, hc]
  cases k with
  | blank =>
    obtain ⟨hblank, rfl⟩ : isBlank c = true ∧ Verdict.passed = v := by simpa [test] using h
    exact ⟨hblank, if_pos hblank⟩
  | literal b =>
    obtain ⟨hc, rfl⟩ : c = s.spell b ∧ Verdict.token (.literal b) = v := by simpa [test] using h
    exact ⟨hc, htoken hc⟩
  | operator =>
    obtain ⟨op, hop, rfl⟩ := Option.map_eq_some_iff.1 h
    have hc := Operator.eq_symbol_of_ofChar? hop
    exact ⟨⟨op, hc⟩, htoken hc⟩
  | parenthesis =>
    obtain ⟨t, ht, rfl⟩ := Option.map_eq_some_iff.1 h
    refine ⟨?_, htoken (Token.eq_spell_of_paren? s ht)⟩
    unfold Token.paren? at ht
    split_ifs at ht with hopening hclosing
    · exact .inl hopening
    · exact .inr hclosing

/-- A test answers for every character of its class. -/
lemma Has.exists_test {s : Symbols} (h : k.Has s c) : ∃ v, k.test s c = some v := by
  cases k with
  | blank => exact ⟨_, if_pos h⟩
  | literal b => exact ⟨_, if_pos h⟩
  | operator =>
    obtain ⟨op, rfl⟩ := h
    exact ⟨_, by rw [test, Operator.ofChar?_symbol]; rfl⟩
  | parenthesis =>
    rcases h with rfl | rfl
    · exact ⟨_, rfl⟩
    · exact ⟨_, rfl⟩

/-- **The order of the tests does not matter**, as long as none is left out. -/
lemma findSome?_test {order : List CharClass} (horder : ∀ k, k ∈ order) (c : Char) :
    order.findSome? (test s c) = verdict s c := by
  cases hfind : order.findSome? (test s c) with
  | some v =>
    obtain ⟨k, -, hk⟩ := List.exists_of_findSome?_eq_some hfind
    exact (test_eq_some s hk).2.symm
  | none =>
    have hnone : ∀ k : CharClass, ¬ k.Has s c := by
      intro k hk
      obtain ⟨v, hv⟩ := hk.exists_test
      rw [List.findSome?_eq_none_iff.1 hfind k (horder k)] at hv
      cases hv
    obtain ⟨hblank, hchar⟩ := (not_has_iff s).1 hnone
    simp [verdict, hblank, hchar]

end CharClass

/-- What a reader is told of a text whose first character stands at a place, if the tests are made
in the given order and the first that answers decides. -/
def toldInOrder (s : Symbols) (order : List CharClass) (position : ℕ) :
    List Char → List (Except Malformed Scanned)
  | [] => []
  | c :: cs =>
    match order.findSome? (CharClass.test s c) with
    | some .passed => toldInOrder s order (position + 1) cs
    | some (.token t) => .ok ⟨t, position⟩ :: toldInOrder s order (position + 1) cs
    | none => .error (.unrecognized c position) :: toldInOrder s order (position + 1) cs

/-- What a lexeme is to a reader of tokens. -/
def Lexeme.scanned (x : Lexeme) : Except Malformed Scanned := x.read.map (⟨·, x.position⟩)

lemma toldInOrder_eq (s : Symbols) {order : List CharClass} (horder : ∀ k, k ∈ order)
    (position : ℕ) (cs : List Char) :
    toldInOrder s order position cs = (Lexeme.scanFrom s position cs).map Lexeme.scanned := by
  induction cs generalizing position with
  | nil => rfl
  | cons c cs ih =>
    rw [toldInOrder, CharClass.findSome?_test s horder, CharClass.verdict, Lexeme.scanFrom]
    cases hblank : isBlank c with
    | true => exact ih (position + 1)
    | false =>
      cases ht : Token.ofChar? s c with
      | some t => exact congrArg (.ok ⟨t, position⟩ :: ·) (ih (position + 1))
      | none => exact congrArg (.error (.unrecognized c position) :: ·) (ih (position + 1))

/-! ### One result for each character -/

namespace Scanner

variable {s : Symbols} {sc : Scanner} {c : Char} {cs : List Char}

lemma unread_advance_one (h : sc.unread = c :: cs) : (sc.advance 1).unread = cs := by
  rw [unread_advance, h]
  rfl

lemma next_nil (h : sc.unread = []) : sc.next s = (.ok none, sc) := by
  have hskip : sc.skipBlanks = sc := by
    rw [skipBlanks, h]
    rfl
  rw [next, hskip, h]

lemma next_cons (h : sc.unread = c :: cs) (hc : isBlank c = false) :
    sc.next s = (sc.classify s c, sc.advance 1) := by
  have hskip : sc.skipBlanks = sc := by
    rw [skipBlanks, h, List.takeWhile_cons_of_neg (by simp [hc])]
    rfl
  rw [next, hskip, h]

lemma next_blank (h : sc.unread = c :: cs) (hc : isBlank c = true) :
    sc.next s = (sc.advance 1).next s := by
  have hskip : sc.skipBlanks = (sc.advance 1).skipBlanks := by
    rw [skipBlanks, skipBlanks, unread_advance_one h, h, List.takeWhile_cons_of_pos hc,
      List.length_cons, advance, advance, advance, Nat.add_assoc, Nat.add_comm 1]
  rw [next, hskip, next]

lemma classify_eq (sc : Scanner) (c : Char) :
    sc.classify s c = (Lexeme.scanned ⟨sc.position, c, Token.ofChar? s c⟩).map some := by
  rw [classify, Lexeme.scanned, Lexeme.read]
  cases Token.ofChar? s c <;> rfl

lemma results_cons (h : sc.unread = c :: cs) (hc : isBlank c = false) :
    sc.results s =
      Lexeme.scanned ⟨sc.position, c, Token.ofChar? s c⟩ :: (sc.advance 1).results s := by
  rw [results_eq, next_cons h hc, classify_eq]
  cases Lexeme.scanned ⟨sc.position, c, Token.ofChar? s c⟩ <;> rfl

/-- **The scanner tells what the lexemes are**, whatever it has read already. -/
lemma results_eq_scanFrom (h : sc.unread = cs) :
    sc.results s = (Lexeme.scanFrom s sc.position cs).map Lexeme.scanned := by
  induction cs generalizing sc with
  | nil => rw [results_eq, next_nil h, Lexeme.scanFrom, List.map_nil]
  | cons c cs ih =>
    have hrest := ih (unread_advance_one h)
    cases hc : isBlank c with
    | true =>
      rw [results_eq, next_blank h hc, ← results_eq, hrest, Lexeme.scanFrom, if_pos hc, advance]
    | false =>
      rw [results_cons h hc, hrest, Lexeme.scanFrom, if_neg (by simp [hc]), List.map_cons, advance]

/-- All tokens are read if nothing is refused. -/
lemma tokens_eq_ok_iff {xs : List Scanned} : sc.tokens s = .ok xs ↔ sc.results s = xs.map .ok := by
  fun_induction Scanner.tokens s sc generalizing xs with
  | case1 sc behind h =>
    rw [results_eq, h]
    cases xs <;> simp
  | case2 sc x behind h ih =>
    have hcons : sc.results s = .ok x :: behind.results s := by rw [results_eq, h]
    rw [hcons]
    cases xs with
    | nil => cases behind.tokens s <;> simp [Except.map]
    | cons y ys =>
      rw [List.map_cons, List.cons_eq_cons, ← ih, Except.ok.injEq]
      cases behind.tokens s <;> simp [Except.map]
  | case3 sc e behind h =>
    rw [results_eq, h]
    cases xs <;> simp

end Scanner

/-- The character is of no class. -/
def Foreign (s : Symbols) (c : Char) : Prop := ∀ k : CharClass, ¬ k.Has s c

/-- What is told of a character that stands at a place. -/
def Reports (s : Symbols) (p : Char × ℕ) : Except Malformed Scanned → Prop
  | .ok x => x.token.spell s = p.1 ∧ x.position = p.2 ∧ ∃ k : CharClass, k.Has s p.1
  | .error e => e = .unrecognized p.1 p.2 ∧ Foreign s p.1

/-- The refusal is of the first character of no class, in a text that starts at a place. -/
def FirstForeign (s : Symbols) (position : ℕ) (cs : List Char) (e : Malformed) : Prop :=
  ∃ before c after, cs = before ++ c :: after ∧ e = .unrecognized c (position + before.length) ∧
    Foreign s c ∧ ∀ d ∈ before, ¬ Foreign s d

variable {s : Symbols} {c : Char} {cs : List Char} {e : Malformed}

lemma foreign_iff : Foreign s c ↔ isBlank c = false ∧ Token.ofChar? s c = none :=
  CharClass.not_has_iff s

lemma firstForeign_cons_of_foreign {position : ℕ} (hc : Foreign s c) :
    FirstForeign s position (c :: cs) e ↔ e = .unrecognized c position := by
  constructor
  · rintro ⟨before, d, after, hcs, rfl, -, hbefore⟩
    cases before with
    | nil =>
      cases hcs
      rfl
    | cons b before =>
      cases hcs
      exact absurd hc (hbefore _ List.mem_cons_self)
  · rintro rfl
    exact ⟨[], c, cs, rfl, rfl, hc, nofun⟩

lemma firstForeign_cons_of_not {position : ℕ} (hc : ¬ Foreign s c) :
    FirstForeign s position (c :: cs) e ↔ FirstForeign s (position + 1) cs e := by
  have hplace (n : ℕ) : position + 1 + n = position + (n + 1) := by omega
  constructor
  · rintro ⟨before, d, after, hcs, rfl, hd, hbefore⟩
    cases before with
    | nil =>
      cases hcs
      exact absurd hd hc
    | cons b before =>
      cases hcs
      refine ⟨before, d, after, rfl, ?_, hd, fun b hb => hbefore b (List.mem_cons_of_mem _ hb)⟩
      rw [hplace, List.length_cons]
  · rintro ⟨before, d, after, rfl, rfl, hd, hbefore⟩
    refine ⟨c :: before, d, after, rfl, ?_, hd, ?_⟩
    · rw [hplace, List.length_cons]
    · intro b hb
      rcases List.mem_cons.1 hb with rfl | hb
      · exact hc
      · exact hbefore b hb

lemma reports_scanned (position : ℕ) (hc : isBlank c = false) :
    Reports s (c, position) (Lexeme.scanned ⟨position, c, Token.ofChar? s c⟩) := by
  cases ht : Token.ofChar? s c with
  | none => exact ⟨rfl, foreign_iff.2 ⟨hc, ht⟩⟩
  | some t =>
    have hspell := Token.eq_spell_of_ofChar? s ht
    exact ⟨hspell.symm, rfl, CharClass.ofToken t, by rw [hspell]; exact CharClass.has_ofToken s t⟩

/-- One lexeme for each character that is not blank. -/
lemma forall₂_reports (position : ℕ) (cs : List Char) :
    List.Forall₂ (Reports s) ((cs.zipIdx position).filter fun p => !isBlank p.1)
      ((Lexeme.scanFrom s position cs).map Lexeme.scanned) := by
  induction cs generalizing position with
  | nil => exact .nil
  | cons c cs ih =>
    cases hc : isBlank c with
    | true =>
      rw [List.zipIdx_cons, List.filter_cons_of_neg (by simp [hc]), Lexeme.scanFrom, if_pos hc]
      exact ih (position + 1)
    | false =>
      rw [List.zipIdx_cons, List.filter_cons_of_pos (by simp [hc]), Lexeme.scanFrom,
        if_neg (by simp [hc]), List.map_cons]
      exact .cons (reports_scanned position hc) (ih (position + 1))

/-- Reading ends with the first character of no class, if there is one. -/
lemma Scanner.tokens_eq_error_iff {sc : Scanner} (h : sc.unread = cs) :
    sc.tokens s = .error e ↔ FirstForeign s sc.position cs e := by
  induction cs generalizing sc with
  | nil =>
    rw [tokens_eq, next_nil h]
    simp [FirstForeign]
  | cons c cs ih =>
    have hrest := ih (unread_advance_one h)
    cases hc : isBlank c with
    | true =>
      rw [firstForeign_cons_of_not (by simp [foreign_iff, hc]), tokens_eq, next_blank h hc,
        ← tokens_eq, hrest, advance]
    | false =>
      rw [tokens_eq, next_cons h hc, classify]
      cases ht : Token.ofChar? s c with
      | none =>
        rw [firstForeign_cons_of_foreign (foreign_iff.2 ⟨hc, ht⟩)]
        simp [eq_comm]
      | some t =>
        rw [firstForeign_cons_of_not (by simp [foreign_iff, ht])]
        refine Iff.trans ?_ hrest
        cases hxs : (sc.advance 1).tokens s <;> simp [Except.map, hxs]

/-- **A scanner tells each character that is not blank**, for all symbols and texts. Asked until the
text ends, also behind refusals, it gives one result for each such character, in order: the token
that the character spells, if it is of a class, and else a refusal, each with the place of the
character; and these are the lexemes of which expressions are made. Reading all tokens gives all of
them, and if there is a character of no class, it is the first one that is refused. No character is
of two classes, and so the results are the same whatever the order of the tests. -/
theorem scanner_tells_each_character (s : Symbols) (cs : List Char) :
    List.Forall₂ (Reports s) (cs.zipIdx.filter fun p => !isBlank p.1)
      ((Scanner.ofText cs).results s) ∧
    (Scanner.ofText cs).results s = (Lexeme.scan s cs).map Lexeme.scanned ∧
    (∀ xs, (Scanner.ofText cs).tokens s = .ok xs ↔
      (Scanner.ofText cs).results s = xs.map .ok) ∧
    (∀ e, (Scanner.ofText cs).tokens s = .error e ↔
      ∃ before c after, cs = before ++ c :: after ∧ e = .unrecognized c before.length ∧
        Foreign s c ∧ ∀ d ∈ before, ¬ Foreign s d) ∧
    (∀ (c : Char) (k k' : CharClass), k.Has s c → k'.Has s c → k = k') ∧
    ∀ order : List CharClass, (∀ k, k ∈ order) →
      toldInOrder s order 0 cs = (Scanner.ofText cs).results s := by
  have hresults : (Scanner.ofText cs).results s = (Lexeme.scan s cs).map Lexeme.scanned :=
    Scanner.results_eq_scanFrom rfl
  refine ⟨?_, hresults, fun xs => Scanner.tokens_eq_ok_iff, fun e => ?_,
    fun c k k' h h' => h.unique h', fun order h => (toldInOrder_eq s h 0 cs).trans hresults.symm⟩
  · rw [hresults]
    exact forall₂_reports 0 cs
  · have herror : (Scanner.ofText cs).tokens s = .error e ↔ FirstForeign s 0 cs e :=
      Scanner.tokens_eq_error_iff rfl
    simpa only [FirstForeign, Nat.zero_add] using herror

/-- Comma and quote are the literals, and a text begins and goes on with blanks. The tests are made
from the last class to the first, and the character that is refused is neither the first nor the
last one that is not blank. -/
theorem scanner_tells_each_character_comma :
    let s : Symbols := ⟨',', '"', by decide, by decide, by decide⟩
    let order : List CharClass :=
      [.parenthesis, .operator, .literal false, .literal true, .blank]
    let sc := Scanner.ofText "\t,#\u3000!".toList
    (∀ k, k ∈ order) ∧ sc.tokens s = .error (.unrecognized '#' 2) ∧
      sc.results s =
        [.ok ⟨.literal true, 1⟩, .error (.unrecognized '#' 2), .ok ⟨.operator .not, 4⟩] := by
  intro s order sc
  have horder : ∀ k, k ∈ order := by
    rintro (_ | ⟨_ | _⟩ | _ | _) <;> decide
  obtain ⟨-, -, -, herror, -, htold⟩ := scanner_tells_each_character s "\t,#\u3000!".toList
  refine ⟨horder, (herror _).2 ?_, (htold order horder).symm.trans rfl⟩
  refine ⟨['\t', ','], '#', ['\u3000', '!'], rfl, rfl, foreign_iff.2 ⟨rfl, rfl⟩, ?_⟩
  intro d hd
  rcases List.mem_pair.1 hd with rfl | rfl
  · exact fun h => h .blank rfl
  · exact fun h => h (.literal true) rfl

end BoolCalc
