import BoolCalc.Proofs.Replay
import BoolCalc.Proofs.Scanning

/-!
# Reverse Polish text reads back

A sequence of tokens is written with one blank between any two, and under the same symbols a scanner
reads the same tokens back, every other character being one. So a text that was written stands for
one sequence only, and that holds of the text that is kept with every entry that the shell
evaluated.
-/

namespace BoolCalc

/-- The tokens of a sequence, each with the place where it stands when the sequence is written. -/
def placed (ts : List Token) : List Scanned := ts.mapIdx fun i t => ⟨t, 2 * i⟩

lemma map_token_placed (ts : List Token) : (placed ts).map (·.token) = ts :=
  List.ext_getElem (by simp [placed]) (by simp [placed])

namespace Rpn

variable (s : Symbols)

/-- Every token stands two characters behind the one before it. -/
lemma scanFrom_format (position : ℕ) (ts : List Token) :
    Lexeme.scanFrom s position (format s ts) =
      ts.mapIdx fun i t => ⟨position + 2 * i, t.spell s, some t⟩ := by
  induction ts generalizing position with
  | nil => rfl
  | cons t ts ih =>
    cases ts with
    | nil => simp [format, Lexeme.scanFrom]
    | cons u ts =>
      have hformat : format s (t :: u :: ts) = t.spell s :: ' ' :: format s (u :: ts) := rfl
      have hblank : Text.isBlank ' ' = true := rfl
      have hplace (i : ℕ) : position + 1 + 1 + 2 * i = position + 2 * (i + 1) := by omega
      rw [hformat, Lexeme.scanFrom, if_neg (by simp), Lexeme.scanFrom, if_pos hblank, ih,
        List.mapIdx_cons (l := u :: ts), Token.ofChar?_spell]
      simp only [hplace, Nat.mul_zero, Nat.add_zero]

/-- **What was written is read back**, with nothing refused. -/
lemma results_format (ts : List Token) :
    (Scanner.ofText (format s ts)).results s = (placed ts).map .ok := by
  have hscan : (Scanner.ofText (format s ts)).results s =
      (Lexeme.scanFrom s 0 (format s ts)).map Lexeme.scanned := Scanner.results_eq_scanFrom rfl
  have hscanned (i : ℕ) (t : Token) :
      Lexeme.scanned ⟨0 + 2 * i, t.spell s, some t⟩ = .ok ⟨t, 2 * i⟩ := by
    rw [Nat.zero_add]
    rfl
  rw [hscan, scanFrom_format]
  refine List.ext_getElem (by simp [placed]) fun i h h' => ?_
  simp only [placed, List.getElem_map, List.getElem_mapIdx, hscanned]

lemma tokens_format (ts : List Token) :
    (Scanner.ofText (format s ts)).tokens s = .ok (placed ts) :=
  Scanner.tokens_eq_ok_iff.2 (results_format s ts)

lemma format_injective : Function.Injective (format s) := by
  intro ts us h
  have hplaced : placed ts = placed us := by
    rw [← Except.ok.injEq (ε := Malformed), ← tokens_format s ts, h, tokens_format s us]
  rw [← map_token_placed ts, hplaced, map_token_placed]

end Rpn

/-- The text that is kept with the entry stands for the reverse Polish sequence of its expression
and for no other. -/
def HistoryEntry.TellsTokens (e : HistoryEntry) : Prop :=
  ∃ ts, toRpn e.symbols e.expression.toList = .ok ts ∧
    (Scanner.ofText e.rpn.toList).tokens e.symbols = .ok (placed ts) ∧
    ∀ us, Rpn.format e.symbols us = e.rpn.toList ↔ us = ts

lemma HistoryEntry.Replays.tellsTokens {e : HistoryEntry} (h : e.Replays) : e.TellsTokens := by
  rw [HistoryEntry.Replays, evaluate_eq, compute_eq] at h
  cases hts : toRpn e.symbols e.expression.toList with
  | error r =>
    rw [hts] at h
    cases h
  | ok ts =>
    have hrpn : e.rpn.toList = Rpn.format e.symbols ts := by
      cases hv : Rpn.eval e.symbols ts with
      | error r => simp [hts, hv, Except.map] at h
      | ok b =>
        simp only [hts, hv, Except.map, Except.ok.injEq, Evaluation.mk.injEq] at h
        rw [← h.2.1, String.toList_ofList]
    refine ⟨ts, hts, ?_, fun us => ?_⟩
    · rw [hrpn, Rpn.tokens_format]
    · rw [hrpn, (Rpn.format_injective e.symbols).eq_iff]

namespace Shell

variable {sh : Shell} {p : Press} {a : Answers} {l : Ledger}

/-- An entry that is noted replays, whatever the session holds that is loaded. -/
lemma replays_of_mem_note (h : ∀ e ∈ l.accepted, e.Replays) :
    ∀ e ∈ (l.note sh p a).accepted, e.Replays := by
  intro e he
  unfold Ledger.note at he
  split at he
  · cases he
  · rcases List.mem_append.1 he with he | he
    · exact h e he
    · exact replays_of_accepts (Option.mem_toList.1 he)

lemma replays_of_mem_ledgerFrom {qs : List (Press × Answers)}
    (h : ∀ e ∈ l.accepted, e.Replays) : ∀ e ∈ (sh.ledgerFrom l qs).accepted, e.Replays := by
  induction qs generalizing sh l with
  | nil => exact h
  | cons q qs ih =>
    rw [ledgerFrom]
    split
    · exact ih (replays_of_mem_note h)
    · exact h

/-- **Written sequences read back.** Under any symbols a scanner reads from the text of a sequence,
parentheses included, exactly its tokens, the one with index `i` at the place `2 * i`; so no two
sequences have the same text. The text that is kept with an entry therefore stands for one sequence
under the symbols of the entry, that of its expression: this holds of every entry that was accepted
in a run of keys, whatever files hold, and of every entry in a shell that takes over only sessions
which such shells have saved. -/
theorem written_sequence_reads_back :
    (∀ (s : Symbols) (ts : List Token),
      (Scanner.ofText (Rpn.format s ts)).results s = (placed ts).map .ok ∧
      (Scanner.ofText (Rpn.format s ts)).tokens s = .ok (placed ts)) ∧
    (∀ s : Symbols, Function.Injective (Rpn.format s)) ∧
    (∀ (settings : Settings) (name : Option String) (qs : List (Press × Answers)),
      ∀ e ∈ ((start settings name).ledger qs).accepted, e.TellsTokens) ∧
    ∀ sh : Shell, Authentic sh → ∀ e ∈ sh.history, e.TellsTokens := by
  refine ⟨fun s ts => ⟨Rpn.results_format s ts, Rpn.tokens_format s ts⟩, Rpn.format_injective,
    fun settings name qs e he => ?_, fun sh h e he => (h.replays e he).tellsTokens⟩
  exact (replays_of_mem_ledgerFrom (l := .empty) nofun e he).tellsTokens

/-- The text `1 0 | !` stands for one sequence under the symbols of its entry. -/
theorem written_sequence_reads_back_digits :
    let digits : Symbols := ⟨'1', '0', by decide, by decide, by decide⟩
    let e : HistoryEntry := ⟨"!(1|0)", "1 0 | !", false, digits⟩
    let qs :=
      ([.char 'e', .char '!', .char '(', .char '1', .char '|', .char '0', .char ')', .enter] :
      List Key).map unread
    ∃ sh, (start ⟨digits, 50⟩ none).pressed qs = some sh ∧
      e ∈ ((start ⟨digits, 50⟩ none).ledger qs).accepted ∧ e.TellsTokens ∧
      Authentic sh ∧ e ∈ sh.history ∧ (∀ f ∈ sh.history, f.TellsTokens) ∧
      ∀ us, Rpn.format digits us = "1 0 | !".toList ↔
        us = [.literal true, .literal false, .operator .or, .operator .not] := by
  intro digits e qs
  have hrun : ((start ⟨digits, 50⟩ none).pressed qs).map Shell.history = some [e] := by
    decide +kernel
  have haccepted : ((start ⟨digits, 50⟩ none).ledger qs).accepted = [e] := by decide +kernel
  obtain ⟨sh, hsh, hhistory⟩ := Option.map_eq_some_iff.1 hrun
  have hunread : ∀ q ∈ qs, ∃ f, q.2.read = .error f := by
    intro q hq
    obtain ⟨k, -, rfl⟩ := List.mem_map.1 hq
    exact ⟨_, rfl⟩
  have hauthentic : Authentic sh := (Authentic.start _ _).pressed hunread hsh
  have hmem : e ∈ ((start ⟨digits, 50⟩ none).ledger qs).accepted := by
    rw [haccepted]
    exact List.mem_singleton_self e
  obtain ⟨-, hinjective, hruns, hauthentics⟩ := written_sequence_reads_back
  refine ⟨sh, hsh, hmem, hruns _ none qs e hmem, hauthentic, ?_, hauthentics sh hauthentic,
    fun us => ?_⟩
  · rw [hhistory]
    exact List.mem_singleton_self e
  · exact (hinjective digits).eq_iff' rfl

end Shell

end BoolCalc
