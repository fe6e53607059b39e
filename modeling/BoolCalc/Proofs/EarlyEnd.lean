import BoolCalc.Proofs.ReadBack

/-!
# Readers and texts that break off

When a written value breaks off, its reader comes to the end of the text. It fails for this reason,
or, behind a number that could go on, it leaves nothing for what has to follow, which then fails for
this reason. From single values this is carried on to lists and to records, like reading itself.
-/

namespace BoolCalc.Json

variable {α β σ : Type}

/-- The text `p` breaks off somewhere before the end of `t`. -/
def Cut (p t : List Char) : Prop := p <+: t ∧ p ≠ t

lemma cut_nil (p : List Char) : ¬ Cut p [] := fun h => h.2 (List.prefix_nil.1 h.1)

lemma cut_cons {p t : List Char} {c : Char} (h : Cut p (c :: t)) :
    p = [] ∨ ∃ q, p = c :: q ∧ Cut q t := by
  rcases List.prefix_cons_iff.1 h.1 with rfl | ⟨q, rfl, hq⟩
  · exact .inl rfl
  · exact .inr ⟨q, rfl, hq, fun he => h.2 (congrArg (c :: ·) he)⟩

lemma Cut.exists_take {p t : List Char} (h : Cut p t) : ∃ n < t.length, p = t.take n := by
  obtain ⟨⟨q, rfl⟩, hne⟩ := h
  have hq : q ≠ [] := by
    rintro rfl
    exact hne (List.append_nil p).symm
  have hlength := List.length_pos_of_ne_nil hq
  refine ⟨p.length, ?_, List.take_left.symm⟩
  rw [List.length_append]
  omega

/-- A text breaks off within its first part or behind it. -/
lemma prefix_append {p s t : List Char} (h : p <+: s ++ t) :
    Cut p s ∨ ∃ q, p = s ++ q ∧ q <+: t := by
  by_cases hs : s <+: p
  · obtain ⟨q, rfl⟩ := hs
    exact .inr ⟨q, rfl, (List.prefix_append_right_inj s).1 h⟩
  · have hp : p <+: s :=
      (List.prefix_or_prefix_of_prefix h (List.prefix_append s t)).resolve_right hs
    exact .inl ⟨hp, fun he => hs (he ▸ List.prefix_refl p)⟩

lemma cut_append {p s t : List Char} (h : Cut p (s ++ t)) :
    Cut p s ∨ ∃ q, p = s ++ q ∧ Cut q t := by
  rcases prefix_append h.1 with hp | ⟨q, rfl, hq⟩
  · exact .inl hp
  · exact .inr ⟨q, rfl, hq, fun he => h.2 (congrArg (s ++ ·) he)⟩

lemma prefix_of_cut_concat {p t : List Char} {c : Char} (h : Cut p (t ++ [c])) : p <+: t :=
  (List.prefix_concat_iff.1 h.1).resolve_left h.2

lemma Blank.front {p w : List Char} (hw : Blank w) (h : p <+: w) : Blank p :=
  fun c hc => hw c (h.subset hc)

lemma Ends.front {p t : List Char} (ht : Ends t) (h : p <+: t) : Ends p := by
  intro c hc
  obtain ⟨q, rfl⟩ := h
  cases p with
  | nil => cases hc
  | cons d p => exact ht c hc

/-- Reading comes to the end of the text, and fails for this reason. -/
def EndsEarly (r : Except Fault α) : Prop := ∃ f, r = .error f ∧ f.cause.category = .eof

/-- Reading comes to the end of the text, and fails for this reason or leaves nothing behind. -/
def RunsOut (r : Except Fault (α × List Char)) : Prop := EndsEarly r ∨ ∃ a, r = .ok (a, [])

/-- Wherever the text `t` breaks off, the reader comes to its end. -/
def Breaks (reader : Reader α) (t : List Char) : Prop :=
  ∀ w p, Blank w → Cut p t → RunsOut (reader (w ++ p))

lemma EndsEarly.bind {r : Except Fault α} (h : EndsEarly r) (k : α → Except Fault β) :
    EndsEarly (r >>= k) := by
  obtain ⟨f, rfl, hf⟩ := h
  exact ⟨f, rfl, hf⟩

lemma EndsEarly.map {r : Except Fault α} (h : EndsEarly r) (k : α → β) : EndsEarly (r.map k) := by
  obtain ⟨f, rfl, hf⟩ := h
  exact ⟨f, rfl, hf⟩

lemma EndsEarly.within {r : Except Fault (α × List Char)} (h : EndsEarly r)
    (close : List Char → Except Fault (List Char)) (after : List Char → List Char) :
    EndsEarly (within close after r) := by
  obtain ⟨f, rfl, hf⟩ := h
  refine ⟨f.place (after f.rest), rfl, ?_⟩
  unfold Fault.place
  split
  · exact hf
  · exact hf

/-- When nothing is left for what follows, that comes to the end too. -/
lemma RunsOut.bind {r : Except Fault (α × List Char)} (h : RunsOut r)
    {k : α × List Char → Except Fault β} (hk : ∀ a, EndsEarly (k (a, []))) :
    EndsEarly (r >>= k) := by
  rcases h with h | ⟨a, rfl⟩
  · exact h.bind k
  · exact hk a

/-! ### Single values -/

lemma endsEarly_letter {e : Char} {p : List Char} (h : Cut p ['\\', e]) :
    EndsEarly (stringBody p) := by
  obtain ⟨n, hn, rfl⟩ := h.exists_take
  match n, hn with
  | 0, _ | 1, _ => exact ⟨_, rfl, rfl⟩

/-- Less than four bytes are left for the four digits. -/
lemma endsEarly_hexFault {α : Type} (rest : List Char) (h : (Fault.bytes rest).length < 4) :
    EndsEarly (.error (hexFault rest) : Except Fault α) := by
  rw [hexFault, if_pos h]
  exact ⟨_, rfl, rfl⟩

lemma endsEarly_codeUnit {a b : Char} (ha : (Fault.bytes ['0', '0', a]).length < 4) {p : List Char}
    (h : Cut p ['\\', 'u', '0', '0', a, b]) : EndsEarly (stringBody p) := by
  obtain ⟨n, hn, rfl⟩ := h.exists_take
  match n, hn with
  | 0, _ | 1, _ => exact ⟨_, rfl, rfl⟩
  -- From here on it is the digits that break off.
  | 2, _ => exact endsEarly_hexFault [] (by decide)
  | 3, _ => exact endsEarly_hexFault ['0'] (by decide)
  | 4, _ => exact endsEarly_hexFault ['0', '0'] (by decide)
  | 5, _ => exact endsEarly_hexFault ['0', '0', a] ha

/-- The first of the two digits that tell a control character is a single byte. -/
lemma length_bytes_hexDigit : ∀ n < 32, (Fault.bytes ['0', '0', hexDigit (n / 16)]).length < 4 := by
  decide

lemma endsEarly_escape (c : Char) {p : List Char} (h : Cut p (escape c)) :
    EndsEarly (stringBody p) := by
  unfold escape at h
  split_ifs at h with h1 h2 h3 h4 h5 h6 h7 h8
  · exact endsEarly_letter h
  · exact endsEarly_letter h
  · exact endsEarly_letter h
  · exact endsEarly_letter h
  · exact endsEarly_letter h
  · exact endsEarly_letter h
  · exact endsEarly_letter h
  · exact endsEarly_codeUnit (length_bytes_hexDigit c.toNat h8) h
  · obtain ⟨n, hn, rfl⟩ := h.exists_take
    match n, hn with
    | 0, _ => exact ⟨_, rfl, rfl⟩

lemma endsEarly_escaped (cs : List Char) {p : List Char} (h : p <+: cs.flatMap escape) :
    EndsEarly (stringBody p) := by
  induction cs generalizing p with
  | nil =>
    obtain rfl := List.prefix_nil.1 h
    exact ⟨_, rfl, rfl⟩
  | cons c cs ih =>
    rw [List.flatMap_cons] at h
    rcases prefix_append h with hc | ⟨q, rfl, hq⟩
    · exact endsEarly_escape c hc
    · rw [stringBody_escape]
      exact (ih hq).map _

lemma endsEarly_word {p t : List Char} (h : Cut p t) : EndsEarly (word t p) := by
  induction t generalizing p with
  | nil => exact absurd h (cut_nil p)
  | cons c t ih =>
    rcases cut_cons h with rfl | ⟨q, rfl, hq⟩
    · exact ⟨_, rfl, rfl⟩
    · rw [word, if_pos rfl]
      exact ih hq

lemma readQuoted_breaks (wanted : String) (cs : List Char) {w p : List Char} (hw : Blank w)
    (h : Cut p (quote cs)) : EndsEarly (readQuoted wanted (w ++ p)) := by
  rw [quote, List.cons_append] at h
  rcases cut_cons h with rfl | ⟨q, rfl, hq⟩
  · rw [List.append_nil, readQuoted, skipSpaces_blank hw]
    exact ⟨_, rfl, rfl⟩
  · rw [readQuoted, skipSpaces_blank_cons hw rfl]
    exact endsEarly_escaped cs (prefix_of_cut_concat hq)

lemma readText_breaks (cs : List Char) : Breaks readText (quote cs) :=
  fun _ _ hw hp => .inl (readQuoted_breaks _ cs hw hp)

lemma readCharacter_breaks (c : Char) : Breaks readCharacter (quote [c]) :=
  fun _ _ hw hp => .inl ((readQuoted_breaks _ [c] hw hp).bind _)

lemma readBoolean_breaks (b : Bool) : Breaks readBoolean (boolean b) := by
  intro w p hw hp
  refine .inl ?_
  cases b with
  | true =>
    rcases cut_cons hp with rfl | ⟨q, rfl, hq⟩
    · rw [List.append_nil, readBoolean, skipSpaces_blank hw]
      exact ⟨_, rfl, rfl⟩
    · rw [readBoolean, skipSpaces_blank_cons hw rfl]
      exact (endsEarly_word hq).map _
  | false =>
    rcases cut_cons hp with rfl | ⟨q, rfl, hq⟩
    · rw [List.append_nil, readBoolean, skipSpaces_blank hw]
      exact ⟨_, rfl, rfl⟩
    · rw [readBoolean, skipSpaces_blank_cons hw rfl]
      exact (endsEarly_word hq).map _

/-- A written number that breaks off is another number, no larger. -/
lemma readNatural_breaks (n : UInt64) : Breaks readNatural (natural n.toNat) := by
  intro w p hw hp
  obtain ⟨d, ds, hds, hd, hzero⟩ := natural_cons n.toNat
  have hp' := hp
  rw [hds] at hp'
  rcases cut_cons hp' with rfl | ⟨q, rfl, hq⟩
  · rw [List.append_nil, readNatural, skipSpaces_blank hw]
    exact .inl ⟨_, rfl, rfl⟩
  refine .inr ?_
  have hne : d ≠ '0' := by
    intro h0
    have hds' : ds = [] := by
      have hone : natural 0 = ['0'] := rfl
      rw [hzero h0, hone] at hds
      exact (List.cons.inj hds).2.symm
    rw [hds'] at hq
    exact cut_nil q hq
  have hminus : d ≠ '-' := by
    rintro rfl
    cases hd
  have hall : ∀ c ∈ d :: q, c.isDigit = true := fun c hc =>
    Nat.isDigit_of_mem_toDigits (by omega) (by omega) (hp.1.subset hc)
  have hle : Nat.ofDigitChars 10 (d :: q) 0 ≤ maxNatural := by
    obtain ⟨q', hq'⟩ := hp.1
    have hvalue : Nat.ofDigitChars 10 (natural n.toNat) 0 = n.toNat := Nat.ofDigitChars_ten_toDigits
    have hgrow := le_ofDigitChars q' (Nat.ofDigitChars 10 (d :: q) 0)
    have hn : n.toNat ≤ maxNatural := Nat.le_of_lt_succ n.toNat_lt
    rw [← hq', Nat.ofDigitChars_append] at hvalue
    omega
  have hdigits := digits_append hall ends_nil
  rw [List.append_nil] at hdigits
  refine ⟨.ofNat (Nat.ofDigitChars 10 (d :: q) 0), ?_⟩
  rw [readNatural, skipSpaces_blank_cons hw (isSpace_of_isDigit hd)]
  simp only [if_neg hminus, if_pos hd, number, if_neg hne, hdigits, absorb_eq hle]
  rfl

/-! ### Lists -/

lemma nextElement_breaks {first : Bool} {p : List Char} (hp : Blank p) :
    EndsEarly (nextElement first p) := by
  rw [nextElement, skipSpaces_blank hp]
  exact ⟨_, rfl, rfl⟩

lemma nextElement_comma_breaks {p : List Char} (hp : Blank p) :
    EndsEarly (nextElement false (',' :: p)) := by
  have hend : nextElement false (',' :: p) = .error (.here .endOfValue []) := by
    rw [nextElement, skipSpaces_cons (c := ',') rfl]
    simp [skipSpaces_blank hp]
  exact ⟨_, hend, rfl⟩

lemma Starts.append {t : List Char} (ht : Starts t) (rest : List Char) : Starts (t ++ rest) := by
  obtain ⟨c, cs, rfl, hspace, hend⟩ := ht
  exact ⟨c, cs ++ rest, rfl, hspace, hend⟩

/-- What is left of an item begins as the item does. -/
lemma Starts.of_cut {p t : List Char} (ht : Starts t) (h : Cut p t) : p = [] ∨ Starts p := by
  obtain ⟨c, cs, rfl, hspace, hend⟩ := ht
  rcases cut_cons h with rfl | ⟨q, rfl, -⟩
  · exact .inl rfl
  · exact .inr ⟨c, q, rfl, hspace, hend⟩

section

variable {element : Reader α} {write : α → List Char}

lemma elements_nil (fuel : ℕ) (first : Bool) : EndsEarly (elements element fuel first []) := by
  cases fuel with
  | zero => exact ⟨_, rfl, rfl⟩
  | succ fuel => exact (nextElement_breaks (p := []) blank_nil).bind _

/-- The text breaks off within a value, or behind it in what follows. -/
lemma Breaks.bind {reader : Reader α} {t : List Char} {a : α} (hbreak : Breaks reader t)
    (hread : Reads reader t a) {w p rest : List Char} (hw : Blank w) (hrest : Ends rest)
    (hp : Cut p (t ++ rest)) {k : α × List Char → Except Fault β}
    (hnil : ∀ a, EndsEarly (k (a, []))) (hk : ∀ q, Cut q rest → EndsEarly (k (a, q))) :
    EndsEarly (reader (w ++ p) >>= k) := by
  rcases cut_append hp with hcut | ⟨q, rfl, hq⟩
  · exact (hbreak w p hw hcut).bind hnil
  · rw [← List.append_assoc, hread w q hw (hrest.front hq.1)]
    exact hk q hq

lemma elements_further_breaks (hread : ∀ a, Reads element (write a) a)
    (hbreak : ∀ a, Breaks element (write a)) (hstart : ∀ a, Starts (write a)) (level : ℕ)
    (as : List α) {w p : List Char} (hw : Blank w)
    (hp : Cut p (further level (as.map write) ++ (w ++ [']']))) (fuel : ℕ) :
    EndsEarly (elements element fuel false p) := by
  induction as generalizing p fuel with
  | nil =>
    have hblank : Blank p := hw.front (prefix_of_cut_concat hp)
    cases fuel with
    | zero => exact ⟨_, rfl, rfl⟩
    | succ fuel => exact (nextElement_breaks hblank).bind _
  | cons a as ih =>
    obtain ⟨rest, hrest⟩ : ∃ rest, rest = further level (as.map write) ++ (w ++ [']']) := ⟨_, rfl⟩
    have hends : Ends rest := hrest ▸ ends_further level _ hw (by decide) []
    have htext : further level ((a :: as).map write) ++ (w ++ [']']) =
        ',' :: (gap level ++ (write a ++ rest)) := by
      simp [further, hrest]
    rw [htext] at hp
    rw [← hrest] at ih
    cases fuel with
    | zero => exact ⟨_, rfl, rfl⟩
    | succ fuel =>
      rcases cut_cons hp with rfl | ⟨p₁, rfl, hp₁⟩
      · exact elements_nil _ _
      rcases cut_append hp₁ with hgap | ⟨p₂, rfl, hp₂⟩
      · exact (nextElement_comma_breaks ((blank_gap level).front hgap.1)).bind _
      rcases ((hstart a).append rest).of_cut hp₂ with rfl | hp₂'
      · rw [List.append_nil]
        exact (nextElement_comma_breaks (blank_gap level)).bind _
      · have hnext := nextElement_comma (blank_gap level) hp₂' []
        rw [List.append_nil] at hnext
        rw [elements, hnext]
        exact (hbreak a).bind (hread a) (w := []) blank_nil hends hp₂
          (fun b => (elements_nil fuel false).bind _) fun q hq => (ih hq fuel).bind _

/-- Within the brackets the text breaks off among the elements. -/
lemma readList_breaks_of_elements {t : List Char}
    (h : ∀ p, Cut p t → ∀ fuel, EndsEarly (elements element fuel true p)) :
    Breaks (readList element) ('[' :: t) := by
  intro w p hw hp
  rcases cut_cons hp with rfl | ⟨q, rfl, hq⟩
  · rw [List.append_nil, readList, skipSpaces_blank hw]
    exact .inl ⟨_, rfl, rfl⟩
  · rw [readList, skipSpaces_blank_cons hw rfl]
    exact .inl ((h q hq _).within closeList afterList)

/-- **A written list that breaks off** leads its reader to the end of the text. -/
lemma readList_breaks (hread : ∀ a, Reads element (write a) a)
    (hbreak : ∀ a, Breaks element (write a)) (hstart : ∀ a, Starts (write a)) (level : ℕ)
    (as : List α) : Breaks (readList element) (list level (as.map write)) := by
  cases as with
  | nil =>
    refine readList_breaks_of_elements (t := [']']) fun p hp fuel => ?_
    have hnil : p = [] := List.prefix_nil.1 (prefix_of_cut_concat (t := []) hp)
    rw [hnil]
    exact elements_nil fuel true
  | cons a as =>
    obtain ⟨rest, hrest⟩ : ∃ rest, rest =
      further (level + 1) (as.map write) ++ (gap level ++ [']']) := ⟨_, rfl⟩
    have hends : Ends rest := hrest ▸ ends_further _ _ (blank_gap level) (by decide) []
    have htext : list level ((a :: as).map write) =
        '[' :: (gap (level + 1) ++ (write a ++ rest)) := by
      simp [list, block_cons, hrest]
    rw [htext]
    refine readList_breaks_of_elements fun p hp fuel => ?_
    cases fuel with
    | zero => exact ⟨_, rfl, rfl⟩
    | succ fuel =>
      rcases cut_append hp with hgap | ⟨p₁, rfl, hp₁⟩
      · exact (nextElement_breaks ((blank_gap _).front hgap.1)).bind _
      rcases ((hstart a).append rest).of_cut hp₁ with rfl | hp₁'
      · rw [List.append_nil]
        exact (nextElement_breaks (blank_gap _)).bind _
      · have hnext := nextElement_first (blank_gap (level + 1)) hp₁' []
        rw [List.append_nil] at hnext
        rw [elements, hnext]
        refine (hbreak a).bind (hread a) (w := []) blank_nil hends hp₁
          (fun b => (elements_nil fuel false).bind _) fun q hq => ?_
        rw [hrest] at hq
        exact (elements_further_breaks hread hbreak hstart _ as (blank_gap level) hq fuel).bind _

end

/-! ### Records -/

lemma nextKey_breaks {first : Bool} {p : List Char} (hp : Blank p) :
    EndsEarly (nextKey first p) := by
  rw [nextKey, skipSpaces_blank hp]
  exact ⟨_, rfl, rfl⟩

lemma nextKey_comma_breaks {p : List Char} (hp : Blank p) :
    EndsEarly (nextKey false (',' :: p)) := by
  have hend : nextKey false (',' :: p) = .error (.here .endOfValue []) := by
    rw [nextKey, skipSpaces_cons (c := ',') rfl]
    simp [skipSpaces_blank hp]
  exact ⟨_, hend, rfl⟩

namespace Shape

variable {shape : Shape σ α} {st st' : σ}

lemma readMembers_nil (fuel : ℕ) (first : Bool) :
    EndsEarly (shape.readMembers fuel first st []) := by
  cases fuel with
  | zero => exact ⟨_, rfl, rfl⟩
  | succ fuel => exact (nextKey_breaks (p := []) blank_nil).bind _

/-- The members are read one after the other, and wherever one breaks off behind its key its reader
comes to the end of the text. -/
inductive Snaps (shape : Shape σ α) : σ → List (List Char) → Prop
  | nil (st : σ) : Snaps shape st []
  | cons {name : String} {v : List Char} {st next : σ} {ms : List (List Char)}
    (hm : ∀ rest, Ends rest →
      shape.readMember name.toList st (':' :: ' ' :: (v ++ rest)) = .ok (next, rest))
    (hcut : ∀ p, Cut p (':' :: ' ' :: v) → RunsOut (shape.readMember name.toList st p))
    (hms : Snaps shape next ms) : Snaps shape st (member name v :: ms)

lemma Snaps.option {β : Type} {name : String} {reader : Reader β} {get : σ → Option β}
    {set : σ → β → σ} {v : List Char} {b : β} {ms : List (List Char)}
    (hfind : shape.fields.find? (·.name.toList == name.toList) =
      some (optionField name reader get set))
    (hget : get st = none) (hread : Reads reader v b) (hbreak : Breaks reader v) (hv : v ≠ [])
    (hms : Snaps shape (set st b) ms) : Snaps shape st (member name v :: ms) := by
  have hspace : Blank [' '] := by simp [Blank, isSpace]
  refine .cons (fun rest hrest => ?_) (fun p hp => ?_) hms
  · have hgiven : (optionField name reader get set).given st = false := by simp [optionField, hget]
    exact readMember_known hfind hgiven (reads_optionField hread) (u := []) (w := [' ']) blank_nil
      hspace hrest
  · simp only [readMember, hfind]
    rw [if_neg (by simp [optionField, hget])]
    rcases cut_cons hp with rfl | ⟨q, rfl, hq⟩
    · exact .inl ⟨_, rfl, rfl⟩
    have hrun : RunsOut (reader q) := by
      rcases cut_cons hq with rfl | ⟨q', rfl, hq'⟩
      · exact hbreak [] [] blank_nil ⟨List.nil_prefix, hv.symm⟩
      · exact hbreak [' '] q' hspace hq'
    have hcolon : colon (':' :: q) = .ok q := colon_blank (u := []) blank_nil q
    rw [hcolon]
    rcases hrun with ⟨f, hf, heof⟩ | ⟨b', hb'⟩
    · refine .inl ⟨f, ?_, heof⟩
      simp [optionField, bind, Except.bind, hf, Except.map]
    · refine .inr ⟨set st b', ?_⟩
      simp [optionField, bind, Except.bind, hb', Except.map]

/-- From behind the quote of a key on, the text breaks off within the key, the value, or behind. -/
lemma readMember_breaks {name : String} {v p rest : List Char} {fuel : ℕ} {next : σ}
    (hm : ∀ rest, Ends rest →
      shape.readMember name.toList st (':' :: ' ' :: (v ++ rest)) = .ok (next, rest))
    (hcut : ∀ p, Cut p (':' :: ' ' :: v) → RunsOut (shape.readMember name.toList st p))
    (hrest : Ends rest)
    (hp : Cut p (name.toList.flatMap escape ++ '"' :: (':' :: ' ' :: (v ++ rest))))
    (htail : ∀ q, Cut q rest → EndsEarly (shape.readMembers fuel false next q)) :
    EndsEarly (stringBody p >>= fun r => shape.readMember r.1 st r.2 >>= fun r' =>
      shape.readMembers fuel false r'.1 r'.2) := by
  rcases cut_append hp with hkey | ⟨p₁, rfl, hp₁⟩
  · exact (endsEarly_escaped _ hkey.1).bind _
  rcases cut_cons hp₁ with rfl | ⟨p₂, rfl, hp₂⟩
  · rw [List.append_nil]
    exact (endsEarly_escaped _ (List.prefix_refl _)).bind _
  rw [stringBody_escaped]
  have htext : ':' :: ' ' :: (v ++ rest) = (':' :: ' ' :: v) ++ rest := rfl
  rw [htext] at hp₂
  rcases cut_append hp₂ with hvalue | ⟨q, rfl, hq⟩
  · exact (hcut p₂ hvalue).bind fun st' => readMembers_nil fuel false
  · have hmember := hm q (hrest.front hq.1)
    show EndsEarly (shape.readMember name.toList st (':' :: ' ' :: (v ++ q)) >>= _)
    rw [hmember]
    exact htail q hq

lemma readMembers_further_breaks (level : ℕ) {ms : List (List Char)} (h : shape.Snaps st ms)
    {w p : List Char} (hw : Blank w) (hp : Cut p (further level ms ++ (w ++ ['\x7d']))) (fuel : ℕ) :
    EndsEarly (shape.readMembers fuel false st p) := by
  induction h generalizing p fuel with
  | nil st =>
    have hblank : Blank p := hw.front (prefix_of_cut_concat hp)
    cases fuel with
    | zero => exact ⟨_, rfl, rfl⟩
    | succ fuel => exact (nextKey_breaks hblank).bind _
  | @cons name v st next ms hm hcut _ ih =>
    obtain ⟨rest, hrest⟩ : ∃ rest, rest = further level ms ++ (w ++ ['\x7d']) := ⟨_, rfl⟩
    have hends : Ends rest := hrest ▸ ends_further level _ hw (by decide) []
    have htext : further level (member name v :: ms) ++ (w ++ ['\x7d']) =
        ',' :: (gap level ++ '"' :: (name.toList.flatMap escape ++ '"' :: (':' :: ' ' ::
          (v ++ rest)))) := by
      rw [← member_append, hrest]
      simp [further]
    rw [htext] at hp
    rw [← hrest] at ih
    cases fuel with
    | zero => exact ⟨_, rfl, rfl⟩
    | succ fuel =>
      rcases cut_cons hp with rfl | ⟨p₁, rfl, hp₁⟩
      · exact readMembers_nil _ _
      rcases cut_append hp₁ with hgap | ⟨p₂, rfl, hp₂⟩
      · exact (nextKey_comma_breaks ((blank_gap level).front hgap.1)).bind _
      rcases cut_cons hp₂ with rfl | ⟨p₃, rfl, hp₃⟩
      · rw [List.append_nil]
        exact (nextKey_comma_breaks (blank_gap level)).bind _
      rw [readMembers, nextKey_comma (blank_gap level)]
      exact readMember_breaks hm hcut hends hp₃ fun q hq => ih hq fuel

/-- **A written object that breaks off** leads its reader to the end of the text. -/
lemma read_object_breaks {m : List Char} {ms : List (List Char)}
    (h : shape.Snaps shape.blank (m :: ms)) (level : ℕ) {w p : List Char} (hw : Blank w)
    (hp : Cut p (object level (m :: ms))) : EndsEarly (shape.read (w ++ p)) := by
  cases h with
  | @cons name v _ next _ hm hcut hms =>
    obtain ⟨rest, hrest⟩ : ∃ rest, rest = further (level + 1) ms ++ (gap level ++ ['\x7d']) :=
      ⟨_, rfl⟩
    have hends : Ends rest := hrest ▸ ends_further _ _ (blank_gap level) (by decide) []
    have htext : object level (member name v :: ms) =
        '\x7b' :: (gap (level + 1) ++ '"' :: (name.toList.flatMap escape ++ '"' ::
          (':' :: ' ' :: (v ++ rest)))) := by
      rw [← member_append, hrest]
      simp [object, block_cons]
    rw [htext] at hp
    rcases cut_cons hp with rfl | ⟨p₁, rfl, hp₁⟩
    · rw [List.append_nil, read, skipSpaces_blank hw]
      exact ⟨_, rfl, rfl⟩
    rw [read, skipSpaces_blank_cons hw rfl]
    refine ((?_ : EndsEarly (shape.readMembers _ true shape.blank p₁)).bind _).within closeObject
      afterObject
    rcases cut_append hp₁ with hgap | ⟨p₂, rfl, hp₂⟩
    · exact (nextKey_breaks ((blank_gap _).front hgap.1)).bind _
    rcases cut_cons hp₂ with rfl | ⟨p₃, rfl, hp₃⟩
    · rw [List.append_nil]
      exact (nextKey_breaks (blank_gap _)).bind _
    rw [readMembers, nextKey_first (blank_gap _)]
    refine readMember_breaks hm hcut hends hp₃ fun q hq => ?_
    rw [hrest] at hq
    exact readMembers_further_breaks (level + 1) hms (blank_gap level) hq _

end Shape

end BoolCalc.Json
