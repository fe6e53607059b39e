import Mathlib.Data.List.Basic
import BoolCalc.Session.Document

/-!
# What is written is read back

Each way to write a value has a reader that gives the value back, takes exactly what was written,
and leaves the rest of the text alone, whatever blanks stand before the value. Only a number needs
to know where it ends, so what follows must not continue one. From single values this is carried on
to lists and to records, whose members fill a draft one after the other.
-/

namespace BoolCalc.Json

variable {α σ : Type}

/-- Nothing but characters that may stand between the parts of a text. -/
def Blank (w : List Char) : Prop := ∀ c ∈ w, isSpace c = true

/-- A number ends before this text. -/
def Ends (rest : List Char) : Prop :=
  ∀ c ∈ rest.head?, c.isDigit = false ∧ c ≠ '.' ∧ c ≠ 'e' ∧ c ≠ 'E'

/-- The reader takes the text `t` for the value `a`, behind any blanks and before any other text. -/
def Reads (reader : Reader α) (t : List Char) (a : α) : Prop :=
  ∀ w rest, Blank w → Ends rest → reader (w ++ t ++ rest) = .ok (a, rest)

lemma blank_nil : Blank [] := List.forall_mem_nil _

lemma ends_nil : Ends [] := by simp [Ends]

lemma ends_cons {c : Char} (h : c.isDigit = false ∧ c ≠ '.' ∧ c ≠ 'e' ∧ c ≠ 'E')
    (rest : List Char) : Ends (c :: rest) := by
  simpa [Ends] using h

lemma skipSpaces_append {w : List Char} (hw : Blank w) (text : List Char) :
    skipSpaces (w ++ text) = skipSpaces text := by
  induction w with
  | nil => rfl
  | cons c w ih =>
    have hc : isSpace c = true := hw c List.mem_cons_self
    have hw' : Blank w := fun d hd => hw d (List.mem_cons_of_mem c hd)
    rw [List.cons_append, skipSpaces, List.dropWhile_cons_of_pos hc]
    exact ih hw'

lemma skipSpaces_blank {w : List Char} (hw : Blank w) : skipSpaces w = [] := by
  have h := skipSpaces_append hw []
  rwa [List.append_nil] at h

lemma skipSpaces_cons {c : Char} (hc : isSpace c = false) (text : List Char) :
    skipSpaces (c :: text) = c :: text := by
  simp [skipSpaces, hc]

/-- Behind blanks stands the first character of what is no blank. -/
lemma skipSpaces_blank_cons {w : List Char} (hw : Blank w) {c : Char} (hc : isSpace c = false)
    (text : List Char) : skipSpaces (w ++ c :: text) = c :: text := by
  rw [skipSpaces_append hw, skipSpaces_cons hc]

/-! ### Strings -/

lemma stringBody_end (rest : List Char) : stringBody ('"' :: rest) = .ok ([], rest) := by
  rw [stringBody.eq_def]
  simp

/-- A character that needs no escape stands for itself. -/
lemma stringBody_plain {c : Char} (hq : c ≠ '"') (hb : c ≠ '\\') (hc : ¬ c.toNat < 32)
    (text : List Char) :
    stringBody (c :: text) = (stringBody text).map fun r => (c :: r.1, r.2) := by
  rw [stringBody.eq_def]
  simp [hq, hb, hc]

lemma stringBody_letter {e c : Char} (he : unescape? e = some c) (text : List Char) :
    stringBody ('\\' :: e :: text) = (stringBody text).map fun r => (c :: r.1, r.2) := by
  rw [stringBody.eq_def]
  simp [he]

/-- An escape by number stands for the character with this number, unless it is half of a pair. -/
lemma stringBody_codeUnit {h₁ h₂ h₃ h₄ : Char} {n : ℕ} (hn : codeUnit? h₁ h₂ h₃ h₄ = some n)
    (hlow : isLowSurrogate n = false) (hhigh : isHighSurrogate n = false) (text : List Char) :
    stringBody ('\\' :: 'u' :: h₁ :: h₂ :: h₃ :: h₄ :: text) =
      (stringBody text).map fun r => (Char.ofNat n :: r.1, r.2) := by
  have hu : unescape? 'u' = none := by decide
  rw [stringBody.eq_def]
  simp [hu, hn, hlow, hhigh]

/-- The escape of a control character names it. -/
lemma codeUnit?_hexDigit : ∀ n < 32, codeUnit? '0' '0' (hexDigit (n / 16)) (hexDigit (n % 16)) =
    some n ∧ isLowSurrogate n = false ∧ isHighSurrogate n = false := by
  decide

/-- **A written character is read back.** -/
lemma stringBody_escape (c : Char) (text : List Char) :
    stringBody (escape c ++ text) = (stringBody text).map fun r => (c :: r.1, r.2) := by
  unfold escape
  split_ifs with h1 h2 h3 h4 h5 h6 h7 h8
  · exact stringBody_letter (by rw [h1]; decide) text
  · exact stringBody_letter (by rw [h2]; decide) text
  · exact stringBody_letter (by rw [h3]; decide) text
  · exact stringBody_letter (by rw [h4]; decide) text
  · exact stringBody_letter (by rw [h5]; decide) text
  · exact stringBody_letter (by rw [h6]; decide) text
  · exact stringBody_letter (by rw [h7]; decide) text
  · obtain ⟨hn, hlow, hhigh⟩ := codeUnit?_hexDigit c.toNat h8
    have hc := stringBody_codeUnit hn hlow hhigh text
    rwa [Char.ofNat_toNat] at hc
  · exact stringBody_plain h1 h2 h8 text

lemma stringBody_escaped (cs rest : List Char) :
    stringBody (cs.flatMap escape ++ '"' :: rest) = .ok (cs, rest) := by
  induction cs with
  | nil => exact stringBody_end rest
  | cons c cs ih =>
    rw [List.flatMap_cons, List.append_assoc, stringBody_escape, ih]
    rfl

lemma readQuoted_quote (wanted : String) (cs : List Char) :
    Reads (readQuoted wanted) (quote cs) cs := by
  intro w rest hw _
  have htext : w ++ quote cs ++ rest = w ++ '"' :: (cs.flatMap escape ++ '"' :: rest) := by
    simp [quote]
  rw [htext, readQuoted, skipSpaces_blank_cons hw rfl]
  exact stringBody_escaped cs rest

lemma readText_quote (cs : List Char) : Reads readText (quote cs) cs :=
  readQuoted_quote _ cs

lemma readCharacter_quote (c : Char) : Reads readCharacter (quote [c]) c := by
  intro w rest hw hrest
  rw [readCharacter, readQuoted_quote _ [c] w rest hw hrest]
  rfl

/-! ### Truth values and numbers -/

lemma readBoolean_boolean (b : Bool) : Reads readBoolean (boolean b) b := by
  intro w rest hw _
  cases b with
  | true =>
    have htext : w ++ boolean true ++ rest = w ++ 't' :: (['r', 'u', 'e'] ++ rest) := by
      simp [boolean]
    rw [htext, readBoolean, skipSpaces_blank_cons hw rfl]
    simp [word, Except.map]
  | false =>
    have htext : w ++ boolean false ++ rest = w ++ 'f' :: (['a', 'l', 's', 'e'] ++ rest) := by
      simp [boolean]
    rw [htext, readBoolean, skipSpaces_blank_cons hw rfl]
    simp [word, Except.map]

/-- The number that digits continue is no smaller. -/
lemma le_ofDigitChars (ds : List Char) (n : ℕ) : n ≤ Nat.ofDigitChars 10 ds n := by
  induction ds generalizing n with
  | nil => exact Nat.le_refl n
  | cons d ds ih =>
    rw [Nat.ofDigitChars_cons]
    have := ih (10 * n + (d.toNat - '0'.toNat))
    omega

/-- Digits of a number within the limit are all taken. -/
lemma absorb_eq {limit n : ℕ} {ds : List Char} (h : Nat.ofDigitChars 10 ds n ≤ limit) :
    absorb limit n ds = (Nat.ofDigitChars 10 ds n, []) := by
  induction ds generalizing n with
  | nil => rfl
  | cons d ds ih =>
    have hstep : n * 10 + digitValue d = 10 * n + (d.toNat - '0'.toNat) := by
      rw [digitValue, show '0'.toNat = 48 from rfl]
      omega
    rw [Nat.ofDigitChars_cons] at h ⊢
    have hle := le_ofDigitChars ds (10 * n + (d.toNat - '0'.toNat))
    simp only [absorb, hstep]
    rw [if_pos (Nat.le_trans hle h)]
    exact ih h

lemma digits_append {ds rest : List Char} (hds : ∀ d ∈ ds, d.isDigit = true) (hrest : Ends rest) :
    digits (ds ++ rest) = (ds, rest) := by
  have hnone : rest.takeWhile Char.isDigit = [] ∧ rest.dropWhile Char.isDigit = rest := by
    cases rest with
    | nil => exact ⟨rfl, rfl⟩
    | cons c rest =>
      have hc : c.isDigit = false := (hrest c rfl).1
      simp [hc]
  rw [digits, List.takeWhile_append_of_pos hds, List.dropWhile_append_of_pos hds, hnone.1, hnone.2,
    List.append_nil]

/-- A number that ends behind its integer digits is one without point and exponent. -/
lemma afterInteger_of_ends {n : ℕ} {rest : List Char} (hrest : Ends rest) :
    afterInteger false n 0 rest = .ok (.natural n, rest) := by
  cases rest with
  | nil => rfl
  | cons c rest =>
    obtain ⟨-, hpoint, hlower, hupper⟩ := hrest c rfl
    simp [afterInteger, hpoint, hlower, hupper]

/-- A written number begins with a digit, which is zero for zero only. -/
lemma natural_cons (n : ℕ) :
    ∃ d ds, natural n = d :: ds ∧ d.isDigit = true ∧ (d = '0' → n = 0) := by
  induction n using Nat.strongRecOn with
  | ind n ih =>
    by_cases hlt : n < 10
    · refine ⟨n.digitChar, [], Nat.toDigits_of_lt_base hlt, ?_, Nat.digitChar_eq_zero.1⟩
      rw [Nat.isDigit_digitChar]
      exact decide_eq_true hlt
    · obtain ⟨d, ds, hds, hd, hzero⟩ := ih (n / 10) (by omega)
      refine ⟨d, ds ++ [(n % 10).digitChar], ?_, hd, fun h => ?_⟩
      · rw [natural, Nat.toDigits_of_base_le (by omega) (by omega)]
        exact congrArg (· ++ [(n % 10).digitChar]) hds
      · have := hzero h
        omega

lemma number_natural {n : ℕ} (hn : n ≤ maxNatural) {rest : List Char} (hrest : Ends rest) :
    number false (natural n ++ rest) = .ok (.natural n, rest) := by
  by_cases hzero : n = 0
  · subst hzero
    cases rest with
    | nil => rfl
    | cons c rest =>
      have hc : c.isDigit = false := (hrest c rfl).1
      have h0 : natural 0 = ['0'] := rfl
      rw [h0, List.singleton_append, number]
      simp [hc, afterInteger_of_ends hrest]
  · obtain ⟨d, ds, hds, hd, hd0⟩ := natural_cons n
    have hne : d ≠ '0' := fun h => hzero (hd0 h)
    have hall : ∀ c ∈ natural n, c.isDigit = true := fun c hc =>
      Nat.isDigit_of_mem_toDigits (by omega) (by omega) hc
    have hvalue : Nat.ofDigitChars 10 (natural n) 0 = n := Nat.ofDigitChars_ten_toDigits
    have habsorb : absorb maxNatural 0 (natural n) = (n, []) := by
      rw [absorb_eq (by rw [hvalue]; exact hn), hvalue]
    have hdigits := digits_append hall hrest
    rw [hds] at hdigits habsorb ⊢
    rw [List.cons_append] at hdigits ⊢
    simp only [number, if_neg hne, if_pos hd, hdigits, habsorb]
    exact afterInteger_of_ends hrest

lemma isSpace_of_isDigit {c : Char} (hc : c.isDigit = true) : isSpace c = false := by
  rw [← Bool.not_eq_true]
  intro hs
  simp only [isSpace, Bool.or_eq_true, beq_iff_eq] at hs
  rcases hs with ((rfl | rfl) | rfl) | rfl <;> cases hc

lemma readNatural_natural (n : UInt64) : Reads readNatural (natural n.toNat) n := by
  intro w rest hw hrest
  have hn : n.toNat ≤ maxNatural := Nat.le_of_lt_succ n.toNat_lt
  have hnumber := number_natural hn hrest
  obtain ⟨d, ds, hds, hd, -⟩ := natural_cons n.toNat
  have hminus : d ≠ '-' := by
    rintro rfl
    cases hd
  rw [hds] at hnumber ⊢
  rw [List.append_assoc, List.cons_append, readNatural,
    skipSpaces_blank_cons hw (isSpace_of_isDigit hd)]
  simp only [if_neg hminus, if_pos hd]
  rw [← List.cons_append, hnumber]
  simp [bind, Except.bind]

/-! ### Lists -/

/-- The line break before what stands at a level. -/
def gap (level : ℕ) : List Char := '\n' :: indent level

/-- The items behind the first one, each behind a comma. -/
def further (level : ℕ) (ts : List (List Char)) : List Char :=
  ts.flatMap fun t => ',' :: (gap level ++ t)

/-- The text begins neither with a blank nor with the end of a list. -/
def Starts (t : List Char) : Prop := ∃ c cs, t = c :: cs ∧ isSpace c = false ∧ c ≠ ']'

lemma blank_gap (level : ℕ) : Blank (gap level) := by
  intro c hc
  rcases List.mem_cons.1 hc with rfl | hc
  · rfl
  · rw [List.eq_of_mem_replicate hc]
    rfl

lemma intercalate_cons (level : ℕ) (t : List Char) (ts : List (List Char)) :
    [',', '\n'].intercalate ((indent level ++ t) :: ts.map (indent level ++ ·)) =
      indent level ++ t ++ further level ts := by
  induction ts generalizing t with
  | nil => simp [further]
  | cons t' ts ih =>
    rw [List.map_cons, List.intercalate_cons_cons, ih t']
    simp [further, gap]

lemma block_cons (opening closing : Char) (level : ℕ) (t : List Char) (ts : List (List Char)) :
    block opening closing level (t :: ts) =
      opening :: (gap (level + 1) ++ t ++ further (level + 1) ts ++ gap level ++ [closing]) := by
  rw [block, List.map_cons, intercalate_cons]
  simp [gap]

lemma length_le_further (level : ℕ) (ts : List (List Char)) :
    ts.length ≤ (further level ts).length := by
  induction ts with
  | nil => exact Nat.zero_le _
  | cons t ts ih =>
    simp only [further, List.flatMap_cons, List.length_append, List.length_cons] at ih ⊢
    omega

/-- Behind blanks a number is at its end, whatever ends it otherwise. -/
lemma ends_blank_append {w : List Char} (hw : Blank w) {rest : List Char} (h : Ends rest) :
    Ends (w ++ rest) := by
  cases w with
  | nil => exact h
  | cons d w =>
    have hd : isSpace d = true := hw d List.mem_cons_self
    refine ends_cons ?_ _
    simp only [isSpace, Bool.or_eq_true, beq_iff_eq] at hd
    rcases hd with ((rfl | rfl) | rfl) | rfl <;> decide

lemma ends_blank_cons {w : List Char} (hw : Blank w) {c : Char}
    (hc : c.isDigit = false ∧ c ≠ '.' ∧ c ≠ 'e' ∧ c ≠ 'E') (rest : List Char) :
    Ends (w ++ c :: rest) :=
  ends_blank_append hw (ends_cons hc rest)

lemma ends_blank {w : List Char} (hw : Blank w) : Ends w := by
  have h := ends_blank_append hw ends_nil
  rwa [List.append_nil] at h

/-- Behind an item a number is at its end. -/
lemma ends_further (level : ℕ) (ts : List (List Char)) {w : List Char} (hw : Blank w) {c : Char}
    (hc : c.isDigit = false ∧ c ≠ '.' ∧ c ≠ 'e' ∧ c ≠ 'E') (rest : List Char) :
    Ends (further level ts ++ (w ++ c :: rest)) := by
  cases ts with
  | nil => exact ends_blank_cons hw hc rest
  | cons t ts => exact ends_cons (by decide) _

lemma nextElement_end (first : Bool) {w : List Char} (hw : Blank w) (rest : List Char) :
    nextElement first (w ++ ']' :: rest) = .ok none := by
  rw [nextElement, skipSpaces_blank_cons hw rfl]
  rfl

lemma nextElement_first {w : List Char} (hw : Blank w) {t : List Char} (ht : Starts t)
    (rest : List Char) : nextElement true (w ++ (t ++ rest)) = .ok (some (t ++ rest)) := by
  obtain ⟨c, cs, rfl, hspace, hend⟩ := ht
  rw [List.cons_append, nextElement, skipSpaces_blank_cons hw hspace]
  simp

lemma nextElement_comma {w : List Char} (hw : Blank w) {t : List Char} (ht : Starts t)
    (rest : List Char) :
    nextElement false (',' :: (w ++ (t ++ rest))) = .ok (some (t ++ rest)) := by
  obtain ⟨c, cs, rfl, hspace, hend⟩ := ht
  rw [nextElement, skipSpaces_cons (c := ',') rfl, List.cons_append]
  simp [skipSpaces_blank_cons hw hspace, hend]

/-- Blanks before an element, or before its comma, do not matter. -/
lemma nextElement_blank (first : Bool) {u : List Char} (hu : Blank u) (text : List Char) :
    nextElement first (u ++ text) = nextElement first text := by
  rw [nextElement, skipSpaces_append hu, ← nextElement]

lemma closeList_end {w : List Char} (hw : Blank w) (rest : List Char) :
    closeList (w ++ ']' :: rest) = .ok rest := by
  rw [closeList, skipSpaces_blank_cons hw rfl]
  rfl

section

variable {element : Reader α} {write : α → List Char}

lemma elements_further (hread : ∀ a, Reads element (write a) a) (hstart : ∀ a, Starts (write a))
    (level : ℕ) (as : List α) {fuel : ℕ} (hfuel : as.length < fuel) {w : List Char} (hw : Blank w)
    (rest : List Char) :
    elements element fuel false (further level (as.map write) ++ (w ++ ']' :: rest)) =
      .ok (as, w ++ ']' :: rest) := by
  induction as generalizing fuel with
  | nil =>
    obtain ⟨fuel, rfl⟩ := Nat.exists_eq_add_one_of_ne_zero (Nat.ne_of_gt hfuel)
    have hnext := nextElement_end false hw rest
    simp [elements, further, hnext, bind, Except.bind]
  | cons a as ih =>
    obtain ⟨fuel, rfl⟩ := Nat.exists_eq_add_one_of_ne_zero (Nat.ne_of_gt (Nat.zero_lt_of_lt hfuel))
    have hrest : Ends (further level (as.map write) ++ (w ++ ']' :: rest)) :=
      ends_further level _ hw (by decide) rest
    have hnext := nextElement_comma (blank_gap level) (hstart a)
      (further level (as.map write) ++ (w ++ ']' :: rest))
    have helement := hread a [] _ blank_nil hrest
    have htail := ih (Nat.lt_of_succ_lt_succ hfuel)
    have htext : further level ((a :: as).map write) ++ (w ++ ']' :: rest) =
        ',' :: (gap level ++
          (write a ++ (further level (as.map write) ++ (w ++ ']' :: rest)))) := by
      simp [further]
    rw [List.nil_append] at helement
    simp only [htext, elements, hnext, bind, Except.bind, helement, htail]

/-- The elements of a list, from its opening bracket on. -/
lemma elements_list (hread : ∀ a, Reads element (write a) a) (hstart : ∀ a, Starts (write a))
    (level : ℕ) (as : List α) (rest : List Char) :
    ∃ text w, list level (as.map write) ++ rest = '[' :: text ∧ Blank w ∧
      elements element (text.length + 1) true text = .ok (as, w ++ ']' :: rest) := by
  cases as with
  | nil =>
    refine ⟨']' :: rest, [], rfl, blank_nil, ?_⟩
    have hnext := nextElement_end true (w := []) blank_nil rest
    rw [List.nil_append] at hnext
    simp [elements, hnext, bind, Except.bind]
  | cons a as =>
    have hrest : Ends (further (level + 1) (as.map write) ++ (gap level ++ ']' :: rest)) :=
      ends_further _ _ (blank_gap level) (by decide) rest
    have hnext := nextElement_first (blank_gap (level + 1)) (hstart a)
      (further (level + 1) (as.map write) ++ (gap level ++ ']' :: rest))
    have helement := hread a [] _ blank_nil hrest
    have htail (fuel : ℕ) (hfuel : as.length < fuel) :=
      elements_further hread hstart (level + 1) as hfuel (blank_gap level) rest
    refine ⟨gap (level + 1) ++
      (write a ++ (further (level + 1) (as.map write) ++ (gap level ++ ']' :: rest))), gap level,
      ?_, blank_gap level, ?_⟩
    · simp [list, block_cons]
    · have hlen := length_le_further (level + 1) (as.map write)
      rw [List.length_map] at hlen
      rw [List.nil_append] at helement
      simp only [elements, hnext, bind, Except.bind, helement]
      rw [htail _ (by simp only [gap, List.length_append, List.length_cons]; omega)]

/-- **A written list is read back** if its elements are. -/
lemma readList_list (hread : ∀ a, Reads element (write a) a) (hstart : ∀ a, Starts (write a))
    (level : ℕ) (as : List α) : Reads (readList element) (list level (as.map write)) as := by
  intro w rest hw _
  obtain ⟨text, w', htext, hw', helements⟩ := elements_list hread hstart level as rest
  rw [List.append_assoc, htext, readList, skipSpaces_blank_cons hw rfl]
  simp [helements, within, closeList_end hw', Except.map]

end

/-! ### Records -/

lemma member_append (name : String) (v rest : List Char) :
    member name v ++ rest =
      '"' :: (name.toList.flatMap escape ++ '"' :: (':' :: ' ' :: (v ++ rest))) := by
  simp [member, quote]

lemma nextKey_end (first : Bool) {w : List Char} (hw : Blank w) (rest : List Char) :
    nextKey first (w ++ '\x7d' :: rest) = .ok none := by
  rw [nextKey, skipSpaces_blank_cons hw rfl]
  rfl

lemma nextKey_first {w : List Char} (hw : Blank w) (text : List Char) :
    nextKey true (w ++ '"' :: text) = .ok (some text) := by
  rw [nextKey, skipSpaces_blank_cons hw rfl]
  simp

lemma nextKey_comma {w : List Char} (hw : Blank w) (text : List Char) :
    nextKey false (',' :: (w ++ '"' :: text)) = .ok (some text) := by
  have hquote := skipSpaces_blank_cons hw (c := '"') rfl text
  rw [nextKey, skipSpaces_cons (c := ',') rfl]
  simp [hquote]

/-- Blanks before a key, or before its comma, do not matter. -/
lemma nextKey_blank (first : Bool) {u : List Char} (hu : Blank u) (text : List Char) :
    nextKey first (u ++ text) = nextKey first text := by
  rw [nextKey, skipSpaces_append hu, ← nextKey]

lemma closeObject_end {w : List Char} (hw : Blank w) (rest : List Char) :
    closeObject (w ++ '\x7d' :: rest) = .ok rest := by
  rw [closeObject, skipSpaces_blank_cons hw rfl]
  rfl

lemma colon_blank {u : List Char} (hu : Blank u) (text : List Char) :
    colon (u ++ ':' :: text) = .ok text := by
  rw [colon, skipSpaces_blank_cons hu rfl]
  rfl

namespace Shape

variable {shape : Shape σ α} {st st' : σ}

/-- The members, read one after the other, make one draft of another. -/
inductive Fills (shape : Shape σ α) : σ → List (List Char) → σ → Prop
  | nil (st : σ) : Fills shape st [] st
  | cons {name : String} {v : List Char} {st next st' : σ} {ms : List (List Char)}
    (hm : ∀ rest, Ends rest →
      shape.readMember name.toList st (':' :: ' ' :: (v ++ rest)) = .ok (next, rest))
    (hms : Fills shape next ms st') : Fills shape st (member name v :: ms) st'

/-- A member with a known key is read into its field, whatever blanks stand at its colon. -/
lemma readMember_known {key : List Char} {f : RecordField σ} {v : List Char}
    (hfind : shape.fields.find? (·.name.toList == key) = some f) (hgiven : f.given st = false)
    (hread : Reads (f.read st) v st') {u w : List Char} (hu : Blank u) (hw : Blank w)
    {rest : List Char} (hrest : Ends rest) :
    shape.readMember key st (u ++ ':' :: (w ++ v ++ rest)) = .ok (st', rest) := by
  have hnew : ¬ f.given st = true := by
    rw [hgiven]
    exact Bool.false_ne_true
  simp only [readMember, hfind, if_neg hnew, colon_blank hu, bind, Except.bind]
  exact hread w rest hw hrest

lemma reads_optionField {β : Type} {name : String} {reader : Reader β} {get : σ → Option β}
    {set : σ → β → σ} {v : List Char} {b : β} (hread : Reads reader v b) :
    Reads ((optionField name reader get set).read st) v (set st b) := by
  intro w rest hw hrest
  simp only [optionField, hread w rest hw hrest, Except.map]

/-- A member that fills an empty place of the draft with the value that is written. -/
lemma Fills.option {β : Type} {name : String} {reader : Reader β} {get : σ → Option β}
    {set : σ → β → σ} {v : List Char} {b : β} {ms : List (List Char)}
    (hfind : shape.fields.find? (·.name.toList == name.toList) =
      some (optionField name reader get set))
    (hget : get st = none) (hread : Reads reader v b) (hms : Fills shape (set st b) ms st') :
    Fills shape st (member name v :: ms) st' := by
  refine .cons (fun rest hrest => ?_) hms
  have hgiven : (optionField name reader get set).given st = false := by simp [optionField, hget]
  exact readMember_known hfind hgiven (reads_optionField hread) (u := []) (w := [' ']) blank_nil
    (by simp [Blank, isSpace]) hrest

lemma readMembers_further (level : ℕ) {ms : List (List Char)} (h : shape.Fills st ms st')
    {fuel : ℕ} (hfuel : ms.length < fuel) {w : List Char} (hw : Blank w) (rest : List Char) :
    shape.readMembers fuel false st (further level ms ++ (w ++ '\x7d' :: rest)) =
      .ok (st', w ++ '\x7d' :: rest) := by
  induction h generalizing fuel with
  | nil st =>
    obtain ⟨fuel, rfl⟩ := Nat.exists_eq_add_one_of_ne_zero (Nat.ne_of_gt hfuel)
    have hnext := nextKey_end false hw rest
    simp [readMembers, further, hnext, bind, Except.bind]
  | @cons name v st next st' ms hm _ ih =>
    obtain ⟨fuel, rfl⟩ := Nat.exists_eq_add_one_of_ne_zero (Nat.ne_of_gt (Nat.zero_lt_of_lt hfuel))
    have hrest : Ends (further level ms ++ (w ++ '\x7d' :: rest)) :=
      ends_further level ms hw (by decide) rest
    have htext : further level (member name v :: ms) ++ (w ++ '\x7d' :: rest) =
        ',' :: (gap level ++ '"' :: (name.toList.flatMap escape ++ '"' :: (':' :: ' ' ::
          (v ++ (further level ms ++ (w ++ '\x7d' :: rest)))))) := by
      rw [← member_append]
      simp [further]
    have htail := ih (Nat.lt_of_succ_lt_succ hfuel)
    rw [htext]
    simp only [readMembers, nextKey_comma (blank_gap level), bind, Except.bind, stringBody_escaped,
      hm _ hrest, htail]

/-- **A written object is read back** if its members fill a draft of the record. -/
lemma read_object {m : List Char} {ms : List (List Char)} {d : σ} {a : α}
    (h : shape.Fills shape.blank (m :: ms) d) (hfinish : shape.finish d = .ok a) (level : ℕ) :
    Reads shape.read (object level (m :: ms)) a := by
  intro w rest hw _
  cases h with
  | @cons name v _ next _ _ hm hms =>
    have hrest : Ends (further (level + 1) ms ++ (gap level ++ '\x7d' :: rest)) :=
      ends_further _ ms (blank_gap level) (by decide) rest
    have htail (fuel : ℕ) (hfuel : ms.length < fuel) :=
      readMembers_further (level + 1) hms hfuel (blank_gap level) rest
    have hlen := length_le_further (level + 1) ms
    have htext : w ++ object level (member name v :: ms) ++ rest =
        w ++ '\x7b' :: (gap (level + 1) ++ '"' :: (name.toList.flatMap escape ++ '"' ::
          (':' :: ' ' :: (v ++ (further (level + 1) ms ++ (gap level ++ '\x7d' :: rest)))))) := by
      rw [← member_append]
      simp [object, block_cons]
    rw [htext, read, skipSpaces_blank_cons hw rfl]
    simp only [readMembers, nextKey_first (blank_gap (level + 1)), bind, Except.bind,
      stringBody_escaped, hm _ hrest]
    rw [htail _ (by simp only [gap, List.length_append, List.length_cons]; omega)]
    simp [conclude, hfinish, within, closeObject_end (blank_gap level), Except.map]

lemma starts_object (level : ℕ) (ms : List (List Char)) : Starts (object level ms) :=
  ⟨'\x7b', _, rfl, rfl, by decide⟩

end Shape

end BoolCalc.Json
