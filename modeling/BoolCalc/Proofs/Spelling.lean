import Mathlib.Data.Int.Notation
import BoolCalc.Proofs.ReadBack

/-!
# JSON values and their spellings

A value has many spellings: blanks may stand wherever two of its parts meet, and a character of a
string stands for itself or is escaped in one of several ways. Whatever the spelling, a string is
read as its characters, and a value that nobody wants to know is passed over as a whole.
-/

namespace BoolCalc.Json

/-- A value. The members of an object have an order, and their keys need not differ. -/
inductive Value where
  | null
  | boolean (b : Bool)
  | integer (n : ℤ)
  | string (cs : List Char)
  | array (vs : List Value)
  | object (ms : List (List Char × Value))

/-! ### Spellings -/

/-- The letters of escapes, each with the character that it stands for. -/
def letters : List (Char × Char) :=
  [('"', '"'), ('\\', '\\'), ('/', '/'), ('b', '\x08'), ('f', '\x0c'), ('n', '\n'), ('r', '\r'),
   ('t', '\t')]

/-- The character is the hexadecimal digit for `n`, of either case. -/
def IsHexDigit (c : Char) (n : ℕ) : Prop := n < 16 ∧ (c = hexDigit n ∨ c = (hexDigit n).toUpper)

instance (c : Char) (n : ℕ) : Decidable (IsHexDigit c n) := inferInstanceAs (Decidable (_ ∧ _))

/-- The text is a numeral of four hexadecimal digits. -/
inductive SpellsUnit : ℕ → List Char → Prop
  | mk {a b c d : Char} {i j k l : ℕ} (ha : IsHexDigit a i) (hb : IsHexDigit b j)
    (hc : IsHexDigit c k) (hd : IsHexDigit d l) :
    SpellsUnit (((i * 16 + j) * 16 + k) * 16 + l) [a, b, c, d]

/-- The text stands for a character within a string. -/
inductive SpellsChar : Char → List Char → Prop
  | plain {c : Char} (hc : 32 ≤ c.toNat) (hq : c ≠ '"') (hb : c ≠ '\\') : SpellsChar c [c]
  | letter {e c : Char} (h : (e, c) ∈ letters) : SpellsChar c ['\\', e]
  | unit {c : Char} {t : List Char} (h : SpellsUnit c.toNat t) : SpellsChar c ('\\' :: 'u' :: t)
  /-- A character beyond the sixteen-bit range, by its two surrogates. -/
  | pair {c : Char} {high low : ℕ} {t u : List Char} (ht : SpellsUnit high t)
    (hu : SpellsUnit low u) (hhigh : 0xD800 ≤ high ∧ high ≤ 0xDBFF)
    (hlow : 0xDC00 ≤ low ∧ low ≤ 0xDFFF)
    (hc : c.toNat = 0x10000 + (high - 0xD800) * 0x400 + (low - 0xDC00)) :
    SpellsChar c ('\\' :: 'u' :: (t ++ '\\' :: 'u' :: u))

/-- The text stands between the quotes of a string. -/
inductive SpellsText : List Char → List Char → Prop
  | nil : SpellsText [] []
  | cons {c : Char} {cs t ts : List Char} (hc : SpellsChar c t) (hcs : SpellsText cs ts) :
    SpellsText (c :: cs) (t ++ ts)

/-- An integer without leading zeros. -/
def integer (n : ℤ) : List Char :=
  if n < 0 then '-' :: natural n.natAbs else natural n.natAbs

/-- The text of some items up to the closing bracket: from behind the opening bracket on, if `first`
is true, and else from behind another item on. -/
inductive SpellsItems {β : Type} (closing : Char) (item : β → List Char → Prop) :
    Bool → List β → List Char → Prop
  | close {first : Bool} {w : List Char} (hw : Blank w) :
    SpellsItems closing item first [] (w ++ [closing])
  | first {b : β} {bs : List β} {w t ts : List Char} (hw : Blank w) (hb : item b t)
    (hbs : SpellsItems closing item false bs ts) :
    SpellsItems closing item true (b :: bs) (w ++ (t ++ ts))
  | next {b : β} {bs : List β} {u w t ts : List Char} (hu : Blank u) (hw : Blank w)
    (hb : item b t) (hbs : SpellsItems closing item false bs ts) :
    SpellsItems closing item false (b :: bs) (u ++ ',' :: (w ++ (t ++ ts)))

/-- The text of a member, if `value` says which texts are those of its value. -/
inductive SpellsMember (value : Value → List Char → Prop) :
    List Char × Value → List Char → Prop
  | mk {key k u w t : List Char} {v : Value} (hk : SpellsText key k) (hu : Blank u) (hw : Blank w)
    (hv : value v t) : SpellsMember value (key, v) ('"' :: (k ++ '"' :: (u ++ ':' :: (w ++ t))))

/-- The text spells the value. -/
inductive Spells : Value → List Char → Prop
  | null : Spells .null ['n', 'u', 'l', 'l']
  | boolean (b : Bool) : Spells (.boolean b) (Json.boolean b)
  | integer (n : ℤ) : Spells (.integer n) (Json.integer n)
  | string {cs t : List Char} (h : SpellsText cs t) : Spells (.string cs) ('"' :: (t ++ ['"']))
  | array {vs : List Value} {t : List Char} (h : SpellsItems ']' Spells true vs t) :
    Spells (.array vs) ('[' :: t)
  | object {ms : List (List Char × Value)} {t : List Char}
    (h : SpellsItems '\x7d' (SpellsMember Spells) true ms t) : Spells (.object ms) ('\x7b' :: t)

/-- A text that consists of a value and blanks around it. -/
def SpellsDocument (v : Value) (text : List Char) : Prop :=
  ∃ u t w, text = u ++ t ++ w ∧ Blank u ∧ Spells v t ∧ Blank w

/-! ### Strings -/

lemma unescape?_of_mem {e c : Char} (h : (e, c) ∈ letters) : unescape? e = some c := by
  have hall : ∀ r ∈ letters, unescape? r.1 = some r.2 := by decide
  exact hall (e, c) h

lemma IsHexDigit.value {c : Char} {n : ℕ} (h : IsHexDigit c n) : hexValue? c = some n := by
  have hall : ∀ n < 16, hexValue? (hexDigit n) = some n ∧ hexValue? (hexDigit n).toUpper = some n :=
    by decide
  obtain ⟨hn, rfl | rfl⟩ := h
  · exact (hall n hn).1
  · exact (hall n hn).2

/-- The digits of a code unit name it. -/
lemma SpellsUnit.digits {n : ℕ} {t : List Char} (h : SpellsUnit n t) :
    ∃ a b c d, t = [a, b, c, d] ∧ codeUnit? a b c d = some n := by
  obtain ⟨ha, hb, hc, hd⟩ := h
  refine ⟨_, _, _, _, rfl, ?_⟩
  simp only [codeUnit?, ha.value, hb.value, hc.value, hd.value, Option.bind_eq_bind,
    Option.bind_some, Option.pure_def, Option.some.injEq]
  omega

/-- The number of a character is no surrogate. -/
lemma not_surrogate (c : Char) :
    isLowSurrogate c.toNat = false ∧ isHighSurrogate c.toNat = false := by
  have hvalid : c.toNat < 0xD800 ∨ 0xDFFF < c.toNat ∧ c.toNat < 0x110000 := c.valid
  constructor
  · simp only [isLowSurrogate, Bool.and_eq_false_iff, decide_eq_false_iff_not]
    omega
  · simp only [isHighSurrogate, Bool.and_eq_false_iff, decide_eq_false_iff_not]
    omega

/-- Two escapes by number stand for one character if they name a pair of surrogates. -/
lemma stringBody_pair {h₁ h₂ h₃ h₄ l₁ l₂ l₃ l₄ : Char} {high low : ℕ}
    (hhigh : codeUnit? h₁ h₂ h₃ h₄ = some high) (hlow : codeUnit? l₁ l₂ l₃ l₄ = some low)
    (hh : isLowSurrogate high = false ∧ isHighSurrogate high = true)
    (hl : isLowSurrogate low = true) (text : List Char) :
    stringBody ('\\' :: 'u' :: h₁ :: h₂ :: h₃ :: h₄ ::
        '\\' :: 'u' :: l₁ :: l₂ :: l₃ :: l₄ :: text) =
      (stringBody text).map fun r => (pairChar high low :: r.1, r.2) := by
  have hu : unescape? 'u' = none := by decide
  rw [stringBody.eq_def]
  simp [hu, hhigh, hlow, hh, hl]

lemma skipStringBody_plain {c : Char} (hq : c ≠ '"') (hb : c ≠ '\\') (hc : ¬ c.toNat < 32)
    (text : List Char) : skipStringBody (c :: text) = skipStringBody text := by
  rw [skipStringBody.eq_def]
  simp [hq, hb, hc]

lemma skipStringBody_letter {e c : Char} (he : unescape? e = some c) (text : List Char) :
    skipStringBody ('\\' :: e :: text) = skipStringBody text := by
  rw [skipStringBody.eq_def]
  simp [he]

lemma skipStringBody_codeUnit {h₁ h₂ h₃ h₄ : Char} {n : ℕ} (hn : codeUnit? h₁ h₂ h₃ h₄ = some n)
    (text : List Char) :
    skipStringBody ('\\' :: 'u' :: h₁ :: h₂ :: h₃ :: h₄ :: text) = skipStringBody text := by
  have hu : unescape? 'u' = none := by decide
  rw [skipStringBody.eq_def]
  simp [hu, hn]

/-- **A spelled character is read back**, and passed over as one. -/
lemma SpellsChar.body {c : Char} {t : List Char} (h : SpellsChar c t) (text : List Char) :
    stringBody (t ++ text) = (stringBody text).map (fun r => (c :: r.1, r.2)) ∧
      skipStringBody (t ++ text) = skipStringBody text := by
  cases h with
  | plain hc hq hb =>
    have hc' : ¬ c.toNat < 32 := Nat.not_lt.2 hc
    exact ⟨stringBody_plain hq hb hc' text, skipStringBody_plain hq hb hc' text⟩
  | letter he =>
    have he' := unescape?_of_mem he
    exact ⟨stringBody_letter he' text, skipStringBody_letter he' text⟩
  | unit ht =>
    obtain ⟨h₁, h₂, h₃, h₄, rfl, hn⟩ := ht.digits
    obtain ⟨hlow, hhigh⟩ := not_surrogate c
    have hbody := stringBody_codeUnit hn hlow hhigh text
    rw [Char.ofNat_toNat] at hbody
    exact ⟨hbody, skipStringBody_codeUnit hn text⟩
  | @pair _ high low _ _ ht hu hhigh hlow hc =>
    obtain ⟨h₁, h₂, h₃, h₄, rfl, hn⟩ := ht.digits
    obtain ⟨l₁, l₂, l₃, l₄, rfl, hm⟩ := hu.digits
    have hh : isLowSurrogate high = false ∧ isHighSurrogate high = true := by
      constructor
      · simp only [isLowSurrogate, Bool.and_eq_false_iff, decide_eq_false_iff_not]
        omega
      · simp only [isHighSurrogate, Bool.and_eq_true, decide_eq_true_eq]
        exact hhigh
    have hl : isLowSurrogate low = true := by
      simp only [isLowSurrogate, Bool.and_eq_true, decide_eq_true_eq]
      exact hlow
    have hpair : pairChar high low = c := by
      have hsum : (high - 0xD800) * 0x400 + (low - 0xDC00) + 0x10000 = c.toNat := by omega
      rw [pairChar, hsum, Char.ofNat_toNat]
    have hbody := stringBody_pair hn hm hh hl text
    rw [hpair] at hbody
    refine ⟨hbody, ?_⟩
    have hfirst := skipStringBody_codeUnit hn ('\\' :: 'u' :: l₁ :: l₂ :: l₃ :: l₄ :: text)
    exact hfirst.trans (skipStringBody_codeUnit hm text)

lemma stringBody_spelled {cs t : List Char} (h : SpellsText cs t) (rest : List Char) :
    stringBody (t ++ '"' :: rest) = .ok (cs, rest) := by
  induction h with
  | nil => exact stringBody_end rest
  | cons hc _ ih =>
    rw [List.append_assoc, (hc.body _).1, ih]
    rfl

lemma skipStringBody_spelled {cs t : List Char} (h : SpellsText cs t) (rest : List Char) :
    skipStringBody (t ++ '"' :: rest) = .ok rest := by
  induction h with
  | nil =>
    rw [List.nil_append, skipStringBody.eq_def]
    simp
  | cons hc _ ih => rw [List.append_assoc, (hc.body _).2, ih]

/-! ### Where values begin and end -/

/-- What follows an item ends a number. -/
lemma SpellsItems.ends {β : Type} {closing : Char} {item : β → List Char → Prop} {bs : List β}
    {ts : List Char} (h : SpellsItems closing item false bs ts)
    (hclosing : closing.isDigit = false ∧ closing ≠ '.' ∧ closing ≠ 'e' ∧ closing ≠ 'E')
    (rest : List Char) : Ends (ts ++ rest) := by
  cases h with
  | close hw =>
    rw [List.append_assoc]
    exact ends_blank_cons hw hclosing rest
  | next hu =>
    rw [List.append_assoc]
    exact ends_blank_cons hu (by decide) _

/-- A numeral begins with a minus sign or a digit. -/
lemma integer_cases (n : ℤ) :
    integer n = '-' :: natural n.natAbs ∨ integer n = natural n.natAbs := by
  unfold integer
  split_ifs
  · exact .inl rfl
  · exact .inr rfl

lemma starts_of_isDigit {d : Char} (hd : d.isDigit = true) (ds : List Char) : Starts (d :: ds) := by
  refine ⟨d, ds, rfl, isSpace_of_isDigit hd, ?_⟩
  rintro rfl
  cases hd

lemma Spells.starts {v : Value} {t : List Char} (h : Spells v t) : Starts t := by
  cases h with
  | null => exact ⟨_, _, rfl, rfl, by decide⟩
  | boolean b => cases b <;> exact ⟨_, _, rfl, rfl, by decide⟩
  | integer n =>
    rcases integer_cases n with h | h
    · exact ⟨_, _, h, rfl, by decide⟩
    · obtain ⟨d, ds, hds, hd, -⟩ := natural_cons n.natAbs
      rw [h, hds]
      exact starts_of_isDigit hd ds
  | string => exact ⟨_, _, rfl, rfl, by decide⟩
  | array => exact ⟨_, _, rfl, rfl, by decide⟩
  | object => exact ⟨_, _, rfl, rfl, by decide⟩

lemma SpellsMember.exists_cons {value : Value → List Char → Prop} {m : List Char × Value}
    {t : List Char} (h : SpellsMember value m t) : ∃ s, t = '"' :: s := by
  obtain ⟨-, -, -, -⟩ := h
  exact ⟨_, rfl⟩

lemma Spells.length_pos {v : Value} {t : List Char} (h : Spells v t) : 0 < t.length := by
  obtain ⟨c, cs, rfl, -, -⟩ := h.starts
  exact Nat.succ_pos _

/-! ### Passing over a value -/

lemma skipAfterInteger_of_ends {rest : List Char} (hrest : Ends rest) :
    skipAfterInteger rest = .ok rest := by
  cases rest with
  | nil => rfl
  | cons c rest =>
    obtain ⟨-, hpoint, hlower, hupper⟩ := hrest c rfl
    simp [skipAfterInteger, hpoint, hlower, hupper]

lemma skipNumber_natural (n : ℕ) {rest : List Char} (hrest : Ends rest) :
    skipNumber (natural n ++ rest) = .ok rest := by
  by_cases hzero : n = 0
  · subst hzero
    cases rest with
    | nil => rfl
    | cons c rest =>
      have hc : c.isDigit = false := (hrest c rfl).1
      have h0 : natural 0 = ['0'] := rfl
      rw [h0, List.singleton_append, skipNumber]
      simp [hc, skipAfterInteger_of_ends hrest]
  · obtain ⟨d, ds, hds, hd, hd0⟩ := natural_cons n
    have hne : d ≠ '0' := fun h => hzero (hd0 h)
    have hall : ∀ c ∈ ds, c.isDigit = true := fun c hc =>
      Nat.isDigit_of_mem_toDigits (by omega) (by omega)
        (show c ∈ natural n from hds ▸ List.mem_cons_of_mem d hc)
    rw [hds, List.cons_append]
    simp only [skipNumber, if_neg hne, if_pos hd, digits_append hall hrest]
    exact skipAfterInteger_of_ends hrest

/-- Spelled values are passed over within this bound. -/
def SkipsValues (fuel : ℕ) : Prop :=
  ∀ {v : Value} {t : List Char}, Spells v t → 2 * t.length ≤ fuel →
    ∀ {w rest : List Char}, Blank w → Ends rest →
      skipValueWithin fuel (w ++ (t ++ rest)) = .ok rest

/-- Spelled elements are passed over within this bound, up to the end of their list. The call that
comes to them has taken a bracket, which leaves more than twice their text. -/
def SkipsElements (fuel : ℕ) : Prop :=
  ∀ {v : Value} {vs : List Value} {t ts : List Char}, Spells v t →
    SpellsItems ']' Spells false vs ts → 2 * (t ++ ts).length + 1 ≤ fuel →
    ∀ {w : List Char}, Blank w → ∀ rest : List Char,
      skipElements fuel (w ++ (t ++ ts ++ rest)) = .ok rest

/-- Spelled members are passed over within this bound, up to the end of their object. -/
def SkipsMembers (fuel : ℕ) : Prop :=
  ∀ {m : List Char × Value} {ms : List (List Char × Value)} {t ts : List Char},
    SpellsMember Spells m t → SpellsItems '\x7d' (SpellsMember Spells) false ms ts →
    2 * (t ++ ts).length + 1 ≤ fuel → ∀ {w : List Char}, Blank w → ∀ rest : List Char,
      skipMembers fuel (w ++ (t ++ ts ++ rest)) = .ok rest

lemma skipValueWithin_boolean (fuel : ℕ) (b : Bool) {w : List Char} (hw : Blank w)
    (rest : List Char) :
    skipValueWithin (fuel + 1) (w ++ (boolean b ++ rest)) = .ok rest := by
  cases b with
  | true =>
    show skipValueWithin (fuel + 1) (w ++ 't' :: (['r', 'u', 'e'] ++ rest)) = _
    simp only [skipValueWithin, skipSpaces_blank_cons hw (c := 't') rfl]
    exact word_append ['r', 'u', 'e'] rest
  | false =>
    show skipValueWithin (fuel + 1) (w ++ 'f' :: (['a', 'l', 's', 'e'] ++ rest)) = _
    simp only [skipValueWithin, skipSpaces_blank_cons hw (c := 'f') rfl]
    exact word_append ['a', 'l', 's', 'e'] rest

lemma skipValueWithin_integer (fuel : ℕ) (n : ℤ) {w rest : List Char} (hw : Blank w)
    (hrest : Ends rest) : skipValueWithin (fuel + 1) (w ++ (integer n ++ rest)) = .ok rest := by
  have hnumber := skipNumber_natural n.natAbs hrest
  rcases integer_cases n with htext | htext
  · rw [htext, List.cons_append]
    simp only [skipValueWithin, skipSpaces_blank_cons hw (c := '-') rfl]
    exact hnumber
  · obtain ⟨d, ds, hds, hd, -⟩ := natural_cons n.natAbs
    have hne (c : Char) (hc : c.isDigit = false) : d ≠ c := by
      rintro rfl
      rw [hd] at hc
      cases hc
    rw [hds] at hnumber
    rw [htext, hds, List.cons_append]
    simp only [skipValueWithin, skipSpaces_blank_cons hw (isSpace_of_isDigit hd), if_pos hd,
      if_neg (hne 'n' rfl), if_neg (hne 't' rfl), if_neg (hne 'f' rfl), if_neg (hne '-' rfl)]
    exact hnumber

lemma skipValueWithin_array {fuel : ℕ} (helements : SkipsElements fuel) {vs : List Value}
    {t : List Char} (h : SpellsItems ']' Spells true vs t) (hfuel : 2 * t.length + 1 ≤ fuel)
    {w : List Char} (hw : Blank w) (rest : List Char) :
    skipValueWithin (fuel + 1) (w ++ ('[' :: t ++ rest)) = .ok rest := by
  rw [List.cons_append]
  simp only [skipValueWithin, skipSpaces_blank_cons hw (c := '[') rfl]
  cases h with
  | close hw' =>
    have hskip := skipSpaces_blank_cons hw' (c := ']') rfl rest
    rw [List.append_assoc, List.singleton_append, hskip]
    rfl
  | @first v vs w' t ts hw' hv hvs =>
    have hfuel' : 2 * (t ++ ts).length + 1 ≤ fuel := by
      simp only [List.length_append] at hfuel ⊢
      omega
    have hskip := helements hv hvs hfuel' (w := []) blank_nil rest
    obtain ⟨c, cs, rfl, hspace, hend⟩ := hv.starts
    rw [List.append_assoc, List.cons_append, List.cons_append,
      skipSpaces_blank_cons hw' hspace]
    simpa [hend] using hskip

lemma skipValueWithin_object {fuel : ℕ} (hmembers : SkipsMembers fuel)
    {ms : List (List Char × Value)} {t : List Char}
    (h : SpellsItems '\x7d' (SpellsMember Spells) true ms t) (hfuel : 2 * t.length + 1 ≤ fuel)
    {w : List Char} (hw : Blank w) (rest : List Char) :
    skipValueWithin (fuel + 1) (w ++ ('\x7b' :: t ++ rest)) = .ok rest := by
  rw [List.cons_append]
  simp only [skipValueWithin, skipSpaces_blank_cons hw (c := '\x7b') rfl]
  cases h with
  | close hw' =>
    have hskip := skipSpaces_blank_cons hw' (c := '\x7d') rfl rest
    rw [List.append_assoc, List.singleton_append, hskip]
    rfl
  | @first m ms w' t ts hw' hm hms =>
    have hfuel' : 2 * (t ++ ts).length + 1 ≤ fuel := by
      simp only [List.length_append] at hfuel ⊢
      omega
    have hskip := hmembers hm hms hfuel' (w := []) blank_nil rest
    obtain ⟨t, rfl⟩ := hm.exists_cons
    rw [List.append_assoc, List.cons_append, List.cons_append,
      skipSpaces_blank_cons hw' (c := '"') rfl]
    simpa using hskip

lemma skipsValues_succ {fuel : ℕ} (helements : SkipsElements fuel) (hmembers : SkipsMembers fuel) :
    SkipsValues (fuel + 1) := by
  intro v t h hfuel w rest hw hrest
  cases h with
  | null =>
    show skipValueWithin (fuel + 1) (w ++ 'n' :: (['u', 'l', 'l'] ++ rest)) = _
    simp only [skipValueWithin, skipSpaces_blank_cons hw (c := 'n') rfl]
    exact word_append ['u', 'l', 'l'] rest
  | boolean b => exact skipValueWithin_boolean fuel b hw rest
  | integer n => exact skipValueWithin_integer fuel n hw hrest
  | @string cs t h =>
    have htext : w ++ ('"' :: (t ++ ['"']) ++ rest) = w ++ '"' :: (t ++ '"' :: rest) := by simp
    rw [htext]
    simp only [skipValueWithin, skipSpaces_blank_cons hw (c := '"') rfl]
    exact skipStringBody_spelled h rest
  | array h =>
    refine skipValueWithin_array helements h ?_ hw rest
    rw [List.length_cons] at hfuel
    omega
  | object h =>
    refine skipValueWithin_object hmembers h ?_ hw rest
    rw [List.length_cons] at hfuel
    omega

lemma skipsElements_succ {fuel : ℕ} (hvalues : SkipsValues fuel) (helements : SkipsElements fuel) :
    SkipsElements (fuel + 1) := by
  intro v vs t ts hv hvs hfuel w hw rest
  have hpos := hv.length_pos
  have hvalue : skipValueWithin fuel (w ++ (t ++ (ts ++ rest))) = .ok (ts ++ rest) := by
    refine hvalues hv ?_ hw (hvs.ends (by decide) rest)
    simp only [List.length_append] at hfuel
    omega
  rw [List.append_assoc, skipElements, hvalue]
  cases hvs with
  | @close _ w' hw' =>
    have hskip := skipSpaces_blank_cons hw' (c := ']') rfl rest
    simp [bind, Except.bind, hskip]
  | @next v vs u w' t' ts' hu hw' hv' hvs' =>
    have hskip := skipSpaces_blank_cons hu (c := ',') rfl (w' ++ (t' ++ ts' ++ rest))
    have htail := helements hv' hvs' (by
      simp only [List.length_append, List.length_cons] at hfuel ⊢
      omega) hw' rest
    simp only [List.append_assoc, List.cons_append] at hskip htail ⊢
    simp [bind, Except.bind, hskip, htail]

lemma skipsMembers_succ {fuel : ℕ} (hvalues : SkipsValues fuel) (hmembers : SkipsMembers fuel) :
    SkipsMembers (fuel + 1) := by
  intro m ms t ts hm hms hfuel w hw rest
  obtain ⟨hk, hu, hw', hv⟩ := hm
  rename_i key k u w' t v
  have hpos := hv.length_pos
  have hkey := skipStringBody_spelled hk (u ++ ':' :: (w' ++ (t ++ (ts ++ rest))))
  have hcolon := skipSpaces_blank_cons hu (c := ':') rfl (w' ++ (t ++ (ts ++ rest)))
  have hvalue : skipValueWithin fuel (w' ++ (t ++ (ts ++ rest))) = .ok (ts ++ rest) := by
    refine hvalues hv ?_ hw' (hms.ends (by decide) rest)
    simp only [List.length_append, List.length_cons] at hfuel
    omega
  have htext : w ++ ('"' :: (k ++ '"' :: (u ++ ':' :: (w' ++ t))) ++ ts ++ rest) =
      w ++ '"' :: (k ++ '"' :: (u ++ ':' :: (w' ++ (t ++ (ts ++ rest))))) := by simp
  rw [htext, skipMembers, skipSpaces_blank_cons hw (c := '"') rfl]
  simp only [if_true, hkey, bind, Except.bind, hcolon, hvalue]
  cases hms with
  | @close _ w₂ hw₂ =>
    have hskip := skipSpaces_blank_cons hw₂ (c := '\x7d') rfl rest
    simp [hskip]
  | @next m ms u₂ w₂ t' ts' hu₂ hw₂ hm' hms' =>
    have hskip := skipSpaces_blank_cons hu₂ (c := ',') rfl (w₂ ++ (t' ++ ts' ++ rest))
    have htail := hmembers hm' hms' (by
      simp only [List.length_append, List.length_cons] at hfuel ⊢
      omega) hw₂ rest
    simp only [List.append_assoc, List.cons_append] at hskip htail ⊢
    simp [hskip, htail]

/-- Each bound is enough for the values, elements and members that it is for. -/
lemma skips_within (fuel : ℕ) : SkipsValues fuel ∧ SkipsElements fuel ∧ SkipsMembers fuel := by
  induction fuel with
  | zero =>
    refine ⟨fun hv hfuel => ?_, fun _ _ hfuel => ?_, fun _ _ hfuel => ?_⟩
    · have := hv.length_pos
      omega
    · omega
    · omega
  | succ fuel ih =>
    obtain ⟨hvalues, helements, hmembers⟩ := ih
    exact ⟨skipsValues_succ helements hmembers, skipsElements_succ hvalues helements,
      skipsMembers_succ hvalues hmembers⟩

/-- **A spelled value is passed over as a whole**, and nothing behind it. -/
lemma skipValue_spelled {v : Value} {t w rest : List Char} (h : Spells v t) (hw : Blank w)
    (hrest : Ends rest) : skipValue (w ++ t ++ rest) = .ok rest := by
  rw [skipValue, List.append_assoc]
  refine (skips_within _).1 h ?_ hw hrest
  simp only [List.length_append]
  omega

/-! ### Written texts -/

/-- A written character is one of its spellings. -/
lemma spellsChar_escape (c : Char) : SpellsChar c (escape c) := by
  unfold escape
  split_ifs with h1 h2 h3 h4 h5 h6 h7 h8
  · exact .letter (by rw [h1]; decide)
  · exact .letter (by rw [h2]; decide)
  · exact .letter (by rw [h3]; decide)
  · exact .letter (by rw [h4]; decide)
  · exact .letter (by rw [h5]; decide)
  · exact .letter (by rw [h6]; decide)
  · exact .letter (by rw [h7]; decide)
  · refine .unit ?_
    have hzero : IsHexDigit '0' 0 := ⟨by decide, .inl rfl⟩
    have hhigh : IsHexDigit (hexDigit (c.toNat / 16)) (c.toNat / 16) := ⟨by omega, .inl rfl⟩
    have hlow : IsHexDigit (hexDigit (c.toNat % 16)) (c.toNat % 16) := ⟨by omega, .inl rfl⟩
    have hunit := SpellsUnit.mk hzero hzero hhigh hlow
    have hsum : ((0 * 16 + 0) * 16 + c.toNat / 16) * 16 + c.toNat % 16 = c.toNat := by omega
    rwa [hsum] at hunit
  · exact .plain (Nat.not_lt.1 h8) h1 h2

lemma spellsText_escape (cs : List Char) : SpellsText cs (cs.flatMap escape) := by
  induction cs with
  | nil => exact .nil
  | cons c cs ih => exact .cons (spellsChar_escape c) ih

/-- The character needs no escape. -/
def isPlain (c : Char) : Bool := 32 ≤ c.toNat && c != '"' && c != '\\'

lemma spellsText_plain {cs : List Char} (h : cs.all isPlain = true) : SpellsText cs cs := by
  induction cs with
  | nil => exact .nil
  | cons c cs ih =>
    obtain ⟨hc, hcs⟩ : isPlain c = true ∧ cs.all isPlain = true := by simpa using h
    simp only [isPlain, Bool.and_eq_true, decide_eq_true_eq, bne_iff_ne] at hc
    exact .cons (.plain hc.1.1 hc.1.2 hc.2) (ih hcs)

lemma spells_quote (cs : List Char) : Spells (.string cs) (quote cs) :=
  .string (spellsText_escape cs)

lemma spells_natural (n : ℕ) : Spells (.integer n) (natural n) := by
  have htext : integer (n : ℤ) = natural n := by simp [integer]
  exact htext ▸ .integer n

lemma spellsMember_member {name : String} {v : Value} {t : List Char} (h : Spells v t) :
    SpellsMember Spells (name.toList, v) (member name t) := by
  have htext : member name t =
      '"' :: (name.toList.flatMap escape ++ '"' :: ([] ++ ':' :: ([' '] ++ t))) := by
    simp [member, quote]
  rw [htext]
  exact .mk (spellsText_escape _) blank_nil (by simp [Blank, isSpace]) h

/-- What is written between brackets spells its items. -/
lemma spellsItems_block {β : Type} {item : β → List Char → Prop} (opening closing : Char)
    (level : ℕ) {b : β} {bs : List β} {t : List Char} {ts : List (List Char)} (h : item b t)
    (hs : List.Forall₂ item bs ts) :
    ∃ text, block opening closing level (t :: ts) = opening :: text ∧
      SpellsItems closing item true (b :: bs) text := by
  have hfurther : SpellsItems closing item false bs
      (further (level + 1) ts ++ (gap level ++ [closing])) := by
    induction hs with
    | nil => exact .close (blank_gap level)
    | @cons b t bs ts hb _ ih =>
      have htext : further (level + 1) (t :: ts) ++ (gap level ++ [closing]) =
          [] ++ ',' :: (gap (level + 1) ++
            (t ++ (further (level + 1) ts ++ (gap level ++ [closing])))) := by
        simp [further]
      rw [htext]
      exact .next blank_nil (blank_gap _) hb ih
  refine ⟨gap (level + 1) ++ (t ++ (further (level + 1) ts ++ (gap level ++ [closing]))), ?_,
    .first (blank_gap _) h hfurther⟩
  rw [block_cons]
  simp

lemma spells_object {level : ℕ} {m : List Char × Value} {ms : List (List Char × Value)}
    {t : List Char} {ts : List (List Char)} (h : SpellsMember Spells m t)
    (hs : List.Forall₂ (SpellsMember Spells) ms ts) :
    Spells (.object (m :: ms)) (object level (t :: ts)) := by
  obtain ⟨text, htext, hitems⟩ := spellsItems_block '\x7b' '\x7d' level h hs
  rw [object, htext]
  exact .object hitems

lemma spells_list {level : ℕ} {vs : List Value} {ts : List (List Char)}
    (h : List.Forall₂ Spells vs ts) : Spells (.array vs) (list level ts) := by
  cases h with
  | nil => exact .array (.close (w := []) blank_nil)
  | cons h hs =>
    obtain ⟨text, htext, hitems⟩ := spellsItems_block '[' ']' level h hs
    rw [list, if_neg (by simp), htext]
    exact .array hitems

end BoolCalc.Json
