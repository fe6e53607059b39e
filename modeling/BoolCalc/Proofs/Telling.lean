import Mathlib.Data.List.Forall2
import BoolCalc.Proofs.Spelling

/-!
# Records and the values that tell them

A record is told by an object, in which each part has a member of its own among any others, or by
the list of its parts in order; parts with standard values may be left out. Whatever the order of
the members and however the value is spelled, the reader of the record fills its draft with the same
parts, because the draft depends on which parts are filled and not on the order in which they are.
-/

namespace BoolCalc.Json

variable {α β σ : Type}

/-- Every spelling of a value that tells `a` is read as `a`. -/
def Takes (reader : Reader α) (told : Value → Prop) (a : α) : Prop :=
  ∀ v t, told v → Spells v t → Reads reader t a

/-! ### Single values -/

lemma readQuoted_spelled (wanted : String) {cs t : List Char} (h : SpellsText cs t) :
    Reads (readQuoted wanted) ('"' :: (t ++ ['"'])) cs := by
  intro w rest hw _
  have htext : w ++ '"' :: (t ++ ['"']) ++ rest = w ++ '"' :: (t ++ '"' :: rest) := by simp
  rw [htext, readQuoted, skipSpaces_blank_cons hw rfl]
  exact stringBody_spelled h rest

lemma readText_takes (cs : List Char) : Takes readText (· = .string cs) cs := by
  rintro _ _ rfl ht
  cases ht with
  | string h => exact readQuoted_spelled _ h

lemma readCharacter_takes (c : Char) : Takes readCharacter (· = .string [c]) c := by
  rintro _ _ rfl ht
  cases ht with
  | string h =>
    intro w rest hw hrest
    rw [readCharacter, readQuoted_spelled _ h w rest hw hrest]
    rfl

lemma readBoolean_takes (b : Bool) : Takes readBoolean (· = .boolean b) b := by
  rintro _ _ rfl ht
  cases ht
  exact readBoolean_boolean b

lemma readNatural_takes (n : UInt64) : Takes readNatural (· = .integer n.toNat) n := by
  rintro _ _ rfl ht
  cases ht
  have htext : integer (n.toNat : ℤ) = natural n.toNat := by simp [integer]
  rw [htext]
  exact readNatural_natural n

/-! ### Lists -/

lemma SpellsItems.exists_blank {closing : Char} {item : β → List Char → Prop} {first : Bool}
    {ts : List Char} (h : SpellsItems closing item first [] ts) :
    ∃ w, Blank w ∧ ts = w ++ [closing] := by
  cases h with
  | close hw => exact ⟨_, hw, rfl⟩

/-- Each item but the first comes with a comma, and all with a bracket. -/
lemma SpellsItems.length_le {closing : Char} {item : β → List Char → Prop} {first : Bool}
    {bs : List β} {ts : List Char} (h : SpellsItems closing item first bs ts) :
    bs.length + (if first then 0 else 1) ≤ ts.length := by
  induction h with
  | close => simp; split <;> omega
  | first _ _ _ ih =>
    simp only [List.length_append, List.length_cons, if_true, Bool.false_eq_true, if_false] at ih ⊢
    omega
  | next _ _ _ _ ih =>
    simp only [List.length_append, List.length_cons, Bool.false_eq_true, if_false] at ih ⊢
    omega

/-- An element stands behind blanks and, unless it is the first one, a comma. -/
lemma nextElement_spelled {first : Bool} {v : Value} {vs : List Value} {ts : List Char}
    (h : SpellsItems ']' Spells first (v :: vs) ts) (rest : List Char) :
    ∃ t ts', Spells v t ∧ SpellsItems ']' Spells false vs ts' ∧
      nextElement first (ts ++ rest) = .ok (some (t ++ (ts' ++ rest))) := by
  cases h with
  | @first _ _ w t ts' hw hv hvs =>
    refine ⟨t, ts', hv, hvs, ?_⟩
    rw [List.append_assoc, List.append_assoc]
    exact nextElement_first hw hv.starts _
  | @next _ _ u w t ts' hu hw hv hvs =>
    refine ⟨t, ts', hv, hvs, ?_⟩
    rw [List.append_assoc, nextElement_blank false hu, List.cons_append, List.append_assoc,
      List.append_assoc]
    exact nextElement_comma hw hv.starts _

section

variable {element : Reader α} {told : α → Value → Prop}

lemma elements_spelled (hread : ∀ a, Takes element (told a) a) {as : List α} {vs : List Value}
    (has : List.Forall₂ told as vs) {first : Bool} {ts : List Char}
    (hts : SpellsItems ']' Spells first vs ts) {fuel : ℕ} (hfuel : as.length < fuel)
    (rest : List Char) :
    ∃ w, Blank w ∧ elements element fuel first (ts ++ rest) = .ok (as, w ++ ']' :: rest) := by
  obtain ⟨fuel, rfl⟩ := Nat.exists_eq_add_one_of_ne_zero (Nat.ne_of_gt (Nat.zero_lt_of_lt hfuel))
  induction has generalizing first ts fuel with
  | nil =>
    obtain ⟨w, hw, rfl⟩ := hts.exists_blank
    have hnext := nextElement_end first hw rest
    refine ⟨w, hw, ?_⟩
    rw [List.append_assoc, List.singleton_append]
    simp [elements, hnext, bind, Except.bind]
  | @cons a v as vs ha _ ih =>
    obtain ⟨t, ts', hv, hvs, hnext⟩ := nextElement_spelled hts rest
    have helement := hread a v t ha hv [] _ blank_nil (hvs.ends (by decide) rest)
    obtain ⟨fuel, rfl⟩ := Nat.exists_eq_add_one_of_ne_zero
      (Nat.ne_of_gt (Nat.zero_lt_of_lt (Nat.lt_of_succ_lt_succ hfuel)))
    obtain ⟨w, hw, htail⟩ := ih hvs fuel (Nat.lt_of_succ_lt_succ hfuel)
    refine ⟨w, hw, ?_⟩
    rw [List.nil_append] at helement
    rw [elements]
    simp only [hnext, bind, Except.bind, helement, htail]

/-- **A list is read from every value that tells it.** -/
lemma readList_takes (hread : ∀ a, Takes element (told a) a) (as : List α) :
    Takes (readList element) (fun v => ∃ vs, v = .array vs ∧ List.Forall₂ told as vs) as := by
  rintro _ _ ⟨vs, rfl, has⟩ ht
  cases ht with
  | @array _ ts hts =>
    intro w rest hw _
    have hfuel : as.length < (ts ++ rest).length + 1 := by
      have hlen := hts.length_le
      rw [← has.length_eq] at hlen
      rw [List.length_append]
      omega
    obtain ⟨w', hw', helements⟩ := elements_spelled hread has hts hfuel rest
    rw [List.append_assoc, List.cons_append, readList, skipSpaces_blank_cons hw (c := '[') rfl]
    simp only [if_true, helements, within, closeList_end hw', Except.map]

end

/-! ### Records -/

/-- A part of a record. -/
structure Part where
  name : String
  /-- Which values tell it. -/
  told : Value → Prop
  /-- Whether it may be left out. -/
  omits : Prop

namespace Part

/-- No member has the name of the part. -/
def Absent (p : Part) (ms : List (List Char × Value)) : Prop := ∀ m ∈ ms, m.1 ≠ p.name.toList

/-- One member has the name of the part and tells it, or none has and the part may be left out. -/
def Among (p : Part) (ms : List (List Char × Value)) : Prop :=
  (∃ v, ms.filter (·.1 = p.name.toList) = [(p.name.toList, v)] ∧ p.told v) ∨
    p.Absent ms ∧ p.omits

variable {p : Part} {m : List Char × Value} {ms : List (List Char × Value)}

lemma Absent.of_cons (h : p.Absent (m :: ms)) : p.Absent ms :=
  fun m' hm' => h m' (List.mem_cons_of_mem m hm')

/-- The first member tells the part if it has its name, and no other one does. -/
lemma Among.of_eq (h : p.Among (m :: ms)) (hm : m.1 = p.name.toList) :
    p.told m.2 ∧ p.Absent ms := by
  rcases h with ⟨v, hfilter, hv⟩ | ⟨habsent, -⟩
  · rw [List.filter_cons_of_pos (by simpa using hm)] at hfilter
    obtain ⟨rfl, hnone⟩ := List.cons.inj hfilter
    refine ⟨hv, fun m' hm' he => ?_⟩
    have hmem : m' ∈ ms.filter (·.1 = p.name.toList) := List.mem_filter.2 ⟨hm', by simpa using he⟩
    rw [hnone] at hmem
    cases hmem
  · exact absurd hm (habsent m List.mem_cons_self)

lemma Among.of_ne (h : p.Among (m :: ms)) (hm : m.1 ≠ p.name.toList) : p.Among ms := by
  rcases h with ⟨v, hfilter, hv⟩ | ⟨habsent, homits⟩
  · rw [List.filter_cons_of_neg (by simpa using hm)] at hfilter
    exact .inl ⟨v, hfilter, hv⟩
  · exact .inr ⟨habsent.of_cons, homits⟩

lemma Among.cons_ne (h : p.Among ms) (hm : m.1 ≠ p.name.toList) : p.Among (m :: ms) := by
  rcases h with ⟨v, hfilter, hv⟩ | ⟨habsent, homits⟩
  · refine .inl ⟨v, ?_, hv⟩
    rw [List.filter_cons_of_neg (by simpa using hm)]
    exact hfilter
  · exact .inr ⟨List.forall_mem_cons.2 ⟨hm, habsent⟩, homits⟩

lemma Among.of_perm {ms' : List (List Char × Value)} (h : p.Among ms) (hms : ms.Perm ms') :
    p.Among ms' := by
  rcases h with ⟨v, hfilter, hv⟩ | ⟨habsent, homits⟩
  · refine .inl ⟨v, ?_, hv⟩
    have hperm := hms.filter (·.1 = p.name.toList)
    rw [hfilter] at hperm
    exact List.perm_singleton.1 hperm.symm
  · exact .inr ⟨fun m hm => habsent m (hms.mem_iff.2 hm), homits⟩

end Part

/-- The value tells a record with these parts. -/
inductive Record (parts : List Part) : Value → Prop
  | object {ms : List (List Char × Value)} (h : ∀ p ∈ parts, p.Among ms) :
    Record parts (.object ms)
  /-- The last parts may be left out here. -/
  | array {shown hidden : List Part} {vs : List Value} (hparts : parts = shown ++ hidden)
    (hshown : List.Forall₂ Part.told shown vs) (hhidden : ∀ p ∈ hidden, p.omits) :
    Record parts (.array vs)

/-- The member tells the part under its name. -/
def Part.IsToldBy (p : Part) (m : List Char × Value) : Prop := m.1 = p.name.toList ∧ p.told m.2

lemma Part.absent_of_notMem {p : Part} {parts : List Part} {ms : List (List Char × Value)}
    (h : List.Forall₂ IsToldBy parts ms) (hp : p.name ∉ parts.map Part.name) : p.Absent ms := by
  induction h with
  | nil => exact nofun
  | @cons q m parts ms hm _ ih =>
    rw [List.map_cons, List.mem_cons, not_or] at hp
    obtain ⟨hne, hp⟩ := hp
    refine List.forall_mem_cons.2 ⟨fun he => hne ?_, ih hp⟩
    exact String.toList_inj.1 (he.symm.trans hm.1)

/-- Members that tell the parts in order tell the record, if the names of the parts differ. -/
lemma Record.of_members {parts : List Part} {ms : List (List Char × Value)}
    (h : List.Forall₂ Part.IsToldBy parts ms) (hnames : (parts.map Part.name).Nodup) :
    Record parts (.object ms) := by
  refine .object ?_
  induction h with
  | nil => exact nofun
  | @cons p m parts ms hm hms ih =>
    rw [List.map_cons, List.nodup_cons] at hnames
    obtain ⟨hp, hnames⟩ := hnames
    have habsent : p.Absent ms := Part.absent_of_notMem hms hp
    refine List.forall_mem_cons.2 ⟨.inl ⟨m.2, ?_, hm.2⟩, fun q hq => ?_⟩
    · rw [List.filter_cons_of_pos (by simpa using hm.1),
        List.filter_eq_nil_iff.2 (by simpa [Part.Absent] using habsent), ← hm.1]
    · have hne : m.1 ≠ q.name.toList := by
        intro he
        have hname : p.name = q.name := String.toList_inj.1 (hm.1.symm.trans he)
        exact hp (hname ▸ List.mem_map_of_mem hq)
      exact (ih hnames q hq).cons_ne hne

/-- The order of the members does not matter. -/
lemma Record.of_perm {parts : List Part} {ms ms' : List (List Char × Value)}
    (h : Record parts (.object ms)) (hms : ms.Perm ms') : Record parts (.object ms') := by
  cases h with
  | object h => exact .object fun p hp => (h p hp).of_perm hms

/-- Nor does a member with an unknown key. -/
lemma Record.cons_unknown {parts : List Part} {m : List Char × Value}
    {ms : List (List Char × Value)} (h : Record parts (.object ms))
    (hm : ∀ p ∈ parts, m.1 ≠ p.name.toList) : Record parts (.object (m :: ms)) := by
  cases h with
  | object h => exact .object fun p hp => (h p hp).cons_ne (hm p hp)

/-- The members still to come tell the parts that are not yet filled, and no other ones. -/
def Due (parts : List Part) (filled : String → Bool) (ms : List (List Char × Value)) : Prop :=
  ∀ p ∈ parts, if filled p.name then p.Absent ms else p.Among ms

section

variable {parts : List Part} {filled : String → Bool} {m : List Char × Value}
  {ms : List (List Char × Value)}

lemma Due.known (h : Due parts filled (m :: ms)) {p : Part} (hp : p ∈ parts)
    (hm : m.1 = p.name.toList) :
    filled p.name = false ∧ p.told m.2 ∧ Due parts (Function.update filled p.name true) ms := by
  have hfilled : filled p.name = false := by
    have hdue := h p hp
    by_contra hne
    rw [Bool.not_eq_false] at hne
    rw [hne, if_pos rfl] at hdue
    exact hdue m List.mem_cons_self hm
  have hp' := h p hp
  simp only [hfilled, Bool.false_eq_true, if_false] at hp'
  obtain ⟨htold, habsent⟩ := hp'.of_eq hm
  refine ⟨hfilled, htold, fun q hq => ?_⟩
  by_cases hqp : q.name = p.name
  · rw [hqp, Function.update_self, if_pos rfl, Part.Absent, hqp]
    exact habsent
  · have hmq : m.1 ≠ q.name.toList := by
      rw [hm]
      exact fun he => hqp (String.toList_inj.1 he).symm
    have hq' := h q hq
    rw [Function.update_of_ne hqp]
    split_ifs at hq' ⊢
    · exact hq'.of_cons
    · exact hq'.of_ne hmq

lemma Due.unknown (h : Due parts filled (m :: ms)) (hm : ∀ p ∈ parts, m.1 ≠ p.name.toList) :
    Due parts filled ms := by
  intro p hp
  have hp' := h p hp
  split_ifs at hp' ⊢
  · exact hp'.of_cons
  · exact hp'.of_ne (hm p hp)

lemma Due.rest (h : Due parts filled []) : ∀ p ∈ parts, filled p.name = true ∨ p.omits := by
  intro p hp
  have hp' := h p hp
  split_ifs at hp' with hfilled
  · exact .inl hfilled
  · rcases hp' with ⟨v, hfilter, -⟩ | ⟨-, homits⟩
    · cases hfilter
    · exact .inr homits

end

/-- The field fills the part in a draft, of which is known which parts are filled. -/
structure Fits (draft : (String → Bool) → σ) (f : RecordField σ) (p : Part) : Prop where
  name : f.name = p.name
  given : ∀ filled, f.given (draft filled) = filled p.name
  read : ∀ filled,
    Takes (f.read (draft filled)) p.told (draft (Function.update filled p.name true))

lemma Fits.option {draft : (String → Bool) → σ} {name : String} {reader : Reader β}
    {get : σ → Option β} {set : σ → β → σ} {b : β} {told : Value → Prop} {omits : Prop}
    (hget : ∀ filled, (get (draft filled)).isSome = filled name)
    (hset : ∀ filled, set (draft filled) b = draft (Function.update filled name true))
    (hread : Takes reader told b) :
    Fits draft (optionField name reader get set) ⟨name, told, omits⟩ where
  name := rfl
  given := hget
  read := by
    intro filled v t hv ht
    rw [← hset filled]
    exact Shape.reads_optionField (hread v t hv ht)

/-- The value of a part in a draft, if the part is filled. -/
def drafted (filled : String → Bool) (name : String) (a : α) : Option α :=
  if filled name then some a else none

@[simp]
lemma isSome_drafted (filled : String → Bool) (name : String) (a : α) :
    (drafted filled name a).isSome = filled name := by
  unfold drafted
  split_ifs with h
  · exact h.symm
  · exact (Bool.not_eq_true _ ▸ h).symm

@[simp]
lemma drafted_update (filled : String → Bool) (name other : String) (a : α) :
    drafted (Function.update filled name true) other a =
      if other = name then some a else drafted filled other a := by
  by_cases h : other = name
  · rw [h, drafted, Function.update_self, if_pos rfl, if_pos rfl]
  · rw [if_neg h, drafted, drafted, Function.update_of_ne h]

/-- A part that is filled, or left out because it has its standard value, has its value. -/
lemma getD_drafted {filled : String → Bool} {name : String} {a standard : α}
    (h : filled name = true ∨ a = standard) : (drafted filled name a).getD standard = a := by
  unfold drafted
  split_ifs with hfilled
  · rfl
  · exact (h.resolve_left hfilled).symm

/-- The drafts of a shape on the way to the record `a` that these parts make up. -/
structure Drafts (shape : Shape σ α) (parts : List Part) (draft : (String → Bool) → σ) (a : α) :
    Prop where
  blank : draft (fun _ => false) = shape.blank
  fits : List.Forall₂ (Fits draft) shape.fields parts
  /-- Where a list of fields has to be complete, no part may be left out. -/
  whole : shape.complete = true → ∀ p ∈ parts, ¬ p.omits
  finish : ∀ filled, (∀ p ∈ parts, filled p.name = true ∨ p.omits) →
    shape.finish (draft filled) = .ok a

/-- A member stands behind blanks and, unless it is the first one, a comma. -/
lemma nextKey_spelled {first : Bool} {m : List Char × Value} {ms : List (List Char × Value)}
    {ts : List Char} (h : SpellsItems '\x7d' (SpellsMember Spells) first (m :: ms) ts)
    (rest : List Char) :
    ∃ t ts', SpellsMember Spells m ('"' :: t) ∧
      SpellsItems '\x7d' (SpellsMember Spells) false ms ts' ∧
      nextKey first (ts ++ rest) = .ok (some (t ++ (ts' ++ rest))) := by
  cases h with
  | @first _ _ w t ts' hw hm hms =>
    obtain ⟨t, rfl⟩ := hm.exists_cons
    refine ⟨t, ts', hm, hms, ?_⟩
    rw [List.append_assoc, List.append_assoc]
    exact nextKey_first hw _
  | @next _ _ u w t ts' hu hw hm hms =>
    obtain ⟨t, rfl⟩ := hm.exists_cons
    refine ⟨t, ts', hm, hms, ?_⟩
    rw [List.append_assoc, nextKey_blank false hu, List.cons_append, List.append_assoc,
      List.append_assoc]
    exact nextKey_comma hw _

/-- A key finds the field of the part that it names. -/
lemma find?_fits {draft : (String → Bool) → σ} {fields : List (RecordField σ)} {parts : List Part}
    (h : List.Forall₂ (Fits draft) fields parts) (key : List Char) :
    (∃ f p, fields.find? (·.name.toList == key) = some f ∧ Fits draft f p ∧ p ∈ parts ∧
      key = p.name.toList) ∨
    fields.find? (·.name.toList == key) = none ∧ ∀ p ∈ parts, key ≠ p.name.toList := by
  induction h with
  | nil => exact .inr ⟨rfl, nofun⟩
  | @cons f p fields parts hf _ ih =>
    by_cases hkey : f.name.toList = key
    · refine .inl ⟨f, p, ?_, hf, List.mem_cons_self, ?_⟩
      · rw [List.find?_cons_of_pos (by simpa using hkey)]
      · rw [← hf.name, hkey]
    · rw [List.find?_cons_of_neg (by simpa using hkey)]
      rcases ih with ⟨g, q, hfind, hg, hq, hname⟩ | ⟨hfind, hne⟩
      · exact .inl ⟨g, q, hfind, hg, List.mem_cons_of_mem p hq, hname⟩
      · refine .inr ⟨hfind, List.forall_mem_cons.2 ⟨?_, hne⟩⟩
        rw [← hf.name]
        exact fun he => hkey he.symm

namespace Shape

variable {shape : Shape σ α} {parts : List Part} {draft : (String → Bool) → σ} {a : α}

/-- Behind its key and its colon a member is read, and then those behind it. -/
lemma readMembers_spelled (shape : Shape σ α) {first : Bool} {m : List Char × Value}
    {ms : List (List Char × Value)} {ts : List Char}
    (h : SpellsItems '\x7d' (SpellsMember Spells) first (m :: ms) ts) (rest : List Char) :
    ∃ u w t ts', Blank u ∧ Blank w ∧ Spells m.2 t ∧
      SpellsItems '\x7d' (SpellsMember Spells) false ms ts' ∧
      ∀ fuel st, shape.readMembers (fuel + 1) first st (ts ++ rest) =
        shape.readMember m.1 st (u ++ ':' :: (w ++ t ++ (ts' ++ rest))) >>= fun r =>
          shape.readMembers fuel false r.1 r.2 := by
  obtain ⟨s, ts', hm, hms, hnext⟩ := nextKey_spelled h rest
  cases hm with
  | @mk key k u w t v hk hu hw hv =>
    refine ⟨u, w, t, ts', hu, hw, hv, hms, fun fuel st => ?_⟩
    have hbody := stringBody_spelled hk (u ++ ':' :: (w ++ t ++ (ts' ++ rest)))
    have htext : k ++ '"' :: (u ++ ':' :: (w ++ t)) ++ (ts' ++ rest) =
        k ++ '"' :: (u ++ ':' :: (w ++ t ++ (ts' ++ rest))) := by simp
    rw [htext] at hnext
    simp only [readMembers, hnext, bind, Except.bind, hbody]

/-- A member with an unknown key leaves the draft as it is. -/
lemma readMember_unknown {key : List Char} {st : σ}
    (hfind : shape.fields.find? (·.name.toList == key) = none) {v : Value} {t : List Char}
    (ht : Spells v t) {u w : List Char} (hu : Blank u) (hw : Blank w) {rest : List Char}
    (hrest : Ends rest) :
    shape.readMember key st (u ++ ':' :: (w ++ t ++ rest)) = .ok (st, rest) := by
  simp only [readMember, hfind, colon_blank hu, bind, Except.bind, skipValue_spelled ht hw hrest]

/-- The members that are due fill all parts that may not be left out, in whatever order. -/
lemma readMembers_told (hd : Drafts shape parts draft a) {ms : List (List Char × Value)}
    {filled : String → Bool} (hdue : Due parts filled ms) {first : Bool} {ts : List Char}
    (hts : SpellsItems '\x7d' (SpellsMember Spells) first ms ts) {fuel : ℕ}
    (hfuel : ms.length < fuel) (rest : List Char) :
    ∃ filled' w, Blank w ∧ (∀ p ∈ parts, filled' p.name = true ∨ p.omits) ∧
      shape.readMembers fuel first (draft filled) (ts ++ rest) =
        .ok (draft filled', w ++ '\x7d' :: rest) := by
  induction ms generalizing filled first ts fuel with
  | nil =>
    obtain ⟨fuel, rfl⟩ := Nat.exists_eq_add_one_of_ne_zero (Nat.ne_of_gt hfuel)
    obtain ⟨w, hw, rfl⟩ := hts.exists_blank
    have hnext := nextKey_end first hw rest
    refine ⟨filled, w, hw, hdue.rest, ?_⟩
    rw [List.append_assoc, List.singleton_append]
    simp [readMembers, hnext, bind, Except.bind]
  | cons m ms ih =>
    obtain ⟨fuel, rfl⟩ := Nat.exists_eq_add_one_of_ne_zero (Nat.ne_of_gt (Nat.zero_lt_of_lt hfuel))
    obtain ⟨u, w, t, ts', hu, hw, hv, hms, hread⟩ := shape.readMembers_spelled hts rest
    have hends : Ends (ts' ++ rest) := hms.ends (by decide) rest
    rw [hread]
    rcases find?_fits hd.fits m.1 with ⟨f, p, hfind, hf, hp, hkey⟩ | ⟨hfind, hunknown⟩
    · obtain ⟨hfilled, htold, hdue'⟩ := hdue.known hp hkey
      have hgiven : f.given (draft filled) = false := (hf.given filled).trans hfilled
      rw [readMember_known hfind hgiven (hf.read filled m.2 t htold hv) hu hw hends]
      exact ih hdue' hms (Nat.lt_of_succ_lt_succ hfuel)
    · rw [readMember_unknown hfind hv hu hw hends]
      exact ih (hdue.unknown hunknown) hms (Nat.lt_of_succ_lt_succ hfuel)

/-- The values of a list fill the parts in order, and what is left may be left out. -/
lemma readFields_told {fields : List (RecordField σ)} {parts : List Part}
    (hfits : List.Forall₂ (Fits draft) fields parts)
    (hwhole : shape.complete = true → ∀ p ∈ parts, ¬ p.omits) {shown hidden : List Part}
    (hparts : parts = shown ++ hidden) {vs : List Value}
    (hshown : List.Forall₂ Part.told shown vs) (hhidden : ∀ p ∈ hidden, p.omits)
    (filled : String → Bool) {i : ℕ} {ts : List Char}
    (hts : SpellsItems ']' Spells (i = 0) vs ts) (rest : List Char) :
    ∃ filled' w, Blank w ∧ (∀ name, filled name = true → filled' name = true) ∧
      (∀ p ∈ parts, filled' p.name = true ∨ p.omits) ∧
      shape.readFields i (draft filled) fields (ts ++ rest) =
        .ok (draft filled', w ++ ']' :: rest) := by
  induction hfits generalizing shown vs filled i ts with
  | nil =>
    obtain ⟨rfl, rfl⟩ := List.append_eq_nil_iff.1 hparts.symm
    cases hshown
    obtain ⟨w, hw, rfl⟩ := hts.exists_blank
    refine ⟨filled, w, hw, fun _ h => h, nofun, ?_⟩
    rw [List.append_assoc]
    rfl
  | @cons f p fields parts hf _ ih =>
    cases hshown with
    | nil =>
      have homits : ∀ q ∈ p :: parts, q.omits := by
        rw [hparts]
        exact hhidden
      obtain ⟨w, hw, rfl⟩ := hts.exists_blank
      refine ⟨filled, w, hw, fun _ h => h, fun q hq => .inr (homits q hq), ?_⟩
      have hcomplete : ¬ shape.complete = true := fun hc =>
        hwhole hc p List.mem_cons_self (homits p List.mem_cons_self)
      have hnext := nextElement_end (i = 0) hw rest
      rw [List.append_assoc, List.singleton_append]
      simp only [readFields, hnext, bind, Except.bind, if_neg hcomplete]
    | @cons _ v shown vs hv hvs =>
      obtain ⟨rfl, hparts'⟩ := List.cons.inj hparts
      obtain ⟨t, ts', ht, hts', hnext⟩ := nextElement_spelled hts rest
      have hread := hf.read filled v t hv ht [] _ blank_nil (hts'.ends (by decide) rest)
      have hfirst : SpellsItems ']' Spells (i + 1 = 0) vs ts' := by simpa using hts'
      obtain ⟨filled', w, hw, hkeep, hfill, hrest⟩ :=
        ih (fun hc q hq => hwhole hc q (List.mem_cons_of_mem p hq)) hparts' hvs
          (Function.update filled p.name true) hfirst
      refine ⟨filled', w, hw, fun name hname => hkeep name ?_, ?_, ?_⟩
      · by_cases hp : name = p.name
        · rw [hp, Function.update_self]
        · rwa [Function.update_of_ne hp]
      · exact List.forall_mem_cons.2 ⟨.inl (hkeep _ (Function.update_self _ _ _)), hfill⟩
      · rw [List.nil_append] at hread
        simp only [readFields, hnext, bind, Except.bind, hread, hrest]

/-- **A record is read from every value that tells it.** -/
lemma read_takes (hd : Drafts shape parts draft a) : Takes shape.read (Record parts) a := by
  intro v t hv ht w rest hw _
  cases hv with
  | @object ms h =>
    cases ht with
    | @object _ ts hts =>
      have hdue : Due parts (fun _ => false) ms := fun p hp => h p hp
      have hfuel : ms.length < (ts ++ rest).length + 1 := by
        have hlen := hts.length_le
        rw [List.length_append]
        omega
      obtain ⟨filled, w', hw', hfilled, hmembers⟩ := readMembers_told hd hdue hts hfuel rest
      rw [hd.blank] at hmembers
      rw [List.append_assoc, List.cons_append, read, skipSpaces_blank_cons hw (c := '\x7b') rfl]
      have hopen : '\x7b' ≠ '[' := by decide
      simp only [if_neg hopen, if_true, hmembers, bind, Except.bind, conclude,
        hd.finish filled hfilled, within, closeObject_end hw', Except.map]
  | array hparts hshown hhidden =>
    cases ht with
    | @array _ ts hts =>
      obtain ⟨filled, w', hw', -, hfilled, hfields⟩ :=
        readFields_told hd.fits hd.whole hparts hshown hhidden (fun _ => false) (i := 0) hts rest
      rw [hd.blank] at hfields
      rw [List.append_assoc, List.cons_append, read, skipSpaces_blank_cons hw (c := '[') rfl]
      simp only [if_true, hfields, bind, Except.bind, conclude, hd.finish filled hfilled, within,
        closeList_end hw', Except.map]

end Shape

end BoolCalc.Json
