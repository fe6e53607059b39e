import Mathlib.Data.List.Basic
import BoolCalc.Csv

/-!
# Reading comma-separated records

The format is given as a grammar that knows nothing of how records are written: a field is bare, or
stands in quotes with each quote inside doubled, commas part fields, and line feeds end records. A
reader takes a text in one pass, character by character. It accepts exactly the texts of the
grammar, each as the only document that the text spells, and every document that is written,
whatever its fields hold, is among them.
-/

namespace BoolCalc.Csv

/-- A character that can stand in a bare field. -/
def Plain (c : Char) : Prop := c ≠ ',' ∧ c ≠ '"' ∧ c ≠ '\n' ∧ c ≠ '\r'

/-- What stands between quotes for a text. -/
inductive Doubles : List Char → List Char → Prop
  | nil : Doubles [] []
  | other {c : Char} {t f : List Char} (hc : c ≠ '"') (h : Doubles t f) : Doubles (c :: t) (c :: f)
  | quote {t f : List Char} (h : Doubles t f) : Doubles ('"' :: '"' :: t) ('"' :: f)

/-- The text spells the field. -/
inductive SpellsField : List Char → List Char → Prop
  | bare {f : List Char} (h : ∀ c ∈ f, Plain c) : SpellsField f f
  | quoted {t f : List Char} (h : Doubles t f) : SpellsField ('"' :: (t ++ ['"'])) f

/-- The text spells the record, which has a field at least. -/
inductive SpellsRecord : List Char → Record → Prop
  | last {t f : List Char} (h : SpellsField t f) : SpellsRecord t [f]
  | more {t f ts : List Char} {fs : Record} (h : SpellsField t f) (hs : SpellsRecord ts fs) :
    SpellsRecord (t ++ ',' :: ts) (f :: fs)

/-- The text spells the records. The last line feed may be missing, unless nothing stands before
it. -/
inductive SpellsDocument : List Char → List Record → Prop
  | nil : SpellsDocument [] []
  | line {t ts : List Char} {fs : Record} {rs : List Record} (h : SpellsRecord t fs)
    (hs : SpellsDocument ts rs) : SpellsDocument (t ++ '\n' :: ts) (fs :: rs)
  | unended {t : List Char} {fs : Record} (h : SpellsRecord t fs) (hne : t ≠ []) :
    SpellsDocument t [fs]

/-- Where a reader stands in a field. -/
inductive Place where
  /-- Before its first character. -/
  | outset
  | bare
  | quoted
  /-- Behind a quote in quotes, which ends the field or is the first of two. -/
  | behindQuote
deriving DecidableEq, Repr

/-- What a reader has read. -/
structure Reader where
  /-- The records that are ended. -/
  records : List Record
  /-- The fields of the record that is being read. -/
  fields : Record
  /-- The text of the field that is being read. -/
  text : List Char
  place : Place
deriving DecidableEq, Repr

namespace Reader

def start : Reader := ⟨[], [], [], .outset⟩

/-- The reader with one more character in the field. -/
def take (r : Reader) (c : Char) (place : Place) : Reader :=
  { r with text := r.text ++ [c], place := place }

def endField (r : Reader) : Reader := ⟨r.records, r.fields ++ [r.text], [], .outset⟩

def endRecord (r : Reader) : Reader := ⟨r.records ++ [r.fields ++ [r.text]], [], [], .outset⟩

/-- What may follow a field. -/
def separate (r : Reader) (c : Char) : Option Reader :=
  if c = ',' then some r.endField else if c = '\n' then some r.endRecord else none

/-- A character that is in no quotes. -/
def stepBare (r : Reader) (c : Char) : Option Reader :=
  if c = ',' ∨ c = '\n' then r.separate c
  else if c = '"' ∨ c = '\r' then none
  else some (r.take c .bare)

/-- The reader behind one more character. -/
def step (r : Reader) (c : Char) : Option Reader :=
  match r.place with
  | .outset => if c = '"' then some { r with place := .quoted } else r.stepBare c
  | .bare => r.stepBare c
  | .quoted => some (if c = '"' then { r with place := .behindQuote } else r.take c .quoted)
  | .behindQuote => if c = '"' then some (r.take c .quoted) else r.separate c

/-- The reader behind a text. -/
def run (r : Reader) (cs : List Char) : Option Reader := cs.foldlM step r

@[simp] lemma run_nil (r : Reader) : r.run [] = some r := rfl

@[simp] lemma run_cons (r : Reader) (c : Char) (cs : List Char) :
    r.run (c :: cs) = (r.step c).bind fun r' => r'.run cs := rfl

lemma run_append (r : Reader) (cs ds : List Char) :
    r.run (cs ++ ds) = (r.run cs).bind fun r' => r'.run ds := by
  rw [run, List.foldlM_append]
  rfl

/-- The records, once the text has ended. -/
def finish (r : Reader) : Option (List Record) :=
  match r.place with
  | .outset => if r.fields = [] then some r.records else some r.endRecord.records
  | .bare | .behindQuote => some r.endRecord.records
  | .quoted => none

end Reader

/-- The records of a text, if it is a document. -/
def read (cs : List Char) : Option (List Record) := (Reader.start.run cs).bind Reader.finish

/-! ### What the grammar spells is read -/

namespace Reader

variable {r r' : Reader} {t f : List Char} {fs : Record} {rs : List Record}

lemma run_bare (hf : ∀ c ∈ f, Plain c) (hr : r.place = .bare) :
    r.run f = some { r with text := r.text ++ f } := by
  induction f generalizing r with
  | nil => simp
  | cons c f ih =>
    obtain ⟨hcomma, hquote, hline, hreturn⟩ := hf c List.mem_cons_self
    have hstep : r.step c = some (r.take c .bare) := by
      simp [step, hr, stepBare, hcomma, hquote, hline, hreturn]
    rw [run_cons, hstep, Option.bind_some, ih (fun d hd => hf d (List.mem_cons_of_mem c hd)) rfl]
    simp [take, hr]

lemma run_doubles (h : Doubles t f) (hr : r.place = .quoted) :
    r.run t = some { r with text := r.text ++ f } := by
  induction h generalizing r with
  | nil => simp
  | @other c t f hc _ ih =>
    have hstep : r.step c = some (r.take c .quoted) := by simp [step, hr, hc]
    rw [run_cons, hstep, Option.bind_some, ih rfl]
    simp [take, hr]
  | @quote t f _ ih =>
    have hpair : r.run ('"' :: '"' :: t) = (r.take '"' .quoted).run t := by
      simp [step, hr, take]
    rw [hpair, ih rfl]
    simp [take, hr]

/-- A field is read up to where it can end. -/
lemma run_field (h : SpellsField t f) (rs : List Record) (fs : Record) :
    ∃ p, (⟨rs, fs, [], .outset⟩ : Reader).run t = some ⟨rs, fs, f, p⟩ ∧ p ≠ .quoted ∧
      (p = .outset → t = []) := by
  cases h with
  | bare hf =>
    cases t with
    | nil => exact ⟨.outset, rfl, nofun, fun _ => rfl⟩
    | cons c cs =>
      obtain ⟨hcomma, hquote, hline, hreturn⟩ := hf c List.mem_cons_self
      have hstep : (⟨rs, fs, [], .outset⟩ : Reader).step c = some ⟨rs, fs, [c], .bare⟩ := by
        simp [step, stepBare, take, hcomma, hquote, hline, hreturn]
      refine ⟨.bare, ?_, nofun, nofun⟩
      rw [run_cons, hstep, Option.bind_some,
        run_bare (fun d hd => hf d (List.mem_cons_of_mem c hd)) rfl]
      rfl
  | @quoted t f h =>
    have hopen : (⟨rs, fs, [], .outset⟩ : Reader).step '"' = some ⟨rs, fs, [], .quoted⟩ := rfl
    refine ⟨.behindQuote, ?_, nofun, nofun⟩
    rw [run_cons, hopen, Option.bind_some, run_append, run_doubles h rfl]
    rfl

/-- Where a field can end, a comma or a line feed ends it. -/
lemma step_separator (hr : r.place ≠ .quoted) :
    r.step ',' = some r.endField ∧ r.step '\n' = some r.endRecord := by
  unfold step
  cases hp : r.place with
  | quoted => exact absurd hp hr
  | outset | bare | behindQuote => exact ⟨rfl, rfl⟩

/-- A record is read up to where it can end. -/
lemma run_record (h : SpellsRecord t fs) (rs : List Record) (before : Record) :
    ∃ r : Reader, (⟨rs, before, [], .outset⟩ : Reader).run t = some r ∧ r.place ≠ .quoted ∧
      r.endRecord = ⟨rs ++ [before ++ fs], [], [], .outset⟩ ∧
      (r.fields = [] → r.place = .outset → before = [] ∧ t = []) := by
  induction h generalizing before with
  | @last t f h =>
    obtain ⟨p, hrun, hp, hnil⟩ := run_field h rs before
    exact ⟨_, hrun, hp, rfl, fun hfields hplace => ⟨hfields, hnil hplace⟩⟩
  | @more t f ts fs h _ ih =>
    obtain ⟨p, hrun, hp, -⟩ := run_field h rs before
    obtain ⟨r, hrun', hplace, hend, hnil⟩ := ih (before ++ [f])
    refine ⟨r, ?_, hplace, ?_, fun hfields hr => ?_⟩
    · rw [run_append, hrun, Option.bind_some, run_cons, (step_separator hp).1]
      exact hrun'
    · rw [hend, List.append_assoc, List.singleton_append]
    · obtain ⟨hbefore, -⟩ := hnil hfields hr
      simp at hbefore

/-- A document is read, whatever records were read before it. -/
lemma run_document {ts : List Char} (h : SpellsDocument ts rs) (before : List Record) :
    ((⟨before, [], [], .outset⟩ : Reader).run ts).bind finish = some (before ++ rs) := by
  induction h generalizing before with
  | nil => simp [finish]
  | @line t ts fs rs h _ ih =>
    obtain ⟨r, hrun, hplace, hend, -⟩ := run_record h before []
    rw [run_append, hrun, Option.bind_some, run_cons, (step_separator hplace).2, Option.bind_some,
      hend, ih, List.nil_append, List.append_assoc, List.singleton_append]
  | @unended t fs h hne =>
    obtain ⟨r, hrun, hplace, hend, hnil⟩ := run_record h before []
    have hfinish : r.finish = some r.endRecord.records := by
      unfold finish
      cases hp : r.place with
      | quoted => exact absurd hp hplace
      | bare | behindQuote => rfl
      | outset => exact if_neg fun hfields => hne (hnil hfields hp).2
    rw [hrun, Option.bind_some, hfinish, hend, List.nil_append]

/-! ### What is read is spelled by the grammar -/

/-- The part of a field that is read. -/
def ReadsPart (r : Reader) (part : List Char) : Prop :=
  match r.place with
  | .outset => part = [] ∧ r.text = []
  | .bare => part = r.text ∧ part ≠ [] ∧ ∀ c ∈ part, Plain c
  | .quoted => ∃ t, part = '"' :: t ∧ Doubles t r.text
  | .behindQuote => ∃ t, part = '"' :: (t ++ ['"']) ∧ Doubles t r.text

/-- The text is read: the records that are ended can stand before any document, the fields that are
ended before the rest of any record, and behind them stands a part of a field. -/
structure Reads (r : Reader) (lines commas part : List Char) : Prop where
  document {ts : List Char} {rs : List Record} (h : SpellsDocument ts rs) :
    SpellsDocument (lines ++ ts) (r.records ++ rs)
  record {ts : List Char} {fs : Record} (h : SpellsRecord ts fs) :
    SpellsRecord (commas ++ ts) (r.fields ++ fs)
  commas_nil : commas = [] ↔ r.fields = []
  part : r.ReadsPart part

variable {lines commas part : List Char} {c : Char}

lemma reads_start : start.Reads [] [] [] :=
  ⟨id, id, ⟨fun _ => rfl, fun _ => rfl⟩, rfl, rfl⟩

/-- Where a field can end, the part of it is all of it. -/
lemma ReadsPart.spells (h : r.ReadsPart part) (hr : r.place ≠ .quoted) :
    SpellsField part r.text := by
  unfold ReadsPart at h
  cases hp : r.place with
  | quoted => exact absurd hp hr
  | outset =>
    rw [hp] at h
    rw [h.1, h.2]
    exact .bare nofun
  | bare =>
    rw [hp] at h
    rw [← h.1]
    exact .bare h.2.2
  | behindQuote =>
    rw [hp] at h
    obtain ⟨t, rfl, ht⟩ := h
    exact .quoted ht

lemma Reads.endField (h : r.Reads lines commas part) (hr : r.place ≠ .quoted) :
    r.endField.Reads lines (commas ++ (part ++ [','])) [] where
  document := h.document
  record hfs := by
    have := h.record (.more (h.part.spells hr) hfs)
    simpa [Reader.endField] using this
  commas_nil := by simp [Reader.endField]
  part := ⟨rfl, rfl⟩

lemma Reads.endRecord (h : r.Reads lines commas part) (hr : r.place ≠ .quoted) :
    r.endRecord.Reads (lines ++ (commas ++ (part ++ ['\n']))) [] [] where
  document hrs := by
    have := h.document (.line (h.record (.last (h.part.spells hr))) hrs)
    simpa [Reader.endRecord] using this
  record := id
  commas_nil := ⟨fun _ => rfl, fun _ => rfl⟩
  part := ⟨rfl, rfl⟩

lemma Doubles.append {t u f g : List Char} (h : Doubles t f) (h' : Doubles u g) :
    Doubles (t ++ u) (f ++ g) := by
  induction h with
  | nil => exact h'
  | other hc _ ih => exact .other hc ih
  | quote _ ih => exact .quote ih

/-- The text is read, however it is parted. -/
def HasRead (r : Reader) (cs : List Char) : Prop :=
  ∃ lines commas part, cs = lines ++ (commas ++ part) ∧ r.Reads lines commas part

lemma HasRead.separate {cs : List Char} (h : r.HasRead cs) (hr : r.place ≠ .quoted)
    (hc : r.separate c = some r') : r'.HasRead (cs ++ [c]) := by
  obtain ⟨lines, commas, part, rfl, h⟩ := h
  unfold Reader.separate at hc
  split_ifs at hc with hcomma hline
  · cases hc
    subst hcomma
    exact ⟨_, _, _, by simp, h.endField hr⟩
  · cases hc
    subst hline
    exact ⟨_, _, _, by simp, h.endRecord hr⟩

/-- The field goes on. -/
lemma HasRead.extend {cs : List Char} (h : r.HasRead cs) (hrecords : r'.records = r.records)
    (hfields : r'.fields = r.fields)
    (hpart : ∀ part, r.ReadsPart part → r'.ReadsPart (part ++ [c])) : r'.HasRead (cs ++ [c]) := by
  obtain ⟨lines, commas, part, rfl, h⟩ := h
  refine ⟨lines, commas, part ++ [c], by simp, ?_, ?_, ?_, hpart part h.part⟩
  · rw [hrecords]
    exact h.document
  · rw [hfields]
    exact h.record
  · rw [hfields]
    exact h.commas_nil

lemma HasRead.stepBare {cs : List Char} (h : r.HasRead cs)
    (hr : r.place = .outset ∨ r.place = .bare)
    (hc : r.stepBare c = some r') : r'.HasRead (cs ++ [c]) := by
  unfold Reader.stepBare at hc
  split_ifs at hc with hseparator hforbidden
  · exact h.separate (by rcases hr with hr | hr <;> simp [hr]) hc
  · cases hc
    rw [not_or] at hseparator hforbidden
    have hplain : Plain c := ⟨hseparator.1, hforbidden.1, hseparator.2, hforbidden.2⟩
    refine h.extend rfl rfl fun part hpart => ?_
    unfold ReadsPart at hpart
    rcases hr with hr | hr
    · rw [hr] at hpart
      obtain ⟨rfl, htext⟩ := hpart
      simpa [ReadsPart, take, htext] using hplain
    · rw [hr] at hpart
      obtain ⟨htext, -, hall⟩ := hpart
      refine ⟨by rw [htext]; rfl, by simp, fun d hd => ?_⟩
      rcases List.mem_append.1 hd with hd | hd
      · exact hall d hd
      · rwa [List.mem_singleton.1 hd]

/-- **A character that is taken leaves the text so far read.** -/
lemma HasRead.step {cs : List Char} (h : r.HasRead cs) (hc : r.step c = some r') :
    r'.HasRead (cs ++ [c]) := by
  unfold Reader.step at hc
  cases hr : r.place with
  | outset =>
    rw [hr] at hc
    simp only at hc
    split_ifs at hc with hquote
    · cases hc
      subst hquote
      refine h.extend rfl rfl fun part hpart => ?_
      unfold ReadsPart at hpart
      rw [hr] at hpart
      obtain ⟨rfl, htext⟩ := hpart
      exact ⟨[], rfl, by rw [htext]; exact .nil⟩
    · exact h.stepBare (.inl hr) hc
  | bare =>
    rw [hr] at hc
    exact h.stepBare (.inr hr) hc
  | quoted =>
    rw [hr] at hc
    cases hc
    refine h.extend (by split <;> rfl) (by split <;> rfl) fun part hpart => ?_
    unfold ReadsPart at hpart
    rw [hr] at hpart
    obtain ⟨t, rfl, ht⟩ := hpart
    split_ifs with hquote
    · exact ⟨t, by rw [hquote]; rfl, ht⟩
    · exact ⟨t ++ [c], rfl, Doubles.append ht (.other hquote .nil)⟩
  | behindQuote =>
    rw [hr] at hc
    simp only at hc
    split_ifs at hc with hquote
    · cases hc
      subst hquote
      refine h.extend rfl rfl fun part hpart => ?_
      unfold ReadsPart at hpart
      rw [hr] at hpart
      obtain ⟨t, rfl, ht⟩ := hpart
      exact ⟨t ++ ['"', '"'], by simp, Doubles.append ht (.quote .nil)⟩
    · exact h.separate (by simp [hr]) hc

lemma HasRead.run {cs ds : List Char} (h : r.HasRead cs) (hrun : r.run ds = some r') :
    r'.HasRead (cs ++ ds) := by
  induction ds generalizing r cs with
  | nil =>
    cases hrun
    rwa [List.append_nil]
  | cons d ds ih =>
    rw [run_cons, Option.bind_eq_some_iff] at hrun
    obtain ⟨next, hnext, hrun⟩ := hrun
    have := ih (h.step hnext) hrun
    rwa [List.append_assoc, List.singleton_append] at this

/-- What is read when the text ends is a document. -/
lemma HasRead.finish {cs : List Char} (h : r.HasRead cs) (hrs : r.finish = some rs) :
    SpellsDocument cs rs := by
  obtain ⟨lines, commas, part, rfl, h⟩ := h
  have hunended (hr : r.place ≠ .quoted) (hne : commas ++ part ≠ [])
      (hrs : some r.endRecord.records = some rs) :
      SpellsDocument (lines ++ (commas ++ part)) rs := by
    cases hrs
    exact h.document (.unended (h.record (.last (h.part.spells hr))) hne)
  have hpart := h.part
  unfold ReadsPart at hpart
  unfold Reader.finish at hrs
  cases hr : r.place with
  | quoted =>
    rw [hr] at hrs
    cases hrs
  | outset =>
    rw [hr] at hrs hpart
    simp only at hrs
    split_ifs at hrs with hfields
    · cases hrs
      rw [h.commas_nil.2 hfields, hpart.1]
      simpa using h.document .nil
    · have hcommas : commas ≠ [] := fun hnil => hfields (h.commas_nil.1 hnil)
      exact hunended (by simp [hr]) (by simp [hcommas]) hrs
  | bare =>
    rw [hr] at hrs hpart
    exact hunended (by simp [hr]) (by simp [hpart.2.1]) hrs
  | behindQuote =>
    rw [hr] at hrs hpart
    obtain ⟨t, rfl, -⟩ := hpart
    exact hunended (by simp [hr]) (by simp) hrs

end Reader

/-- **The reader accepts exactly what the grammar spells.** -/
lemma read_eq_some_iff {cs : List Char} {rs : List Record} :
    read cs = some rs ↔ SpellsDocument cs rs := by
  constructor
  · intro h
    obtain ⟨r, hrun, hfinish⟩ := Option.bind_eq_some_iff.1 h
    have hread := Reader.HasRead.run ⟨[], [], [], rfl, Reader.reads_start⟩ hrun
    exact hread.finish hfinish
  · exact fun h => Reader.run_document h []

/-! ### What is written is spelled by the grammar -/

lemma doubles_double (f : List Char) : Doubles (double f) f := by
  induction f with
  | nil => exact .nil
  | cons c f ih =>
    by_cases hc : c = '"'
    · subst hc
      exact .quote ih
    · have hdouble : double (c :: f) = c :: double f := by simp [double, hc]
      rw [hdouble]
      exact .other hc ih

lemma spellsField_field (f : List Char) : SpellsField (field f) f := by
  unfold field
  split_ifs with hspecial
  · exact .quoted (doubles_double f)
  · refine .bare fun c hc => ?_
    have hplain : isSpecial c = false := by
      simp only [List.any_eq_true, not_exists, not_and, Bool.not_eq_true] at hspecial
      exact hspecial c hc
    simpa [isSpecial, Plain, and_assoc] using hplain

lemma spellsRecord_intercalate {fs : Record} (hne : fs ≠ []) :
    SpellsRecord ([','].intercalate (fs.map field)) fs := by
  induction fs with
  | nil => exact absurd rfl hne
  | cons f fs ih =>
    cases fs with
    | nil => simpa using SpellsRecord.last (spellsField_field f)
    | cons g fs => simpa using SpellsRecord.more (spellsField_field f) (ih (List.cons_ne_nil g fs))

lemma spellsDocument_document {rs : List Record} (hne : ∀ fs ∈ rs, fs ≠ []) :
    SpellsDocument (document rs) rs := by
  induction rs with
  | nil => exact .nil
  | cons fs rs ih =>
    have hrest := ih fun gs hgs => hne gs (List.mem_cons_of_mem fs hgs)
    have hline := SpellsDocument.line (spellsRecord_intercalate (hne fs List.mem_cons_self)) hrest
    simpa [document, record] using hline

/-- **Written documents are read back**, whatever their fields hold. -/
lemma read_document {rs : List Record} (hne : ∀ fs ∈ rs, fs ≠ []) : read (document rs) = some rs :=
  read_eq_some_iff.2 (spellsDocument_document hne)

end BoolCalc.Csv
