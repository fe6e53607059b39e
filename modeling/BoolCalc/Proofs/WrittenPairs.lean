import Mathlib.Data.List.Forall2
import BoolCalc.Archive

/-!
# The pairs of symbols that a document has

A document brings in pairs of symbols, one with the settings and one with every entry of a history.
Each is checked where it is read. To say what this check is worth, the pairs are read here a second
time, as mere characters and unchecked: whatever is read from a document with the check is read from
it without. So a pair comes with a document only as its characters say, and a document that has an
unsound pair anywhere is refused as a whole.
-/

namespace BoolCalc

namespace Json

variable {α β γ δ σ τ : Type}

/-- Whatever is read on the one side is read on the other, as its image and up to the same place. -/
def Follows (e : α → β) (r : Except Fault (α × List Char)) (r' : Except Fault (β × List Char)) :
    Prop :=
  ∀ a rest, r = .ok (a, rest) → r' = .ok (e a, rest)

variable {e : α → β} {g : γ → δ} {r : Except Fault (α × List Char)}
  {r' : Except Fault (β × List Char)}

lemma Follows.of_error (f : Fault) : Follows e (.error f) r' := by
  intro a rest h
  cases h

lemma Follows.of_ok (e : α → β) (a : α) (rest : List Char) :
    Follows e (.ok (a, rest)) (.ok (e a, rest)) := by
  intro a' rest' h
  cases h
  rfl

lemma Follows.refl (r : Except Fault (α × List Char)) : Follows id r r := fun _ _ h => h

lemma Follows.bind (h : Follows e r r') {k : α × List Char → Except Fault (γ × List Char)}
    {k' : β × List Char → Except Fault (δ × List Char)}
    (hk : ∀ a rest, Follows g (k (a, rest)) (k' (e a, rest))) :
    Follows g (r >>= k) (r' >>= k') := by
  cases r with
  | error f => exact .of_error f
  | ok p =>
    obtain ⟨a, rest⟩ := p
    rw [h a rest rfl]
    exact hk a rest

/-- Both sides begin with the same step. -/
lemma Follows.bind_same (x : Except Fault γ) {k : γ → Except Fault (α × List Char)}
    {k' : γ → Except Fault (β × List Char)} (hk : ∀ c, Follows e (k c) (k' c)) :
    Follows e (x >>= k) (x >>= k') := by
  cases x with
  | error f => exact .of_error f
  | ok c => exact hk c

lemma Follows.within (h : Follows e r r') (close : List Char → Except Fault (List Char))
    (after : List Char → List Char) :
    Follows e (within close after r) (Json.within close after r') := by
  cases r with
  | error f => exact .of_error _
  | ok p =>
    obtain ⟨a, rest⟩ := p
    rw [h a rest rfl]
    intro a' rest' ha
    simp only [Json.within] at ha ⊢
    cases hc : close rest with
    | error f =>
      rw [hc] at ha
      cases ha
    | ok cs =>
      rw [hc] at ha
      cases ha
      rfl

lemma follows_elements {element : Reader α} {element' : Reader β}
    (h : ∀ text, Follows e (element text) (element' text)) (fuel : ℕ) (first : Bool)
    (text : List Char) :
    Follows (List.map e) (elements element fuel first text)
      (elements element' fuel first text) := by
  induction fuel generalizing first text with
  | zero => exact .of_error _
  | succ fuel ih =>
    refine .bind_same (nextElement first text) fun next => ?_
    cases next with
    | none => exact .of_ok _ _ _
    | some cs =>
      refine (h cs).bind fun a rest => ?_
      exact (ih false rest).bind fun as rest' => .of_ok (List.map e) (a :: as) rest'

lemma follows_readList {element : Reader α} {element' : Reader β}
    (h : ∀ text, Follows e (element text) (element' text)) (text : List Char) :
    Follows (List.map e) (readList element text) (readList element' text) := by
  unfold readList
  split
  · exact .of_error _
  · split
    · exact (follows_elements h _ _ _).within _ _
    · exact .of_error _

/-! ### Records -/

/-- Two fields fill two drafts alike. -/
structure RecordField.Follows (d : σ → τ) (f : RecordField σ) (f' : RecordField τ) : Prop where
  name : f'.name = f.name
  given : ∀ st, f'.given (d st) = f.given st
  read : ∀ st text, Json.Follows d (f.read st text) (f'.read (d st) text)

lemma RecordField.Follows.option {d : σ → τ} (name : String) {reader : Reader α}
    {reader' : Reader β} {get : σ → Option α} {set : σ → α → σ} {get' : τ → Option β}
    {set' : τ → β → τ} (hread : ∀ text, Json.Follows e (reader text) (reader' text))
    (hget : ∀ st, get' (d st) = (get st).map e)
    (hset : ∀ st a, set' (d st) (e a) = d (set st a)) :
    RecordField.Follows d (optionField name reader get set)
      (optionField name reader' get' set') where
  name := rfl
  given st := by simp only [optionField, hget, Option.isSome_map]
  read st text := by
    intro st' rest h
    simp only [optionField] at h ⊢
    cases hr : reader text with
    | error f =>
      rw [hr] at h
      cases h
    | ok p =>
      rw [hr] at h
      cases h
      rw [hread text p.1 p.2 hr, ← hset]
      rfl

/-- A field that both sides read alike. -/
lemma RecordField.Follows.same {d : σ → τ} (name : String) (reader : Reader α) {get : σ → Option α}
    {set : σ → α → σ} {get' : τ → Option α} {set' : τ → α → τ} (hget : ∀ st, get' (d st) = get st)
    (hset : ∀ st a, set' (d st) a = d (set st a)) :
    RecordField.Follows d (optionField name reader get set) (optionField name reader get' set') :=
  .option name (fun text => .refl (reader text)) (fun st => (hget st).trans Option.map_id'.symm)
    hset

/-- Two shapes fill two drafts alike and make alike records of them. -/
structure Shape.Follows (d : σ → τ) (e : α → β) (shape : Shape σ α) (shape' : Shape τ β) :
    Prop where
  fields : List.Forall₂ (RecordField.Follows d) shape.fields shape'.fields
  blank : shape'.blank = d shape.blank
  complete : shape'.complete = shape.complete
  finish : ∀ st a, shape.finish st = .ok a → shape'.finish (d st) = .ok (e a)

namespace Shape

variable {d : σ → τ} {shape : Shape σ α} {shape' : Shape τ β}

lemma Follows.conclude (h : Follows d e shape shape') (st : σ) (rest : List Char) :
    Json.Follows e (shape.conclude (st, rest)) (shape'.conclude (d st, rest)) := by
  unfold Shape.conclude
  cases hf : shape.finish st with
  | error c => exact .of_error _
  | ok a =>
    rw [h.finish st a hf]
    exact .of_ok e a rest

/-- A key names corresponding fields, or none on either side. -/
lemma find?_fields {fs : List (RecordField σ)} {fs' : List (RecordField τ)}
    (h : List.Forall₂ (RecordField.Follows d) fs fs') (key : List Char) :
    (fs.find? (·.name.toList == key) = none ∧ fs'.find? (·.name.toList == key) = none) ∨
      ∃ f f', fs.find? (·.name.toList == key) = some f ∧
        fs'.find? (·.name.toList == key) = some f' ∧ f.Follows d f' := by
  induction h with
  | nil => exact .inl ⟨rfl, rfl⟩
  | @cons f f' fs fs' hf _ ih =>
    simp only [List.find?_cons, hf.name]
    split
    · exact .inr ⟨f, f', rfl, rfl, hf⟩
    · exact ih

lemma Follows.readMember (h : Follows d e shape shape') (key : List Char) (st : σ)
    (text : List Char) :
    Json.Follows d (shape.readMember key st text) (shape'.readMember key (d st) text) := by
  unfold Shape.readMember
  obtain ⟨hf, hf'⟩ | ⟨f, f', hf, hf', hff⟩ := find?_fields h.fields key
  · simp only [hf, hf']
    exact .bind_same _ fun cs => .bind_same _ fun rest => .of_ok d st rest
  · simp only [hf, hf', hff.given]
    split
    · exact .of_error _
    · exact .bind_same _ fun cs => hff.read st cs

lemma Follows.readMembers (h : Follows d e shape shape') (fuel : ℕ) (first : Bool) (st : σ)
    (text : List Char) :
    Json.Follows d (shape.readMembers fuel first st text)
      (shape'.readMembers fuel first (d st) text) := by
  induction fuel generalizing first st text with
  | zero => exact .of_error _
  | succ fuel ih =>
    refine .bind_same (nextKey first text) fun next => ?_
    cases next with
    | none => exact .of_ok d st text
    | some cs =>
      refine .bind_same (stringBody cs) fun p => ?_
      exact (h.readMember p.1 st p.2).bind fun st' rest => ih false st' rest

lemma Follows.readFields (h : Follows d e shape shape') {fs : List (RecordField σ)}
    {fs' : List (RecordField τ)} (hfs : List.Forall₂ (RecordField.Follows d) fs fs') (i : ℕ)
    (st : σ) (text : List Char) :
    Json.Follows d (shape.readFields i st fs text) (shape'.readFields i (d st) fs' text) := by
  induction hfs generalizing i st text with
  | nil => exact .of_ok d st text
  | cons hf _ ih =>
    refine .bind_same (nextElement (i = 0) text) fun next => ?_
    cases next with
    | none =>
      simp only [h.complete]
      split
      · exact .of_error _
      · exact .of_ok d st text
    | some cs => exact (hf.read st cs).bind fun st' rest => ih (i + 1) st' rest

lemma Follows.read (h : Follows d e shape shape') (text : List Char) :
    Json.Follows e (shape.read text) (shape'.read text) := by
  unfold Shape.read
  split
  · exact .of_error _
  · rw [h.blank]
    split
    · exact ((h.readFields h.fields _ _ _).bind h.conclude).within _ _
    · split
      · exact ((h.readMembers _ _ _ _).bind h.conclude).within _ _
      · exact .of_error _

end Shape

lemma readDocument_of_follows {reader : Reader α} {reader' : Reader β}
    (h : ∀ text, Follows e (reader text) (reader' text)) {text : List Char} {a : α}
    (ha : readDocument reader text = .ok a) : readDocument reader' text = .ok (e a) := by
  unfold readDocument at ha ⊢
  cases hr : reader text with
  | error f =>
    rw [hr] at ha
    cases ha
  | ok p =>
    rw [h text p.1 p.2 hr]
    rw [hr] at ha
    simp only [bind, Except.bind] at ha ⊢
    split at ha
    · cases ha
      rfl
    · cases ha

end Json

open Json (Shape readDocument)

/-- The two characters of a pair of symbols. -/
def Symbols.chars (s : Symbols) : Char × Char := (s.forTrue, s.forFalse)

/-- The pairs of symbols that a session has. -/
def Session.pairs (s : Session) : List Symbols := s.settings.symbols :: s.history.map (·.symbols)

/-! ### Reading without the check -/

namespace Unchecked

/-- Settings that are being read. -/
structure SettingsDraft where
  symbols : Option (Char × Char)
  historyLimit : Option UInt64

/-- Written settings, of which the two characters are kept. -/
def settings : Shape SettingsDraft (Char × Char) where
  name := "Settings"
  fields :=
    [optionField "symbols" Symbols.shape.read SettingsDraft.symbols
       fun d q => { d with symbols := some q },
     optionField "history_limit" Json.readNatural SettingsDraft.historyLimit
       fun d n => { d with historyLimit := some n }]
  blank := ⟨none, none⟩
  complete := false
  finish := fun d => .ok (d.symbols.getD Settings.standard.symbols.chars)

/-- An entry that is being read. -/
structure EntryDraft where
  expression : Option (List Char)
  rpn : Option (List Char)
  value : Option Bool
  symbols : Option (Char × Char)

/-- A written entry, of which the two characters are kept. -/
def entry : Shape EntryDraft (Char × Char) where
  name := "HistoryEntry"
  fields :=
    [optionField "expression" Json.readText EntryDraft.expression
       fun d s => { d with expression := some s },
     optionField "postfix" Json.readText EntryDraft.rpn fun d s => { d with rpn := some s },
     optionField "result" Json.readBoolean EntryDraft.value fun d b => { d with value := some b },
     optionField "symbols" Symbols.shape.read EntryDraft.symbols
       fun d q => { d with symbols := some q }]
  blank := ⟨none, none, none, none⟩
  complete := true
  finish := fun d => do
    let _ ← needed "expression" d.expression
    let _ ← needed "postfix" d.rpn
    let _ ← needed "result" d.value
    needed "symbols" d.symbols

/-- A session that is being read. -/
structure SessionDraft where
  settings : Option (Char × Char)
  history : Option (List (Char × Char))

/-- A written session, of which all pairs of characters are kept. -/
def session : Shape SessionDraft (List (Char × Char)) where
  name := "Session"
  fields :=
    [optionField "settings" settings.read SessionDraft.settings
       fun d q => { d with settings := some q },
     optionField "history" (Json.readList entry.read) SessionDraft.history
       fun d qs => { d with history := some qs }]
  blank := ⟨none, none⟩
  complete := false
  finish := fun d => .ok (d.settings.getD Settings.standard.symbols.chars :: d.history.getD [])

end Unchecked

lemma Symbols.follows_read (text : List Char) :
    Json.Follows Symbols.chars (Symbols.read text) (Symbols.shape.read text) := by
  intro s rest h
  unfold Symbols.read at h
  cases hr : Symbols.shape.read text with
  | error f =>
    rw [hr] at h
    cases h
  | ok p =>
    obtain ⟨⟨t, f⟩, rest'⟩ := p
    rw [hr] at h
    simp only [bind, Except.bind] at h
    split at h
    · rename_i hs
      cases h
      obtain ⟨rfl, rfl⟩ := Symbols.ofChars_eq_ok.1 hs
      rfl
    · cases h

lemma Settings.follows_shape :
    Shape.Follows (fun d : Draft => ⟨d.symbols.map Symbols.chars, d.historyLimit⟩)
      (fun s : Settings => s.symbols.chars) shape Unchecked.settings where
  fields :=
    .cons (.option _ Symbols.follows_read (fun _ => rfl) fun _ _ => rfl)
      (.cons (.same _ _ (fun _ => rfl) fun _ _ => rfl) .nil)
  blank := rfl
  complete := rfl
  finish d s h := by
    cases h
    cases d.symbols <;> rfl

lemma needed_bind_eq_ok {α β : Type} {name : String} {o : Option α} {k : α → Except Json.Cause β}
    {b : β} (h : needed name o >>= k = .ok b) : ∃ a, o = some a ∧ k a = .ok b := by
  cases o with
  | none => cases h
  | some a => exact ⟨a, rfl, h⟩

lemma HistoryEntry.follows_shape :
    Shape.Follows (fun d : Draft => ⟨d.expression, d.rpn, d.value, d.symbols.map Symbols.chars⟩)
      (fun e : HistoryEntry => e.symbols.chars) shape Unchecked.entry where
  fields :=
    .cons (.same _ _ (fun _ => rfl) fun _ _ => rfl)
      (.cons (.same _ _ (fun _ => rfl) fun _ _ => rfl)
        (.cons (.same _ _ (fun _ => rfl) fun _ _ => rfl)
          (.cons (.option _ Symbols.follows_read (fun _ => rfl) fun _ _ => rfl) .nil)))
  blank := rfl
  complete := rfl
  finish d e h := by
    obtain ⟨expression, rpn, value, symbols⟩ := d
    obtain ⟨_, rfl, h⟩ := needed_bind_eq_ok h
    obtain ⟨_, rfl, h⟩ := needed_bind_eq_ok h
    obtain ⟨_, rfl, h⟩ := needed_bind_eq_ok h
    obtain ⟨_, rfl, h⟩ := needed_bind_eq_ok h
    cases h
    rfl

lemma Session.follows_shape :
    Shape.Follows
      (fun d : Draft =>
        ⟨d.settings.map fun s => s.symbols.chars, d.history.map (·.map fun e => e.symbols.chars)⟩)
      (fun s : Session => s.pairs.map Symbols.chars) shape Unchecked.session where
  fields :=
    .cons (.option _ Settings.follows_shape.read (fun _ => rfl) fun _ _ => rfl)
      (.cons
        (.option _ (Json.follows_readList HistoryEntry.follows_shape.read) (fun _ => rfl)
          fun _ _ => rfl)
        .nil)
  blank := rfl
  complete := rfl
  finish d s h := by
    obtain ⟨settings, history⟩ := d
    cases h
    cases settings <;> cases history <;>
      simp [Unchecked.session, Session.pairs, Session.standard]

/-! ### Files -/

/-- The two characters that the content of a file of settings has for symbols, unchecked. -/
def Settings.writtenPair (bytes : ByteArray) : Except LoadError (Char × Char) :=
  decodeDocument (readDocument Unchecked.settings.read) bytes

/-- All the pairs of characters that the content of a file of a session has for symbols,
unchecked. -/
def Session.writtenPairs (bytes : ByteArray) : Except LoadError (List (Char × Char)) :=
  decodeDocument (readDocument Unchecked.session.read) bytes

lemma decodeDocument_map {α β : Type} {e : α → β} {reader : List Char → Except Json.Fault α}
    {reader' : List Char → Except Json.Fault β}
    (h : ∀ cs a, reader cs = .ok a → reader' cs = .ok (e a)) {bytes : ByteArray} {a : α}
    (ha : decodeDocument reader bytes = .ok a) : decodeDocument reader' bytes = .ok (e a) := by
  unfold decodeDocument at ha ⊢
  cases hd : decodeText bytes with
  | error f =>
    rw [hd] at ha
    cases ha
  | ok cs =>
    simp only [hd] at ha ⊢
    cases hr : reader cs with
    | error f =>
      rw [hr] at ha
      cases ha
    | ok a' =>
      rw [hr] at ha
      cases ha
      rw [h cs _ hr]

/-- **Settings are read with the pair that is written.** -/
lemma Settings.writtenPair_of_decode {bytes : ByteArray} {s : Settings}
    (h : Settings.decode bytes = .ok s) : writtenPair bytes = .ok s.symbols.chars :=
  decodeDocument_map (fun _ _ => Json.readDocument_of_follows follows_shape.read) h

/-- **A session is read with all the pairs that are written.** -/
lemma Session.writtenPairs_of_decode {bytes : ByteArray} {s : Session}
    (h : Session.decode bytes = .ok s) : writtenPairs bytes = .ok (s.pairs.map Symbols.chars) :=
  decodeDocument_map (fun _ _ => Json.readDocument_of_follows follows_shape.read) h

end BoolCalc
