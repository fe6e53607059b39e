import BoolCalc.Proofs.CsvReading
import BoolCalc.Proofs.Display
import BoolCalc.Proofs.Precedence
import BoolCalc.Proofs.RoundTrip
import BoolCalc.Shell.Keys

/-!
# The gate table agrees with evaluation

The gate table is made by asking the gates, an evaluation by reading a text and running it. Both
come to the same: an expression of one gate, put together from the inputs in a row of the table, has
the value that the row shows for that gate. This holds of the table as it is exported and read back,
whichever characters the symbols are, and the table on the screen is the same.
-/

namespace BoolCalc

variable {s : Symbols}

/-! ### Expressions of one gate -/

lemma evaluate_of_derives {cs : List Char} {ts : List Token} {t : Tree} (h : Derives .low ts t)
    (hcs : ts.map (Token.spell s) = cs) :
    ∃ e, evaluate s (String.ofList cs) = .ok e ∧ e.symbol = s.spell t.value := by
  subst hcs
  have hspelled : (ts.map (Token.spell s)).filter (fun c => !Text.isBlank c) =
      ts.map (Token.spell s) := by
    refine List.filter_eq_self.2 fun c hc => ?_
    obtain ⟨t, -, rfl⟩ := List.mem_map.1 hc
    rw [Token.isBlank_spell]
    rfl
  have hcompute := compute_of_toRpn (toRpn_of_derives h (scan_spelled hspelled))
  rw [evaluate_eq, String.toList_ofList, hcompute]
  exact ⟨_, rfl, rfl⟩

/-- The value of a gate is what the expression of the gate comes to. -/
lemma evaluate_connective (c : Connective) (a b : Bool) :
    ∃ e, evaluate s (String.ofList [s.spell a, c.op.symbol, s.spell b]) = .ok e ∧
      e.symbol = s.spell (c.apply a b) := by
  have hlow : Derives .low [.literal a, .operator c.op, .literal b]
      (.binary c (.literal a) (.literal b)) := by
    have hleft : Derives c.tier [.literal a] (.literal a) :=
      .loosen (by cases c <;> decide) (.literal a)
    have hright : Derives c.tier.tighter [.literal b] (.literal b) :=
      .loosen (by cases c <;> decide) (.literal b)
    exact .loosen c.tier.level_low_le (.chain c rfl hleft hright)
  exact evaluate_of_derives hlow rfl

lemma evaluate_not (a : Bool) :
    ∃ e, evaluate s (String.ofList ['!', s.spell a]) = .ok e ∧ e.symbol = s.spell (!a) :=
  evaluate_of_derives (Derives.low_of_mid (.mid_of_unary (.not (.literal a)))) rfl

/-! ### Records under headings -/

namespace Csv

/-- The field of a record under a heading. -/
def under (headings r : Record) (name : String) : Option (List Char) :=
  (headings.zip r).lookup name.toList

/-- What a record shows for each gate is what evaluation makes of the expression that is put
together from the inputs of the record and the character of the gate. -/
structure Agrees (s : Symbols) (headings r : Record) : Prop where
  binary : ∀ g ∈ [("AND", '&'), ("OR", '|'), ("NAND", '@'), ("XOR", '$')], ∃ a b e,
    under headings r "A" = some a ∧ under headings r "B" = some b ∧
      evaluate s (String.ofList (a ++ g.2 :: b)) = .ok e ∧ under headings r g.1 = some [e.symbol]
  unary : ∀ g ∈ [("NOT A", "A"), ("NOT B", "B")], ∃ a e, under headings r g.2 = some a ∧
    evaluate s (String.ofList ('!' :: a)) = .ok e ∧ under headings r g.1 = some [e.symbol]

/-- The record of the table for two inputs. -/
def gateRecord (s : Symbols) (a b : Bool) : Record :=
  GateTable.columns.map fun c => [s.spell (c.2 a b)]

/-- The headings of the table. -/
def gateHeadings : Record := GateTable.headers.map String.toList

lemma gateRecords_eq (s : Symbols) :
    gateRecords s = gateHeadings :: GateTable.inputs.map fun i => gateRecord s i.1 i.2 := by
  simp only [gateRecords, gateHeadings, GateTable.spelled, GateTable.rows, List.map_map]
  rfl

/-- The rows of the table are the records below the headings. -/
lemma spelled_eq (s : Symbols) :
    (GateTable.spelled s).map (fun r => r.map ([·])) =
      GateTable.inputs.map fun i => gateRecord s i.1 i.2 :=
  List.cons_injective (gateRecords_eq s)

lemma length_of_mem_gateRecords {r : Record} (hr : r ∈ gateRecords s) : r.length = 8 := by
  rw [gateRecords_eq] at hr
  rcases List.mem_cons.1 hr with rfl | hr
  · rfl
  · obtain ⟨i, -, rfl⟩ := List.mem_map.1 hr
    rfl

lemma agrees_gateRecord (a b : Bool) : Agrees s gateHeadings (gateRecord s a b) where
  binary := by
    have hconnective (c : Connective) {name : String}
        (hname : under gateHeadings (gateRecord s a b) name = some [s.spell (c.apply a b)]) :
        ∃ x y e, under gateHeadings (gateRecord s a b) "A" = some x ∧
          under gateHeadings (gateRecord s a b) "B" = some y ∧
          evaluate s (String.ofList (x ++ c.op.symbol :: y)) = .ok e ∧
          under gateHeadings (gateRecord s a b) name = some [e.symbol] := by
      obtain ⟨e, he, hsymbol⟩ := evaluate_connective (s := s) c a b
      exact ⟨[s.spell a], [s.spell b], e, rfl, rfl, he, by rw [hname, hsymbol]⟩
    intro g hg
    simp only [List.mem_cons, List.not_mem_nil, or_false] at hg
    obtain rfl | rfl | rfl | rfl := hg
    · exact hconnective .and rfl
    · exact hconnective .or rfl
    · exact hconnective .nand rfl
    · exact hconnective .xor rfl
  unary := by
    intro g hg
    simp only [List.mem_cons, List.not_mem_nil, or_false] at hg
    obtain rfl | rfl := hg
    · obtain ⟨e, he, hsymbol⟩ := evaluate_not (s := s) a
      exact ⟨[s.spell a], e, rfl, he, by rw [hsymbol]; rfl⟩
    · obtain ⟨e, he, hsymbol⟩ := evaluate_not (s := s) b
      exact ⟨[s.spell b], e, rfl, he, by rw [hsymbol]; rfl⟩

end Csv

/-! ### The table on the screen -/

lemma map_intercalate {α β : Type} (f : α → β) (sep : List α) (xs : List (List α)) :
    (sep.intercalate xs).map f = (sep.map f).intercalate (xs.map (List.map f)) := by
  induction xs with
  | nil => rfl
  | cons x xs ih =>
    cases xs with
    | nil => simp
    | cons y ys =>
      simp only [List.intercalate_cons_cons, List.map_append, List.map_cons] at ih ⊢
      rw [ih]

namespace Screen

/-- A line of the table: each field in the width of its column, and a blank between two columns. -/
def gateLine (fields : Csv.Record) : List Char :=
  [' '].intercalate ((fields.zip gateWidths).map fun f =>
    (f.1 ++ List.replicate f.2 ' ').take f.2)

/-- A field of the table: plain text, or one character whatever it is. -/
def Fills (field : List Char) : Prop := (∀ c ∈ field, Text.Plain c) ∨ ∃ c, field = [c]

/-- A field in its column, with blanks up to the next one. -/
lemma text_column {field : List Char} (h : Fills field) (change : Style → Style) {width : ℕ}
    (hwidth : 3 ≤ width) :
    let shown := Glyph.paragraphRow (fun _ => .plain) width
      (Glyph.cut width (Glyph.ofText change field))
    (shown ++ List.replicate (width - shown.length) (⟨[' '], change⟩ : Stroke)).map Stroke.text =
      ((Text.visible field ++ List.replicate width ' ').take width).map ([·]) := by
  obtain h | ⟨c, rfl⟩ := h
  · simp only [Glyph.paragraphRow_plain _ h, Text.visible_of_plain h, List.map_append, List.map_map,
      List.length_map, List.length_take, List.map_replicate, List.take_append, List.take_replicate,
      Function.comp_def]
    congr 2
    omega
  · have hle := Text.columnsOf_le c
    rw [Glyph.paragraphRow_char _ hwidth, Text.visible_singleton]
    by_cases hzero : Text.columnsOf c = 0
    · simp [hzero]
    · -- The columns behind a wide character are blank, as those behind the field are.
      obtain ⟨width, rfl⟩ : ∃ n, width = n + 1 := ⟨width - 1, by omega⟩
      simp only [hzero, if_false, List.map_append, List.map_cons, List.map_replicate,
        List.length_cons, List.length_replicate, List.cons_append, List.nil_append,
        List.take_succ_cons, List.take_replicate, List.replicate_append_replicate]
      congr 2
      omega

lemma three_le_of_mem_gateWidths {width : ℕ} (h : width ∈ gateWidths) : 3 ≤ width := by
  have hall : ∀ w ∈ gateWidths, 3 ≤ w := by decide
  exact hall width h

lemma text_gateRow {fields : Csv.Record} (change : Style → Style) (h : ∀ f ∈ fields, Fills f) :
    (gateRow change fields).map Stroke.text =
      (gateLine (fields.map Text.visible)).map ([·]) := by
  rw [gateRow, gateLine, map_intercalate, map_intercalate, List.map_map, List.map_map,
    List.zip_map_left, List.map_map]
  refine congrArg _ (List.map_congr_left fun f hf => ?_)
  obtain ⟨hfield, hwidth⟩ := List.of_mem_zip hf
  exact text_column (h f.1 hfield) change (three_le_of_mem_gateWidths hwidth)

lemma length_gateLine {fields : Csv.Record} (h : fields.length = gateWidths.length) :
    (gateLine fields).length = 51 := by
  match fields, h with
  | [a, b, c, d, e, f, g, i], _ => simp [gateLine, gateWidths]

lemma fills_gateRecords {r : Csv.Record} (hr : r ∈ Csv.gateRecords s) {f : List Char}
    (hf : f ∈ r) : Fills f := by
  rcases List.mem_cons.1 hr with rfl | hr
  · have hplain : (GateTable.headers.map String.toList).all
        (·.all (Text.isWithin Text.plainRanges)) = true := by decide +kernel
    exact .inl (Text.plain_of_all (List.all_eq_true.1 hplain f hf))
  · obtain ⟨r, -, rfl⟩ := List.mem_map.1 hr
    obtain ⟨c, -, rfl⟩ := List.mem_map.1 hf
    exact .inr ⟨c, rfl⟩

/-- The table over the screen shows the records that are exported, line by line. -/
lemma showsRow_drawGates (width height : ℕ) (sh : Shell) (c : Canvas) {j : ℕ} {r : Csv.Record}
    (hj : j < (popupArea width height).inner.height)
    (hr : (Csv.gateRecords sh.symbols)[j]? = some r) :
    ShowsRow (c ++ drawGates width height sh) (popupArea width height).inner j
      (gateLine (r.map Text.visible)) := by
  have hfills : ∀ f ∈ r, Fills f := fun f hf => fills_gateRecords (List.mem_of_getElem? hr) hf
  rw [drawGates, ← List.append_assoc]
  refine showsRow_rowsIn (showsRow_frame c _ _ _ hj) hj (congrArg (List.take _) ?_)
  cases j with
  | zero =>
    have hheadings : GateTable.headers.map String.toList = r := Option.some.inj hr
    rw [List.getElem?_cons_zero, Option.getD_some, hheadings]
    exact text_gateRow _ hfills
  | succ j =>
    obtain ⟨cells, hcells, rfl⟩ : ∃ cells, (GateTable.spelled sh.symbols)[j]? = some cells ∧
        cells.map ([·]) = r := by
      simpa [Csv.gateRecords] using hr
    rw [List.getElem?_cons_succ, List.getElem?_map, hcells]
    exact text_gateRow _ hfills

lemma shows_gateLine {sh : Shell} (hm : sh.mode = .gates) {width height : ℕ}
    (hsize : Usual width height) {j : ℕ} {r : Csv.Record}
    (hr : (Csv.gateRecords sh.symbols)[j]? = some r) :
    j < (popupArea width height).inner.height ∧
      (gateLine (r.map Text.visible)).length ≤ (popupArea width height).inner.width ∧
      ShowsRow (ofShell width height sh).canvas (popupArea width height).inner j
        (gateLine (r.map Text.visible)) := by
  have hfields : (r.map Text.visible).length = gateWidths.length := by
    rw [List.length_map, Csv.length_of_mem_gateRecords (List.mem_of_getElem? hr)]
    rfl
  have hrow : j < 5 := (List.getElem?_eq_some_iff.1 hr).1
  have hwidth := hsize.width_ge
  have hheight := hsize.height_ge
  have hj : j < (popupArea width height).inner.height := by
    simp only [hsize.popupArea_eq, Area.inner]
    omega
  refine ⟨hj, ?_, ?_⟩
  · rw [length_gateLine hfields]
    simp only [hsize.popupArea_eq, Area.inner]
    omega
  · have hpopup : drawPopup width height sh = drawGates width height sh := by rw [drawPopup, hm]
    rw [ofShell, hpopup]
    exact showsRow_drawGates width height sh _ hj hr

end Screen

/-- Whether a character is a control, of which a terminal makes what it likes. -/
def Text.isControl (c : Char) : Bool := isWithin [(0x0, 0x1F), (0x7F, 0x9F)] c

lemma Text.isControl_getD {cs : List Char} (h : cs.all (!isControl ·) = true) (i : ℕ) :
    isControl (cs[i]?.getD ' ') = false := by
  cases hc : cs[i]? with
  | none => decide
  | some c => simpa using List.all_eq_true.1 h c (List.mem_of_getElem? hc)

/-- **The gate table agrees with evaluation.** The table is exported as text of which a reader of
comma-separated records, that of the grammar of such records, makes the headings and four records of
eight fields. The inputs run through all pairs, and the fields under the gates are the values of the
expressions that are put together from the inputs and the character of the gate, whichever
characters spell the truth values. The records are the rows of the table, and a file to which it is
written holds it. While the table is shown on a screen of usual size, each line of it, whole, is
that of a record, cell by cell; of a control that spells a truth value a terminal makes what it
likes, characters without width are not to be seen, and a wide one covers the blank behind it. -/
theorem gate_table_agrees_with_evaluation (s : Symbols) :
    (∀ text rs, Csv.read text = some rs ↔ Csv.SpellsDocument text rs) ∧
    ∃ text headings rows, decodeText (Csv.encodeGates s) = .ok text ∧
      Csv.read text = some (headings :: rows) ∧
      headings = ["A", "B", "AND", "OR", "NAND", "XOR", "NOT A", "NOT B"].map String.toList ∧
      rows.map (List.take 2) =
        [[[s.forFalse], [s.forFalse]], [[s.forFalse], [s.forTrue]],
          [[s.forTrue], [s.forFalse]], [[s.forTrue], [s.forTrue]]] ∧
      (∀ r ∈ rows, r.length = 8 ∧ Csv.Agrees s headings r) ∧
      rows = (GateTable.spelled s).map (fun r => r.map ([·])) ∧
      (∀ (st st' : Store) (name : String), st.write name (Csv.encodeGates s) = .ok st' →
        st'.read name = .ok (Csv.encodeGates s)) ∧
      ∀ sh : Shell, sh.mode = .gates → sh.symbols = s →
        ∀ width height : ℕ, Screen.Usual width height →
        ∀ j r, (headings :: rows)[j]? = some r →
          let shown := Screen.gateLine (r.map Text.visible)
          let inner := (Screen.popupArea width height).inner
          j < inner.height ∧ shown.length ≤ inner.width ∧
            ∀ i < inner.width, Text.isControl (shown[i]?.getD ' ') = false →
              ((Screen.ofShell width height sh).canvas.cell (inner.x + i) (inner.y + j)).text =
                [shown[i]?.getD ' '] := by
  refine ⟨fun text rs => Csv.read_eq_some_iff, _, _, _, decodeText_encodeText _,
    Csv.read_document fun r hr => ?_, rfl, ?_, fun r hr => ⟨?_, ?_⟩, rfl,
    fun st st' name hwrite => Store.read_write hwrite, ?_⟩
  · exact List.ne_nil_of_length_pos (by rw [Csv.length_of_mem_gateRecords hr]; decide)
  · rw [Csv.spelled_eq]
    rfl
  · exact Csv.length_of_mem_gateRecords (List.mem_cons_of_mem _ hr)
  · rw [Csv.spelled_eq] at hr
    obtain ⟨i, -, rfl⟩ := List.mem_map.1 hr
    exact Csv.agrees_gateRecord i.1 i.2
  · rintro sh hm rfl width height hsize j r hr
    obtain ⟨hrow, hwhole, hshown⟩ := Screen.shows_gateLine hm hsize hr
    exact ⟨hrow, hwhole, fun i hi _ => hshown i hi⟩

/-- Comma and quote are the symbols, in the file as on the smallest screen. -/
theorem gate_table_agrees_with_evaluation_comma :
    let s : Symbols := ⟨',', '"', by decide, by decide, by decide⟩
    let sh := (Shell.start ⟨s, 50⟩ none).showGates
    ∃ text st', decodeText (Csv.encodeGates s) = .ok text ∧
      Store.empty.write "t.csv" (Csv.encodeGates s) = .ok st' ∧
      st'.read "t.csv" = .ok (Csv.encodeGates s) ∧
      (∃ headings rows, Csv.read text = some (headings :: rows) ∧
        rows[1]? = some [['"'], [','], ['"'], [','], [','], [','], [','], ['"']] ∧
        ∀ r ∈ rows, Csv.Agrees s headings r) ∧
      Screen.ShowsRow (Screen.ofShell 70 11 sh).canvas (Screen.popupArea 70 11).inner 2
        "\"   ,   \"      ,      ,      ,      ,       \"      ".toList := by
  intro s sh
  obtain ⟨-, text, headings, rows, hdecode, hread, -, -, hagree, hrows, hfile, hscreen⟩ :=
    gate_table_agrees_with_evaluation s
  have hwrite : Store.empty.write "t.csv" (Csv.encodeGates s) =
      .ok (Store.empty.put ["t.csv".toList] (Csv.encodeGates s)) := rfl
  have hrow : rows[1]? = some [['"'], [','], ['"'], [','], [','], [','], [','], ['"']] := by
    rw [hrows]
    rfl
  obtain ⟨-, -, hshown⟩ :=
    hscreen sh rfl rfl 70 11 ⟨by decide, by decide, by decide, by decide⟩ 2 _ hrow
  have hline : Screen.gateLine
      (([['"'], [','], ['"'], [','], [','], [','], [','], ['"']] : Csv.Record).map Text.visible) =
        "\"   ,   \"      ,      ,      ,      ,       \"      ".toList := by decide +kernel
  rw [hline] at hshown
  exact ⟨text, _, hdecode, hwrite, hfile _ _ _ hwrite,
    ⟨headings, rows, hread, hrow, fun r hr => (hagree r hr).2⟩,
    fun i hi => hshown i hi (Text.isControl_getD (by decide) i)⟩

end BoolCalc
