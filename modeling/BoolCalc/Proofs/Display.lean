import Mathlib.Data.List.Basic
import BoolCalc.Screen.View

/-!
# What the cells of a screen show

A screen is drawn layer over layer, and here it is read cell by cell. A character that stands by
itself takes the cell of its column, so a row of such characters shows the text from its first cell
on, cut at the edge. Where characters join each other the row is read as a terminal prints it: its
clusters stand one behind the other, each with all its columns. What lies over the screen hides
everything below it.
-/

namespace BoolCalc

/-! ### Characters that stand by themselves -/

namespace Text

/-- A character that is a cluster by itself among others of its kind, and takes one column. -/
def Plain (c : Char) : Prop := ClusterClass.of c = .other ∧ columnsOf c = 1

instance (c : Char) : Decidable (Plain c) := inferInstanceAs (Decidable (_ ∧ _))

/-- A printable character that takes one column. It may join its neighbours. -/
def Single (c : Char) : Prop := columnsOf c = 1 ∧ ClusterClass.of c ≠ .control

instance (c : Char) : Decidable (Single c) := inferInstanceAs (Decidable (_ ∧ _))

lemma single_of_all {cs : List Char} (h : cs.all (fun c => decide (Single c)) = true) :
    ∀ c ∈ cs, Single c :=
  fun c hc => of_decide_eq_true (List.all_eq_true.1 h c hc)

lemma Plain.single {c : Char} (h : Plain c) : Single c :=
  ⟨h.2, by rw [h.1]; nofun⟩

/-- The characters of a text that take a column. -/
def visible (cs : List Char) : List Char := cs.filter fun c => !isWidthless c

/-- No character of the class that has no rule joins what the scan has kept. -/
def ClusterScan.Settled (st : ClusterScan) : Prop :=
  (st.last = .control ∨ st.last = .other) ∧ st.conjunct ≠ .linked

lemma isLinker_of_other {c : Char} (h : ClusterClass.of c = .other) : isLinker c = false := by
  have hlinkers : linkers.all (ClusterClass.of · != .other) = true := by decide +kernel
  rw [isLinker, List.contains_eq_mem, decide_eq_false_iff_not]
  exact fun hc => bne_iff_ne.1 (List.all_eq_true.1 hlinkers c hc) h

lemma ClusterScan.Settled.joins {st : ClusterScan} {c : Char} (hst : st.Settled)
    (h : ClusterClass.of c = .other) : st.joins c = false := by
  obtain ⟨hlast | hlast, hconjunct⟩ := hst <;> simp [ClusterScan.joins, h, hlast, hconjunct]

lemma ClusterScan.Settled.next {st : ClusterScan} {c : Char} (h : ClusterClass.of c = .other) :
    (st.next c).Settled := by
  refine ⟨.inr h, ?_⟩
  simp only [ClusterScan.next, ClusterScan.conjunctAfter, isLinker_of_other h, h, Bool.false_and]
  split <;> simp

lemma ClusterScan.Settled.split {st : ClusterScan} {cs : List Char} (hst : st.Settled)
    (h : ∀ c ∈ cs, ClusterClass.of c = .other) : st.split cs = ([], cs.map ([·])) := by
  induction cs generalizing st with
  | nil => rfl
  | cons c cs ih =>
    obtain ⟨hc, hcs⟩ := List.forall_mem_cons.1 h
    rw [ClusterScan.split, ih (.next hc) hcs, hst.joins hc]
    rfl

lemma clusters_of_other {cs : List Char} (h : ∀ c ∈ cs, ClusterClass.of c = .other) :
    clusters cs = cs.map ([·]) := by
  have hstart : ClusterScan.start.Settled := ⟨.inl rfl, nofun⟩
  rw [clusters, hstart.split h]

lemma clusters_singleton (c : Char) : clusters [c] = [[c]] := by
  simp [clusters, ClusterScan.split, ClusterScan.joins, ClusterScan.start]

lemma columnsOf_le (c : Char) : columnsOf c ≤ 3 := by
  unfold columnsOf
  split_ifs <;> omega

lemma columnsOf_eq_zero_iff {c : Char} : columnsOf c = 0 ↔ isWidthless c = true := by
  unfold columnsOf
  split_ifs <;> simp_all

lemma visible_singleton (c : Char) : visible [c] = if columnsOf c = 0 then [] else [c] := by
  cases h : isWidthless c <;> simp [visible, columnsOf_eq_zero_iff, h]

lemma visible_of_plain {cs : List Char} (h : ∀ c ∈ cs, Plain c) : visible cs = cs := by
  refine List.filter_eq_self.2 fun c hc => ?_
  have hwidth : isWidthless c ≠ true := by
    rw [Ne, ← columnsOf_eq_zero_iff, (h c hc).2]
    exact Nat.one_ne_zero
  simpa using hwidth

lemma le_foldr_columnsFrom (cs : List Char) (rest : ℕ × SignBehind) :
    rest.1 ≤ (cs.foldr columnsFrom rest).1 := by
  induction cs with
  | nil => exact Nat.le_refl _
  | cons c cs ih => exact Nat.le_trans ih (le_columnsFrom c _)

/-- Whatever its characters are drawn into, a cluster takes the columns of the last one at least. -/
lemma columns_ne_zero {cs : List Char} (hne : cs ≠ []) (h : ∀ c ∈ cs, columnsOf c ≠ 0) :
    columns cs ≠ 0 := by
  have hlast := columnsFrom_absent (cs.getLast hne)
  have hsum := le_foldr_columnsFrom cs.dropLast (columnsFrom (cs.getLast hne) (0, .absent))
  have hcs : cs.dropLast.foldr columnsFrom (columnsFrom (cs.getLast hne) (0, .absent)) =
      cs.foldr columnsFrom (0, .absent) := by
    rw [← List.foldr_concat, List.dropLast_concat_getLast]
  rw [hcs, hlast] at hsum
  have hpos := h _ (List.getLast_mem hne)
  rw [columns]
  split <;> omega

lemma mem_of_mem_clusters {cs cluster : List Char} (hcluster : cluster ∈ clusters cs) {c : Char}
    (hc : c ∈ cluster) : c ∈ cs := by
  rw [← clusters_flatten cs]
  exact List.mem_flatten_of_mem hcluster hc

/-- The number of columns that clusters take. -/
def totalColumns : List (List Char) → ℕ
  | [] => 0
  | t :: ts => columns t + totalColumns ts

lemma totalColumns_append (ts us : List (List Char)) :
    totalColumns (ts ++ us) = totalColumns ts + totalColumns us := by
  induction ts with
  | nil => exact (Nat.zero_add _).symm
  | cons t ts ih => rw [List.cons_append, totalColumns, ih, totalColumns, Nat.add_assoc]

/-- Whole clusters fill the columns before a place, one for each character, and the character at the
place is a cluster by itself, unless the text ends before it. -/
def AloneAt (cs : List Char) (n : ℕ) : Prop :=
  ∃ before rest, clusters cs = before ++ rest ∧ before.flatten.length = n ∧
    totalColumns before = n ∧ ∀ t ∈ rest.head?, t.length = 1

/-- Blocks of plain characters: the printable ones of ASCII, and four arrows. -/
def plainRanges : List (ℕ × ℕ) := [(0x20, 0x7E), (0x2190, 0x2193)]

/-- The characters with a rule of their own, for clusters or for columns. -/
def specialRanges : List (ℕ × ℕ) :=
  controlRanges ++ extendingRanges ++ spacingRanges ++ prependedRanges ++ regionalRanges ++
    leadingRanges ++ vowelRanges ++ trailingRanges ++ syllableRanges ++ widthlessRanges ++
    wideRanges ++ skinColourRanges

lemma isWithin_append (rs ts : List (ℕ × ℕ)) (c : Char) :
    isWithin (rs ++ ts) c = (isWithin rs c || isWithin ts c) := List.any_append

lemma plain_of_isWithin {c : Char} (h : isWithin plainRanges c = true) : Plain c := by
  have hapart : ∀ r ∈ plainRanges, ∀ t ∈ specialRanges, t.2 < r.1 ∨ r.2 < t.1 := by decide +kernel
  have hspecial : isWithin specialRanges c = false := by
    rw [Bool.eq_false_iff]
    intro hc
    obtain ⟨r, hr, hrc⟩ := isWithin_iff.1 h
    obtain ⟨t, ht, htc⟩ := isWithin_iff.1 hc
    have := hapart r hr t ht
    omega
  have hjoiner : c ≠ '\u200d' := by
    rintro rfl
    exact absurd h (by decide)
  have hkhmer : c ≠ '\u17d8' := by
    rintro rfl
    exact absurd h (by decide)
  simp only [specialRanges, isWithin_append, Bool.or_eq_false_iff] at hspecial
  simp [Plain, ClusterClass.of, columnsOf, isWidthless, isExtending, isSkinColour, hjoiner, hkhmer,
    hspecial]

lemma plain_of_all {cs : List Char} (h : cs.all (isWithin plainRanges) = true) :
    ∀ c ∈ cs, Plain c :=
  fun c hc => plain_of_isWithin (List.all_eq_true.1 h c hc)

/-- The characters of a literal are at hand as a list, and so they can be tested. -/
lemma plain_ofList (cs : List Char) (h : cs.all (isWithin plainRanges) = true) :
    ∀ c ∈ (String.ofList cs).toList, Plain c := by
  rw [String.toList_ofList]
  exact plain_of_all h

end Text

open Text (visible)

/-! ### Rows -/

namespace Glyph

/-- The glyph of a character that is a cluster by itself. -/
def single (change : Style → Style) (c : Char) : Glyph := ⟨[c], Text.columns [c], change⟩

variable {change : Style → Style} {cs : List Char} {width : ℕ}

lemma ofText_single (h : Text.clusters cs = cs.map ([·])) :
    ofText change cs = cs.map (single change) := by
  rw [ofText, h, List.map_map]
  rfl

lemma fit_single (width : ℕ) (h : ∀ c ∈ cs, Text.columnsOf c = 1) :
    fit width (cs.map (single change)) = (cs.take width).map (single change) := by
  induction cs generalizing width with
  | nil => rw [List.take_nil, List.map_nil, fit]
  | cons c cs ih =>
    obtain ⟨hc, hcs⟩ := List.forall_mem_cons.1 h
    have hwidth : (single change c).width = 1 := by rw [single, Text.columns_singleton, hc]
    rw [List.map_cons, fit, hwidth]
    cases width with
    | zero => rfl
    | succ width =>
      rw [if_pos (Nat.le_add_left 1 width), Nat.add_sub_cancel, ih width hcs, List.take_succ_cons,
        List.map_cons]

/-- **A row of a paragraph shows its text character by character**, cut at the edge, if each of them
stands by itself and takes one column. -/
lemma paragraphRow_cut (behind : Style → Style) (hclusters : Text.clusters cs = cs.map ([·]))
    (h : ∀ c ∈ cs, Text.columnsOf c = 1) :
    paragraphRow behind width (cut width (ofText change cs)) =
      (cs.take width).map fun c => ⟨[c], change⟩ := by
  have hwidth : ∀ g ∈ cs.map (single change), g.width = 1 := by
    intro g hg
    obtain ⟨c, hc, rfl⟩ := List.mem_map.1 hg
    rw [single, Text.columns_singleton, h c hc]
  cases width with
  | zero => simp [paragraphRow]
  | succ width =>
    have hall : (cs.map (single change)).filter (·.width ≤ width + 1) = cs.map (single change) :=
      List.filter_eq_self.2 fun g hg =>
        decide_eq_true (Nat.le_trans (Nat.le_of_eq (hwidth g hg)) (Nat.le_add_left 1 width))
    have hsome : ((cs.take (width + 1)).map (single change)).filter (0 < ·.width) =
        (cs.take (width + 1)).map (single change) := by
      refine List.filter_eq_self.2 fun g hg => ?_
      rw [hwidth g (List.map_subset _ (List.take_subset _ _) hg)]
      rfl
    rw [paragraphRow, cut, ofText_single hclusters, hall, fit_single _ h, hsome, List.flatMap_map]
    have hstrokes : ∀ c ∈ cs.take (width + 1),
        strokes behind (single change c) = [⟨[c], change⟩] := by
      intro c hc
      have hone : (single change c).width = 1 :=
        hwidth _ (List.mem_map_of_mem (List.mem_of_mem_take hc))
      rw [strokes, hone]
      rfl
    rw [List.flatMap_congr hstrokes, ← List.map_eq_flatMap, ← List.map_take, List.take_take,
      Nat.min_self]

/-- A row of a paragraph shows plain text as it is. -/
lemma paragraphRow_plain (behind : Style → Style) (h : ∀ c ∈ cs, Text.Plain c) :
    paragraphRow behind width (cut width (ofText change cs)) =
      (cs.take width).map fun c => ⟨[c], change⟩ :=
  paragraphRow_cut behind (Text.clusters_of_other fun c hc => (h c hc).1) fun c hc => (h c hc).2

/-- Glyphs that have room leave what is behind them the rest of the room. -/
lemma fit_append {before : List Glyph} (rest : List Glyph) (h : total before ≤ width) :
    fit width (before ++ rest) = before ++ fit (width - total before) rest := by
  induction before generalizing width with
  | nil => rfl
  | cons g gs ih =>
    rw [total] at h
    rw [List.cons_append, fit, if_pos (by omega), ih (by omega), total, Nat.sub_add_eq,
      List.cons_append]

lemma width_le_total {g : Glyph} {gs : List Glyph} (h : g ∈ gs) : g.width ≤ total gs := by
  induction gs with
  | nil => cases h
  | cons k ks ih =>
    rw [total]
    obtain rfl | hmem := List.mem_cons.1 h
    · exact Nat.le_add_right _ _
    · exact Nat.le_trans (ih hmem) (Nat.le_add_left _ _)

lemma total_filter_pos (gs : List Glyph) : total (gs.filter (0 < ·.width)) = total gs := by
  induction gs with
  | nil => rfl
  | cons g gs ih =>
    by_cases hg : 0 < g.width
    · rw [List.filter_cons_of_pos (by simpa using hg), total, ih, total]
    · rw [List.filter_cons_of_neg (by simpa using hg), ih, total]
      omega

lemma length_flatMap_strokes (behind : Style → Style) {gs : List Glyph}
    (h : ∀ g ∈ gs, g.width ≠ 0) : (gs.flatMap (strokes behind)).length = total gs := by
  induction gs with
  | nil => rfl
  | cons g gs ih =>
    obtain ⟨hg, hgs⟩ := List.forall_mem_cons.1 h
    rw [List.flatMap_cons, List.length_append, ih hgs, strokes, total, List.length_cons,
      List.length_replicate]
    omega

/-- **In a row of a paragraph a glyph starts in the column behind all the glyphs before it**, as
long as there is room. -/
lemma getElem?_paragraphRow (behind : Style → Style) {before : List Glyph} (rest : List Glyph)
    (h : total before < width) :
    (paragraphRow behind width (cut width (before ++ rest)))[total before]? =
      (((fit (width - total before) (rest.filter (·.width ≤ width))).filter
        (0 < ·.width)).flatMap (strokes behind))[0]? := by
  have hnarrow : before.filter (·.width ≤ width) = before :=
    List.filter_eq_self.2 fun g hg =>
      decide_eq_true (Nat.le_trans (width_le_total hg) (Nat.le_of_lt h))
  have hlength : ((before.filter (0 < ·.width)).flatMap (strokes behind)).length =
      total before := by
    have hpos : ∀ g ∈ before.filter (0 < ·.width), g.width ≠ 0 := fun g hg =>
      Nat.ne_of_gt (by simpa using List.of_mem_filter hg)
    rw [length_flatMap_strokes behind hpos, total_filter_pos]
  rw [cut, List.filter_append, hnarrow, fit_append _ (Nat.le_of_lt h), paragraphRow,
    List.filter_append, List.flatMap_append, List.getElem?_take_of_lt h,
    List.getElem?_append_right (Nat.le_of_eq hlength), hlength, Nat.sub_self]

lemma total_map (change : Style → Style) (clusters : List (List Char)) :
    total (clusters.map fun t => ⟨t, Text.columns t, change⟩) =
      Text.totalColumns clusters := by
  induction clusters with
  | nil => rfl
  | cons t ts ih => rw [List.map_cons, total, ih, Text.totalColumns]

/-- A character that is a cluster by itself is drawn in the column of its place, if it takes one
column and so do the characters before it. -/
lemma paragraphRow_aloneAt (change behind : Style → Style) {n : ℕ} (hn : n < width)
    (h : Text.AloneAt cs n) (hcolumns : ∀ c, cs[n]? = some c → Text.columnsOf c = 1) :
    ((paragraphRow behind width (cut width (ofText change cs)))[n]?).map Stroke.text =
      cs[n]?.map ([·]) := by
  obtain ⟨before, rest, hsplit, hlength, hsum, halone⟩ := h
  have hcs : cs = before.flatten ++ rest.flatten := by
    rw [← List.flatten_append, ← hsplit, Text.clusters_flatten]
  have hplace : cs[n]? = rest.flatten[0]? := by
    rw [hcs, List.getElem?_append_right (Nat.le_of_eq hlength), hlength, Nat.sub_self]
  have htotal := total_map change before
  rw [hsum] at htotal
  have hrow := getElem?_paragraphRow behind (rest.map fun t => ⟨t, Text.columns t, change⟩)
    (htotal ▸ hn)
  rw [htotal, ← List.map_append, ← hsplit, ← ofText] at hrow
  rw [hrow, hplace]
  match rest, halone with
  | [], _ => rfl
  | t :: ts, halone =>
    obtain ⟨c, rfl⟩ := List.length_eq_one_iff.1 (halone t rfl)
    have hc : Text.columnsOf c = 1 := hcolumns c hplace
    have hone : 1 ≤ width - n ∧ 1 ≤ width := by omega
    simp [fit, strokes, hc, hone]

/-- A row of a paragraph with one character, which may be wide or not to be seen. -/
lemma paragraphRow_char (behind : Style → Style) (hwidth : 3 ≤ width) (c : Char) :
    paragraphRow behind width (cut width (ofText change [c])) =
      if Text.columnsOf c = 0 then []
      else ⟨[c], change⟩ :: List.replicate (Text.columnsOf c - 1) ⟨[' '], behind⟩ := by
  have hle := Text.columnsOf_le c
  have hfits : Text.columnsOf c ≤ width := Nat.le_trans hle hwidth
  have hcut : cut width (ofText change [c]) = [single change c] := by
    simp [cut, ofText_single (Text.clusters_singleton c), fit, single, hfits]
  rw [paragraphRow, hcut]
  by_cases hzero : Text.columnsOf c = 0
  · simp [single, hzero]
  · have hpos : 0 < Text.columnsOf c := Nat.pos_of_ne_zero hzero
    simp only [single, Text.columns_singleton, List.filter_cons, hpos, decide_true, if_true,
      List.filter_nil, List.flatMap_cons, List.flatMap_nil, List.append_nil, strokes, hzero,
      if_false]
    refine List.take_of_length_le ?_
    simp only [List.length_cons, List.length_replicate]
    omega

lemma mem_of_mem_fit {g : Glyph} {gs : List Glyph} (h : g ∈ fit width gs) : g ∈ gs := by
  induction gs generalizing width with
  | nil => cases h
  | cons k ks ih =>
    rw [fit] at h
    split_ifs at h
    · rcases List.mem_cons.1 h with rfl | h
      · exact List.mem_cons_self
      · exact List.mem_cons_of_mem _ (ih h)
    · cases h

/-- Glyphs that all have a width stay apart. -/
lemma join_of_width_ne_zero {gs : List Glyph} (h : ∀ g ∈ gs, g.width ≠ 0) :
    joinFirst (joinBefore gs) = gs := by
  have hbefore : joinBefore gs = gs := by
    induction gs with
    | nil => rfl
    | cons g gs ih =>
      have hgs := (List.forall_mem_cons.1 h).2
      rw [joinBefore, ih hgs]
      cases gs with
      | nil => rfl
      | cons k ks => exact if_neg (hgs k List.mem_cons_self)
  rw [hbefore]
  match gs, h with
  | [], _ | [_], _ => rfl
  | g :: k :: ks, h => exact if_neg (h g List.mem_cons_self)

lemma listRow_of_width_ne_zero {gs : List Glyph} (h : ∀ g ∈ gs, g.width ≠ 0) :
    listRow width gs = (fit width gs).flatMap (strokes fun _ => .plain) := by
  rw [listRow, join_of_width_ne_zero fun g hg => h g (mem_of_mem_fit hg)]

/-- What fits into a row are the glyphs before the first one for which no room is left. -/
lemma exists_fit_eq_take (room : ℕ) (gs : List Glyph) :
    ∃ k, fit room gs = gs.take k ∧
      ∀ g, gs[k]? = some g → room < total (gs.take k) + g.width := by
  induction gs generalizing room with
  | nil => exact ⟨0, rfl, nofun⟩
  | cons g gs ih =>
    by_cases hg : g.width ≤ room
    · obtain ⟨k, hfit, hnext⟩ := ih (room - g.width)
      refine ⟨k + 1, by rw [fit, if_pos hg, hfit, List.take_succ_cons], fun d hd => ?_⟩
      have := hnext d hd
      rw [List.take_succ_cons, total]
      omega
    · refine ⟨0, by rw [fit, if_neg hg, List.take_zero], fun d hd => ?_⟩
      cases hd
      rw [List.take_zero, total]
      omega

end Glyph

/-! ### Layers -/

/-- What a stroke makes of a cell. -/
def Stroke.onto (s : Stroke) (old : Cell) : Cell := ⟨s.text, s.change old.style⟩

namespace Canvas

variable {a : Area} {rows : List (List Stroke)} {i j : ℕ} {old : Cell}

/-- What a canvas makes of a cell that it is drawn over. -/
def onto (c : Canvas) (x y : ℕ) (old : Cell) : Cell := c.foldl (fun old l => l.apply x y old) old

lemma onto_cons (l : Layer) (c : Canvas) (x y : ℕ) (old : Cell) :
    onto (l :: c) x y old = onto c x y (l.apply x y old) := rfl

lemma onto_append (c d : Canvas) (x y : ℕ) (old : Cell) :
    onto (c ++ d) x y old = d.onto x y (c.onto x y old) := List.foldl_append

lemma cell_append_onto (c d : Canvas) (x y : ℕ) : cell (c ++ d) x y = d.onto x y (c.cell x y) :=
  cell_append c d x y

lemma apply_row (k : ℕ) (strokes : List Stroke) :
    (Layer.row a.x (a.y + k) strokes).apply (a.x + i) (a.y + j) old =
      if j = k then (strokes[i]?.map (·.onto old)).getD old else old := by
  by_cases hk : j = k
  · subst hk
    simp only [Layer.apply, decide_true, Nat.le_add_right, Bool.and_self, if_true,
      Nat.add_sub_cancel_left]
    cases strokes[i]? <;> rfl
  · simp [Layer.apply, hk]

/-- Of rows one below the other, from the row `k` on, a cell shows its own. -/
lemma onto_rows (rows : List (List Stroke)) (k : ℕ) (old : Cell) :
    onto ((rows.zipIdx k).map fun r => .row a.x (a.y + r.2) r.1) (a.x + i) (a.y + j) old =
      if j < k then old else ((rows[j - k]?.bind (·[i]?)).map (·.onto old)).getD old := by
  induction rows generalizing k old with
  | nil => simp [onto]
  | cons r rows ih =>
    rw [List.zipIdx_cons, List.map_cons, onto_cons, apply_row, ih]
    -- The first row covers the cell, or one of those behind it does, or none.
    obtain hlt | rfl | hlt := Nat.lt_trichotomy j k
    · rw [if_pos (by omega), if_neg (by omega), if_pos hlt]
    · rw [if_pos (by omega), if_pos rfl, if_neg (by omega), Nat.sub_self]
      rfl
    · have hrow : (r :: rows)[j - k]? = rows[j - (k + 1)]? := by
        rw [← Nat.succ_sub_one (j - k), List.getElem?_cons, if_neg (by omega)]
        congr 1
      rw [if_neg (by omega), if_neg (by omega), if_neg (by omega), hrow]

/-- A border leaves what it surrounds. -/
lemma apply_box_inner (title : List Char) (old : Cell) (hi : i < a.inner.width)
    (hj : j < a.inner.height) :
    (Layer.box a title).apply (a.inner.x + i) (a.inner.y + j) old = old := by
  simp only [Area.inner] at hi hj ⊢
  have hborder : a.borderChar title (a.x + 1 + i) (a.y + 1 + j) = none := by
    have hfirst : a.x + 1 + i ≠ a.x := by omega
    have hlast : a.x + 1 + i + 1 ≠ a.x + a.width := by omega
    have htop : a.y + 1 + j ≠ a.y := by omega
    have hbottom : a.y + 1 + j + 1 ≠ a.y + a.height := by omega
    simp [Area.borderChar, hfirst, hlast, htop, hbottom]
  simp [Layer.apply, hborder]

lemma onto_rowsIn (hj : j < a.height) :
    (rowsIn a rows).onto (a.x + i) (a.y + j) old =
      ((rows[j]?.bind (·[i]?)).map (·.onto old)).getD old := by
  rw [rowsIn, onto_rows, if_neg (Nat.not_lt_zero j), Nat.sub_zero, List.getElem?_take_of_lt hj]

/-- The cells of a row of an area. -/
def rowCells (c : Canvas) (a : Area) (j : ℕ) : List Cell :=
  (List.range a.width).map fun i => c.cell (a.x + i) (a.y + j)

/-- Strokes are put into the first cells of a row. -/
lemma rowCells_eq {c : Canvas} {strokes : List Stroke} (hfits : strokes.length ≤ a.width)
    (h : ∀ i < a.width, c.cell (a.x + i) (a.y + j) = (strokes[i]?.map (·.onto old)).getD old) :
    c.rowCells a j =
      strokes.map (·.onto old) ++ List.replicate (a.width - strokes.length) old := by
  refine List.ext_getElem? fun i => ?_
  obtain hi | hi := Nat.lt_or_ge i a.width
  · rw [rowCells, List.getElem?_map, List.getElem?_range hi, Option.map_some, h i hi]
    obtain hs | hs := Nat.lt_or_ge i strokes.length
    · rw [List.getElem?_append_left (by simpa using hs), List.getElem?_map,
        List.getElem?_eq_getElem hs]
      rfl
    · rw [List.getElem?_append_right (by simpa using hs), List.getElem?_eq_none hs,
        List.length_map, List.getElem?_replicate, if_pos (by omega)]
      rfl
  · rw [List.getElem?_eq_none (by simp [rowCells, hi]),
      List.getElem?_eq_none (by simp only [List.length_append, List.length_map,
        List.length_replicate]; omega)]

end Canvas

/-! ### Rows as they are printed -/

namespace Cell

lemma seenBehind_append (hidden rest : List Cell) :
    seenBehind hidden.length (hidden ++ rest) = seen rest := by
  induction hidden with
  | nil => rfl
  | cons c cs ih => exact ih

lemma seen_cons (c : Cell) (cs : List Cell) :
    seen (c :: cs) = c :: seenBehind (Text.columns c.text - 1) cs := rfl

/-- Blanks hide nothing. -/
lemma seen_replicate_blank (n : ℕ) (style : Style) :
    seen (List.replicate n ⟨[' '], style⟩) = List.replicate n ⟨[' '], style⟩ := by
  have hone : Text.columns [' '] - 1 = 0 := by decide +kernel
  induction n with
  | zero => rfl
  | succ n ih =>
    rw [List.replicate_succ, seen_cons, hone]
    exact congrArg _ ih

/-- Each glyph is printed over all its columns. -/
lemma seen_strokes (behind : Style → Style) {gs : List Glyph}
    (h : ∀ g ∈ gs, g.width ≠ 0 ∧ g.width = Text.columns g.text) (old : Cell) (rest : List Cell) :
    seen ((gs.flatMap (Glyph.strokes behind)).map (·.onto old) ++ rest) =
      gs.map (fun g => ⟨g.text, g.change old.style⟩) ++ seen rest := by
  induction gs with
  | nil => rfl
  | cons g gs ih =>
    obtain ⟨⟨hpos, hwidth⟩, hgs⟩ := List.forall_mem_cons.1 h
    have hhidden : Text.columns g.text - 1 =
        ((List.replicate (g.width - 1) (⟨[' '], behind⟩ : Stroke)).map (·.onto old)).length := by
      rw [List.length_map, List.length_replicate, hwidth]
    rw [List.flatMap_cons, Glyph.strokes, List.cons_append, List.map_cons, List.map_append,
      List.cons_append, List.append_assoc, seen_cons]
    change _ :: seenBehind (Text.columns g.text - 1) _ = _
    rw [hhidden, seenBehind_append, ih hgs]
    rfl

end Cell

/-! ### Rows that are shown -/

namespace Screen

/-- A size of the screen in which there is room for everything, and in which four times a side is
still counted in sixteen bits. -/
structure Usual (width height : ℕ) : Prop where
  width_ge : 70 ≤ width
  width_le : width ≤ 16383
  height_ge : 11 ≤ height
  height_le : height ≤ 16383

lemma fourFifths_of_le {n : ℕ} (h : n ≤ 16383) : fourFifths n = n * 4 / 5 := by
  rw [fourFifths, Nat.mod_eq_of_lt (by omega)]

/-- What lies over a screen of usual size covers four fifths of it. -/
lemma Usual.popupArea_eq {width height : ℕ} (h : Usual width height) :
    popupArea width height = ⟨width / 10, height / 10, width * 4 / 5, height * 4 / 5⟩ := by
  rw [popupArea, fourFifths_of_le h.width_le, fourFifths_of_le h.height_le]

/-- A row of an area shows a text, cut at the edge or else with blanks behind it. -/
def ShowsRow (c : Canvas) (a : Area) (j : ℕ) (cs : List Char) : Prop :=
  ∀ i < a.width, (c.cell (a.x + i) (a.y + j)).text = [cs[i]?.getD ' ']

variable {c : Canvas} {a : Area} {rows : List (List Stroke)} {j : ℕ} {cs : List Char}

/-- Rows put into empty ones show what their strokes spell. -/
lemma showsRow_rowsIn (hc : ShowsRow c a j []) (hj : j < a.height)
    (hrow : ((rows[j]?.getD []).map Stroke.text).take a.width = (cs.map ([·])).take a.width) :
    ShowsRow (c ++ Canvas.rowsIn a rows) a j cs := by
  intro i hi
  have hstroke : ((rows[j]?.bind (·[i]?)).map Stroke.text) = cs[i]?.map ([·]) := by
    have hi' := congrArg (·[i]?) hrow
    simp only [List.getElem?_take_of_lt hi, List.getElem?_map] at hi'
    rw [← hi']
    cases rows[j]? <;> rfl
  rw [Canvas.cell_append_onto, Canvas.onto_rowsIn hj]
  cases hs : rows[j]?.bind (·[i]?) with
  | none =>
    rw [hs] at hstroke
    rw [Option.map_eq_none_iff.1 hstroke.symm]
    exact hc i hi
  | some s =>
    rw [hs] at hstroke
    obtain ⟨ch, hch, htext⟩ := Option.map_eq_some_iff.1 hstroke.symm
    rw [hch]
    exact htext.symm

lemma showsRow_paint (h : ShowsRow c a j cs) (b : Area) (change : Style → Style) :
    ShowsRow (c ++ [.paint b change]) a j cs := by
  intro i hi
  rw [← h i hi, Canvas.cell_append_onto, Canvas.onto_cons, Layer.apply]
  split <;> rfl

lemma showsRow_nil (a : Area) (j : ℕ) : ShowsRow [] a j [] := fun _ _ => rfl

lemma showsRow_box (h : ShowsRow c a.inner j cs) (hj : j < a.inner.height) (title : List Char) :
    ShowsRow (c ++ [.box a title]) a.inner j cs := by
  intro i hi
  rw [← h i hi, Canvas.cell_append_onto, Canvas.onto_cons, Canvas.apply_box_inner title _ hi hj]
  rfl

lemma showsRow_clear (c : Canvas) (a : Area) (hj : j < a.inner.height) :
    ShowsRow (c ++ [.clear a]) a.inner j [] := by
  intro i hi
  simp only [Area.inner] at hi hj ⊢
  have hin : a.contains (a.x + 1 + i) (a.y + 1 + j) = true := by
    simp only [Area.contains, Bool.and_eq_true, decide_eq_true_eq]
    omega
  simp [Canvas.cell_append_onto, Canvas.onto, Layer.apply, hin, Cell.blank]

/-- A frame that is put over a screen is empty inside, whatever was there. -/
lemma showsRow_frame (c : Canvas) (a : Area) (change : Style → Style) (title : List Char)
    (hj : j < a.inner.height) :
    ShowsRow (c ++ [.clear a, .paint a change, .box a title]) a.inner j [] := by
  have h := showsRow_box (showsRow_paint (showsRow_clear c a hj) a change) hj title
  rwa [List.append_assoc, List.append_assoc] at h

/-- Lines of characters that stand by themselves stand one in each row. -/
lemma showsRow_paragraph {lines : List (List Char)} (hc : ShowsRow c a j []) (hj : j < a.height)
    (hclusters : ∀ line ∈ lines, Text.clusters line = line.map ([·]))
    (h : ∀ line ∈ lines, ∀ ch ∈ line, Text.columnsOf ch = 1) :
    ShowsRow (c ++ paragraph a (lines.map (Glyph.ofText id))) a j (lines[j]?.getD []) := by
  refine showsRow_rowsIn hc hj ?_
  rw [List.getElem?_map, List.getElem?_map]
  cases hline : lines[j]? with
  | none => simp
  | some line =>
    simp only [Option.map_some, Option.getD_some,
      Glyph.paragraphRow_cut id (hclusters line (List.mem_of_getElem? hline))
        (h line (List.mem_of_getElem? hline)), List.map_map,
      ← List.map_take, List.take_take, Nat.min_self]
    rfl

end Screen

end BoolCalc
