import BoolCalc.Proofs.Recall
import BoolCalc.Proofs.Zipper

/-!
# The place of a walk through the history

While expressions are taken, Up and Down lead to older and newer entries, and in between the line
can be edited. The place of such a walk is told by an automaton that knows nothing but the number of
entries: it stops at the oldest one, and behind the newest one there is no entry. Arrows that come
to an entry put its expression into the line, whatever stood there, and editing leaves the place
alone.
-/

namespace BoolCalc

/-- The keys of a walk. -/
inductive WalkKey where
  | up
  | down
  | edit (key : LineKey)
deriving DecidableEq, Repr

namespace WalkKey

/-- The key itself. -/
def key : WalkKey → Key
  | .up => .up
  | .down => .down
  | .edit k => k.key

/-- The place after a key, among `n` entries that are counted from the newest one; behind that one
there is no place. -/
def place (n : ℕ) : WalkKey → Option ℕ → Option ℕ
  | .up, none => if n = 0 then none else some 0
  | .up, some i => if n = 0 then some i else some (min (i + 1) (n - 1))
  | .down, none => none
  | .down, some 0 => none
  | .down, some (i + 1) => some i
  | .edit _, r => r

/-- The place after a run of keys. -/
def placeAll (n : ℕ) (ks : List WalkKey) (r : Option ℕ) : Option ℕ :=
  ks.foldl (fun r k => k.place n r) r

@[simp] lemma placeAll_nil (n : ℕ) (r : Option ℕ) : placeAll n [] r = r := rfl

@[simp] lemma placeAll_cons (n : ℕ) (k : WalkKey) (ks : List WalkKey) (r : Option ℕ) :
    placeAll n (k :: ks) r = placeAll n ks (k.place n r) := rfl

end WalkKey

/-- Keys of a walk, each with or without the control key, as they are pressed. -/
def presses (ks : List (WalkKey × Bool)) : List Press := ks.map fun k => ⟨k.1.key, k.2⟩

namespace Shell

variable {sh next : Shell} {i : ℕ}

/-- The shell stands at an entry, which its place counts from the last one of the history on: the
line is the expression of the entry, with the cursor at its end. -/
def AtEntry (sh : Shell) : Prop :=
  ∃ i e, sh.recalled = some i ∧ i < sh.history.length ∧
    sh.history[sh.history.length - 1 - i]? = some e ∧
    sh.input = e.expression.toList ∧ sh.cursor = e.expression.length

/-- What a key of a walk does. -/
structure Walked (k : WalkKey) (sh next : Shell) : Prop where
  place : next.recalled = k.place sh.history.length sh.recalled
  /-- Nothing but the line, its cursor and the place is touched. -/
  kept : next = { sh with input := next.input, cursor := next.cursor, recalled := next.recalled }
  older : k = .up → 0 < sh.history.length → next.AtEntry
  newer : k = .down → next.recalled ≠ none → next.AtEntry
  emptied : k = .down → sh.recalled = some 0 → next.input = [] ∧ next.cursor = 0
  /-- Where there is nowhere to go, the line stays as it was typed. -/
  stayed : k = .down ∧ sh.recalled = none ∨ k = .up ∧ sh.history.length = 0 → next = sh
  edited : ∀ l, k = .edit l → next.line = ((Zipper.ofLine sh.line).edit l).line

/-! ### One key -/

lemma Retyped.eq_update (h : Retyped sh next) :
    next = { sh with input := next.input, cursor := next.cursor, recalled := next.recalled } := by
  obtain ⟨_, _, _, rfl⟩ := h
  rfl

lemma atEntry_recallEntry (hi : i < sh.history.length) : (sh.recallEntry i).AtEntry := by
  have hlast : sh.history.length - 1 - i < sh.history.length := by omega
  have hentry : sh.history.reverse[i]? = some sh.history[sh.history.length - 1 - i] := by
    rw [List.getElem?_reverse hi, List.getElem?_eq_getElem hlast]
  rw [recallEntry, hentry]
  exact ⟨i, _, rfl, hi, List.getElem?_eq_getElem hlast, rfl, String.length_toList⟩

lemma walked_up (h : sh.Coherent) : Walked .up sh sh.recallOlder := by
  rcases Nat.eq_zero_or_pos sh.history.length with hzero | hpos
  · have hsame : sh.recallOlder = sh := by
      rw [recallOlder, List.length_eq_zero_iff.1 hzero]
      rfl
    have hnone : sh.recalled = none := by
      refine Option.eq_none_iff_forall_ne_some.2 fun i hi => ?_
      have := (h.recalled_lt i hi).2
      omega
    rw [hsame]
    refine ⟨?_, rfl, fun _ hpos => ?_, by rintro ⟨⟩, by rintro ⟨⟩, fun _ => rfl, by rintro _ ⟨⟩⟩
    · rw [hnone, hzero]
      rfl
    · omega
  · have hlt := olderPlace_lt hpos
    have hne : sh.history.length ≠ 0 := by omega
    rw [recallOlder_eq hpos]
    refine ⟨?_, (retyped_recallEntry sh _).eq_update, fun _ _ => atEntry_recallEntry hlt,
      by rintro ⟨⟩, by rintro ⟨⟩, ?_, by rintro _ ⟨⟩⟩
    · rw [recalled_recallEntry hlt, olderPlace]
      cases sh.recalled <;> simp only [WalkKey.place, if_neg hne]
    · rintro (⟨hk, -⟩ | ⟨-, hzero⟩)
      · cases hk
      · omega

lemma walked_down (h : sh.Coherent) : Walked .down sh sh.recallNewer := by
  unfold recallNewer
  split
  · rename_i hnone
    refine ⟨?_, rfl, nofun, fun _ hne => absurd hnone hne, ?_, fun _ => rfl, nofun⟩
    · rw [hnone]
      rfl
    · rw [hnone]
      exact nofun
  · rename_i hzero
    refine ⟨?_, rfl, nofun, fun _ hne => absurd rfl hne, fun _ _ => ⟨rfl, rfl⟩, ?_, nofun⟩
    · rw [hzero]
      rfl
    · rintro (⟨-, hnone⟩ | ⟨hk, -⟩)
      · rw [hzero] at hnone
        cases hnone
      · cases hk
  · rename_i i hsucc
    have hlt : i < sh.history.length := by
      have := (h.recalled_lt (i + 1) hsucc).2
      omega
    refine ⟨?_, (retyped_recallEntry sh i).eq_update, nofun, fun _ _ => atEntry_recallEntry hlt,
      ?_, ?_, nofun⟩
    · rw [recalled_recallEntry hlt, hsucc]
      rfl
    · rw [hsucc]
      exact nofun
    · rintro (⟨-, hnone⟩ | ⟨hk, -⟩)
      · rw [hsucc] at hnone
        cases hnone
      · cases hk

lemma walked_edit (hm : sh.mode = .expression) (l : LineKey) :
    Walked (.edit l) sh (sh.withLine ((Zipper.ofLine sh.line).edit l).line) := by
  have hn : sh.mode.takesName = false := (typing_of_expression hm).2.1
  refine ⟨?_, ?_, nofun, nofun, nofun, by simp, fun l' hl => ?_⟩
  · rw [withLine_eq]
    rfl
  · rw [withLine_eq, hn]
    rfl
  · cases hl
    exact line_withLine sh _

lemma carryOut_arrow (hm : sh.mode = .expression) (control : Bool) (st : Store) :
    (sh.press ⟨.up, control⟩).carryOut st = some (sh.recallOlder, st) ∧
      (sh.press ⟨.down, control⟩).carryOut st = some (sh.recallNewer, st) := by
  have hup : sh.press ⟨.up, control⟩ = .settle sh.recallOlder := by
    simp only [press, hm, expressionKey]
  have hdown : sh.press ⟨.down, control⟩ = .settle sh.recallNewer := by
    simp only [press, hm, expressionKey]
  rw [hup, hdown]
  exact ⟨rfl, rfl⟩

/-- **A key of a walk leads on**, without a look at the files, and keeps the shell in order. -/
lemma Coherent.walk (h : sh.Coherent) (hm : sh.mode = .expression) (k : WalkKey) (control : Bool)
    (st : Store) :
    ∃ next, (sh.press ⟨k.key, control⟩).carryOut st = some (next, st) ∧ Walked k sh next ∧
      next.Coherent ∧ next.mode = .expression := by
  have hmode {next : Shell} (hw : Walked k sh next) : next.mode = .expression := by
    rw [hw.kept]
    exact hm
  obtain ⟨hup, hdown⟩ := carryOut_arrow hm control st
  cases k with
  | up => exact ⟨_, hup, walked_up h, h.recallOlder hm, hmode (walked_up h)⟩
  | down => exact ⟨_, hdown, walked_down h, h.recallNewer hm, hmode (walked_down h)⟩
  | edit l =>
    obtain ⟨ht, -, -⟩ := typing_of_expression hm
    have hline : sh.line = (Zipper.ofLine sh.line).line :=
      (Zipper.line_ofLine h.line_cursor_le).symm
    refine ⟨_, ?_, walked_edit hm l, ?_, hmode (walked_edit hm l)⟩
    · rw [WalkKey.key, press_lineKey (.inl ht), editKey_lineKey hline]
      rfl
    · exact h.withLine (.inl ht) (by simp [Zipper.line])

/-! ### Runs of keys -/

/-- What a run of such keys keeps, and where it leads. -/
lemma Coherent.walkAll (h : sh.Coherent) (hm : sh.mode = .expression) (ks : List (WalkKey × Bool))
    (st : Store) :
    ∃ sh', pressAll sh st (presses ks) = some (sh', st) ∧ Retyped sh sh' ∧
      sh'.recalled = WalkKey.placeAll sh.history.length (ks.map Prod.fst) sh.recalled ∧
      sh'.Coherent ∧ sh'.mode = .expression := by
  induction ks generalizing sh with
  | nil => exact ⟨sh, rfl, .refl sh, rfl, h, hm⟩
  | cons k ks ih =>
    obtain ⟨next, hnext, hw, hcoherent, hmode⟩ := h.walk hm k.1 k.2 st
    obtain ⟨sh', hrun, hretyped, hplace, hrest⟩ := ih hcoherent hmode
    have hkept : Retyped sh next := ⟨_, _, _, hw.kept⟩
    refine ⟨sh', (pressAll_cons hnext).trans hrun, hkept.trans hretyped, ?_, hrest⟩
    rw [hplace, hw.place, hkept.history, List.map_cons, WalkKey.placeAll_cons]

/-- **Recalling is a clamped walk.** In every state that keys lead to in which expressions are
taken, let the shell take any run of arrows up and down and of keys that edit the line, each with or
without the control key. Then its place is the one the automaton tells, all but the line, its cursor
and the place is as it was, the history among it, and no file has changed. And whichever such key
comes next does what is said of it: up, where there are entries, and down, where a place is left,
put the expression of the entry at the place into the line, with the cursor at its end; down from
the newest entry empties the line; an arrow with nowhere to go leaves the state as it is; and the
other keys edit the line. -/
theorem recall_walks_clamped {sh : Shell} (hr : sh.Reached) (hm : sh.mode = .expression)
    (ks : List (WalkKey × Bool)) (st : Store) :
    ∃ sh', pressAll sh st (presses ks) = some (sh', st) ∧
      sh'.recalled = WalkKey.placeAll sh.history.length (ks.map Prod.fst) sh.recalled ∧
      sh' = { sh with input := sh'.input, cursor := sh'.cursor, recalled := sh'.recalled } ∧
      ∀ (k : WalkKey) (control : Bool), ∃ next,
        pressAll sh st (presses (ks ++ [(k, control)])) = some (next, st) ∧ Walked k sh' next := by
  obtain ⟨sh', hrun, hretyped, hplace, hcoherent, hmode⟩ := hr.coherent.walkAll hm ks st
  refine ⟨sh', hrun, hplace, hretyped.eq_update, fun k control => ?_⟩
  obtain ⟨next, hnext, hw, -⟩ := hcoherent.walk hmode k control st
  refine ⟨next, ?_, hw⟩
  rw [presses, List.map_append]
  exact (pressAll_append hrun _).trans (pressAll_cons hnext)

/-- Two expressions are recalled, up to the older one and not beyond; the recalled line is edited on
the way, and the next arrow drops the edit. -/
theorem recall_walks_clamped_two :
    ∃ sh sh' next : Shell, sh.Reached ∧ sh.mode = .expression ∧
      sh.history.map (·.expression) = ["T", "!T"] ∧
      pressAll sh .empty (presses [(.edit (.char 'F'), false), (.up, false), (.up, true),
        (.up, false), (.edit .home, false), (.edit (.char '('), false)]) = some (sh', .empty) ∧
      sh'.recalled = some 1 ∧
      pressAll sh .empty (presses [(.edit (.char 'F'), false), (.up, false), (.up, true),
        (.up, false), (.edit .home, false), (.edit (.char '('), false), (.down, false)]) =
          some (next, .empty) ∧
      next.recalled = some 0 ∧ next.input = ['!', 'T'] ∧ next.cursor = 2 := by
  obtain ⟨sh, hsh, hm, hnone, hhistory⟩ : ∃ sh,
      (start .standard none).pressed
        (([.char 'e', .char 'T', .enter, .char '!', .char 'T', .enter] : List Key).map unread) =
          some sh ∧
      sh.mode = .expression ∧ sh.recalled = none ∧
      sh.history = [⟨"T", "T", true, .standard⟩, ⟨"!T", "T !", false, .standard⟩] :=
    ⟨_, rfl, rfl, rfl, rfl⟩
  have hreached : sh.Reached := ⟨.standard, none, none, _, hsh⟩
  obtain ⟨sh', hrun, hplace, hkept, hstep⟩ := recall_walks_clamped hreached hm
    [(.edit (.char 'F'), false), (.up, false), (.up, true), (.up, false), (.edit .home, false),
      (.edit (.char '('), false)] .empty
  have hone : sh'.recalled = some 1 := by
    rw [hplace, hnone, hhistory]
    rfl
  have hhistory' : sh'.history = sh.history := by rw [hkept]
  obtain ⟨next, hrun', hw⟩ := hstep .down false
  have hzero : next.recalled = some 0 := by
    rw [hw.place, hone]
    rfl
  obtain ⟨i, e, hi, -, he, hinput, hcursor⟩ := hw.newer rfl (by rw [hzero]; nofun)
  have hnext : next.history = sh.history := by rw [hw.kept, hhistory']
  obtain rfl : 0 = i := Option.some.inj (hzero.symm.trans hi)
  obtain rfl : (⟨"!T", "T !", false, .standard⟩ : HistoryEntry) = e := by
    rw [hnext, hhistory] at he
    exact Option.some.inj he
  exact ⟨sh, sh', next, hreached, hm, by rw [hhistory]; rfl, hrun, hone, hrun', hzero, hinput,
    hcursor⟩

end Shell

end BoolCalc
