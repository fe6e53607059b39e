import BoolCalc.Proofs.Coherence

/-!
# Recalling entries with the arrow keys

While expressions are taken, the arrow keys walk through the history, and nothing but the line and
the place of the walk changes. Whatever place they come to, the line is the expression of the entry
there; and they come to every place.
-/

namespace BoolCalc.Shell

variable {sh sh' sh'' next : Shell} {q : Press × Answers} {qs : List (Press × Answers)} {i : ℕ}

/-- The keys are arrows up and down. -/
def Browses (qs : List (Press × Answers)) : Prop := ∀ q ∈ qs, q.1.key = .up ∨ q.1.key = .down

/-- The line is the expression of the entry that was recalled, if one was. -/
def ShowsRecalled (sh : Shell) : Prop :=
  ∀ i, sh.recalled = some i →
    ∃ e, sh.history.reverse[i]? = some e ∧ sh.input = e.expression.toList

lemma Retyped.refl (sh : Shell) : Retyped sh sh := ⟨_, _, _, rfl⟩

lemma Retyped.trans (h : Retyped sh sh') (h' : Retyped sh' sh'') : Retyped sh sh'' := by
  obtain ⟨_, _, _, rfl⟩ := h
  obtain ⟨_, _, _, rfl⟩ := h'
  exact ⟨_, _, _, rfl⟩

lemma Retyped.mode (h : Retyped sh sh') : sh'.mode = sh.mode := by
  obtain ⟨_, _, _, rfl⟩ := h
  rfl

lemma Retyped.history (h : Retyped sh sh') : sh'.history = sh.history := by
  obtain ⟨_, _, _, rfl⟩ := h
  rfl

lemma Retyped.settings (h : Retyped sh sh') : sh'.settings = sh.settings := by
  obtain ⟨_, _, _, rfl⟩ := h
  rfl

/-! ### One key -/

lemma recalled_recallEntry (hi : i < sh.history.length) :
    (sh.recallEntry i).recalled = some i := by
  have hi' : i < sh.history.reverse.length := by rwa [List.length_reverse]
  rw [recallEntry, List.getElem?_eq_getElem hi']

lemma showsRecalled_recallEntry (hi : i < sh.history.length) :
    (sh.recallEntry i).ShowsRecalled := by
  have hi' : i < sh.history.reverse.length := by rwa [List.length_reverse]
  intro j hj
  rw [recalled_recallEntry hi] at hj
  cases hj
  rw [recallEntry, List.getElem?_eq_getElem hi']
  exact ⟨_, List.getElem?_eq_getElem hi', rfl⟩

/-- The place to which the key for older entries goes. -/
def olderPlace (sh : Shell) : ℕ :=
  match sh.recalled with
  | none => 0
  | some i => min (i + 1) (sh.history.length - 1)

lemma recallOlder_eq (hne : 0 < sh.history.length) :
    sh.recallOlder = sh.recallEntry sh.olderPlace := by
  have hempty : sh.history.isEmpty = false := by
    cases hh : sh.history with
    | nil =>
      rw [hh] at hne
      cases hne
    | cons e es => rfl
  unfold recallOlder olderPlace
  rw [hempty, if_neg Bool.false_ne_true]
  cases sh.recalled <;> rfl

lemma olderPlace_lt (hne : 0 < sh.history.length) : sh.olderPlace < sh.history.length := by
  unfold olderPlace
  split <;> omega

lemma showsRecalled_recallOlder (h : sh.Coherent) : sh.recallOlder.ShowsRecalled := by
  rcases Nat.eq_zero_or_pos sh.history.length with hzero | hne
  · -- Nothing can be recalled, and nothing was.
    have hkept : sh.recallOlder = sh := by
      rw [recallOlder, List.length_eq_zero_iff.1 hzero]
      rfl
    intro i hi
    rw [hkept] at hi
    have := (h.recalled_lt i hi).2
    omega
  · rw [recallOlder_eq hne]
    exact showsRecalled_recallEntry (olderPlace_lt hne)

lemma showsRecalled_recallNewer (h : sh.Coherent) : sh.recallNewer.ShowsRecalled := by
  unfold recallNewer
  split
  · rename_i hnone
    intro i hi
    rw [hnone] at hi
    cases hi
  · intro i hi
    cases hi
  · rename_i i hi
    have := (h.recalled_lt (i + 1) hi).2
    exact showsRecalled_recallEntry (by omega)

lemma resume_up (hm : sh.mode = .expression) (hq : q.1.key = .up) :
    (sh.press q.1).resume q.2 = some sh.recallOlder := by
  simp [press, hm, expressionKey, hq, Reaction.resume]

lemma resume_down (hm : sh.mode = .expression) (hq : q.1.key = .down) :
    (sh.press q.1).resume q.2 = some sh.recallNewer := by
  simp [press, hm, expressionKey, hq, Reaction.resume]

lemma resume_arrow (h : sh.Coherent) (hm : sh.mode = .expression)
    (hq : q.1.key = .up ∨ q.1.key = .down) :
    ∃ next, (sh.press q.1).resume q.2 = some next ∧ Retyped sh next ∧ next.Coherent ∧
      next.ShowsRecalled := by
  rcases hq with hq | hq
  · exact ⟨_, resume_up hm hq, retyped_recallOlder sh, h.recallOlder hm,
      showsRecalled_recallOlder h⟩
  · exact ⟨_, resume_down hm hq, retyped_recallNewer sh, h.recallNewer hm,
      showsRecalled_recallNewer h⟩

/-! ### Runs of arrows -/

lemma pressed_cons (hnext : (sh.press q.1).resume q.2 = some next) :
    sh.pressed (q :: qs) = next.pressed qs := by
  simp [pressed, take, hnext]

lemma pressed_append (hsh' : sh.pressed qs = some sh') (rs : List (Press × Answers)) :
    sh.pressed (qs ++ rs) = sh'.pressed rs := by
  induction qs generalizing sh with
  | nil =>
    cases hsh'
    rfl
  | cons q qs ih =>
    obtain ⟨next, hnext, hsh'⟩ := pressed_cons_eq_some.1 hsh'
    rw [List.cons_append, pressed_cons hnext]
    exact ih hsh'

/-- **What arrows recall stands in the line**, whatever was typed before the first of them, and the
history is walked through without a change. -/
lemma Coherent.browse (h : sh.Coherent) (hm : sh.mode = .expression) (hqs : Browses qs) :
    ∃ sh', sh.pressed qs = some sh' ∧ Retyped sh sh' ∧ sh'.Coherent ∧
      (qs ≠ [] ∨ sh.ShowsRecalled → sh'.ShowsRecalled) := by
  induction qs generalizing sh with
  | nil => exact ⟨sh, rfl, .refl sh, h, fun hs => hs.resolve_left fun hne => hne rfl⟩
  | cons q qs ih =>
    obtain ⟨next, hnext, hretyped, hcoherent, hshows⟩ :=
      resume_arrow h hm (hqs q List.mem_cons_self)
    obtain ⟨sh', hsh', hretyped', hcoherent', hshows'⟩ := ih hcoherent (hretyped.mode.trans hm)
      fun q' hq' => hqs q' (List.mem_cons_of_mem q hq')
    exact ⟨sh', (pressed_cons hnext).trans hsh', hretyped.trans hretyped', hcoherent',
      fun _ => hshows' (.inr hshows)⟩

/-- Arrows, one at least, lead from the one state to the other. -/
def Walks (sh sh' : Shell) : Prop := ∃ qs, qs ≠ [] ∧ Browses qs ∧ sh.pressed qs = some sh'

lemma Walks.arrow (hq : q.1.key = .up ∨ q.1.key = .down)
    (hnext : (sh.press q.1).resume q.2 = some next) : Walks sh next := by
  refine ⟨[q], List.cons_ne_nil q [], ?_, pressed_cons hnext⟩
  intro q' hq'
  rwa [List.mem_singleton.1 hq']

lemma Walks.trans (h : Walks sh sh') (h' : Walks sh' sh'') : Walks sh sh'' := by
  obtain ⟨qs, hne, hqs, hsh'⟩ := h
  obtain ⟨rs, -, hrs, hsh''⟩ := h'
  refine ⟨qs ++ rs, List.append_ne_nil_of_left_ne_nil hne rs, ?_,
    (pressed_append hsh' rs).trans hsh''⟩
  intro q hq
  rcases List.mem_append.1 hq with hq | hq
  · exact hqs q hq
  · exact hrs q hq

lemma Walks.kept (h : Walks sh sh') (hc : sh.Coherent) (hm : sh.mode = .expression) :
    Retyped sh sh' ∧ sh'.Coherent ∧ sh'.ShowsRecalled := by
  obtain ⟨qs, hne, hqs, hsh'⟩ := h
  obtain ⟨sh₁, hsh₁, hretyped, hcoherent, hshows⟩ := hc.browse hm hqs
  obtain rfl : sh₁ = sh' := Option.some.inj (hsh₁.symm.trans hsh')
  exact ⟨hretyped, hcoherent, hshows (.inl hne)⟩

lemma walks_up (hm : sh.mode = .expression) : Walks sh sh.recallOlder :=
  .arrow (q := unread .up) (.inl rfl) (resume_up hm rfl)

lemma walks_down (hm : sh.mode = .expression) : Walks sh sh.recallNewer :=
  .arrow (q := unread .down) (.inr rfl) (resume_down hm rfl)

/-- Newer and newer entries lead to the line behind the newest one. -/
lemma exists_walk_none (h : sh.Coherent) (hm : sh.mode = .expression) (hi : sh.recalled = some i) :
    ∃ sh', Walks sh sh' ∧ sh'.recalled = none := by
  -- The place is counted from the newest entry, so each key makes it smaller by one.
  induction i generalizing sh with
  | zero =>
    refine ⟨sh.recallNewer, walks_down hm, ?_⟩
    rw [recallNewer, hi]
  | succ i ih =>
    have hlt := (h.recalled_lt (i + 1) hi).2
    have hplace : sh.recallNewer.recalled = some i := by
      rw [recallNewer, hi]
      exact recalled_recallEntry (by omega)
    have hmode := (retyped_recallNewer sh).mode.trans hm
    obtain ⟨sh', hwalk, hnone⟩ := ih (h.recallNewer hm) hmode hplace
    exact ⟨sh', (walks_down hm).trans hwalk, hnone⟩

lemma exists_walk_some (h : sh.Coherent) (hm : sh.mode = .expression) (hnone : sh.recalled = none)
    (hi : i < sh.history.length) : ∃ sh', Walks sh sh' ∧ sh'.recalled = some i := by
  induction i with
  | zero =>
    refine ⟨sh.recallOlder, walks_up hm, ?_⟩
    rw [recallOlder_eq hi, olderPlace, hnone]
    exact recalled_recallEntry hi
  | succ i ih =>
    obtain ⟨sh', hwalk, hplace⟩ := ih (by omega)
    obtain ⟨hretyped, -, -⟩ := hwalk.kept h hm
    have hlen : sh'.history.length = sh.history.length := by rw [hretyped.history]
    refine ⟨sh'.recallOlder, hwalk.trans (walks_up (hretyped.mode.trans hm)), ?_⟩
    have holder : sh'.olderPlace = i + 1 := by
      simp only [olderPlace, hplace, hlen]
      omega
    rw [recallOlder_eq (by omega), holder]
    exact recalled_recallEntry (by omega)

/-- **Arrows lead to every entry**, from wherever they start. -/
lemma Coherent.exists_walk (h : sh.Coherent) (hm : sh.mode = .expression)
    (hi : i < sh.history.length) : ∃ sh', Walks sh sh' ∧ sh'.recalled = some i := by
  cases hr : sh.recalled with
  | none => exact exists_walk_some h hm hr hi
  | some j =>
    obtain ⟨sh₁, hwalk, hnone⟩ := exists_walk_none h hm hr
    obtain ⟨hretyped, hcoherent, -⟩ := hwalk.kept h hm
    obtain ⟨sh', hwalk', hplace⟩ := exists_walk_some hcoherent (hretyped.mode.trans hm) hnone
      (by rwa [hretyped.history])
    exact ⟨sh', hwalk.trans hwalk', hplace⟩

end BoolCalc.Shell
