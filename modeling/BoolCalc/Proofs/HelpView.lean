import BoolCalc.Proofs.Display
import BoolCalc.Proofs.Recall

/-!
# Scrolling the help

The keys count how far the help was scrolled, and the drawing never goes beyond the end of the text.
The two agree until the count passes the last line that can stand on top. From then on keys that
scroll further change nothing, as the help tells, but those that scroll back are used up until the
count is down to that line again.
-/

namespace BoolCalc

namespace Help

lemma plain_lines : ∀ line ∈ lines, ∀ c ∈ line.toList, Text.Plain c := by
  unfold lines
  -- Each literal is taken as the list of its characters, so that nothing has to be decoded.
  repeat' first
    | exact List.forall_mem_nil _
    | refine List.forall_mem_cons.2 ⟨Text.plain_ofList _ (by decide +kernel), ?_⟩

/-- What a key that does not close the help is for. -/
inductive Scroll where
  | back (n : ℕ)
  | forth (n : ℕ)
  | toStart
  | stay

/-- The index of the last line that is ever the first one in view. -/
def lastTop (room : ℕ) : ℕ := lines.length - room

/-- How far the help was scrolled after a key. -/
def scrolled (scroll : ℕ) : Scroll → ℕ
  | .back n => scroll - n
  | .forth n => scroll + n
  | .toStart => 0
  | .stay => scroll

/-- The index of the first line in view after a key, as the help tells it: as many lines on as the
key is for, or as far as possible. -/
def told (room line : ℕ) : Scroll → ℕ
  | .back n => line - n
  | .forth n => min (line + n) (lastTop room)
  | .toStart => 0
  | .stay => line

/-- When a key does what the help tells: always, unless it scrolls back from behind the end. -/
def Heeded (room scroll : ℕ) : Scroll → Prop
  | .back n => scroll ≤ lastTop room ∨ lastTop room = 0 ∨ scroll ≤ n
  | .forth _ | .toStart | .stay => True

lemma top_eq (room scroll : ℕ) : top room scroll = min scroll (lastTop room) := rfl

lemma top_scrolled_eq_told (room scroll : ℕ) {m : Scroll} (hm : m ≠ .back 0) :
    top room (scrolled scroll m) = told room (top room scroll) m ↔ Heeded room scroll m := by
  simp only [top_eq]
  cases m with
  | back n =>
    have hn : n ≠ 0 := fun h => hm (h ▸ rfl)
    simp only [scrolled, told, Heeded]
    omega
  | forth n =>
    simp only [scrolled, told, Heeded, iff_true]
    omega
  | toStart => simp [scrolled, told, Heeded]
  | stay => simp [scrolled, told, Heeded]

lemma top_add_le (room scroll : ℕ) :
    top room scroll + min room lines.length ≤ lines.length := by
  rw [top_eq, lastTop]
  omega

/-- A row of the view shows the line that is as far behind the first one, and those behind the end
of the text show nothing. -/
lemma getElem?_view {room j : ℕ} (scroll : ℕ) (hj : j < room) :
    (view room scroll)[j]? = lines[top room scroll + j]? := by
  rw [view, List.getElem?_take_of_lt hj, List.getElem?_drop]

end Help

namespace Key

/-- The keys that close the help. -/
def closesHelp : Key → Bool
  | .escape | .function 1 | .char '?' | .char 'q' => true
  | _ => false

/-- What the keys are for while the help is shown. -/
def scroll : Key → Help.Scroll
  | .up | .char 'k' => .back 1
  | .down | .char 'j' => .forth 1
  | .pageUp => .back 5
  | .pageDown => .forth 5
  | .home => .toStart
  | _ => .stay

lemma scroll_ne_back_zero (k : Key) : k.scroll ≠ .back 0 := by
  unfold scroll
  split <;> nofun

end Key

namespace Shell

variable {sh : Shell} {q : Press × Answers} {qs : List (Press × Answers)}

lemma helpKey_eq (sh : Shell) {k : Key} (hk : k.closesHelp = false) :
    sh.helpKey k = { sh with helpScroll := Help.scrolled sh.helpScroll k.scroll } := by
  unfold helpKey
  split
  case h_12 =>
    have hstay : k.scroll = .stay := by
      unfold Key.scroll
      split <;> simp_all
    rw [hstay]
    rfl
  all_goals first
    | rfl
    | cases hk

/-- A key that does not close the help scrolls it. -/
lemma resume_help (hm : sh.mode = .help) (hq : q.1.key.closesHelp = false) :
    (sh.press q.1).resume q.2 =
      some { sh with helpScroll := Help.scrolled sh.helpScroll q.1.key.scroll } := by
  simp only [press, hm, helpKey_eq sh hq, Reaction.resume]

lemma pressed_help (hm : sh.mode = .help) (hqs : ∀ q ∈ qs, q.1.key.closesHelp = false) :
    sh.pressed qs = some { sh with
      helpScroll := (qs.map (·.1.key.scroll)).foldl Help.scrolled sh.helpScroll } := by
  induction qs generalizing sh with
  | nil => rfl
  | cons q qs ih =>
    obtain ⟨hq, hqs⟩ := List.forall_mem_cons.1 hqs
    exact (pressed_cons (resume_help hm hq)).trans (ih hm hqs)

end Shell

namespace Screen

/-- The help that lies over the screen shows a block of the text from the line with the index `top`
on: a line in each row, until there are no more rows or no more lines. -/
structure ShowsHelp (width height : ℕ) (sh : Shell) (top : ℕ) : Prop where
  within : top + min (popupArea width height).inner.height Help.lines.length ≤ Help.lines.length
  rows : ∀ j < (popupArea width height).inner.height,
    ShowsRow (ofShell width height sh).canvas (popupArea width height).inner j
      (Help.lines[top + j]?.getD "").toList

lemma showsRow_drawHelp (width height : ℕ) (sh : Shell) (c : Canvas) {j : ℕ}
    (hj : j < (popupArea width height).inner.height) :
    ShowsRow (c ++ drawHelp width height sh) (popupArea width height).inner j
      (Help.lines[Help.top (popupArea width height).inner.height sh.helpScroll + j]?.getD
        "").toList := by
  have hframe := showsRow_paint (showsRow_frame c _ (Style.inked .cyan)
    (Help.title (popupArea width height).inner.height sh.helpScroll).toList hj)
    (popupArea width height).inner (Style.inked .white)
  rw [List.append_assoc] at hframe
  have hplain : ∀ line ∈ (Help.view (popupArea width height).inner.height sh.helpScroll).map
      String.toList, ∀ ch ∈ line, Text.Plain ch := by
    intro line hline
    obtain ⟨text, htext, rfl⟩ := List.mem_map.1 hline
    exact Help.plain_lines text (List.mem_of_mem_drop (List.mem_of_mem_take htext))
  have hshows := showsRow_paragraph hframe hj
    (fun line hline => Text.clusters_of_other fun ch hch => (hplain line hline ch hch).1)
    (fun line hline ch hch => (hplain line hline ch hch).2)
  rw [List.getElem?_map, Help.getElem?_view sh.helpScroll hj, ← String.toList_empty,
    Option.getD_map, List.map_map] at hshows
  rwa [drawHelp, ← List.append_assoc]

lemma showsHelp (width height : ℕ) {sh : Shell} (hm : sh.mode = .help) :
    ShowsHelp width height sh
      (Help.top (popupArea width height).inner.height sh.helpScroll) where
  within := Help.top_add_le _ _
  rows j hj := by
    have hpopup : drawPopup width height sh = drawHelp width height sh := by rw [drawPopup, hm]
    rw [ofShell, hpopup]
    exact showsRow_drawHelp width height sh _ hj

end Screen

namespace Shell

/-- **What the help shows, and when its keys do what it tells.** After any run of keys that do not
close it, the help shows a block of its lines on every screen of usual size. The first of them is as
far down as the keys have counted, but never so far that a row would stay empty. One key more moves
the view as the help tells, by one line or five, or as far as possible, or to the first line, as
long as it does not scroll back. A key that scrolls back does so if and only if the count is not
beyond the last line that ever stands on top, or all of the text is in view, or the key takes the
count back to the start. -/
theorem help_view_follows_keys {sh : Shell} (hm : sh.mode = .help) {qs : List (Press × Answers)}
    (hqs : ∀ q ∈ qs, q.1.key.closesHelp = false) :
    ∃ sh', sh.pressed qs = some sh' ∧ sh'.mode = .help ∧
      sh'.helpScroll = (qs.map (·.1.key.scroll)).foldl Help.scrolled sh.helpScroll ∧
      ∀ width height : ℕ, Screen.Usual width height →
        let room := (Screen.popupArea width height).inner.height
        Screen.ShowsHelp width height sh' (Help.top room sh'.helpScroll) ∧
          ∀ q : Press × Answers, q.1.key.closesHelp = false →
            ∃ next, (sh'.press q.1).resume q.2 = some next ∧ next.mode = .help ∧
              Screen.ShowsHelp width height next (Help.top room next.helpScroll) ∧
              (Help.top room next.helpScroll =
                  Help.told room (Help.top room sh'.helpScroll) q.1.key.scroll ↔
                Help.Heeded room sh'.helpScroll q.1.key.scroll) := by
  refine ⟨_, pressed_help hm hqs, hm, rfl, fun width height _ => ⟨?_, fun q hq => ?_⟩⟩
  · exact Screen.showsHelp width height hm
  · exact ⟨_, resume_help hm hq, hm, Screen.showsHelp width height hm,
      Help.top_scrolled_eq_told _ _ q.1.key.scroll_ne_back_zero⟩

/-- The last line comes into view, and the first key back is heeded. -/
theorem help_view_follows_keys_to_end :
    let keys := List.replicate 50 (unread .down)
    ∃ sh next, (start .standard none).showHelp.pressed keys = some sh ∧
      Screen.ShowsHelp 70 11 sh 50 ∧ (sh.press ⟨.up, false⟩).resume (unread .up).2 = some next ∧
      Screen.ShowsHelp 70 11 next 49 := by
  intro keys
  have hm : (start .standard none).showHelp.mode = .help := rfl
  have hkeys : ∀ q ∈ keys, q.1.key.closesHelp = false := by
    intro q hq
    rw [List.eq_of_mem_replicate hq]
    rfl
  obtain ⟨sh, hsh, -, hscroll, hview⟩ := help_view_follows_keys hm hkeys
  obtain ⟨hshows, hstep⟩ := hview 70 11 ⟨by decide, by decide, by decide, by decide⟩
  obtain ⟨next, hnext, -, hnextShows, hheeded⟩ := hstep (unread .up) rfl
  have hcount : sh.helpScroll = 50 := hscroll
  have hup := hheeded.2 (.inl (by rw [hcount]; decide))
  rw [hcount] at hshows hup
  rw [hup] at hnextShows
  exact ⟨sh, next, hsh, hshows, hnext, hnextShows⟩

/-- One key more, and the first key back leaves the view where it is. -/
theorem help_view_held_behind_end :
    let keys := unread (.function 1) :: List.replicate 51 (unread .down)
    ∃ sh next, (start .standard none).pressed keys = some sh ∧ Screen.ShowsHelp 70 11 sh 50 ∧
      (sh.press ⟨.up, false⟩).resume (unread .up).2 = some next ∧
      Help.told (Screen.popupArea 70 11).inner.height 50 Key.up.scroll = 49 ∧
      ¬ Screen.ShowsHelp 70 11 next 49 ∧ Screen.ShowsHelp 70 11 next 50 := by
  intro keys
  let scrolledTo (n : ℕ) : Shell := { (start .standard none).showHelp with helpScroll := n }
  have hshows (n : ℕ) : Screen.ShowsHelp 70 11 (scrolledTo n) (Help.top 6 n) :=
    Screen.showsHelp 70 11 rfl
  refine ⟨scrolledTo 51, scrolledTo 50, rfl, hshows 51, rfl, rfl, fun h => ?_, hshows 50⟩
  have hheld := (hshows 50).rows 0 (by decide) 0 (by decide)
  have hmoved := h.rows 0 (by decide) 0 (by decide)
  have hlines : [("Page Up/Down    Scroll help text up/down 5 lines".toList)[0]?.getD ' '] =
      [("↑↓ or j/k       Scroll help text up/down one line".toList)[0]?.getD ' '] :=
    hheld.symm.trans hmoved
  exact absurd hlines (by decide +kernel)

end Shell

end BoolCalc
