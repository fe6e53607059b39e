import Mathlib.Data.List.Basic
import BoolCalc.Archive

/-!
# What writing a file does to a store

Where a name leads depends on the directories alone, and writing leaves them as they are. So a name
under which a file was written leads to that file, and reading it gives the content that was
written.
-/

namespace BoolCalc.Store

variable {st st' : Store} {name : String} {content : ByteArray}

/-- A name that leads somewhere leads there in every store with the same directories. -/
lemma walk_of_directories (hd : st'.directories = st.directories) {slashed : Bool} {place : Place}
    (here parts : Path) (h : st.walk slashed here parts = .ok place) :
    st'.walk slashed here parts = .ok place := by
  have hdir (q : Path) : st'.isDirectory q = st.isDirectory q := by simp [isDirectory, hd]
  induction parts generalizing here with
  | nil => exact h
  | cons part rest ih =>
    simp only [walk, hdir] at h ⊢
    split_ifs at h ⊢
    · exact ih here h
    · exact ih here.dropLast h
    · exact h
    · exact ih (here ++ [part]) h

lemma locate_of_directories (hd : st'.directories = st.directories) {place : Place}
    (h : st.locate name = .ok place) : st'.locate name = .ok place := by
  simp only [locate] at h ⊢
  split_ifs at h ⊢
  exact walk_of_directories hd _ _ h

/-- A file is written where its name leads, if no directory stands there and the name has neither a
slash at its end nor too long a last part. -/
lemma target_eq_ok {p : Path} (h : st.target name = .ok p) :
    st.locate name = .ok (.entry p false) ∧ tooLong p = false ∧ st.isDirectory p = false := by
  unfold target at h
  cases hl : st.locate name with
  | error e =>
    rw [hl] at h
    cases h
  | ok place =>
    rw [hl] at h
    cases place with
    | directory q => cases h
    | entry q slashed =>
      simp only [bind, Except.bind] at h
      split_ifs at h with hs ht hd
      cases h
      simp only [Bool.not_eq_true] at hs ht hd
      rw [hs]
      exact ⟨rfl, ht, hd⟩

lemma write_eq_ok (h : st.write name content = .ok st') :
    ∃ p, st.target name = .ok p ∧ st' = st.put p content := by
  unfold write at h
  cases ht : st.target name with
  | error e =>
    rw [ht] at h
    cases h
  | ok p =>
    rw [ht] at h
    cases h
    exact ⟨p, rfl, rfl⟩

/-- The name of a written file leads to it. -/
lemma locate_write (h : st.write name content = .ok st') :
    ∃ p, st'.locate name = .ok (.entry p false) ∧ tooLong p = false ∧
      st'.isDirectory p = false ∧ st'.content? p = some content := by
  obtain ⟨p, ht, rfl⟩ := write_eq_ok h
  obtain ⟨hl, hlong, hdir⟩ := target_eq_ok ht
  have hd : (st.put p content).directories = st.directories := rfl
  exact ⟨p, locate_of_directories hd hl, hlong, hdir, content?_put st p content⟩

/-- A name under which something is read leads to it. -/
lemma hasName_of_read (h : st.read name = .ok content) : st.hasName name = true := by
  unfold read at h
  cases hl : st.locate name with
  | error e =>
    rw [hl] at h
    cases h
  | ok place =>
    rw [hl] at h
    cases place with
    | directory q => cases h
    | entry q slashed =>
      simp only [bind, Except.bind] at h
      cases hc : st.content? q with
      | none =>
        rw [hc] at h
        split_ifs at h
      | some c =>
        rw [hc] at h
        split_ifs at h with hlong hdir hslashed
        simp [hasName, hl, hlong, hslashed, hc]

/-- **A written file is read back.** -/
lemma read_write (h : st.write name content = .ok st') : st'.read name = .ok content := by
  obtain ⟨p, hl, hlong, hdir, hc⟩ := locate_write h
  simp [read, hl, hlong, hdir, hc, bind, Except.bind]

lemma hasName_write (h : st.write name content = .ok st') : st'.hasName name = true :=
  hasName_of_read (read_write h)

end BoolCalc.Store
