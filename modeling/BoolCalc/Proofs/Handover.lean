import BoolCalc.Proofs.Ledger
import BoolCalc.Proofs.RoundTrip

/-!
# From one shell to another through a file

A shell that keys lead to holds no more entries than its settings allow. So when another shell loads
what it saved, nothing is cut off, although the limit that then applies comes with the file.
-/

namespace BoolCalc.Shell

variable {a b sh : Shell} {p : Press}

/-- **No more entries than the limit in force allows**, whichever sessions were loaded. -/
lemma Reached.length_history_le (h : sh.Reached) :
    sh.history.length ≤ sh.settings.historyLimit.toNat := by
  obtain ⟨settings, name, status, qs, hr⟩ := h
  have hstart : Ledger.empty.Tells { start settings name with status } :=
    ⟨(List.rtake_nil _).symm, rfl⟩
  rw [(hstart.pressed hr).history, List.rtake, List.length_drop]
  omega

lemma trim_of_le {limit : UInt64} {entries : List HistoryEntry}
    (h : entries.length ≤ limit.toNat) : trim limit entries = entries := by
  rw [trim, Nat.sub_eq_zero_of_le h, List.drop_zero]

/-- A failure is not told as a success. -/
lemma status_saved_error (sh : Shell) (reason name : String) :
    (sh.saved (.error reason)).status ≠ some s!"Saved to {name}" := by
  intro h
  have htext : "Save failed: " ++ reason = "Saved to " ++ name := Option.some.inj h
  have hchars := congrArg String.toList htext
  simp [String.toList_append] at hchars

/-- Enter behind the name under which to save writes the session, or tells why it cannot. -/
lemma carryOut_save (hm : a.mode = .naming .saveSession) (hp : p.key = .enter) (st : Store) :
    (∃ st', st.write a.promptName a.session.encode = .ok st' ∧
      (a.press p).carryOut st = some (a.saved (.ok a.promptName), st')) ∨
      ∃ reason, (a.press p).carryOut st = some (a.saved (.error reason), st) := by
  simp only [press, hm, namingKey, hp, submitName, Reaction.carryOut]
  cases hw : st.write a.promptName a.session.encode with
  | ok st' => exact .inl ⟨st', rfl, rfl⟩
  | error e => exact .inr ⟨e.message, rfl⟩

/-- Enter behind the name of a saved session takes it over. -/
lemma carryOut_load {s : Session} {st : Store} (hm : b.mode = .naming .loadSession)
    (hp : p.key = .enter) (hread : st.read b.promptName = .ok s.encode) :
    (b.press p).carryOut st = some (b.loaded (.ok (s, b.promptName)), st) := by
  simp only [press, hm, namingKey, hp, submitName, Reaction.carryOut, hread, Session.ofReply,
    Session.decode_encode]

/-- **What was saved is taken over whole.** When a shell that keys lead to tells that it saved its
session under a name, and the file has stayed as it is, Enter behind the same name loads the very
settings and history into any other shell, which forgets its last outcome and is back at the menu.
-/
theorem saved_session_loads {a b : Shell} (ha : a.Reached) (hsave : a.mode = .naming .saveSession)
    (hload : b.mode = .naming .loadSession) (hname : b.promptName = a.promptName) {p q : Press}
    (hp : p.key = .enter) (hq : q.key = .enter) (st : Store) :
    ∃ a' st', (a.press p).carryOut st = some (a', st') ∧
      (a'.status = some s!"Saved to {a.promptName}" →
        ∀ later : Store, later.read a.promptName = st'.read a.promptName →
          ∃ b', (b.press q).carryOut later = some (b', later) ∧
            b'.settings = a.settings ∧ b'.history = a.history ∧
            b'.lastEvaluation = none ∧ b'.lastError = none ∧
            b'.status = some s!"Loaded from {a.promptName}" ∧
            b'.sessionName = some a.promptName ∧ b'.mode = .menu) := by
  obtain ⟨st', hwrite, hpress⟩ | ⟨reason, hpress⟩ := carryOut_save hsave hp st
  · refine ⟨_, st', hpress, fun _ later hlater => ?_⟩
    have hread : later.read b.promptName = .ok a.session.encode := by
      rw [hname, hlater, Store.read_write hwrite]
    have hhistory : trim a.settings.historyLimit a.history = a.history :=
      trim_of_le ha.length_history_le
    rw [← hname]
    exact ⟨_, carryOut_load hload hq hread, rfl, hhistory, rfl, rfl, rfl, rfl, rfl⟩
  · exact ⟨_, st, hpress, fun htold => absurd htold (status_saved_error a reason _)⟩

/-- An expression goes from a shell with room for one entry to one with room for none, and another
file is written in between. -/
theorem saved_session_loads_elsewhere :
    let keys := ([.char 'e', .char 'T', .enter, .escape] : List Key).map unread ++
      [(⟨.char 's', true⟩, (unread .other).2)]
    let b := (start ⟨.standard, 0⟩ none).beginNaming .loadSession
    ∃ a a' st' later b', (start ⟨.standard, 1⟩ none).pressed keys = some a ∧
      (a.press ⟨.enter, false⟩).carryOut .empty = some (a', st') ∧
      a'.status = some "Saved to session.boolterm" ∧ st'.write "other" .empty = .ok later ∧
      (b.press ⟨.enter, false⟩).carryOut later = some (b', later) ∧
      b'.settings = ⟨.standard, 1⟩ ∧ b'.history = [⟨"T", "T", true, .standard⟩] := by
  intro keys b
  obtain ⟨a, hkeys, hmode, hname, hsettings, hhistory⟩ : ∃ a,
      (start ⟨.standard, 1⟩ none).pressed keys = some a ∧ a.mode = .naming .saveSession ∧
      a.promptName = "session.boolterm" ∧ a.settings = ⟨.standard, 1⟩ ∧
      a.history = [⟨"T", "T", true, .standard⟩] := ⟨_, rfl, rfl, rfl, rfl, rfl⟩
  let path : Path := ["session.boolterm".toList]
  have hwrite : Store.empty.write a.promptName a.session.encode =
      .ok (Store.empty.put path a.session.encode) := by
    rw [hname]
    rfl
  have hpress : (a.press ⟨.enter, false⟩).carryOut .empty =
      some (a.saved (.ok a.promptName), Store.empty.put path a.session.encode) := by
    simp only [press, hmode, namingKey, submitName, Reaction.carryOut, hwrite, written]
  have hstatus : (a.saved (.ok a.promptName)).status = some s!"Saved to {a.promptName}" := rfl
  let later := (Store.empty.put path a.session.encode).put ["other".toList] .empty
  have hread : later.read a.promptName =
      (Store.empty.put path a.session.encode).read a.promptName := by
    rw [hname]
    rfl
  obtain ⟨a', st', hsaved, hloads⟩ := saved_session_loads (b := b) ⟨_, _, none, _, hkeys⟩ hmode rfl
    hname.symm (p := ⟨.enter, false⟩) (q := ⟨.enter, false⟩) rfl rfl .empty
  rw [hpress] at hsaved
  cases hsaved
  obtain ⟨b', hload, hsettings', hhistory', -⟩ := hloads hstatus later hread
  refine ⟨a, _, _, later, b', hkeys, hpress, ?_, rfl, hload, hsettings'.trans hsettings,
    hhistory'.trans hhistory⟩
  rw [hstatus, hname]
  rfl

end BoolCalc.Shell
