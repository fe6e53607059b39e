import BoolCalc.Proofs.CsvReading
import BoolCalc.Proofs.Footprint
import BoolCalc.Proofs.RoundTrip

/-!
# Exported tables read back

Symbols may be commas and quotes, and expressions may hold line breaks, yet nothing of a history is
lost in its export: a reader of comma-separated records finds every entry again.
-/

namespace BoolCalc

/-- **An exported history loses nothing.** A history that is not empty is exported, and what is
written is text of which a reader of comma-separated records makes the heading and then one record
for each entry, in order: its expression, its reverse Polish text, and its value in the symbols of
the entry, whatever characters these are. The reader is that of the grammar of such records, so the
text spells no other document. And a file to which the export is written holds it. -/
theorem exported_history_reads_back {h : List HistoryEntry} (hne : h ≠ []) :
    (∀ text rs, Csv.read text = some rs ↔ Csv.SpellsDocument text rs) ∧
    ∃ content text, Csv.encodeHistory h = .ok content ∧ decodeText content = .ok text ∧
      Csv.read text = some
        (["expression".toList, "postfix".toList, "result".toList] ::
          h.map fun e => [e.expression.toList, e.rpn.toList,
            [if e.value then e.symbols.forTrue else e.symbols.forFalse]]) ∧
      ∀ (st st' : Store) (name : String), st.write name content = .ok st' →
        st'.read name = .ok content := by
  have hrecords : ∀ fs ∈ Csv.historyRecords h, fs ≠ [] := fun fs =>
    Shell.ne_nil_of_mem_historyTable
  exact ⟨fun text rs => Csv.read_eq_some_iff, _, _, Shell.encodeHistory_of_ne_nil hne,
    decodeText_encodeText _, Csv.read_document hrecords,
    fun st st' name hwrite => Store.read_write hwrite⟩

/-- Comma and quote are the symbols, and a text ends with a line break; of the second entry hardly
anything is left but its value. -/
theorem exported_history_reads_back_comma :
    let s : Symbols := ⟨',', '"', by decide, by decide, by decide⟩
    let h : List HistoryEntry := [⟨",&\"\r\n", ", \" &", false, s⟩, ⟨"", " ", true, s⟩]
    h ≠ [] ∧ ∃ content text st', Csv.encodeHistory h = .ok content ∧
      decodeText content = .ok text ∧
      Csv.read text = some
        [["expression".toList, "postfix".toList, "result".toList],
          [",&\"\r\n".toList, ", \" &".toList, ['"']], [[], [' '], [',']]] ∧
      Store.empty.write "h.csv" content = .ok st' ∧ st'.read "h.csv" = .ok content := by
  intro s h
  have hne : h ≠ [] := List.cons_ne_nil _ _
  obtain ⟨-, content, text, hencode, hdecode, hread, hfile⟩ := exported_history_reads_back hne
  have hwrite : Store.empty.write "h.csv" content =
      .ok (Store.empty.put ["h.csv".toList] content) := rfl
  exact ⟨hne, content, text, _, hencode, hdecode, hread.trans (by decide +kernel), hwrite,
    hfile _ _ _ hwrite⟩

end BoolCalc
