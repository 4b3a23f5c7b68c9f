import ODataQuery.Proofs.Console.Table
import ODataQuery.Proofs.Json.Printer
import ODataQuery.Proofs.Text.Parts

/-! The lines of a printed table. Strings and keys are printed as they are, so that a line feed in one
of them breaks its row, unless nothing but blanks stands behind it; then it is trimmed away. -/
namespace ODataQuery.Table

/-- A line feed is seen of the texts, and behind it a character that is not trimmed away. -/
def Broken (texts : List String) : Prop :=
  ∃ c, Text.isBlank c = false ∧ ['\n', c].Sublist (texts.flatMap seen)

instance (texts : List String) : Decidable (Broken texts) :=
  decidable_of_iff _ (Text.mem_dropEndWhile_iff (a := '\n') (by decide))

theorem filter_intercalate {q : Char → Bool} {sep : List Char} (dropped : sep.filter q = [])
    (pieces : List (List Char)) :
    (List.intercalate sep pieces).filter q = pieces.flatMap (List.filter q) := by
  induction pieces with
  | nil => rfl
  | cons piece rest ih =>
    cases rest with
    | nil => simp
    | cons next more =>
      rw [List.intercalate_cons_cons, List.filter_append, List.filter_append, dropped, ih,
        List.append_nil]
      rfl

/-- But for spaces, a line shows what is seen of its cells. -/
theorem filter_fullLine {widths : List Nat} {texts : List String}
    (fits : List.Forall₂ Fits widths texts) :
    (fullLine widths texts).filter (· ≠ ' ') = (texts.flatMap seen).filter (· ≠ ' ') := by
  rw [fullLine, filter_intercalate (by decide)]
  induction fits with
  | nil => rfl
  | @cons w text _ _ first _ ih =>
    have padding : (List.replicate (w - (seen text).length) ' ').filter (· ≠ ' ') = [] := by
      rw [List.filter_replicate]
      rfl
    rw [List.zipWith_cons_cons, List.flatMap_cons, List.flatMap_cons, List.filter_append, ih, fit,
      first.same, List.filter_append, padding, List.append_nil]

theorem newline_mem_line_iff {widths : List Nat} {texts : List String}
    (fits : List.Forall₂ Fits widths texts) : '\n' ∈ line widths texts ↔ Broken texts := by
  have unspaced {c : Char} (kept : Text.isBlank c = false) (cs : List Char) :
      ['\n', c].Sublist cs ↔ ['\n', c].Sublist (cs.filter (· ≠ ' ')) := by
    have space : c ≠ ' ' := by
      rintro rfl
      exact absurd kept (by decide)
    refine ⟨fun sublist => ?_, fun sublist => sublist.trans List.filter_sublist⟩
    simpa [space] using sublist.filter (· ≠ ' ')
  rw [line, Text.mem_dropEndWhile_iff (by decide)]
  refine exists_congr fun c => and_congr_right fun kept => ?_
  rw [unspaced kept, filter_fullLine fits, ← unspaced kept]

theorem newline_mem_of_seen {text : String} (member : '\n' ∈ seen text) : '\n' ∈ text.toList := by
  unfold seen at member
  split at member
  · exact member
  · rcases List.mem_append.mp member with taken | points
    · exact List.mem_of_mem_take taken
    · exact absurd points (by decide)

theorem Broken.newline_mem {texts : List String} (broken : Broken texts) :
    ∃ text ∈ texts, '\n' ∈ text.toList := by
  obtain ⟨c, -, sublist⟩ := broken
  obtain ⟨text, member, inside⟩ := List.mem_flatMap.mp (sublist.subset List.mem_cons_self)
  exact ⟨text, member, newline_mem_of_seen inside⟩

/-- Only strings are printed with line feeds; all else is null or JSON in one line. -/
theorem newline_mem_cell {row : Json} {key : String} (member : '\n' ∈ (cell row key).toList) :
    ∃ s, entry? row key = some (.string s) ∧ '\n' ∈ s.toList := by
  unfold cell at member
  split at member
  · simp at member
  · simp at member
  · rename_i s entry
    exact ⟨s, entry, member⟩
  · rename_i value _ _ _
    rw [Json.compact, String.toList_ofList] at member
    exact absurd member (Json.newline_not_mem_compactChars value)

theorem newline_not_mem_summary (e : Envelope Json) : '\n' ∉ summary e := by
  have rows : '\n' ∉ digitsOf e.size := Json.newline_not_mem_of_word (isWord_digitsOf _).all
  unfold summary
  split
  · rename_i count _
    have all := Json.newline_not_mem_of_word (Json.Number.isWordChar_intText count)
    simp [rows, all]
  · simp [rows]

/-- The text of an envelope with rows is the line of the columns' names, a line for each row and the
summary, each with a line feed behind it. These are its lines just when none of them is broken, and
otherwise there are more. A line breaks only at a line feed in a key or in a string of the row. -/
theorem render_lines {e : Envelope Json} (filled : e.isEmpty = false) :
    let lines := line (widths e.rows) (columns e.rows) ::
      ((e.rows.map fun row => line (widths e.rows) ((columns e.rows).map (cell row))) ++ [summary e])
    let printed := Text.endedLines (render false e).toList
    (render false e).toList = lines.flatMap (· ++ ['\n']) ∧ lines.length = e.size + 2 ∧
    (printed = lines ↔
      ¬Broken (columns e.rows) ∧ ∀ row ∈ e.rows, ¬Broken ((columns e.rows).map (cell row))) ∧
    (printed = lines ∨ e.size + 2 < printed.length) ∧
    (Broken (columns e.rows) → ∃ key ∈ columns e.rows, '\n' ∈ key.toList) ∧
    ∀ row ∈ e.rows, Broken ((columns e.rows).map (cell row)) →
      ∃ key ∈ columns e.rows, ∃ s, entry? row key = some (.string s) ∧ '\n' ∈ s.toList := by
  intro lines printed
  have text : (render false e).toList = lines.flatMap (· ++ ['\n']) := by
    rw [render, filled, if_neg Bool.false_ne_true, String.toList_ofList]
    simp [lines, Table.lines, faint, cells, Function.comp_def]
  have size : lines.length = e.size + 2 := by simp [lines, Envelope.size]
  have whole : (∀ l ∈ lines, '\n' ∉ l) ↔
      ¬Broken (columns e.rows) ∧ ∀ row ∈ e.rows, ¬Broken ((columns e.rows).map (cell row)) := by
    refine List.forall_mem_cons.trans
      (and_congr (not_congr (newline_mem_line_iff (fits_columns e.rows))) ?_)
    rw [List.forall_mem_append, List.forall_mem_map, List.forall_mem_singleton,
      and_iff_left (newline_not_mem_summary e)]
    exact forall₂_congr fun row member => not_congr (newline_mem_line_iff (fits_row member))
  refine ⟨text, size, ?_, ?_, fun broken => broken.newline_mem, fun row _ broken => ?_⟩
  · rw [← whole, ← Text.endedLines_eq_iff, ← text]
  · by_cases none : ∀ l ∈ lines, '\n' ∉ l
    · left
      rw [← Text.endedLines_of_none none, ← text]
    · right
      push Not at none
      obtain ⟨l, member, newline⟩ := none
      rw [← size]
      simpa only [printed, text] using Text.length_lt_endedLines member newline
  · obtain ⟨text, member, newline⟩ := broken.newline_mem
    obtain ⟨key, column, rfl⟩ := List.mem_map.mp member
    exact ⟨key, column, newline_mem_cell newline⟩

theorem render_lines_trimmed :
    let row := Json.object
      [("Tags", .array [.string "x\ny"]), ("Notes", .string "a line feed at the end\n")]
    (Envelope.mk none [row]).isEmpty = false ∧
      Text.endedLines (render false ⟨none, [row]⟩).toList =
        ["Tags      Notes".toList, "[\"x\\ny\"]  a line feed at the end".toList, "1 rows".toList] := by
  intro row
  obtain ⟨-, -, whole, -⟩ := render_lines (e := ⟨none, [row]⟩) rfl
  have unbroken : ¬Broken (columns [row]) ∧
      ∀ row' ∈ [row], ¬Broken ((columns [row]).map (cell row')) := by
    decide
  refine ⟨rfl, (whole.mpr unbroken).trans ?_⟩
  decide

/-- A line feed in a string makes two lines of a row. -/
theorem render_string_broken :
    let e : Envelope Json := ⟨none, [.object [("Notes", .string "a\nb")]]⟩
    e.isEmpty = false ∧ e.size + 2 = 3 ∧
      Text.endedLines (render false e).toList =
        ["Notes".toList, "a".toList, "b".toList, "1 rows".toList] := by
  decide

end ODataQuery.Table
