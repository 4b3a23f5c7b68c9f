import Mathlib.Data.List.Forall2
import Mathlib.Order.Bounds.Basic
import ODataQuery.Console.Table
import ODataQuery.Proofs.Clause.Grouping

/-! Tables of envelopes: which columns they have, how wide these are, and where the cells of a line
stand. -/
namespace ODataQuery.Table

open Grouping (eraseDups_concat insertNew nodup_eraseDups)

/-- An object needs a column for each of its keys; any other row needs the one for values. -/
def Needs : Json → String → Prop
  | .object members, key => ∃ v, (key, v) ∈ members
  | _, key => key = "value"

/-- Every column that a row needs stands once, in the order in which the rows need them first. -/
structure AreColumns (rows : List Json) (names : List String) : Prop where
  once : names.Nodup
  needed : ∀ name, name ∈ names ↔ ∃ row ∈ rows, Needs row name
  order : names.Pairwise fun a b =>
    (rows.flatMap keysOf).idxOf a < (rows.flatMap keysOf).idxOf b

theorem mem_keysOf {row : Json} {key : String} : key ∈ keysOf row ↔ Needs row key := by
  cases row <;> simp [keysOf, Needs]

/-- Without repetitions elements stand in the order of their first occurrences. -/
theorem pairwise_eraseDups (keys : List String) :
    keys.eraseDups.Pairwise fun a b => keys.idxOf a < keys.idxOf b := by
  induction keys using List.reverseRecOn with
  | nil => exact .nil
  | append_singleton keys key ih =>
    have earlier {a : String} (member : a ∈ keys.eraseDups) :
        (keys ++ [key]).idxOf a = keys.idxOf a ∧ keys.idxOf a < keys.length := by
      have member := List.mem_eraseDups.mp member
      exact ⟨List.idxOf_append_of_mem member, List.idxOf_lt_length_of_mem member⟩
    have kept : keys.eraseDups.Pairwise fun a b =>
        (keys ++ [key]).idxOf a < (keys ++ [key]).idxOf b := by
      refine ih.imp_of_mem fun ma mb before => ?_
      rwa [(earlier ma).1, (earlier mb).1]
    rw [eraseDups_concat, insertNew]
    split
    case isTrue => exact kept
    case isFalse new =>
      refine List.pairwise_append.mpr ⟨kept, List.pairwise_singleton .., ?_⟩
      intro a member b last
      obtain rfl := List.mem_singleton.mp last
      have absent : b ∉ keys := fun found => new (List.mem_eraseDups.mpr found)
      rw [(earlier member).1, List.idxOf_append_of_notMem absent]
      have := (earlier member).2
      omega

theorem areColumns (rows : List Json) : AreColumns rows (columns rows) where
  once := nodup_eraseDups _
  needed name := by simp [columns, List.mem_eraseDups, mem_keysOf]
  order := pairwise_eraseDups _

/-- The lengths of the texts in a column: its name, and what the rows have there. -/
def lengths (rows : List Json) (name : String) : Set Nat :=
  {n | n = name.toList.length ∨ ∃ row ∈ rows, n = (cell row name).toList.length}

theorem isGreatest_foldl_max (start : Nat) (ns : List Nat) :
    IsGreatest {n | n = start ∨ n ∈ ns} (ns.foldl max start) := by
  induction ns using List.reverseRecOn with
  | nil => simp [IsGreatest, upperBounds]
  | append_singleton ns n ih =>
    obtain ⟨attained, above⟩ := ih
    rw [List.foldl_concat]
    refine ⟨?_, ?_⟩
    · rcases max_choice (ns.foldl max start) n with same | same
      · rw [same]
        exact attained.imp_right (List.mem_append_left [n])
      · rw [same]
        exact .inr (by simp)
    · rintro m (first | member)
      · exact le_max_of_le_left (above (.inl first))
      rcases List.mem_append.mp member with earlier | last
      · exact le_max_of_le_left (above (.inr earlier))
      · exact le_max_of_le_right (List.mem_singleton.mp last).le

theorem width_eq (rows : List Json) (name : String) :
    ∃ longest, IsGreatest (lengths rows name) longest ∧ width rows name = min 30 longest := by
  have greatest := isGreatest_foldl_max name.toList.length
    (rows.map fun row => (cell row name).toList.length)
  refine ⟨_, ?_, rfl⟩
  simpa only [List.mem_map, eq_comm (b := _), lengths] using greatest

/-- What is seen of a text: the whole of it, or the first 27 characters and three points. -/
def seen (text : String) : List Char :=
  if text.toList.length ≤ 30 then text.toList else text.toList.take 27 ++ "...".toList

/-- In a column of this width, what is seen of the text is shown. -/
structure Fits (w : Nat) (text : String) : Prop where
  same : truncate w text.toList = seen text
  within : (seen text).length ≤ w

/-- In a column that is wide enough for a text, or as wide as any, the text is cut only if it is too
long for any column. -/
theorem fits_of_wide {w longest : Nat} {text : String} (wide : w = min 30 longest)
    (within : text.toList.length ≤ longest) : Fits w text := by
  by_cases short : text.toList.length ≤ 30
  · have whole : seen text = text.toList := if_pos short
    refine ⟨?_, by rw [whole]; omega⟩
    rw [truncate, if_neg (by omega), whole]
  · obtain rfl : w = 30 := by omega
    have cut : seen text = text.toList.take 27 ++ "...".toList := if_neg short
    refine ⟨?_, by simp [cut]⟩
    rw [truncate, if_pos (by omega), cut]
    rfl

/-- Where a cell starts: behind the cells in front of it, each with two blanks. -/
def offset (widths : List Nat) (i : Nat) : Nat := ((widths.take i).map (· + 2)).sum

/-- Each cell stands at its place, filled with blanks to its width, and is the last one or has two
blanks behind it. -/
structure Laid (widths : List Nat) (cells : List String) (full : List Char) : Prop where
  cell : ∀ i w text, widths[i]? = some w → cells[i]? = some text →
    ∃ front blanks rest, full = front ++ (seen text ++ blanks) ++ rest ∧
      front.length = offset widths i ∧ (seen text).length + blanks.length = w ∧
      (∀ c ∈ blanks, c = ' ') ∧ if i + 1 = cells.length then rest = [] else [' ', ' '] <+: rest
  empty : cells = [] → full = []
  length : widths.length = cells.length

theorem intercalate_split (sep piece : List Char) (before after : List (List Char)) :
    List.intercalate sep (before ++ piece :: after) =
      before.flatMap (· ++ sep) ++ piece ++ after.flatMap (sep ++ ·) := by
  induction before with
  | nil =>
    induction after generalizing piece with
    | nil => simp
    | cons next after ih =>
      have later := ih next
      rw [List.nil_append] at later ⊢
      rw [List.intercalate_cons_cons, later]
      simp
  | cons first before ih =>
    obtain ⟨second, more, same⟩ : ∃ second more, before ++ piece :: after = second :: more :=
      List.exists_cons_of_ne_nil (by simp)
    rw [List.cons_append, same, List.intercalate_cons_cons, ← same, ih]
    simp

theorem length_pieces {widths : List Nat} {cells : List String}
    (fits : List.Forall₂ Fits widths cells) :
    (List.zipWith (fun w s => fit w s.toList) widths cells).map List.length = widths := by
  induction fits with
  | nil => rfl
  | cons first _ ih =>
    rw [List.zipWith_cons_cons, List.map_cons, ih, fit, first.same]
    simp only [List.length_append, List.length_replicate]
    rw [Nat.add_sub_cancel' first.within]

theorem laid_fullLine {widths : List Nat} {cells : List String}
    (fits : List.Forall₂ Fits widths cells) : Laid widths cells (fullLine widths cells) where
  cell i w text width cell := by
    obtain ⟨same, inside⟩ : Fits w text := by
      refine (List.forall₂_iff_zip.mp fits).2 (List.mem_iff_getElem?.mpr ⟨i, ?_⟩)
      rw [List.getElem?_zip_eq_some]
      exact ⟨width, cell⟩
    have pieces := length_pieces fits
    generalize made : List.zipWith (fun w s => fit w s.toList) widths cells = parts at pieces
    have part : parts[i]? = some (fit w text.toList) := by
      rw [← made, List.getElem?_zipWith, width, cell]
    obtain ⟨inRange, here⟩ := List.getElem?_eq_some_iff.mp part
    have split : parts = parts.take i ++ fit w text.toList :: parts.drop (i + 1) := by
      rw [← here, ← List.drop_eq_getElem_cons, List.take_append_drop]
    refine ⟨(parts.take i).flatMap (· ++ [' ', ' ']),
      List.replicate (w - (seen text).length) ' ',
      (parts.drop (i + 1)).flatMap ([' ', ' '] ++ ·), ?_, ?_, ?_, ?_, ?_⟩
    · rw [fullLine, made]
      conv_lhs => rw [split]
      rw [intercalate_split, fit, same]
    · rw [List.length_flatMap, offset, ← pieces, ← List.map_take, List.map_map]
      simp [Function.comp_def]
    · rw [List.length_replicate]
      omega
    · exact fun c member => List.eq_of_mem_replicate member
    · have count : parts.length = cells.length := by
        rw [← fits.length_eq, ← pieces, List.length_map]
      cases later : parts.drop (i + 1) with
      | nil =>
        have := List.drop_eq_nil_iff.mp later
        rw [if_pos (by omega)]
        rfl
      | cons next more =>
        have := List.length_pos_of_ne_nil (later ▸ List.cons_ne_nil next more)
        rw [List.length_drop] at this
        rw [if_neg (by omega)]
        exact ⟨next ++ more.flatMap ([' ', ' '] ++ ·), by simp⟩
  empty none := by
    subst none
    simp [fullLine]
  length := fits.length_eq

/-- Texts that count for the widths of their columns are cut only if they are too long for any. -/
theorem fits_texts (rows : List Json) (texts : String → String)
    (counted : ∀ name, (texts name).toList.length ∈ lengths rows name) :
    List.Forall₂ Fits (widths rows) ((columns rows).map texts) := by
  rw [widths, List.forall₂_map_left_iff, List.forall₂_map_right_iff, List.forall₂_same]
  intro name _
  obtain ⟨longest, greatest, wide⟩ := width_eq rows name
  exact fits_of_wide wide (greatest.2 (counted name))

theorem fits_columns (rows : List Json) : List.Forall₂ Fits (widths rows) (columns rows) := by
  have fits := fits_texts rows id fun name => .inl rfl
  rwa [List.map_id] at fits

theorem fits_row {rows : List Json} {row : Json} (member : row ∈ rows) :
    List.Forall₂ Fits (widths rows) ((columns rows).map (cell row)) :=
  fits_texts rows (cell row) fun _ => .inr ⟨row, member, rfl⟩

/-- The text of an envelope with rows is the line of the columns' names, a line for each row and the
summary. But for the blanks at the ends of lines, every line has its cells where the widths of the
columns put them, and what is seen there is the text of the cell, cut if it is too long for any column. -/
theorem render_laid {e : Envelope Json} (some : e.isEmpty = false) :
    AreColumns e.rows (columns e.rows) ∧
    List.Forall₂
      (fun name w => ∃ longest, IsGreatest (lengths e.rows name) longest ∧ w = min 30 longest)
      (columns e.rows) (widths e.rows) ∧
    ∃ header body, Laid (widths e.rows) (columns e.rows) header ∧
      List.Forall₂ (fun row full => Laid (widths e.rows) ((columns e.rows).map (cell row)) full)
        e.rows body ∧
      render false e = String.ofList
        (((header :: body).map (Text.dropEndWhile Text.isBlank) ++ [summary e]).flatMap
          (· ++ ['\n'])) := by
  refine ⟨areColumns e.rows, ?_, fullLine (widths e.rows) (columns e.rows),
    e.rows.map fun row => fullLine (widths e.rows) ((columns e.rows).map (cell row)), ?_, ?_, ?_⟩
  · rw [widths, List.forall₂_map_right_iff, List.forall₂_same]
    exact fun name _ => width_eq e.rows name
  · exact laid_fullLine (fits_columns e.rows)
  · rw [List.forall₂_map_right_iff, List.forall₂_same]
    exact fun row member => laid_fullLine (fits_row member)
  · rw [render, some, if_neg Bool.false_ne_true]
    simp [lines, faint, line, cells, Function.comp_def]

theorem render_laid_mixed :
    let rows : List Json :=
      [.object [("Id", .ofNat 1), ("Name", .string "A name of thirty-one characters")], .bool true]
    columns rows = ["Id", "Name", "value"] ∧ widths rows = [2, 30, 5] ∧
      (Envelope.mk none rows).isEmpty = false ∧
      ∃ header body, Laid [2, 30, 5] ["Id", "Name", "value"] header ∧
        List.Forall₂ (fun row full => Laid [2, 30, 5] (["Id", "Name", "value"].map (cell row)) full)
          rows body ∧
        render false ⟨none, rows⟩ = String.ofList
          (((header :: body).map (Text.dropEndWhile Text.isBlank) ++ ["2 rows".toList]).flatMap
            (· ++ ['\n'])) := by
  intro rows
  obtain ⟨-, -, laid⟩ := render_laid (e := ⟨none, rows⟩) rfl
  have names : columns rows = ["Id", "Name", "value"] := by decide
  have wide : widths rows = [2, 30, 5] := by decide
  have counted : summary ⟨none, rows⟩ = "2 rows".toList := by decide
  rw [wide, names, counted] at laid
  exact ⟨names, wide, rfl, laid⟩

example : render false
    ⟨none, [.object [("Id", .ofNat 1), ("Name", .string "A name of thirty-one characters")],
      .bool true]⟩ =
    "Id  Name                            value\n" ++
    "1   A name of thirty-one charac...\n" ++
    "                                    true\n" ++ "2 rows\n" := by
  decide +kernel

end ODataQuery.Table
