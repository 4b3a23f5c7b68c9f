import Mathlib.Data.List.DropRight
import Mathlib.Data.List.TakeWhile
import ODataQuery.Text.Blank

/-! What trimming keeps of a text, how splitting undoes joining, and the bytes of a text. -/
namespace ODataQuery.Text

variable {p : Char → Bool}

theorem dropEndWhile_eq_rdropWhile {α : Type} (p : α → Bool) (l : List α) :
    dropEndWhile p l = l.rdropWhile p := by
  induction l using List.reverseRecOn with
  | nil => rfl
  | append_singleton l a ih => rw [dropEndWhile_append_singleton, List.rdropWhile_concat, ih]

theorem dropEndWhile_append {α : Type} (p : α → Bool) (l : List α) :
    ∃ back, l = dropEndWhile p l ++ back ∧ ∀ a ∈ back, p a = true := by
  induction l with
  | nil => exact ⟨[], rfl, by simp⟩
  | cons a rest ih =>
    obtain ⟨back, whole, dropped⟩ := ih
    rw [dropEndWhile]
    cases kept : dropEndWhile p rest with
    | nil =>
      rw [kept, List.nil_append] at whole
      by_cases last : p a = true
      · exact ⟨a :: back, by simp [last, ← whole], by simpa [last] using dropped⟩
      · exact ⟨back, by simp [last, ← whole], dropped⟩
    | cons b more =>
      rw [kept] at whole
      exact ⟨back, congrArg (a :: ·) whole, dropped⟩

/-- A text is what is left of it by trimming with blanks around it. -/
theorem trimChars_append (cs : List Char) :
    ∃ front back, cs = front ++ (trimChars cs ++ back) ∧ (∀ c ∈ front, isBlank c = true) ∧
      ∀ c ∈ back, isBlank c = true := by
  obtain ⟨back, whole, dropped⟩ := dropEndWhile_append isBlank (cs.dropWhile isBlank)
  refine ⟨cs.takeWhile isBlank, back, ?_, fun c => List.mem_takeWhile_imp, dropped⟩
  rw [trimChars, ← whole, List.takeWhile_append_dropWhile]

theorem dropEndWhile_append_cons {α : Type} {p : α → Bool} {a : α} (kept : p a = false)
    (front back : List α) :
    dropEndWhile p (front ++ a :: back) = front ++ a :: dropEndWhile p back := by
  induction back using List.reverseRecOn with
  | nil => rw [dropEndWhile_append_singleton, kept, if_neg Bool.false_ne_true]; rfl
  | append_singleton back b ih =>
    rw [← List.cons_append, ← List.append_assoc, dropEndWhile_append_singleton,
      dropEndWhile_append_singleton, ih]
    split
    · rfl
    · simp

theorem dropEndWhile_eq_self_iff {α : Type} {p : α → Bool} {l : List α} :
    dropEndWhile p l = l ↔ ∀ a ∈ l.getLast?, p a = false := by
  rw [dropEndWhile_eq_rdropWhile, List.rdropWhile_eq_self_iff]
  cases l using List.reverseRecOn with
  | nil => simp
  | append_singleton front a => simp

theorem dropEndWhile_idem {α : Type} (p : α → Bool) (l : List α) :
    dropEndWhile p (dropEndWhile p l) = dropEndWhile p l := by
  simp only [dropEndWhile_eq_rdropWhile]
  exact List.rdropWhile_idempotent ..

/-- All that satisfies `p` is dropped up to an element that does not. -/
theorem dropEndWhile_append_of {α : Type} {p : α → Bool} {front back : List α}
    (last : ∀ a ∈ front.getLast?, p a = false) (dropped : ∀ a ∈ back, p a = true) :
    dropEndWhile p (front ++ back) = front := by
  have none : dropEndWhile p back = [] := by
    rw [dropEndWhile_eq_rdropWhile, List.rdropWhile_eq_nil_iff]
    exact dropped
  cases front using List.reverseRecOn with
  | nil => exact none
  | append_singleton front a =>
    rw [List.append_assoc, List.singleton_append,
      dropEndWhile_append_cons (last a List.getLast?_concat), none]

/-- Trimming keeps what it would drop at the end just where something kept stands behind it. -/
theorem mem_dropEndWhile_iff {α : Type} {p : α → Bool} {a : α} (dropped : p a = true) {l : List α} :
    a ∈ dropEndWhile p l ↔ ∃ b, p b = false ∧ [a, b].Sublist l := by
  obtain ⟨back, whole, blank⟩ := dropEndWhile_append p l
  constructor
  · intro member
    obtain ⟨front, b, same⟩ : ∃ front b, dropEndWhile p l = front ++ [b] :=
      ⟨_, _, (List.dropLast_concat_getLast (List.ne_nil_of_mem member)).symm⟩
    have kept : p b = false := by
      refine dropEndWhile_eq_self_iff.mp (dropEndWhile_idem p l) b ?_
      simp [same]
    have earlier : a ∈ front := by
      rw [same] at member
      rcases List.mem_append.mp member with earlier | last
      · exact earlier
      · rw [List.mem_singleton.mp last, kept] at dropped
        cases dropped
    refine ⟨b, kept, ?_⟩
    rw [whole, same]
    exact ((List.singleton_sublist.mpr earlier).append_right [b]).trans
      (List.sublist_append_left ..)
  · rintro ⟨b, kept, sublist⟩
    rw [whole] at sublist
    obtain ⟨first, second, pair, inside, behind⟩ := List.sublist_append_iff.mp sublist
    -- the part of the pair in the dropped end cannot hold its last element
    cases second using List.reverseRecOn with
    | nil =>
      rw [List.append_nil] at pair
      exact inside.subset (pair ▸ List.mem_cons_self)
    | append_singleton more last =>
      rw [← List.append_assoc] at pair
      obtain rfl : b = last := by simpa using congrArg List.getLast? pair
      rw [blank b (behind.subset (by simp))] at kept
      cases kept

/-- What is left in front of the dropped elements begins as the list does. -/
theorem head?_dropEndWhile {α : Type} {p : α → Bool} {l : List α} {a : α}
    (first : a ∈ (dropEndWhile p l).head?) : a ∈ l.head? := by
  obtain ⟨back, whole, -⟩ := dropEndWhile_append p l
  rw [whole, List.head?_append, Option.mem_def.mp first]
  rfl

theorem trimChars_unblank (cs : List Char) :
    (∀ c ∈ (trimChars cs).head?, isBlank c = false) ∧
      ∀ c ∈ (trimChars cs).getLast?, isBlank c = false := by
  constructor
  · intro c first
    have first := head?_dropEndWhile first
    have kept := List.head?_dropWhile_not isBlank cs
    simpa [Option.mem_def.mp first] using kept
  · exact dropEndWhile_eq_self_iff.mp (dropEndWhile_idem ..)

theorem trimChars_eq_self {cs : List Char} (front : ∀ c ∈ cs.head?, isBlank c = false)
    (back : ∀ c ∈ cs.getLast?, isBlank c = false) : trimChars cs = cs := by
  have kept : cs.dropWhile isBlank = cs := by
    cases cs with
    | nil => rfl
    | cons c rest => exact List.dropWhile_cons_of_neg (by simp [front c rfl])
  rw [trimChars, kept, dropEndWhile_eq_self_iff]
  exact back

/-- What belongs to a class, up to a character that does not, is just what is taken and dropped. -/
theorem longest_run {p : Char → Bool} {run rest : List Char} (inside : ∀ c ∈ run, p c = true)
    (outside : ∀ c ∈ rest.head?, p c = false) :
    (run ++ rest).takeWhile p = run ∧ (run ++ rest).dropWhile p = rest := by
  rw [List.takeWhile_append_of_pos inside, List.dropWhile_append_of_pos inside]
  cases rest with
  | nil => simp
  | cons c tail => simp [outside c rfl]

theorem isEmpty_trim (s : String) : (trim s).isEmpty = isBlankText s := by
  have whole := List.takeWhile_append_dropWhile (p := isBlank) (l := s.toList)
  rw [Bool.eq_iff_iff, String.isEmpty_iff, trim, String.ofList_eq_empty_iff, trimChars,
    dropEndWhile_eq_rdropWhile, List.rdropWhile_eq_nil_iff, isBlankText, List.all_eq_true]
  constructor
  · intro rest c member
    rw [← whole] at member
    rcases List.mem_append.mp member with front | back
    · exact List.mem_takeWhile_imp front
    · exact rest c back
  · exact fun blank c member => blank c ((List.dropWhile_sublist _).mem member)

/-- Of a trimmed text something that is no blank is left, or nothing. -/
theorem isBlankText_trim (s : String) : isBlankText (trim s) = isBlankText s := by
  rw [← isEmpty_trim s, Bool.eq_iff_iff, isBlankText, trim, String.toList_ofList, List.all_eq_true,
    String.isEmpty_iff, String.ofList_eq_empty_iff]
  constructor
  · intro blank
    by_contra kept
    have last := (trimChars_unblank s.toList).2 _ (List.getLast?_eq_getLast_of_ne_nil kept)
    rw [blank _ (List.getLast_mem kept)] at last
    cases last
  · intro none
    simp [none]

theorem trimChars_of_none {cs : List Char} (none : ∀ c ∈ cs, isBlank c = false) :
    trimChars cs = cs :=
  trimChars_eq_self (fun c first => none c (List.mem_of_mem_head? first))
    fun c last => none c (List.mem_of_mem_getLast? last)

/-- Blanks around a text are trimmed away, and nothing else is if blanks do not stand at its ends. -/
theorem trimChars_between {front cs back : List Char} (blankFront : ∀ c ∈ front, isBlank c = true)
    (first : ∀ c ∈ cs.head?, isBlank c = false) (last : ∀ c ∈ cs.getLast?, isBlank c = false)
    (blankBack : ∀ c ∈ back, isBlank c = true) : trimChars (front ++ (cs ++ back)) = cs := by
  rw [trimChars, List.dropWhile_append_of_pos blankFront]
  cases cs with
  | nil =>
    have none : back.dropWhile isBlank = [] := List.dropWhile_eq_nil_iff.mpr blankBack
    rw [List.nil_append, none]
    rfl
  | cons c rest =>
    rw [List.cons_append, List.dropWhile_cons_of_neg (by simp [first c rfl]), ← List.cons_append]
    exact dropEndWhile_append_of last blankBack

/-- Characters that do not separate belong to the piece being read. -/
theorem piecesFrom_append {piece : List Char} (none : ∀ c ∈ piece, p c = false)
    (word rest : List Char) :
    piecesFrom p word (piece ++ rest) = piecesFrom p (piece.reverse ++ word) rest := by
  induction piece generalizing word with
  | nil => rfl
  | cons c piece ih =>
    obtain ⟨first, others⟩ := List.forall_mem_cons.mp none
    rw [List.cons_append, piecesFrom, first, if_neg Bool.false_ne_true, ih others]
    simp

theorem piecesFrom_of_none {piece : List Char} (none : ∀ c ∈ piece, p c = false)
    (some : piece ≠ []) : piecesFrom p [] piece = [String.ofList piece] := by
  have read := piecesFrom_append none [] []
  rw [List.append_nil, List.append_nil] at read
  simp [read, piecesFrom, some]

theorem piecesFrom_cons {piece : List Char} (none : ∀ c ∈ piece, p c = false) (some : piece ≠ [])
    {c : Char} (separates : p c = true) (rest : List Char) :
    piecesFrom p [] (piece ++ c :: rest) = String.ofList piece :: piecesFrom p [] rest := by
  rw [piecesFrom_append none, List.append_nil]
  simp [piecesFrom, separates, some]

theorem splitChars_of_none {piece : List Char} (none : ∀ c ∈ piece, p c = false) :
    splitChars p piece = [piece] := by
  induction piece with
  | nil => rfl
  | cons c rest ih =>
    obtain ⟨first, others⟩ := List.forall_mem_cons.mp none
    simp [splitChars, first, ih others]

/-- A separator splits a text whatever stands beside it. -/
theorem splitChars_append {c : Char} (separates : p c = true) (front back : List Char) :
    splitChars p (front ++ c :: back) = splitChars p front ++ splitChars p back := by
  induction front with
  | nil => simp [splitChars, separates]
  | cons d rest ih =>
    rw [List.cons_append, splitChars, splitChars, ih]
    obtain ⟨piece, more, pieces⟩ := List.exists_cons_of_ne_nil (splitChars_ne_nil p rest)
    split <;> simp [pieces]

theorem splitChars_intercalate {c : Char} (separates : p c = true) {piece : List Char}
    {pieces : List (List Char)} (none : ∀ q ∈ piece :: pieces, ∀ d ∈ q, p d = false) :
    splitChars p (List.intercalate [c] (piece :: pieces)) = piece :: pieces := by
  induction pieces generalizing piece with
  | nil => simpa using splitChars_of_none (none piece (by simp))
  | cons next rest ih =>
    obtain ⟨first, others⟩ := List.forall_mem_cons.mp none
    rw [List.intercalate_cons_cons, List.append_assoc, List.singleton_append,
      splitChars_append separates, splitChars_of_none first, ih others]
    rfl

def endedLines (cs : List Char) : List (List Char) := (splitChars (· == '\n') cs).dropLast

theorem length_splitChars (p : Char → Bool) (cs : List Char) :
    (splitChars p cs).length = cs.countP p + 1 := by
  induction cs with
  | nil => rfl
  | cons c rest ih =>
    rw [splitChars, List.countP_cons]
    obtain ⟨piece, more, pieces⟩ := List.exists_cons_of_ne_nil (splitChars_ne_nil p rest)
    rw [pieces] at ih ⊢
    split <;> simp_all

theorem length_endedLines (lines : List (List Char)) :
    (endedLines (lines.flatMap (· ++ ['\n']))).length =
      lines.length + lines.flatten.count '\n' := by
  rw [endedLines, List.length_dropLast, length_splitChars, Nat.add_sub_cancel]
  change List.count '\n' _ = _
  induction lines with
  | nil => rfl
  | cons line rest ih =>
    rw [List.flatMap_cons, List.flatten_cons, List.count_append, List.count_append,
      List.count_append, ih, List.length_cons, List.count_singleton_self]
    omega

/-- Lines without line feeds are those that are ended by one each. -/
theorem endedLines_of_none {lines : List (List Char)} (none : ∀ line ∈ lines, '\n' ∉ line) :
    endedLines (lines.flatMap (· ++ ['\n'])) = lines := by
  have split : splitChars (· == '\n') (lines.flatMap (· ++ ['\n'])) = lines ++ [[]] := by
    induction lines with
    | nil => rfl
    | cons line rest ih =>
      obtain ⟨first, others⟩ := List.forall_mem_cons.mp none
      have whole : splitChars (· == '\n') line = [line] := by
        refine splitChars_of_none fun c member => ?_
        exact beq_eq_false_iff_ne.mpr fun same => first (same ▸ member)
      rw [List.flatMap_cons, List.append_assoc, List.singleton_append,
        splitChars_append (by decide), whole, ih others]
      rfl
  rw [endedLines, split, List.dropLast_concat]

theorem length_lt_endedLines {lines : List (List Char)} {line : List Char} (member : line ∈ lines)
    (newline : '\n' ∈ line) :
    lines.length < (endedLines (lines.flatMap (· ++ ['\n']))).length := by
  have present : 0 < lines.flatten.count '\n' :=
    List.count_pos_iff.mpr (List.mem_flatten.mpr ⟨line, member, newline⟩)
  rw [length_endedLines]
  omega

theorem endedLines_eq_iff (lines : List (List Char)) :
    endedLines (lines.flatMap (· ++ ['\n'])) = lines ↔ ∀ line ∈ lines, '\n' ∉ line := by
  refine ⟨fun same line member newline => ?_, endedLines_of_none⟩
  have longer := length_lt_endedLines member newline
  rw [same] at longer
  omega

theorem toByteArray_eq (s : String) :
    s.toByteArray = ⟨(s.toList.flatMap String.utf8EncodeChar).toArray⟩ := by
  rw [← List.data_toByteArray]
  change s.toByteArray = s.toList.utf8Encode
  rw [← String.toByteArray_ofList, String.ofList_toList]

theorem utf8ByteSize_of_single {s : String} (single : ∀ c ∈ s.toList, c.utf8Size = 1) :
    s.utf8ByteSize = s.toList.length := by
  have lengths : s.toList.map (fun c => (String.utf8EncodeChar c).length) =
      List.replicate s.toList.length 1 := by
    rw [List.eq_replicate_iff]
    simpa [String.length_utf8EncodeChar] using single
  rw [← String.size_toByteArray, toByteArray_eq]
  change (s.toList.flatMap String.utf8EncodeChar).length = _
  rw [List.length_flatMap, lengths, List.sum_replicate_nat, Nat.mul_one]

end ODataQuery.Text
