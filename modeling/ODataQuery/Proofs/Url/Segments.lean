import ODataQuery.Proofs.Query.Form
import ODataQuery.Proofs.Text.Parts
import ODataQuery.Url.Basic

/-! Paths of the web, segment by segment, and what one more name behind a path makes of it. -/
namespace ODataQuery.Url

/-- A part that stands for its own place or for the one above. -/
def isDots (part : List Char) : Bool := isDoubleDot part || isSingleDot part

/-- How points are written, letter case apart. -/
def dotForms : List (List Char) := ["..", ".%2e", "%2e.", "%2e%2e", ".", "%2e"].map String.toList

theorem isDots_iff (part : List Char) : isDots part = true ↔ part.map Char.toLower ∈ dotForms := by
  simp only [isDots, isDoubleDot, isSingleDot, Bool.or_eq_true, decide_eq_true_eq, dotForms,
    List.map_cons, List.map_nil, List.mem_cons, List.not_mem_nil, or_false, or_assoc]
  rfl

theorem isDots_of_control {c : Char} (control : isControlOrSpace c = true) {part : List Char}
    (member : c ∈ part) : isDots part = false := by
  have forms : (dotForms.all fun form => form.all fun d => 32 < d.toNat) = true := by decide
  simp only [List.all_eq_true, decide_eq_true_eq] at forms
  have lower : ∀ n < 33, (Char.ofNat n).toLower.toNat = n := by decide
  have small : c.toNat ≤ 32 := of_decide_eq_true control
  have same := lower c.toNat (by omega)
  rw [Char.ofNat_toNat] at same
  rw [Bool.eq_false_iff, ne_eq, isDots_iff]
  intro dots
  have greater := forms _ dots _ (List.mem_map_of_mem member)
  omega

theorem isAscii_of_isAlphanum {c : Char} (plain : c.isAlphanum = true) : c.toNat < 128 := by
  have kinds : ((c.isUpper || c.isLower) || c.isDigit) = true := plain
  rw [Bool.or_eq_true, Bool.or_eq_true] at kinds
  rcases kinds with (upper | lower) | digit
  · have last : c.val ≤ 'Z'.val := (of_decide_eq_true upper).2
    exact Nat.lt_of_le_of_lt (UInt32.le_iff_toNat_le.mp last) (by decide)
  · have last : c.val ≤ 'z'.val := of_decide_eq_true (Bool.and_eq_true_iff.mp lower).2
    exact Nat.lt_of_le_of_lt (UInt32.le_iff_toNat_le.mp last) (by decide)
  · exact Nat.lt_of_le_of_lt (Char.isDigit_iff_toNat.mp digit).2 (by decide)

theorem isDots_of_isAlphanum {part : List Char} (plain : ∀ c ∈ part, c.isAlphanum = true) :
    isDots part = false := by
  have forms : (dotForms.all fun form => form.any fun d => d = '.' ∨ d = '%') = true := by decide
  simp only [List.all_eq_true, List.any_eq_true, decide_eq_true_eq] at forms
  rw [Bool.eq_false_iff, ne_eq, isDots_iff]
  intro dots
  obtain ⟨d, member, mark⟩ := forms _ dots
  obtain ⟨c, inside, rfl⟩ := List.mem_map.mp member
  have ascii : c.toNat < 128 := isAscii_of_isAlphanum (plain c inside)
  have unmarked : ∀ n < 128, (Char.ofNat n).isAlphanum = true →
      ¬((Char.ofNat n).toLower = '.' ∨ (Char.ofNat n).toLower = '%') := by decide
  have unmarked := unmarked c.toNat ascii
  rw [Char.ofNat_toNat] at unmarked
  exact unmarked (plain c inside) mark

def written (segments : List String) : List Char := segments.flatMap fun s => '/' :: s.toList

theorem written_concat (done : List String) (s : String) :
    written (done ++ [s]) = written done ++ '/' :: s.toList := by
  simp [written]

theorem toList_pathText (segments : List String) :
    (pathText (.segments segments)).toList = written segments := by
  rw [pathText, written]
  induction segments with
  | nil => rfl
  | cons s rest ih => simp [String.join_cons, ih]

def segment (part : List Char) : String := String.ofList (percentEncode isPathSafe part)

def settle (done : List String) (part : List Char) : List String :=
  if isDoubleDot part then done.dropLast
  else if isSingleDot part then done
  else done ++ [segment part]

theorem settle_of_plain {part : List Char} (plain : isDots part = false) (done : List String) :
    settle done part = done ++ [segment part] := by
  obtain ⟨double, single⟩ := Bool.or_eq_false_iff.mp plain
  simp [settle, double, single]

/-- What the last part of a path leaves beside its segment: an empty one where it is a point. -/
def closing (part : List Char) : List String := if isDots part then [""] else []

theorem addSegments_cons (done : List String) (part : List Char) {rest : List (List Char)}
    (more : rest ≠ []) :
    addSegments false done (part :: rest) = addSegments false (settle done part) rest := by
  have more : rest.isEmpty = false := by simpa using more
  rw [addSegments, settle]
  split
  · simp [more, shorten]
  split
  · simp [more]
  · simp [segment]

theorem addSegments_concat (done : List String) (parts : List (List Char)) (last : List Char) :
    addSegments false done (parts ++ [last]) =
      settle (parts.foldl settle done) last ++ closing last := by
  induction parts generalizing done with
  | nil =>
    rw [List.nil_append, List.foldl_nil, addSegments, settle, closing, isDots]
    cases isDoubleDot last <;> cases isSingleDot last <;> simp [addSegments, shorten, segment]
  | cons part rest ih =>
    rw [List.cons_append, addSegments_cons done part (by simp), ih, List.foldl_cons]

def isSlash (c : Char) : Bool := c = '/' || c = '\\'

def partsBefore : List Char → List (List Char)
  | [] => []
  | _ :: rest => Text.splitChars isSlash rest

theorem partsBefore_append {slash : Char} (separates : isSlash slash = true) (front : List Char)
    {part : List Char} (plain : ∀ c ∈ part, isSlash c = false) :
    partsBefore (front ++ slash :: part) = partsBefore front ++ [part] := by
  cases front with
  | nil => exact Text.splitChars_of_none plain
  | cons c rest =>
    rw [List.cons_append, partsBefore, partsBefore, Text.splitChars_append separates,
      Text.splitChars_of_none plain]

theorem segmentsOf_eq {path : List Char} (begins : ∃ c ∈ path.head?, isSlash c = true) :
    segmentsOf true false path = addSegments false [] (partsBefore path) := by
  obtain ⟨c, first, separates⟩ := begins
  obtain ⟨rest, rfl⟩ := List.head?_eq_some_iff.mp first
  change addSegments false [] (Text.splitChars isSlash (if isSlash c then rest else c :: rest)) = _
  rw [if_pos separates]
  rfl

theorem exists_last_slash {path : List Char} (begins : ∃ c ∈ path.head?, isSlash c = true) :
    ∃ front slash part, path = front ++ slash :: part ∧ isSlash slash = true ∧
      ∀ c ∈ part, isSlash c = false := by
  induction path using List.reverseRecOn with
  | nil => simp at begins
  | append_singleton path c ih =>
    cases separates : isSlash c with
    | true => exact ⟨path, c, [], rfl, separates, by simp⟩
    | false =>
      have shorter : ∃ d ∈ path.head?, isSlash d = true := by
        cases path with
        | nil => simp [separates] at begins
        | cons d rest => simpa using begins
      obtain ⟨front, slash, part, rfl, last, plain⟩ := ih shorter
      refine ⟨front, slash, part ++ [c], by simp, last, ?_⟩
      simpa [or_imp, forall_and, separates] using plain

theorem percentEncode_of_safe {safe : Char → Bool} {cs : List Char}
    (kept : ∀ c ∈ cs, safe c = true) : percentEncode safe cs = cs := by
  induction cs with
  | nil => rfl
  | cons c rest ih =>
    obtain ⟨first, others⟩ := List.forall_mem_cons.mp kept
    rw [percentEncode, List.flatMap_cons, if_pos first]
    exact congrArg (c :: ·) (ih others)

theorem percentEncode_ne_nil {safe : Char → Bool} {cs : List Char} (filled : cs ≠ []) :
    percentEncode safe cs ≠ [] := by
  obtain ⟨c, rest, rfl⟩ := List.exists_cons_of_ne_nil filled
  obtain ⟨b, bytes, encoded⟩ :=
    List.exists_cons_of_ne_nil (String.utf8EncodeChar_ne_nil (c := c))
  rw [percentEncode, List.flatMap_cons]
  split <;> simp [encodeChar, encoded, encodeByte]

theorem slash_not_mem_percentEncode {part : List Char} (plain : ∀ c ∈ part, isSlash c = false) :
    '/' ∉ percentEncode isPathSafe part := by
  intro member
  obtain ⟨c, inside, encoded⟩ := List.mem_flatMap.mp member
  split at encoded
  · obtain rfl := List.mem_singleton.mp encoded
    exact absurd (plain _ inside) (by decide)
  · rcases Form.percent_of_mem_encodeChar encoded with same | safe
    · exact absurd same (by decide)
    · exact absurd safe (by decide)

theorem plain_of_isAlphanum {c : Char} (plain : c.isAlphanum = true) :
    isPathSafe c = true ∧ isSlash c = false ∧ c ≠ '?' ∧ c ≠ '#' := by
  have all : ∀ n < 128, (Char.ofNat n).isAlphanum = true →
      isPathSafe (Char.ofNat n) = true ∧ isSlash (Char.ofNat n) = false ∧
        Char.ofNat n ≠ '?' ∧ Char.ofNat n ≠ '#' := by decide
  have known := all c.toNat (isAscii_of_isAlphanum plain)
  rw [Char.ofNat_toNat] at known
  exact known plain

theorem visible_of_isAlphanum {c : Char} (plain : c.isAlphanum = true) :
    isControlOrSpace c = false := by
  have none : ∀ n < 33, (Char.ofNat n).isAlphanum = false := by decide
  by_contra control
  have small : c.toNat ≤ 32 := by simpa [isControlOrSpace] using control
  have known := none c.toNat (by omega)
  rw [Char.ofNat_toNat, plain] at known
  cases known

theorem plain_of_control {c : Char} (control : isControlOrSpace c = true) :
    isSlash c = false ∧ c ≠ '?' ∧ c ≠ '#' := by
  have all : ∀ n < 33, isSlash (Char.ofNat n) = false ∧
      Char.ofNat n ≠ '?' ∧ Char.ofNat n ≠ '#' := by decide
  have known := all c.toNat (Nat.lt_succ_of_le (of_decide_eq_true control))
  rwa [Char.ofNat_toNat] at known

theorem segment_of_isAlphanum {name : String} (plain : ∀ c ∈ name.toList, c.isAlphanum = true) :
    segment name.toList = name := by
  rw [segment, percentEncode_of_safe fun c member => (plain_of_isAlphanum (plain c member)).1,
    String.ofList_toList]

/-- Nothing in the text ends the path. -/
def Unmarked (tail : List Char) : Prop := ∀ c ∈ tail, c ≠ '?' ∧ c ≠ '#'

theorem splitParts_of_unmarked {tail : List Char} (unmarked : Unmarked tail) :
    (splitParts tail).1 = tail := by
  have front : tail.takeWhile (· ≠ '#') = tail :=
    List.takeWhile_eq_self_iff.mpr fun c member => decide_eq_true (unmarked c member).2
  rw [splitParts, front]
  exact List.takeWhile_eq_self_iff.mpr fun c member => decide_eq_true (unmarked c member).1

/-- Behind a query or a fragment nothing comes to the path. -/
theorem splitParts_of_marked {tail : List Char} (marked : ∃ c ∈ tail, c = '?' ∨ c = '#')
    (more : List Char) : (splitParts (tail ++ more)).1 = (splitParts tail).1 := by
  obtain ⟨c, member, mark⟩ := marked
  have path (cs : List Char) : (splitParts cs).1 = cs.takeWhile fun c => c ≠ '?' ∧ c ≠ '#' := by
    simp [splitParts, List.takeWhile_takeWhile]
  have stops : (tail.takeWhile fun c => c ≠ '?' ∧ c ≠ '#').length ≠ tail.length := by
    intro whole
    have all := (List.takeWhile_prefix _).eq_of_length whole
    have kept := of_decide_eq_true (List.takeWhile_eq_self_iff.mp all c member)
    exact mark.elim kept.1 kept.2
  rw [path, path, List.takeWhile_append, if_neg stops]

/-- The path that is made of the text behind an authority. -/
def pathOf (tail : List Char) : List Char := written (segmentsOf true false (splitParts tail).1)

theorem dropEndWhile_slash_eq_iff (path : List Char) :
    Text.dropEndWhile (· = '/') path = path ↔ path.getLast? ≠ some '/' := by
  rw [Text.dropEndWhile_eq_rdropWhile, List.rdropWhile_eq_self_iff]
  cases path using List.reverseRecOn <;> simp

theorem doubled_concat_iff (path : List Char) :
    ['/', '/'] <:+ path ++ ['/'] ↔ path.getLast? = some '/' := by
  cases path using List.reverseRecOn with
  | nil => decide
  | append_singleton path c => rw [← List.reverse_prefix]; simp [eq_comm]

theorem getLast?_of_doubled {path : List Char} (doubled : ['/', '/'] <:+ path) :
    path.getLast? = some '/' := by
  obtain ⟨front, rfl⟩ := doubled
  simp

/-- A name can follow the segments of a path just where the path ends in a part and does not come to
two slashes. -/
theorem written_settle_eq_iff (done : List String) {part : List Char}
    (plain : ∀ c ∈ part, isSlash c = false) :
    written (settle done part) =
        Text.dropEndWhile (· = '/') (written (settle done part ++ closing part)) ↔
      part ≠ [] ∧ ¬ ['/', '/'] <:+ written (settle done part ++ closing part) := by
  rw [eq_comm]
  cases dots : isDots part with
  | true =>
    have filled : part ≠ [] := by rintro rfl; exact absurd dots (by decide)
    have slash : written (settle done part ++ closing part) = written (settle done part) ++ ['/'] := by
      simp [closing, dots, written]
    rw [slash, Text.dropEndWhile_append_singleton, if_pos (by decide), dropEndWhile_slash_eq_iff,
      doubled_concat_iff]
    simp [filled]
  | false =>
    have alone : settle done part ++ closing part = settle done part := by simp [closing, dots]
    rw [alone, dropEndWhile_slash_eq_iff]
    have written : written (settle done part) =
        written done ++ '/' :: percentEncode isPathSafe part := by
      rw [settle_of_plain dots, written_concat, segment, String.toList_ofList]
    rw [written]
    by_cases filled : part = []
    · simp [filled, percentEncode]
    · have other : (ODataQuery.Url.written done ++ '/' :: percentEncode isPathSafe part).getLast? ≠
          some '/' := by
        intro slash
        obtain ⟨c, rest, encoded⟩ := List.exists_cons_of_ne_nil (percentEncode_ne_nil filled)
        refine slash_not_mem_percentEncode plain (List.mem_of_getLast? ?_)
        rw [encoded] at slash ⊢
        simpa using slash
      exact iff_of_true other ⟨filled, fun doubled => other (getLast?_of_doubled doubled)⟩

/-- Points do not make the segments before them longer. -/
theorem length_settle_of_dots {part : List Char} (dots : isDots part = true) (done : List String) :
    (written (settle done part)).length ≤ (written done).length := by
  rw [settle]
  split
  · cases done using List.reverseRecOn <;> simp [written_concat]
  · rename_i double
    have single : isSingleDot part = true := by simpa [isDots, double] using dots
    rw [if_pos single]

/-- Control characters and blanks become a part of the path. -/
theorem written_settle_ne (done : List String) (part : List Char) {controls : List Char}
    (filled : controls ≠ []) (control : ∀ c ∈ controls, isControlOrSpace c = true) :
    written (settle done (part ++ controls)) ≠
      Text.dropEndWhile (· = '/') (written (settle done part ++ closing part)) := by
  -- the encoded characters make the left side longer than the right one can be
  obtain ⟨c, rest, rfl⟩ := List.exists_cons_of_ne_nil filled
  have noDots : isDots (part ++ c :: rest) = false :=
    isDots_of_control (control c (by simp)) (by simp)
  have encoded : 0 < (percentEncode isPathSafe (c :: rest)).length :=
    List.length_pos_of_ne_nil (percentEncode_ne_nil filled)
  have long : (written (settle done (part ++ c :: rest))).length = (written done).length + 1 +
      (percentEncode isPathSafe part).length + (percentEncode isPathSafe (c :: rest)).length := by
    rw [settle_of_plain noDots, written_concat, segment, String.toList_ofList, percentEncode,
      List.flatMap_append, List.length_append, List.length_cons, List.length_append]
    simp only [percentEncode]
    omega
  have short : (written (settle done part ++ closing part)).length ≤
      (written done).length + 1 + (percentEncode isPathSafe part).length := by
    cases dots : isDots part with
    | true =>
      have prior : (written (settle done part)).length ≤ (written done).length :=
        length_settle_of_dots dots done
      simp [closing, dots, written_concat]
      omega
    | false =>
      simp [closing, dots, settle_of_plain, written_concat, segment]
      omega
  have shorter : (Text.dropEndWhile (· = '/') (written (settle done part ++ closing part))).length ≤
      (written (settle done part ++ closing part)).length := by
    rw [Text.dropEndWhile_eq_rdropWhile]
    exact (List.rdropWhile_prefix _ _).length_le
  intro same
  have lengths := congrArg List.length same
  omega

section Joined

variable {name : String} (named : ∀ c ∈ name.toList, c.isAlphanum = true)
include named

theorem unmarked_joined {tail controls : List Char} (unmarked : Unmarked tail)
    (control : ∀ c ∈ controls, isControlOrSpace c = true) :
    Unmarked (tail ++ controls ++ '/' :: name.toList) := by
  intro c member
  rcases List.mem_append.mp member with member | member
  · rcases List.mem_append.mp member with member | member
    · exact unmarked c member
    · exact (plain_of_control (control c member)).2
  · rcases List.mem_cons.mp member with rfl | member
    · decide
    · exact (plain_of_isAlphanum (named c member)).2.2

theorem slashless_name : ∀ c ∈ name.toList, isSlash c = false := by
  intro c member
  exact (plain_of_isAlphanum (named c member)).2.1

theorem pathOf_name : pathOf ('/' :: name.toList) = '/' :: name.toList := by
  have empty : Unmarked [] := by simp [Unmarked]
  have none : ∀ c ∈ ([] : List Char), isControlOrSpace c = true := by simp
  have unmarked : Unmarked ('/' :: name.toList) := unmarked_joined named empty none
  have parts : partsBefore ('/' :: name.toList) = [] ++ [name.toList] :=
    partsBefore_append (by decide) [] (slashless_name named)
  have noDots : isDots name.toList = false := isDots_of_isAlphanum named
  rw [pathOf, splitParts_of_unmarked unmarked, segmentsOf_eq ⟨'/', rfl, by decide⟩, parts,
    addSegments_concat, settle_of_plain noDots, segment_of_isAlphanum named, closing,
    if_neg (by simp [noDots])]
  simp [written]

/-- The path of a text and, with control characters and a name behind it, that of the whole. -/
theorem pathOf_append {front part : List Char} {slash : Char} (separates : isSlash slash = true)
    (plain : ∀ c ∈ part, isSlash c = false)
    (begins : ∃ c ∈ (front ++ slash :: part).head?, isSlash c = true)
    (unmarked : Unmarked (front ++ slash :: part)) {controls : List Char}
    (control : ∀ c ∈ controls, isControlOrSpace c = true) :
    let done := (partsBefore front).foldl settle []
    pathOf (front ++ slash :: part) = written (settle done part ++ closing part) ∧
      pathOf (front ++ slash :: part ++ controls ++ '/' :: name.toList) =
        written (settle done (part ++ controls)) ++ '/' :: name.toList := by
  intro done
  constructor
  · rw [pathOf, splitParts_of_unmarked unmarked, segmentsOf_eq begins,
      partsBefore_append separates front plain, addSegments_concat]
  · have apart : ∀ c ∈ part ++ controls, isSlash c = false := by
      intro c member
      rcases List.mem_append.mp member with member | member
      · exact plain c member
      · exact (plain_of_control (control c member)).1
    have starts : ∃ c ∈ (front ++ slash :: part ++ controls ++ '/' :: name.toList).head?,
        isSlash c = true := by
      obtain ⟨c, first, separates⟩ := begins
      refine ⟨c, ?_, separates⟩
      rw [List.append_assoc, List.head?_append, Option.mem_def.mp first]
      rfl
    have noDots : isDots name.toList = false := isDots_of_isAlphanum named
    rw [pathOf, splitParts_of_unmarked (unmarked_joined named unmarked control),
      segmentsOf_eq starts, partsBefore_append (by decide) _ (slashless_name named),
      List.append_assoc front, List.cons_append, partsBefore_append separates front apart,
      addSegments_concat, List.foldl_concat, settle_of_plain noDots, segment_of_isAlphanum named,
      closing, if_neg (by simp [noDots])]
    simp [written, done]

/-- A name behind a path is its next segment just where the path has neither a slash nor a control
character at its end and does not come to two slashes. -/
theorem pathOf_joined_iff {tail : List Char} (begins : ∃ c ∈ tail.head?, isSlash c = true)
    (unmarked : Unmarked tail) {controls : List Char}
    (control : ∀ c ∈ controls, isControlOrSpace c = true) :
    pathOf (tail ++ controls ++ '/' :: name.toList) =
        Text.dropEndWhile (· = '/') (pathOf tail) ++ '/' :: name.toList ↔
      controls = [] ∧ (∀ c ∈ tail.getLast?, isSlash c = false) ∧ ¬ ['/', '/'] <:+ pathOf tail := by
  obtain ⟨front, slash, part, rfl, separates, plain⟩ := exists_last_slash begins
  obtain ⟨alone, joined⟩ := pathOf_append named separates plain begins unmarked control
  have ends : (∀ c ∈ (front ++ slash :: part).getLast?, isSlash c = false) ↔ part ≠ [] := by
    cases part using List.reverseRecOn with
    | nil => simp [separates]
    | append_singleton part c =>
      have last : isSlash c = false := plain c (by simp)
      rw [← List.cons_append, ← List.append_assoc, List.getLast?_concat]
      simp [last]
  rw [alone, joined, List.append_cancel_right_eq, ends]
  by_cases none : controls = []
  · subst none
    rw [List.append_nil, written_settle_eq_iff _ plain]
    simp
  · simp [none, written_settle_ne _ part none control]

end Joined

end ODataQuery.Url
