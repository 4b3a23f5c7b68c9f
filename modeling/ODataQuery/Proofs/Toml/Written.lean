import ODataQuery.Config.Stored
import ODataQuery.Proofs.Number.Roundtrip
import ODataQuery.Proofs.Text.Parts
import ODataQuery.Proofs.Time.Reading
import ODataQuery.Proofs.Toml.Quoted

/-! Lines of settings in TOML, and what the reader of a document makes of them. -/
namespace ODataQuery.Toml

variable {cs rest : List Char}

theorem bare_ne_quote {c : Char} (bare : isBareKeyChar c = true) : c ≠ '"' ∧ c ≠ '\'' := by
  constructor <;> (rintro rfl; revert bare; decide)

/-- A key is read again up to something that is no part of a bare key. -/
theorem simpleKey?_keyText (s : String) (apart : ∀ c ∈ rest.head?, isBareKeyChar c = false) :
    simpleKey? (keyText s ++ rest) = some (s, rest) := by
  have basic : simpleKey? ('"' :: (escapeAll false 0 0 s.toList ++ ['"']) ++ rest) =
      some (s, rest) := by
    simp [simpleKey?, oneLine?, basic?_escapeAll]
  unfold keyText
  dsimp only
  split
  case isTrue bare =>
    obtain ⟨some, bare⟩ := bare
    have bare := List.all_eq_true.mp bare
    obtain ⟨run, left⟩ := Text.longest_run bare apart
    have filled : s.toList ≠ [] := by simpa using some
    have unquoted : oneLine? (s.toList ++ rest) = none := by
      obtain ⟨c, more, letters⟩ := List.exists_cons_of_ne_nil filled
      obtain ⟨notDouble, notSingle⟩ := bare_ne_quote (bare c (letters ▸ List.mem_cons_self))
      simp [letters, oneLine?, notDouble, notSingle]
    simp [simpleKey?, unquoted, run, left, filled]
  split
  · exact basic
  split
  case isTrue clean =>
    obtain ⟨control, single⟩ := clean
    have control : (s.toList.any fun c => needsEscape c || c = '\n') = false := by simpa using control
    have free : ∀ c ∈ s.toList, isInLine c = true ∧ c ≠ '\'' := by
      intro c member
      have kept := List.any_eq_false.mp control c member
      simp only [needsEscape, Bool.or_eq_true, Bool.not_eq_true', decide_eq_true_eq] at kept
      refine ⟨by simp_all, ?_⟩
      rintro rfl
      simp [member] at single
    simp [simpleKey?, oneLine?, literal?_append free]
  · exact basic

/-- A key begins with a character at which neither a table nor a comment nor the end of a line does. -/
theorem exists_keyText (s : String) : ∃ c more, keyText s = c :: more ∧
    isSpace c = false ∧ c ≠ '[' ∧ c ≠ '#' ∧ c ≠ '\n' ∧ c ≠ '\r' := by
  have double (cs : List Char) : ∃ c more, '"' :: cs = c :: more ∧
      isSpace c = false ∧ c ≠ '[' ∧ c ≠ '#' ∧ c ≠ '\n' ∧ c ≠ '\r' := ⟨_, _, rfl, by decide⟩
  unfold keyText
  dsimp only
  split
  case isTrue bare =>
    obtain ⟨c, more, letters⟩ : ∃ c more, s.toList = c :: more :=
      List.exists_cons_of_ne_nil (by simpa using bare.1)
    have first : isBareKeyChar c = true :=
      List.all_eq_true.mp bare.2 c (letters ▸ List.mem_cons_self)
    refine ⟨c, more, letters, ?_, ?_, ?_, ?_, ?_⟩
    · by_contra space
      have : c = ' ' ∨ c = '\t' := by simpa [isSpace, or_iff_not_imp_left] using space
      rcases this with rfl | rfl <;> (revert first; decide)
    all_goals rintro rfl; revert first; decide
  split
  · exact double _
  split
  · exact ⟨_, _, rfl, by decide⟩
  · exact double _

theorem dropSpaces_cons {c : Char} (other : isSpace c = false) (cs : List Char) :
    dropSpaces (c :: cs) = c :: cs :=
  List.dropWhile_cons_of_neg (by simp [other])

/-- A key is a path of its own where neither a point nor anything of a bare key follows. -/
theorem path?_keyText (s : String) {left : List Char}
    (apart : ∀ c ∈ rest.head?, isBareKeyChar c = false) (behind : dropSpaces rest = left)
    (single : ∀ more, left ≠ '.' :: more) : path? (keyText s ++ rest) = some ([s], left) := by
  obtain ⟨c, more, text, noSpace, -⟩ := exists_keyText s
  have front : dropSpaces (keyText s ++ rest) = keyText s ++ rest := by
    rw [text, List.cons_append, dropSpaces_cons noSpace]
  rw [path?, keys?, front, simpleKey?_keyText s apart]
  simp only [Option.bind_eq_bind, Option.bind_some, behind]

/-- A text that is read as a value where the line ends behind it. -/
structure Writes (v : Toml) (text : List Char) : Prop where
  reads : ∀ rest, value? 79 (text ++ '\n' :: rest) = some (v, '\n' :: rest)
  starts : ∀ rest, dropSpaces (text ++ '\n' :: rest) = text ++ '\n' :: rest

theorem exists_stringText (s : String) :
    ∃ c more, stringText s = c :: more ∧ (c = '"' ∨ c = '\'') := by
  unfold stringText
  dsimp only
  split
  · exact ⟨_, _, rfl, .inl rfl⟩
  split
  · exact ⟨_, _, rfl, .inr rfl⟩
  split
  · exact ⟨_, _, rfl, .inl rfl⟩
  split
  · exact ⟨_, _, rfl, .inr rfl⟩
  split
  · exact ⟨_, _, rfl, .inl rfl⟩
  · exact ⟨_, _, rfl, .inl rfl⟩

theorem writes_stringText (s : String) : Writes (.string s) (stringText s) := by
  obtain ⟨c, more, text, quote⟩ := exists_stringText s
  constructor
  case reads =>
    intro rest
    have read := quoted?_stringText s ('\n' :: rest) (by simp)
    rw [text, List.cons_append] at read ⊢
    rcases quote with rfl | rfl <;> simp [value?, scalar?, read]
  case starts =>
    intro rest
    rw [text, List.cons_append]
    exact dropSpaces_cons (by rcases quote with rfl | rfl <;> decide) _

variable {ds : List Char}

def Digits (ds : List Char) : Prop := ∀ c ∈ ds, isDigit c = true

theorem Digits.run (digits : Digits ds) (rest : List Char) :
    (ds ++ '\n' :: rest).takeWhile isDigit = ds ∧
      (ds ++ '\n' :: rest).dropWhile isDigit = '\n' :: rest :=
  Text.longest_run digits (Time.Reader.apart_cons (by decide) rest)

open Time.Reader (bind_of)
open Decimal (digitsOf_ne_nil isDigit_of_mem_digitsOf length_digitsOf_le_iff)

theorem bind_of_none {α β : Type} {r : Time.Reader α} {next : α → Time.Reader β} {cs : List Char}
    (stuck : r cs = none) : (r >>= next) cs = none := by
  simp [bind, StateT.bind, stuck]

theorem Digits.number (digits : Digits ds) (low high : Nat) (rest : List Char) :
    Time.Reader.number low high (ds ++ '\n' :: rest) = none ∨ ∃ n es, Digits es ∧
      Time.Reader.number low high (ds ++ '\n' :: rest) = some (n, es ++ '\n' :: rest) := by
  rw [Time.Reader.number, (digits.run rest).1]
  split
  case isTrue =>
    refine .inr ⟨valueOfDigits (ds.take high), ds.drop (ds.take high).length,
      fun c member => digits c (List.mem_of_mem_drop member), ?_⟩
    rw [List.drop_append_of_le_length (List.length_take_le' ..)]
  case isFalse => exact .inl rfl

/-- Where there are digits or the end of the line, there is no mark of a date or time. -/
theorem Digits.char (digits : Digits ds) {mark : Char} (noDigit : isDigit mark = false)
    (noLineEnd : mark ≠ '\n') (rest : List Char) :
    Time.Reader.char mark (ds ++ '\n' :: rest) = none := by
  cases ds with
  | nil => exact if_neg noLineEnd
  | cons d ds =>
    refine if_neg ?_
    rintro rfl
    rw [digits mark List.mem_cons_self] at noDigit
    cases noDigit

theorem moment?_digits (digits : Digits ds) (rest : List Char) :
    moment? (ds ++ '\n' :: rest) = none := by
  have noDate : date (ds ++ '\n' :: rest) = none := by
    rcases digits.number 4 4 rest with stuck | ⟨n, es, digits, read⟩
    · exact bind_of_none stuck
    · rw [date, bind_of read]
      exact bind_of_none (digits.char (by decide) (by decide) rest)
  have noClock : clock (ds ++ '\n' :: rest) = none := by
    rw [clock]
    rcases digits.number 2 2 rest with stuck | ⟨n, es, digits, read⟩
    · exact bind_of_none (bind_of_none stuck)
    · have hour : Time.Reader.bothDigits 0 23 (ds ++ '\n' :: rest) = none ∨
          Time.Reader.bothDigits 0 23 (ds ++ '\n' :: rest) = some (n, es ++ '\n' :: rest) := by
        rw [Time.Reader.bothDigits, bind_of read]
        split
        · exact .inr rfl
        · exact .inl rfl
      rcases hour with stuck | read
      · exact bind_of_none stuck
      · rw [bind_of read]
        exact bind_of_none (digits.char (by decide) (by decide) rest)
  have none : dateTime (ds ++ '\n' :: rest) = none := by
    change ((date >>= fun _ => _) (ds ++ '\n' :: rest)).orElse
      (fun _ => clock (ds ++ '\n' :: rest)) = none
    rw [bind_of_none noDate, noClock]
    rfl
  rw [moment?, none]
  rfl

theorem digitRun_digits (digits : Digits ds) (rest : List Char) :
    digitRun isDigit (ds ++ '\n' :: rest) = (ds, '\n' :: rest) := by
  induction ds with
  | nil => simp [digitRun, show isDigit '\n' = false by decide]
  | cons d ds ih =>
    obtain ⟨first, others⟩ := List.forall_mem_cons.mp digits
    have noBar : d ≠ '_' := by rintro rfl; revert first; decide
    simp [digitRun, first, noBar, ih others]

/-- The digits of a number begin with a zero only where there is no other. -/
theorem digitsOf_zero {n : Nat} {more : List Char} (zero : digitsOf n = '0' :: more) : more = [] := by
  by_contra some
  have value : valueOfDigits more = n := by
    rw [← valueOfDigits_digitsOf n, zero]
    rfl
  have fewer : (digitsOf n).length ≤ more.length := by
    rw [length_digitsOf_le_iff (List.length_pos_iff.mpr some), ← value]
    exact valueOfDigits_lt more
  rw [zero, List.length_cons] at fewer
  omega

theorem decimal?_digitsOf {n : Nat} (small : n ≤ 9223372036854775807) (rest : List Char) :
    decimal? (digitsOf n ++ '\n' :: rest) = some (.integer n, '\n' :: rest) := by
  have digits : Digits (digitsOf n) := fun c => isDigit_of_mem_digitsOf
  obtain ⟨c, ds, letters⟩ := List.exists_cons_of_ne_nil (digitsOf_ne_nil n)
  have first : isDigit c = true := digits c (letters ▸ List.mem_cons_self)
  obtain ⟨noMinus, noPlus, -⟩ := digit_plain first
  have sign : splitSign (digitsOf n ++ '\n' :: rest) = (false, digitsOf n ++ '\n' :: rest) := by
    rw [letters]
    exact splitSign_of_plain noMinus noPlus _
  have run : digits? isDigit (digitsOf n ++ '\n' :: rest) = some (digitsOf n, '\n' :: rest) := by
    rw [← digitRun_digits digits, letters]
    simp [digits?, first]
  have noZero : ¬ ((digitsOf n).head? = some '0' ∧ 1 < (digitsOf n).length) := by
    rintro ⟨zero, long⟩
    rw [letters] at zero long
    obtain rfl : c = '0' := Option.some.inj zero
    obtain rfl := digitsOf_zero letters
    exact absurd long (by simp)
  have within : integerOf? n = some (.integer n) := if_pos ⟨by omega, by omega⟩
  unfold decimal?
  simp [sign, run, noZero, valueOfDigits_digitsOf, within]

theorem number?_digitsOf {n : Nat} (small : n ≤ 9223372036854775807) (rest : List Char) :
    number? (digitsOf n ++ '\n' :: rest) = some (.integer n, '\n' :: rest) := by
  have read := decimal?_digitsOf small rest
  obtain ⟨c, ds, letters⟩ := List.exists_cons_of_ne_nil (digitsOf_ne_nil n)
  have first : isDigit c = true := isDigit_of_mem_digitsOf (letters ▸ List.mem_cons_self)
  obtain ⟨noMinus, noPlus, -⟩ := digit_plain first
  have noWord : c ≠ 'i' ∧ c ≠ 'n' := by
    constructor <;> (rintro rfl; revert first; decide)
  rw [letters, List.cons_append] at read ⊢
  by_cases zero : c = '0'
  · subst zero
    obtain rfl := digitsOf_zero letters
    simpa [number?, splitSign] using read
  · have sign : splitSign (c :: (ds ++ '\n' :: rest)) = (false, c :: (ds ++ '\n' :: rest)) :=
      splitSign_of_plain noMinus noPlus _
    simpa [number?, zero, sign, noWord] using read

theorem writes_digitsOf {n : Nat} (small : n ≤ 9223372036854775807) :
    Writes (.integer n) (digitsOf n) := by
  obtain ⟨c, ds, letters⟩ := List.exists_cons_of_ne_nil (digitsOf_ne_nil n)
  have first : isDigit c = true := isDigit_of_mem_digitsOf (letters ▸ List.mem_cons_self)
  constructor
  case reads =>
    intro rest
    have digits : Digits (digitsOf n) := fun c => isDigit_of_mem_digitsOf
    have noMoment := moment?_digits digits rest
    have number := number?_digitsOf small rest
    have noQuote : c ≠ '"' ∧ c ≠ '\'' := by
      constructor <;> (rintro rfl; revert first; decide)
    have other : c ≠ '[' ∧ c ≠ '\x7b' ∧ c ≠ 't' ∧ c ≠ 'f' := by
      refine ⟨?_, ?_, ?_, ?_⟩ <;> (rintro rfl; revert first; decide)
    rw [letters, List.cons_append] at noMoment number ⊢
    simp [value?, scalar?, other, noMoment, number, quoted?_of_other noQuote]
  case starts =>
    intro rest
    rw [letters, List.cons_append]
    refine dropSpaces_cons ?_ _
    by_contra space
    have : c = ' ' ∨ c = '\t' := by simpa [isSpace, or_iff_not_imp_left] using space
    rcases this with rfl | rfl <;> (revert first; decide)

variable {v : Toml} {text : List Char} {here : List String} {root root' : Entries} {key : String}

theorem pair?_line (writes : Writes v text) (key : String) (rest : List Char) :
    pair? (value? 79) (Config.line (keyText key) text ++ rest) =
      some (([key], v), '\n' :: rest) := by
  have path : path? (keyText key ++ " = ".toList ++ text ++ ['\n'] ++ rest) =
      some ([key], '=' :: ' ' :: (text ++ '\n' :: rest)) := by
    simp only [List.append_assoc]
    refine path?_keyText key ?_ ?_ ?_
    · rintro c ⟨⟩
      decide
    · simp [dropSpaces, isSpace]
    · simp
  have value : dropSpaces (' ' :: (text ++ '\n' :: rest)) = text ++ '\n' :: rest :=
    writes.starts rest
  rw [pair?, Config.line, path]
  simp [value, writes.reads]

theorem endLine?_lineEnd (rest : List Char) : endLine? ('\n' :: rest) = some rest := by
  simp [endLine?, dropSpaces, isSpace]

/-- A line of a setting puts its value where the lines stand. -/
theorem lines?_line (writes : Writes v text) (put : root.update (·.put v [key]) here = some root')
    (fuel : Nat) (rest : List Char) :
    lines? (fuel + 1) here root (Config.line (keyText key) text ++ rest) =
      lines? fuel here root' rest := by
  have pair := pair?_line writes key rest
  obtain ⟨c, more, front, noSpace, noTable, noComment, noLineEnd, noReturn⟩ := exists_keyText key
  have whole : Config.line (keyText key) text ++ rest =
      c :: (more ++ (" = ".toList ++ text ++ ['\n'] ++ rest)) := by
    simp [Config.line, front]
  rw [whole] at pair ⊢
  generalize more ++ (" = ".toList ++ text ++ ['\n'] ++ rest) = tail at pair ⊢
  have noEnd : startsWithLineEnd (c :: tail) = false := by
    simp [startsWithLineEnd, noLineEnd, noReturn]
  rw [lines?, dropSpaces_cons noSpace]
  simp [noTable, noComment, noEnd, pair, put, endLine?_lineEnd]

/-- The header of a table opens it, and the lines behind it stand there. -/
theorem lines?_header (opened : root.openTable key = some root') (fuel : Nat) (rest : List Char) :
    lines? (fuel + 1) here root ('[' :: (keyText key ++ ']' :: '\n' :: rest)) =
      lines? fuel [key] root' rest := by
  have path : path? (keyText key ++ ']' :: '\n' :: rest) = some ([key], ']' :: '\n' :: rest) := by
    refine path?_keyText key ?_ ?_ ?_
    · rintro c ⟨⟩
      decide
    · exact dropSpaces_cons (by decide) _
    · simp
  obtain ⟨c, more, front, -, noTable, -⟩ := exists_keyText key
  rw [front, List.cons_append] at path ⊢
  rw [lines?, dropSpaces_cons (by decide)]
  simp [noTable, path, splitLast?, Entries.update, opened, endLine?_lineEnd]

theorem lines?_blank (fuel : Nat) (rest : List Char) :
    lines? (fuel + 1) here root ('\n' :: rest) = lines? fuel here root rest := by
  rw [lines?, dropSpaces_cons (by decide)]
  simp [startsWithLineEnd, endLine?_lineEnd]

/-- A key and a value with the text that is written for it. -/
structure Setting where
  key : String
  value : Toml
  text : List Char
  writes : Writes value text

variable {front : Entries}

def Setting.line (s : Setting) : List Char := Config.line (keyText s.key) s.text

def Setting.entry (s : Setting) : String × Node := (s.key, .value s.value)

def Setting.pair (s : Setting) : String × Toml := (s.key, s.value)

/-- What is done at a path is done to the table inside that stands there. -/
def StandsAt (here : List String) (whole : Entries → Entries) : Prop :=
  ∀ change inner inner', change inner = some inner' →
    (whole inner).update change here = some (whole inner')

theorem lookup_append_of_new {α : Type} {front : List (String × α)} (new : key ∉ front.map (·.1))
    (back : List (String × α)) : (front ++ back).lookup key = back.lookup key := by
  induction front with
  | nil => rfl
  | cons first rest ih =>
    obtain ⟨other, absent⟩ := not_or.mp (mt List.mem_cons.mpr new)
    rw [List.cons_append, List.lookup_cons, beq_eq_false_iff_ne.mpr other, ih absent]

theorem set_append_of_new (new : key ∉ front.map (·.1)) (node : Node) (back : Entries) :
    Entries.set key node (front ++ back) = front ++ Entries.set key node back := by
  induction front with
  | nil => rfl
  | cons first rest ih =>
    obtain ⟨other, absent⟩ := not_or.mp (mt List.mem_cons.mpr new)
    rw [List.cons_append, Entries.set, if_neg (Ne.symm other), ih absent, List.cons_append]

theorem put_of_new (new : key ∉ root.map (·.1)) (v : Toml) :
    Entries.put v [key] root = some (root ++ [(key, .value v)]) := by
  have none := lookup_append_of_new new []
  have set := set_append_of_new new (.value v) []
  rw [List.append_nil] at none set
  simp [Entries.put, none, set, Entries.set]

theorem standsAt_root : StandsAt [] id := fun _ _ _ changed => changed

theorem standsAt_table (new : key ∉ front.map (·.1)) :
    StandsAt [key] fun inner => front ++ [(key, .table .header inner)] := by
  intro change inner inner' changed
  have found := lookup_append_of_new new [(key, Node.table .header inner)]
  simp [Entries.update, found, changed, set_append_of_new new, Entries.set]

/-- Lines of settings with distinct keys put their values, in their order, where the lines stand. -/
theorem lines?_settings {whole : Entries → Entries} (stands : StandsAt here whole) (inner : Entries)
    (settings : List Setting) (distinct : (inner.map (·.1) ++ settings.map (·.key)).Nodup)
    (fuel : Nat) (rest : List Char) :
    lines? (settings.length + fuel) here (whole inner) (settings.flatMap Setting.line ++ rest) =
      lines? fuel here (whole (inner ++ settings.map Setting.entry)) rest := by
  induction settings generalizing inner with
  | nil => simp
  | cons s settings ih =>
    have new : s.key ∉ inner.map (·.1) := by
      intro member
      exact (List.nodup_append.mp distinct).2.2 _ member _ List.mem_cons_self rfl
    have put := stands _ _ _ (put_of_new new s.value)
    have next : ((inner ++ [s.entry]).map (·.1) ++ settings.map (·.key)).Nodup := by
      simpa [Setting.entry] using distinct
    have line := lines?_line s.writes put (settings.length + fuel)
      (settings.flatMap Setting.line ++ rest)
    have after := ih (inner ++ [s.entry]) next
    simp only [List.append_assoc, List.singleton_append] at after
    rw [List.length_cons, Nat.add_right_comm, List.flatMap_cons, List.append_assoc, Setting.line, line,
      List.map_cons, ← after]
    rfl

/-- There are no more settings than characters in their lines. -/
theorem length_le_lines (settings : List Setting) :
    settings.length ≤ (settings.flatMap Setting.line).length := by
  induction settings with
  | nil => exact Nat.le_refl 0
  | cons s settings ih =>
    have one : 1 ≤ s.line.length := by
      simp [Setting.line, Config.line]
      omega
    rw [List.flatMap_cons, List.length_append, List.length_cons]
    omega

theorem entriesToToml_append (front back : Entries) :
    Node.entriesToToml (front ++ back) = Node.entriesToToml front ++ Node.entriesToToml back := by
  induction front with
  | nil => rfl
  | cons e front ih =>
    obtain ⟨key, node⟩ := e
    rw [List.cons_append, Node.entriesToToml, ih, Node.entriesToToml, List.cons_append]

theorem entriesToToml_settings (settings : List Setting) :
    Node.entriesToToml (settings.map Setting.entry) = settings.map Setting.pair := by
  induction settings with
  | nil => rfl
  | cons s settings ih =>
    rw [List.map_cons, Setting.entry, Node.entriesToToml, ih, Node.toToml, List.map_cons, Setting.pair]

theorem lines?_nil (fuel : Nat) : lines? (fuel + 1) here root [] = some root := by
  rw [lines?]
  rfl

theorem openTable_of_new (new : key ∉ root.map (·.1)) :
    root.openTable key = some (root ++ [(key, .table .header [])]) := by
  have none := lookup_append_of_new new []
  have set := set_append_of_new new (.table .header []) []
  rw [List.append_nil] at none set
  simp [Entries.openTable, none, set, Entries.set]

variable {settings inside : List Setting} {fuel : Nat}

theorem lines?_plain (distinct : (settings.map (·.key)).Nodup) (enough : settings.length < fuel) :
    lines? fuel [] [] (settings.flatMap Setting.line) = some (settings.map Setting.entry) := by
  obtain ⟨more, rfl⟩ := Nat.exists_eq_add_of_lt enough
  have read := lines?_settings standsAt_root [] settings distinct (more + 1) []
  rw [List.append_nil, lines?_nil] at read
  exact read

theorem lines?_table (distinct : (settings.map (·.key)).Nodup) (new : key ∉ settings.map (·.key))
    (distinctInside : (inside.map (·.key)).Nodup)
    (enough : settings.length + inside.length + 2 < fuel) :
    lines? fuel [] [] (settings.flatMap Setting.line ++
        '\n' :: '[' :: (keyText key ++ ']' :: '\n' :: inside.flatMap Setting.line)) =
      some (settings.map Setting.entry ++ [(key, .table .header (inside.map Setting.entry))]) := by
  obtain ⟨more, rfl⟩ := Nat.exists_eq_add_of_lt enough
  have new : key ∉ (settings.map Setting.entry).map (·.1) := by
    rwa [List.map_map]
  have top := lines?_settings standsAt_root [] settings distinct
    (inside.length + (more + 1) + 1 + 1)
    ('\n' :: '[' :: (keyText key ++ ']' :: '\n' :: inside.flatMap Setting.line))
  have below := lines?_settings (standsAt_table new) [] inside distinctInside (more + 1) []
  rw [lines?_blank, id, id, List.nil_append, lines?_header (openTable_of_new new)] at top
  rw [List.append_nil, List.nil_append, lines?_nil] at below
  rw [below] at top
  rw [← top]
  congr 1
  omega

end ODataQuery.Toml
