import Mathlib.Data.List.Forall2
import ODataQuery.Envelope
import ODataQuery.Expression.Clause
import ODataQuery.Proofs.Number.Digits

/-! What the body of a response is decoded to. An object gives an envelope when the entry for its
count is a number and the entry for its rows is acceptable; a count that is missing makes a response
without count, and anything else a body that cannot be read. -/
namespace ODataQuery.Envelope

open Expression (bind_ok_iff)

/-- No key goes by any of the names. -/
def Absent (names : List String) (members : List (String × Json)) : Prop :=
  ∀ name ∈ names, ∀ m ∈ members, Text.equalsIgnoringCase m.1 name = false

/-- The member that goes by the names: no other one has a better name, and none before it the same. -/
def Selects (names : List String) (before : List (String × Json)) (key : String) (value : Json)
    (after : List (String × Json)) : Prop :=
  ∃ better name others, names = better ++ name :: others ∧
    Absent better (before ++ (key, value) :: after) ∧
    Text.equalsIgnoringCase key name = true ∧ Absent [name] before

/-- Taking the entry for the names out of an object: the last member moves to its place. -/
inductive Takes (names : List String) :
    List (String × Json) → Option Json → List (String × Json) → Prop
  | missing : Absent names members → Takes names members none members
  | taken : Selects names before key value after →
      Takes names (before ++ (key, value) :: after) (some value) (before ++ after.rotateRight)

theorem find?_eq_none_iff {name : String} {members : List (String × Json)} :
    (members.map (·.1)).find? (Text.equalsIgnoringCase · name) = none ↔
      ∀ m ∈ members, Text.equalsIgnoringCase m.1 name = false := by
  simp only [List.find?_eq_none, List.forall_mem_map, Bool.not_eq_true]

theorem keyOf?_eq_none_iff {names : List String} {members : List (String × Json)} :
    keyOf? names members = none ↔ Absent names members := by
  simp only [keyOf?, List.findSome?_eq_none_iff, find?_eq_none_iff, Absent]

theorem Selects.keyOf? {names : List String} {before after : List (String × Json)} {key : String}
    {value : Json} (selects : Selects names before key value after) :
    keyOf? names (before ++ (key, value) :: after) = some key := by
  obtain ⟨better, name, others, rfl, absent, goes, first⟩ := selects
  have found : ((before ++ (key, value) :: after).map (·.1)).find?
      (Text.equalsIgnoringCase · name) = some key := by
    refine List.find?_eq_some_iff_append.mpr
      ⟨goes, before.map (·.1), after.map (·.1), by simp, ?_⟩
    simpa only [List.forall_mem_map, Bool.not_eq_true'] using first name List.mem_cons_self
  exact List.findSome?_eq_some_iff.mpr ⟨better, name, others, rfl, found,
    fun other member => find?_eq_none_iff.mpr (absent other member)⟩

theorem exists_selects {names : List String} {members : List (String × Json)} {key : String}
    (found : keyOf? names members = some key) :
    ∃ before value after, members = before ++ (key, value) :: after ∧
      Selects names before key value after := by
  obtain ⟨better, name, others, rfl, first, absent⟩ := List.findSome?_eq_some_iff.mp found
  obtain ⟨goes, _, _, split, none⟩ := List.find?_eq_some_iff_append.mp first
  obtain ⟨before, rest, rfl, rfl, same⟩ := List.map_eq_append_iff.mp split
  obtain ⟨⟨key, value⟩, after, rfl, rfl, rfl⟩ := List.map_eq_cons_iff.mp same
  refine ⟨before, value, after, rfl, better, name, others, rfl, ?_, goes, ?_⟩
  · exact fun other member => find?_eq_none_iff.mp (absent other member)
  · rintro _ single
    rw [List.mem_singleton.mp single]
    simpa only [List.forall_mem_map, Bool.not_eq_true'] using none

/-- The members before the one that is selected have other keys. -/
theorem Selects.fresh {names : List String} {before after : List (String × Json)} {key : String}
    {value : Json} (selects : Selects names before key value after) :
    ∀ m ∈ before, m.1 ≠ key := by
  obtain ⟨_, name, _, -, -, goes, first⟩ := selects
  rintro m member rfl
  rw [first name List.mem_cons_self m member] at goes
  cases goes

theorem rotateRight_concat {α : Type} (l : List α) (a : α) : (l ++ [a]).rotateRight = a :: l := by
  cases l with
  | nil => rfl
  | cons b rest =>
    have long : ¬ rest.length + 1 + 1 ≤ 1 := by omega
    simp [List.rotateRight, Nat.mod_eq_of_lt]

theorem takeMember_eq_of_selects {names : List String} {before after : List (String × Json)}
    {key : String} {value : Json} (selects : Selects names before key value after) :
    takeMember names (before ++ (key, value) :: after) =
      (some value, before ++ after.rotateRight) := by
  have others : ∀ m ∈ before, (m.1 != key) = true := by simpa using selects.fresh
  have looked : (before ++ (key, value) :: after).lookup key = some value :=
    List.lookup_eq_some_iff.mpr ⟨before, after, rfl, fun m member => by
      simpa [bne_comm] using others m member⟩
  have rest : removeMember (before ++ (key, value) :: after) key = before ++ after.rotateRight := by
    rw [removeMember, List.takeWhile_append_of_pos others, List.dropWhile_append_of_pos others]
    induction after using List.reverseRecOn with
    | nil => simp
    | append_singleton after last => simp [rotateRight_concat]
  rw [takeMember, selects.keyOf?]
  exact Prod.ext looked rest

theorem takeMember_iff {names : List String} {members rest : List (String × Json)}
    {entry : Option Json} :
    takeMember names members = (entry, rest) ↔ Takes names members entry rest := by
  constructor
  · intro taken
    cases found : keyOf? names members with
    | none =>
      rw [takeMember, found] at taken
      cases taken
      exact .missing (keyOf?_eq_none_iff.mp found)
    | some key =>
      obtain ⟨before, value, after, rfl, selects⟩ := exists_selects found
      rw [takeMember_eq_of_selects selects] at taken
      cases taken
      exact .taken selects
  · rintro (absent | selects)
    · rw [takeMember, keyOf?_eq_none_iff.mpr absent]
    · exact takeMember_eq_of_selects selects

/-- A whole number of 64 bits, or a text that is one between blanks. -/
inductive IsCount : Json → Int → Prop
  | number : lowestCount ≤ n → n ≤ highestCount → IsCount (.number (.integer n)) n
  | text : IsWhole (Text.trim s).toList n → lowestCount ≤ n → n ≤ highestCount →
      IsCount (.string s) n

/-- Null for no rows, or rows that can all be decoded. -/
inductive IsRows {α : Type} (decodeRow : Json → Except String α) : Json → List α → Prop
  | null : IsRows decodeRow .null []
  | array {items : List Json} {found : List α} :
      List.Forall₂ (fun item row => decodeRow item = .ok row) items found →
      IsRows decodeRow (.array items) found

theorem countOf?_eq_some_iff {j : Json} {n : Int} : countOf? j = some n ↔ IsCount j n := by
  constructor
  · intro read
    unfold countOf? at read
    split at read
    · obtain ⟨⟨low, high⟩, same⟩ := Option.ite_none_right_eq_some.mp read
      cases same
      exact .number low high
    · obtain ⟨whole, low, high⟩ := intWithin?_eq_some_iff.mp read
      exact .text whole low high
    · cases read
  · rintro (⟨low, high⟩ | ⟨whole, low, high⟩)
    · exact if_pos ⟨low, high⟩
    · exact intWithin?_eq_some_iff.mpr ⟨whole, low, high⟩

theorem mapM_eq_ok_iff {α β ε : Type} {f : α → Except ε β} {as : List α} {bs : List β} :
    as.mapM f = .ok bs ↔ List.Forall₂ (fun a b => f a = .ok b) as bs := by
  induction as generalizing bs with
  | nil => simp [pure, Except.pure, eq_comm]
  | cons a as ih =>
    rw [List.mapM_cons, List.forall₂_cons_left_iff]
    cases f a with
    | error => simp [bind, Except.bind]
    | ok b =>
      simp only [bind, Except.bind, ← ih]
      cases as.mapM f <;> simp [pure, Except.pure, eq_comm]

section

variable {α : Type} {decodeRow : Json → Except String α}

theorem rowsOf_eq_ok_iff {j : Json} {rows : List α} :
    rowsOf decodeRow j = .ok rows ↔ IsRows decodeRow j rows := by
  constructor
  · intro read
    unfold rowsOf at read
    split at read
    · cases read
      exact .null
    · rename_i items
      cases decoded : items.mapM decodeRow with
      | error => simp [decoded, Except.mapError] at read
      | ok found =>
        simp only [decoded, Except.mapError, Except.ok.injEq] at read
        exact .array (mapM_eq_ok_iff.mp (read ▸ decoded))
    · cases read
  · rintro (_ | each)
    · rfl
    · simp [rowsOf, mapM_eq_ok_iff.mpr each, Except.mapError]

/-- A body that is an object with this entry for its count and rows that can be decoded. The entry
for the rows is looked for in what taking out the count leaves. -/
def Holds (decodeRow : Json → Except String α) (body : String) (count : Option Json)
    (found : List α) : Prop :=
  ∃ members rest entry left, Json.parse? body = some (.object members) ∧
    Takes countKeys members count rest ∧ Takes rowKeys rest (some entry) left ∧
    IsRows decodeRow entry found

theorem not_isCount_null {n : Int} : ¬ IsCount .null n := by
  rintro ⟨⟩

/-- A count that is left out and one that is null are the same. -/
theorem readCount_eq_none_iff {entry : Option Json} :
    readCount entry = .ok none ↔ entry = none ∨ entry = some .null := by
  unfold readCount
  split
  · simp
  · simp
  · rename_i j filled
    have other : j ≠ .null := filled
    cases countOf? j <;> simp [other]

theorem readCount_eq_some_iff {entry : Option Json} {n : Int} :
    readCount entry = .ok (some n) ↔ ∃ j, entry = some j ∧ IsCount j n := by
  unfold readCount
  split
  · simp
  · simp [not_isCount_null]
  · rename_i j filled
    simp only [Option.some.injEq, exists_eq_left', ← countOf?_eq_some_iff]
    cases countOf? j <;> simp

theorem takes_some_iff {names : List String} {members : List (String × Json)} {entry : Json} :
    (takeMember names members).1 = some entry ↔ ∃ left, Takes names members (some entry) left := by
  simp only [← takeMember_iff, Prod.ext_iff]
  exact ⟨fun taken => ⟨_, taken, rfl⟩, fun ⟨_, taken, _⟩ => taken⟩

theorem read_eq_ok_iff {body : String} {count : Option Int} {found : List α} :
    read decodeRow body = .ok (count, found) ↔
      ∃ entry, readCount entry = .ok count ∧ Holds decodeRow body entry found := by
  constructor
  · intro h
    unfold read at h
    split at h
    · cases h
    · rename_i members parsed
      obtain ⟨_, same, h⟩ := bind_ok_iff.mp h
      cases same
      obtain ⟨count', counted, h⟩ := bind_ok_iff.mp h
      split at h
      · cases h
      · rename_i entry taken
        obtain ⟨found', rows, same⟩ := bind_ok_iff.mp h
        cases same
        obtain ⟨left, takes⟩ := takes_some_iff.mp taken
        exact ⟨_, counted, _, _, _, _, parsed, takeMember_iff.mp rfl, takes,
          rowsOf_eq_ok_iff.mp rows⟩
    · cases h
  · rintro ⟨entry, counted, members, rest, j, left, parsed, taken, takes, rows⟩
    obtain ⟨rfl, rfl⟩ := Prod.ext_iff.mp (takeMember_iff.mpr taken)
    have second := takes_some_iff.mpr ⟨left, takes⟩
    simp only [read, parsed]
    refine bind_ok_iff.mpr ⟨members, rfl, bind_ok_iff.mpr ⟨count, counted, ?_⟩⟩
    rw [second]
    exact bind_ok_iff.mpr ⟨found, rowsOf_eq_ok_iff.mpr rows, rfl⟩

theorem decode_eq_ok_iff {body : String} {e : Envelope α} :
    decode decodeRow body = .ok e ↔ ∃ n, read decodeRow body = .ok (some n, e.rows) ∧
      e.count = some n := by
  obtain ⟨count, found⟩ := e
  unfold decode
  split
  · rename_i fault refused
    simp [refused]
  · rename_i found' uncounted
    simp [uncounted]
  · rename_i n found' counted
    simp [counted, eq_comm, and_comm]

theorem decode_eq_noCount_iff {body : String} :
    decode decodeRow body = .error .noCount ↔ ∃ found, read decodeRow body = .ok (none, found) := by
  unfold decode
  split
  · rename_i fault refused
    simp [refused]
  · rename_i found uncounted
    simp [uncounted]
  · rename_i n found counted
    simp [counted]

theorem decode_cases (body : String) :
    (∃ e, decode decodeRow body = .ok e) ∨ decode decodeRow body = .error .noCount ∨
      ∃ fault, decode decodeRow body = .error (.badBody body fault) := by
  unfold decode
  split
  · rename_i fault _
    exact .inr (.inr ⟨fault, rfl⟩)
  · exact .inr (.inl rfl)
  · exact .inl ⟨_, rfl⟩

/-- A body is decoded just when it is an object with a number for its count and acceptable rows, and
then to this count and these rows in order; it has no count just when it is an object with acceptable
rows whose entry for the count is left out or null; and any other body is refused as it is. -/
theorem decode_iff (decodeRow : Json → Except String α) (body : String) :
    (∀ e, decode decodeRow body = .ok e ↔
      ∃ entry n, Holds decodeRow body (some entry) e.rows ∧ IsCount entry n ∧ e.count = some n) ∧
    (decode decodeRow body = .error .noCount ↔
      ∃ entry found, Holds decodeRow body entry found ∧ (entry = none ∨ entry = some .null)) ∧
    ((¬ ∃ e, decode decodeRow body = .ok e) → decode decodeRow body ≠ .error .noCount →
      ∃ fault, decode decodeRow body = .error (.badBody body fault)) := by
  refine ⟨fun e => ?_, ?_, fun noEnvelope counted => ?_⟩
  · rw [decode_eq_ok_iff]
    simp only [read_eq_ok_iff, readCount_eq_some_iff]
    constructor
    · rintro ⟨n, ⟨_, ⟨entry, rfl, isCount⟩, holds⟩, count⟩
      exact ⟨entry, n, holds, isCount, count⟩
    · rintro ⟨entry, n, holds, isCount, count⟩
      exact ⟨n, ⟨some entry, ⟨entry, rfl, isCount⟩, holds⟩, count⟩
  · rw [decode_eq_noCount_iff]
    simp only [read_eq_ok_iff, readCount_eq_none_iff]
    constructor
    · rintro ⟨found, entry, missing, holds⟩
      exact ⟨entry, found, holds, missing⟩
    · rintro ⟨entry, found, holds, missing⟩
      exact ⟨found, entry, missing, holds⟩
  · exact ((decode_cases body).resolve_left noEnvelope).resolve_left counted

end

end ODataQuery.Envelope
