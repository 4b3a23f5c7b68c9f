import Mathlib.Data.List.Basic
import ODataQuery.Proofs.Envelope.Decoding

/-! The order of the members of a body. What is decoded depends on the entries for the count and for
the rows alone. Which members these are does not depend on the order when no two keys go by one name;
when several keys go by the name of the rows, the first of them is taken unless taking out the count
puts the last member of the object in front of it. -/
namespace ODataQuery

namespace Text

/-- Texts that are equal in any case are told from others alike. -/
theorem equalsIgnoringCase_congr {s t : String} (same : equalsIgnoringCase s t = true)
    (u : String) : equalsIgnoringCase s u = equalsIgnoringCase t u := by
  have lower : s.toList.map Char.toLower = t.toList.map Char.toLower := eq_of_beq same
  rw [equalsIgnoringCase, equalsIgnoringCase, lower]

theorem equalsIgnoringCase_symm (s t : String) :
    equalsIgnoringCase s t = equalsIgnoringCase t s :=
  Bool.beq_comm

end Text

namespace Envelope

/-- What a body is decoded to when these are its entries for the count and for the rows. -/
def ofEntries (decodeRow : Json → Except String α) (body : String) (count rows : Option Json) :
    Except QueryError (Envelope α) :=
  match readCount count, rows with
  | .error fault, _ => .error (.badBody body fault)
  | .ok _, none => .error (.badBody body .noRows)
  | .ok n, some entry =>
    match rowsOf decodeRow entry, n with
    | .error fault, _ => .error (.badBody body fault)
    | .ok _, none => .error .noCount
    | .ok found, some n => .ok ⟨some n, found⟩

section

variable {α : Type} {decodeRow : Json → Except String α} {body : String}
  {members rest : List (String × Json)} {count rows : Option Json}

theorem decode_eq_ofEntries (parsed : Json.parse? body = some (.object members))
    (takesCount : Takes countKeys members count rest) {left : List (String × Json)}
    (takesRows : Takes rowKeys rest rows left) :
    decode decodeRow body = ofEntries decodeRow body count rows := by
  have first := takeMember_iff.mpr takesCount
  have second := takeMember_iff.mpr takesRows
  simp only [decode, read, ofEntries, parsed, first, second, pure, Except.pure, bind, Except.bind]
  cases readCount count with
  | error fault => rfl
  | ok n =>
    cases rows with
    | none => rfl
    | some entry =>
      dsimp only
      cases rowsOf decodeRow entry with
      | error fault => rfl
      | ok found => cases n <;> rfl

/-- The text of the body matters for errors alone, which carry it. -/
theorem ofEntries_cases (decodeRow : Json → Except String α) (body other : String)
    (count rows : Option Json) :
    (∃ e, ofEntries decodeRow body count rows = .ok e ∧
      ofEntries decodeRow other count rows = .ok e) ∨
    (ofEntries decodeRow body count rows = .error .noCount ∧
      ofEntries decodeRow other count rows = .error .noCount) ∨
    ∃ fault, ofEntries decodeRow body count rows = .error (.badBody body fault) ∧
      ofEntries decodeRow other count rows = .error (.badBody other fault) := by
  unfold ofEntries
  split
  · exact .inr (.inr ⟨_, rfl, rfl⟩)
  · exact .inr (.inr ⟨_, rfl, rfl⟩)
  · split
    · exact .inr (.inr ⟨_, rfl, rfl⟩)
    · exact .inr (.inl ⟨rfl, rfl⟩)
    · exact .inl ⟨_, rfl, rfl⟩

end

theorem rotateRight_perm {β : Type} (l : List β) : l.rotateRight.Perm l := by
  rcases List.eq_nil_or_concat l with rfl | ⟨most, last, rfl⟩
  · exact .refl _
  · rw [List.concat_eq_append, rotateRight_concat]
    exact (List.perm_append_singleton last most).symm

section

variable {names : List String} {before after before' after' : List (String × Json)}
  {key key' : String} {value value' : Json}

theorem Absent.mono {members others : List (String × Json)} (absent : Absent names members)
    (inside : ∀ m ∈ others, m ∈ members) : Absent names others :=
  fun name named m member => absent name named m (inside m member)

/-- Nothing in front of the member that is selected goes by its name. -/
theorem Selects.apart (selects : Selects names before key value after) :
    ∀ m ∈ before, Text.equalsIgnoringCase m.1 key = false := by
  obtain ⟨_, name, _, -, -, goes, first⟩ := selects
  intro m member
  rw [Text.equalsIgnoringCase_symm, Text.equalsIgnoringCase_congr goes,
    Text.equalsIgnoringCase_symm]
  exact first name List.mem_cons_self m member

/-- Among the same members, or fewer, one that goes by the name of the selected one is selected in its
stead when nothing in front of it does. -/
theorem Selects.instead (selects : Selects names before key value after)
    (inside : ∀ m ∈ before' ++ (key', value') :: after', m ∈ before ++ (key, value) :: after)
    (alike : Text.equalsIgnoringCase key' key = true)
    (apart : ∀ m ∈ before', Text.equalsIgnoringCase m.1 key = false) :
    Selects names before' key' value' after' := by
  obtain ⟨better, name, others, rfl, absent, goes, -⟩ := selects
  refine ⟨better, name, others, rfl, absent.mono inside, ?_, ?_⟩
  · rw [Text.equalsIgnoringCase_congr alike, goes]
  · rintro _ single m member
    rw [List.mem_singleton.mp single, Text.equalsIgnoringCase_symm,
      ← Text.equalsIgnoringCase_congr goes, Text.equalsIgnoringCase_symm]
    exact apart m member

end

/-- No key goes by a name of the count and by one of the rows. -/
theorem not_both_named {key name other : String} (isCount : name ∈ countKeys)
    (isRows : other ∈ rowKeys) (goes : Text.equalsIgnoringCase key name = true) :
    Text.equalsIgnoringCase key other = false := by
  have apart : ∀ c ∈ countKeys, ∀ r ∈ rowKeys, Text.equalsIgnoringCase c r = false := by decide
  rw [Text.equalsIgnoringCase_congr goes]
  exact apart name isCount other isRows

/-- The last member of an object goes by the name of the rows, and the count stands in front of
these: it is the last member that takes the place of the count. -/
structure Overtakes (last : String × Json) (before : List (String × Json)) (key : String)
    (value : Json) (after : List (String × Json)) : Prop where
  counted : ∃ front name count between, before = front ++ (name, count) :: between ∧
    Selects countKeys front name count (between ++ (key, value) :: after)
  ends : after.getLast? = some last
  alike : Text.equalsIgnoringCase last.1 key = true

section

variable {before after rest front behind : List (String × Json)} {key name : String}
  {value count : Json} {entry : Option Json}

/-- The count stands in front of the rows or behind them. -/
theorem count_beside (selects : Selects rowKeys before key value after)
    (counted : Selects countKeys front name count behind)
    (whole : front ++ (name, count) :: behind = before ++ (key, value) :: after) :
    (∃ between, before = front ++ (name, count) :: between ∧
      behind = between ++ (key, value) :: after) ∨
    ∃ between, front = before ++ (key, value) :: between ∧
      after = between ++ (name, count) :: behind := by
  have other : name ≠ key := by
    rintro rfl
    obtain ⟨_, isRows, _, rows, -, goesRows, -⟩ := selects
    obtain ⟨_, isCount, _, counts, -, goesCount, -⟩ := counted
    have memberCount : isCount ∈ countKeys := by simp [counts]
    have memberRows : isRows ∈ rowKeys := by simp [rows]
    have apart := not_both_named memberCount memberRows goesCount
    rw [goesRows] at apart
    cases apart
  rcases List.append_eq_append_iff.mp whole with ⟨between, inside, split⟩ | ⟨between, inside, split⟩
  · cases between with
    | nil => cases split; exact absurd rfl other
    | cons m between => cases split; exact .inl ⟨between, inside, rfl⟩
  · cases between with
    | nil => cases split; exact absurd rfl other
    | cons m between => cases split; exact .inr ⟨between, inside, rfl⟩

theorem Takes.unique {names : List String} {members rest left : List (String × Json)}
    {entry other : Option Json} (takes : Takes names members entry rest)
    (again : Takes names members other left) : entry = other ∧ rest = left :=
  Prod.mk.inj ((takeMember_iff.mpr takes).symm.trans (takeMember_iff.mpr again))

/-- A member that overtakes the rows is taken for them. -/
theorem Overtakes.takes {last : String × Json} (overtakes : Overtakes last before key value after)
    (selects : Selects rowKeys before key value after)
    (takes : Takes countKeys (before ++ (key, value) :: after) entry rest) :
    ∃ left, Takes rowKeys rest (some last.2) left := by
  obtain ⟨⟨front, name, count, between, rfl, counted⟩, ends, alike⟩ := overtakes
  obtain ⟨most, rfl⟩ := List.getLast?_eq_some_iff.mp ends
  have whole : front ++ (name, count) :: between ++ (key, value) :: (most ++ [last]) =
      front ++ (name, count) :: (between ++ (key, value) :: (most ++ [last])) := by simp
  rw [whole] at takes
  obtain ⟨-, rfl⟩ := takes.unique (.taken counted)
  have turned : (between ++ (key, value) :: (most ++ [last])).rotateRight =
      last :: (between ++ (key, value) :: most) := by
    rw [← List.cons_append, ← List.append_assoc, rotateRight_concat]
  rw [turned]
  refine ⟨_, .taken (selects.instead ?_ alike fun m member => selects.apart m (by simp [member]))⟩
  simp
  tauto

/-- Unless it is overtaken, the first member that goes by the name of the rows is taken for them. -/
theorem takes_first (selects : Selects rowKeys before key value after)
    (takes : Takes countKeys (before ++ (key, value) :: after) entry rest)
    (ahead : ∀ last, ¬ Overtakes last before key value after) :
    ∃ left, Takes rowKeys rest (some value) left := by
  have moved {before' after' : List (String × Json)}
      (inside : ∀ m ∈ before' ++ (key, value) :: after', m ∈ before ++ (key, value) :: after)
      (apart : ∀ m ∈ before', Text.equalsIgnoringCase m.1 key = false) :
      ∃ left, Takes rowKeys (before' ++ (key, value) :: after') (some value) left :=
    ⟨_, .taken (selects.instead inside (beq_self_eq_true _) apart)⟩
  generalize whole : before ++ (key, value) :: after = members at takes
  cases takes with
  | missing =>
    subst whole
    exact ⟨_, .taken selects⟩
  | @taken front name count behind counted =>
    rcases count_beside selects counted whole.symm with
      ⟨between, rfl, rfl⟩ | ⟨between, rfl, rfl⟩
    · rcases List.eq_nil_or_concat after with rfl | ⟨most, last, rfl⟩
      · rw [rotateRight_concat]
        exact moved (by simp; tauto) fun m member => selects.apart m (by simp [member])
      · -- the last member stands in front of the rows now, and has another name
        have other : Text.equalsIgnoringCase last.1 key = false := by
          refine Bool.eq_false_iff.mpr fun alike => ahead last ⟨?_, by simp, alike⟩
          exact ⟨front, name, count, between, rfl, counted⟩
        rw [List.concat_eq_append, ← List.cons_append, ← List.append_assoc, rotateRight_concat,
          ← List.cons_append, ← List.append_assoc]
        refine moved (by simp; tauto) fun m member => ?_
        rcases List.mem_append.mp member with member | member
        · exact selects.apart m (by simp [member])
        · rcases List.mem_cons.mp member with rfl | member
          · exact other
          · exact selects.apart m (by simp [member])
    · rw [List.append_assoc, List.cons_append]
      refine moved (fun m member => ?_) selects.apart
      have rest : m ∈ behind.rotateRight ↔ m ∈ behind := (rotateRight_perm behind).mem_iff
      simp only [List.mem_append, List.mem_cons, rest] at member ⊢
      tauto

/-- The first member that goes by the name of the rows is the one that a body is decoded from unless
the count stands in front of it and the last member, which takes the place of the count, goes by the
name as well: then it is this one. -/
theorem decode_first {α : Type} (decodeRow : Json → Except String α) {body : String}
    (parsed : Json.parse? body = some (.object (before ++ (key, value) :: after)))
    (selects : Selects rowKeys before key value after) :
    ∃ count rest, Takes countKeys (before ++ (key, value) :: after) count rest ∧
      ((∀ last, ¬ Overtakes last before key value after) →
        decode decodeRow body = ofEntries decodeRow body count (some value)) ∧
      ∀ last, Overtakes last before key value after →
        decode decodeRow body = ofEntries decodeRow body count (some last.2) := by
  let taken := takeMember countKeys (before ++ (key, value) :: after)
  have takes : Takes countKeys (before ++ (key, value) :: after) taken.1 taken.2 :=
    takeMember_iff.mp rfl
  refine ⟨_, _, takes, fun ahead => ?_, fun last overtakes => ?_⟩
  · obtain ⟨_, rows⟩ := takes_first selects takes ahead
    exact decode_eq_ofEntries parsed takes rows
  · obtain ⟨_, rows⟩ := overtakes.takes selects takes
    exact decode_eq_ofEntries parsed takes rows

end

/-- A body whose last key goes by the name of the rows, as the one behind the count does. -/
def displacedBody : String := "\x7b\"count\": 1, \"value\": [\"a\"], \"Value\": [\"b\"]\x7d"

def displaced : List (String × Json) :=
  [("count", .number (.integer 1)), ("value", .array [.string "a"]), ("Value", .array [.string "b"])]

theorem decode_first_displaced :
    Json.parse? displacedBody = some (.object displaced) ∧
    Selects rowKeys [displaced[0]] "value" (.array [.string "a"]) [displaced[2]] ∧
    Overtakes displaced[2] [displaced[0]] "value" (.array [.string "a"]) [displaced[2]] ∧
    ∃ count, decode Except.ok displacedBody =
      ofEntries Except.ok displacedBody count (some (.array [.string "b"])) := by
  have parsed : Json.parse? displacedBody = some (.object displaced) := rfl
  have selects : Selects rowKeys [displaced[0]] "value" (.array [.string "a"]) [displaced[2]] := by
    refine ⟨[], "value", ["items"], rfl, by simp [Absent], by decide, ?_⟩
    simp only [Absent, List.forall_mem_singleton]
    decide
  have overtakes : Overtakes displaced[2] [displaced[0]] "value" (.array [.string "a"])
      [displaced[2]] := by
    refine ⟨⟨[], "count", _, [], rfl, [], "count", _, rfl, ?_, by decide, ?_⟩, rfl, by decide⟩ <;>
      simp [Absent]
  obtain ⟨count, -, -, -, overtaken⟩ := decode_first Except.ok parsed selects
  exact ⟨parsed, selects, overtakes, count, overtaken _ overtakes⟩

/-- The rows that are decoded are not those of the first key that goes by their name. -/
theorem decode_displaced :
    Json.parse? displacedBody = some (.object displaced) ∧
    keyOf? rowKeys displaced = some "value" ∧
    displaced.lookup "value" = some (.array [.string "a"]) ∧
    decode Except.ok displacedBody = .ok ⟨some 1, [.string "b"]⟩ :=
  ⟨rfl, by decide, rfl, rfl⟩

/-- No two keys are equal in any case. -/
def KeysApart (members : List (String × Json)) : Prop :=
  members.Pairwise fun m n => Text.equalsIgnoringCase m.1 n.1 = false

section

variable {names : List String} {members others rest left : List (String × Json)}
  {entry : Option Json}

theorem KeysApart.perm (apart : KeysApart members) (perm : members.Perm others) :
    KeysApart others :=
  (perm.pairwise_iff fun unlike => (Text.equalsIgnoringCase_symm ..).trans unlike).mp apart

/-- What is left of an object has keys of different names when the object has. -/
theorem Takes.keysApart (takes : Takes names members entry rest) (apart : KeysApart members) :
    KeysApart rest := by
  cases takes with
  | missing => exact apart
  | @taken before key value after =>
    have inside : (before ++ after).Sublist (before ++ (key, value) :: after) :=
      (List.sublist_cons_self _ _).append_left before
    exact KeysApart.perm (apart.sublist inside) ((rotateRight_perm after).symm.append_left before)

/-- When keys have different names, the same member is taken in every order. -/
theorem Takes.perm (takes : Takes names members entry rest) (apart : KeysApart members)
    (perm : members.Perm others) : ∃ left, Takes names others entry left ∧ rest.Perm left := by
  cases takes with
  | missing absent => exact ⟨_, .missing (absent.mono fun m => perm.mem_iff.mpr), perm⟩
  | @taken before key value after selects =>
    obtain ⟨before', after', rfl⟩ := List.append_of_mem (perm.mem_iff.mp (by simp : (key, value) ∈ _))
    have unlike := (List.pairwise_append.mp (apart.perm perm)).2.2
    have again : Selects names before' key value after' :=
      selects.instead (fun m => perm.mem_iff.mpr) (beq_self_eq_true _)
        fun m member => unlike m member _ List.mem_cons_self
    refine ⟨_, .taken again, ?_⟩
    have others : (before ++ after).Perm (before' ++ after') :=
      (List.perm_middle.symm.trans (perm.trans List.perm_middle)).cons_inv
    exact ((rotateRight_perm after).append_left before).trans
      (others.trans ((rotateRight_perm after').symm.append_left before'))

end

/-- Bodies with the same members, whose keys have different names, are decoded alike whatever order
the members come in: to the same envelope, or both have no count, or both are refused for the same
fault. -/
theorem decode_perm {α : Type} (decodeRow : Json → Except String α) {body other : String}
    {members permuted : List (String × Json)}
    (parsed : Json.parse? body = some (.object members))
    (parsedOther : Json.parse? other = some (.object permuted))
    (perm : members.Perm permuted) (apart : KeysApart members) :
    (∃ e, decode decodeRow body = .ok e ∧ decode decodeRow other = .ok e) ∨
    (decode decodeRow body = .error .noCount ∧ decode decodeRow other = .error .noCount) ∨
    ∃ fault, decode decodeRow body = .error (.badBody body fault) ∧
      decode decodeRow other = .error (.badBody other fault) := by
  have takesCount : Takes countKeys members _ _ := takeMember_iff.mp rfl
  have takesRows : Takes rowKeys (takeMember countKeys members).2 _ _ := takeMember_iff.mp rfl
  obtain ⟨left, countOther, rest⟩ := takesCount.perm apart perm
  obtain ⟨_, rowsOther, -⟩ := takesRows.perm (takesCount.keysApart apart) rest
  rw [decode_eq_ofEntries parsed takesCount takesRows,
    decode_eq_ofEntries parsedOther countOther rowsOther]
  exact ofEntries_cases decodeRow body other _ _

/-- The count in front of the rows, and behind them. -/
theorem decode_perm_reversed :
    Json.parse? "\x7b\"Count\": 1, \"value\": [\"a\"]\x7d" =
      some (.object [("Count", .number (.integer 1)), ("value", .array [.string "a"])]) ∧
    Json.parse? "\x7b\"value\": [\"a\"], \"Count\": 1\x7d" =
      some (.object [("value", .array [.string "a"]), ("Count", .number (.integer 1))]) ∧
    KeysApart [("Count", .number (.integer 1)), ("value", .array [.string "a"])] ∧
    ∃ e, decode Except.ok "\x7b\"Count\": 1, \"value\": [\"a\"]\x7d" = .ok e ∧
      decode Except.ok "\x7b\"value\": [\"a\"], \"Count\": 1\x7d" = .ok e := by
  have parsed : Json.parse? "\x7b\"Count\": 1, \"value\": [\"a\"]\x7d" =
      some (.object [("Count", .number (.integer 1)), ("value", .array [.string "a"])]) := rfl
  have parsedOther : Json.parse? "\x7b\"value\": [\"a\"], \"Count\": 1\x7d" =
      some (.object [("value", .array [.string "a"]), ("Count", .number (.integer 1))]) := rfl
  have apart : KeysApart [("Count", .number (.integer 1)), ("value", .array [.string "a"])] := by
    simp [KeysApart]
    decide
  have found : decode Except.ok "\x7b\"Count\": 1, \"value\": [\"a\"]\x7d" =
      .ok ⟨some 1, [.string "a"]⟩ := rfl
  have outcome := decode_perm Except.ok parsed parsedOther (.swap ..) apart
  simp only [found, reduceCtorEq, false_and, exists_false, or_false] at outcome
  exact ⟨parsed, parsedOther, apart, outcome⟩

end Envelope

end ODataQuery
