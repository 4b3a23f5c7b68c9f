import ODataQuery.Proofs.Clause.Written
import ODataQuery.Proofs.Text.Parts
import ODataQuery.Proofs.Time.Reading
import ODataQuery.Query.Options

/-! Query strings read as forms. Encoding leaves no mark in a name or a value that splits pairs, and
whatever text a parameter has, all parameters are read back as they were. -/
namespace ODataQuery

namespace Url

theorem hexValue?_upperHexDigit {n : Nat} (small : n < 16) :
    hexValue? (upperHexDigit n) = some n := by
  interval_cases n <;> decide

theorem percentDecode_encodeByte (b : UInt8) (rest : List Char) :
    percentDecode (encodeByte b ++ rest) = b :: percentDecode rest := by
  have bound : b.toNat < 256 := b.toNat_lt
  have high := hexValue?_upperHexDigit (n := b.toNat / 16) (by omega)
  have low := hexValue?_upperHexDigit (n := b.toNat % 16) (by omega)
  have whole : 16 * (b.toNat / 16) + b.toNat % 16 = b.toNat := Nat.div_add_mod ..
  simp [encodeByte, percentDecode, high, low, whole]

theorem percentDecode_encodeChar (c : Char) (rest : List Char) :
    percentDecode (encodeChar c ++ rest) = String.utf8EncodeChar c ++ percentDecode rest := by
  rw [encodeChar]
  induction String.utf8EncodeChar c with
  | nil => rfl
  | cons b bytes ih =>
    rw [List.flatMap_cons, List.append_assoc, percentDecode_encodeByte, ih, List.cons_append]

theorem percentDecode_cons {c : Char} (plain : c ≠ '%') (rest : List Char) :
    percentDecode (c :: rest) = String.utf8EncodeChar c ++ percentDecode rest := by
  rw [percentDecode]
  rintro _ _ _ ⟨⟩
  exact absurd rfl plain

end Url

namespace Form

def blankOfPlus (c : Char) : Char := if c = '+' then ' ' else c

/-- Plus signs are blanks, and the bytes that are left are UTF-8. -/
def decodeText? (cs : List Char) : Option String :=
  String.fromUTF8? ⟨(Url.percentDecode (cs.map blankOfPlus)).toArray⟩

def decodePair? (cs : List Char) : Option (String × String) := do
  let name ← decodeText? (cs.takeWhile (· ≠ '='))
  let value ← decodeText? ((cs.dropWhile (· ≠ '=')).drop 1)
  some (name, value)

def decode? (s : String) : Option (List (String × String)) :=
  ((Text.splitChars (· = '&') s.toList).filter fun piece => !piece.isEmpty).mapM decodePair?

/-- What encoded text consists of. -/
def isEncoded (c : Char) : Bool := isSafe c || c = '+' || c = '%'

theorem isSafe_upperHexDigit {n : Nat} (small : n < 16) : isSafe (Url.upperHexDigit n) = true := by
  interval_cases n <;> decide

theorem percent_of_mem_encodeChar {c d : Char} (h : d ∈ Url.encodeChar c) :
    d = '%' ∨ isSafe d = true := by
  obtain ⟨b, -, member⟩ := List.mem_flatMap.mp h
  have bound : b.toNat < 256 := b.toNat_lt
  simp only [Url.encodeByte, List.mem_cons, List.not_mem_nil, or_false] at member
  rcases member with rfl | rfl | rfl
  · exact .inl rfl
  · exact .inr (isSafe_upperHexDigit (by omega))
  · exact .inr (isSafe_upperHexDigit (by omega))

theorem isEncoded_of_mem {s : String} {d : Char} (h : d ∈ encodeText s) : isEncoded d = true := by
  obtain ⟨c, -, member⟩ := List.mem_flatMap.mp h
  unfold encodeChar at member
  split at member
  · obtain rfl := List.mem_singleton.mp member
    decide
  split at member
  · obtain rfl := List.mem_singleton.mp member
    simp [isEncoded, *]
  · rcases percent_of_mem_encodeChar member with rfl | safe
    · decide
    · simp [isEncoded, safe]

/-- Encoded text has no marks that split pairs in it. -/
theorem unmarked_of_mem {s : String} {d : Char} (h : d ∈ encodeText s) : d ≠ '=' ∧ d ≠ '&' := by
  have encoded := isEncoded_of_mem h
  constructor <;> (rintro rfl; exact absurd encoded (by decide))

theorem decode_encodeChar (c : Char) (rest : List Char) :
    Url.percentDecode ((encodeChar c ++ rest).map blankOfPlus) =
      String.utf8EncodeChar c ++ Url.percentDecode (rest.map blankOfPlus) := by
  have kept {d : Char} (other : d ≠ '+') : blankOfPlus d = d := if_neg other
  rw [List.map_append, encodeChar]
  split
  · rename_i blank
    rw [blank]
    exact Url.percentDecode_cons (by decide) _
  split
  · rename_i safe
    have noPlus : c ≠ '+' := by rintro rfl; exact absurd safe (by decide)
    have noPercent : c ≠ '%' := by rintro rfl; exact absurd safe (by decide)
    rw [List.map_singleton, kept noPlus]
    exact Url.percentDecode_cons noPercent _
  · have same : (Url.encodeChar c).map blankOfPlus = Url.encodeChar c := by
      refine List.map_congr_left (fun d member => kept ?_) |>.trans (List.map_id _)
      rintro rfl
      rcases percent_of_mem_encodeChar member with same | safe
      · exact absurd same (by decide)
      · exact absurd safe (by decide)
    rw [same, Url.percentDecode_encodeChar]

theorem decodeText?_encodeText (s : String) : decodeText? (encodeText s) = some s := by
  have bytes (cs : List Char) :
      Url.percentDecode ((cs.flatMap encodeChar).map blankOfPlus) =
        cs.flatMap String.utf8EncodeChar := by
    induction cs with
    | nil => rfl
    | cons c rest ih => rw [List.flatMap_cons, decode_encodeChar, ih, List.flatMap_cons]
  rw [decodeText?, encodeText, bytes, ← Text.toByteArray_eq, String.fromUTF8?, dif_pos s.isValidUTF8]
  rfl

theorem decodePair?_encodePair (name value : String) :
    decodePair? (encodePair name value) = some (name, value) := by
  have inside : ∀ d ∈ encodeText name, decide (d ≠ '=') = true := fun d member =>
    decide_eq_true (unmarked_of_mem member).1
  have outside : ∀ d ∈ ('=' :: encodeText value).head?, decide (d ≠ '=') = false := by simp
  have run := Text.longest_run inside outside
  rw [decodePair?, encodePair, run.1, run.2, List.drop_one, List.tail_cons, decodeText?_encodeText,
    decodeText?_encodeText]
  rfl

/-- Pairs of any texts are read back from their encoded form. -/
theorem decode?_encode (pairs : List (String × String)) : decode? (encode pairs) = some pairs := by
  have each (pairs : List (String × String)) :
      (pairs.map fun p => encodePair p.1 p.2).mapM decodePair? = some pairs := by
    induction pairs with
    | nil => rfl
    | cons p rest ih =>
      rw [List.map_cons, List.mapM_cons, ih, decodePair?_encodePair]
      rfl
  have filled : ((pairs.map fun p => encodePair p.1 p.2).filter fun piece => !piece.isEmpty) =
      pairs.map fun p => encodePair p.1 p.2 := by
    rw [List.filter_eq_self]
    intro piece member
    obtain ⟨p, -, rfl⟩ := List.mem_map.mp member
    simp [encodePair]
  cases pairs with
  | nil => rfl
  | cons p rest =>
    have split : Text.splitChars (· = '&') (encode (p :: rest)).toList =
        (p :: rest).map fun p => encodePair p.1 p.2 := by
      rw [encode, String.toList_ofList, List.map_cons]
      refine Text.splitChars_intercalate (by decide) ?_
      rw [← List.map_cons (f := fun p : String × String => encodePair p.1 p.2)]
      intro piece member d inside
      obtain ⟨q, -, rfl⟩ := List.mem_map.mp member
      rcases List.mem_append.mp inside with name | value
      · exact decide_eq_false (unmarked_of_mem name).2
      rcases List.mem_cons.mp value with rfl | value
      · decide
      · exact decide_eq_false (unmarked_of_mem value).2
    rw [decode?, split, filled, each]

end Form

namespace QueryOptions

/-- The names of all parameters in the order in which they are sent. -/
def parameterNames : List String := ["$filter", "$orderby", "$top", "$skip", "$count", "$expand"]

/-- A text without the blanks around it, unless nothing else is in it. -/
def stated? (s : String) : Option String :=
  if Text.isBlankText s then none else some (Text.trim s)

/-- What a parameter is set to. Each one depends on an option of its own. -/
def setting? (o : QueryOptions) : String → Option String
  | "$filter" => stated? o.filter
  | "$orderby" => stated? o.orderBy
  | "$top" => o.top.map natText
  | "$skip" => (o.skip.filter (0 < ·)).map natText
  | "$count" => if o.count then some "true" else none
  | "$expand" =>
    match o.expand.filterMap stated? with
    | [] => none
    | items => some (",".intercalate items)
  | _ => none

theorem unlessEmpty_trim (name s : String) :
    unlessEmpty name (Text.trim s) = ((stated? s).map (name, ·)).toList := by
  rw [unlessEmpty, Text.isEmpty_trim, stated?]
  cases Text.isBlankText s <;> rfl

theorem ofNumber_eq (name : String) (n : Option Nat) :
    ofNumber name n = ((n.map natText).map (name, ·)).toList := by
  cases n <;> rfl

theorem filter_trim (texts : List String) :
    ((texts.map Text.trim).filter fun e => !e.isEmpty) = texts.filterMap stated? := by
  induction texts with
  | nil => rfl
  | cons s rest ih =>
    rw [List.map_cons, List.filter_cons, Text.isEmpty_trim, List.filterMap_cons, stated?, ih]
    cases Text.isBlankText s <;> rfl

/-- A text that is stated has more than blanks in it. -/
theorem not_blank_of_stated {s value : String} (h : stated? s = some value) :
    Text.isBlankText value = false := by
  unfold stated? at h
  split at h
  · cases h
  · rename_i filled
    cases h
    rw [Text.isBlankText_trim]
    exact Bool.not_eq_true _ ▸ filled

theorem not_blank_natText (n : Nat) : Text.isBlankText (natText n) = false := by
  rw [Text.isBlankText, natText, String.toList_ofList, List.all_eq_false]
  obtain ⟨c, rest, digits⟩ := List.exists_cons_of_ne_nil (Nat.toDigits_ne_nil (n := n) (b := 10))
  have member : c ∈ digitsOf n := by simp [digitsOf, digits]
  have digit := Nat.isDigit_of_mem_toDigits (by decide) (by decide) member
  exact ⟨c, member, by simp [(plain_of_isDigit digit).1]⟩

theorem not_blank_listed {texts : List String} {first : String} {rest : List String}
    (items : texts.filterMap stated? = first :: rest) :
    Text.isBlankText (",".intercalate (first :: rest)) = false := by
  have member : first ∈ texts.filterMap stated? := items ▸ List.mem_cons_self
  obtain ⟨s, -, stated⟩ := List.mem_filterMap.mp member
  have filled := not_blank_of_stated stated
  rw [Text.isBlankText, List.all_eq_false] at filled ⊢
  obtain ⟨c, inside, filled⟩ := filled
  rw [toList_intercalate_cons]
  exact ⟨c, List.mem_append_left _ inside, filled⟩

theorem not_blank_of_setting {o : QueryOptions} {name value : String}
    (h : o.setting? name = some value) : Text.isBlankText value = false := by
  unfold setting? at h
  split at h
  · exact not_blank_of_stated h
  · exact not_blank_of_stated h
  · obtain ⟨n, -, rfl⟩ := Option.map_eq_some_iff.mp h
    exact not_blank_natText n
  · obtain ⟨n, -, rfl⟩ := Option.map_eq_some_iff.mp h
    exact not_blank_natText n
  · split at h <;> cases h
    decide
  · split at h
    · cases h
    · rename_i items several
      cases h
      obtain ⟨first, rest, listed⟩ := List.exists_cons_of_ne_nil several
      rw [listed]
      exact not_blank_listed listed
  · cases h

/-- The parameters are the settings, in the order of their names. -/
theorem pairs_eq (o : QueryOptions) :
    o.pairs = parameterNames.filterMap fun name => (o.setting? name).map (name, ·) := by
  have count : (if o.count then [("$count", "true")] else []) =
      ((o.setting? "$count").map ("$count", ·)).toList := by
    rw [setting?]
    cases o.count <;> rfl
  have expand : unlessEmpty "$expand" (",".intercalate (o.expand.filterMap stated?)) =
      ((o.setting? "$expand").map ("$expand", ·)).toList := by
    rw [setting?]
    cases items : o.expand.filterMap stated? with
    | nil => rfl
    | cons first rest =>
      have filled : ",".intercalate (first :: rest) ≠ "" := by
        intro empty
        have blank := not_blank_listed items
        rw [empty] at blank
        exact absurd blank (by decide)
      simp [unlessEmpty, filled]
  rw [pairs, unlessEmpty_trim, unlessEmpty_trim, ofNumber_eq, ofNumber_eq, filter_trim, count,
    expand, List.filterMap_eq_flatMap_toList]
  simp [parameterNames, setting?]

theorem names_sublist (setting : String → Option String) (names : List String) :
    ((names.filterMap fun name => (setting name).map (name, ·)).map Prod.fst).Sublist names := by
  induction names with
  | nil => exact .slnil
  | cons name rest ih =>
    rw [List.filterMap_cons]
    cases setting name with
    | none => exact ih.cons name
    | some value => exact ih.cons_cons name

theorem setting?_of_not_mem {o : QueryOptions} {name : String} (other : name ∉ parameterNames) :
    o.setting? name = none := by
  unfold setting?
  split <;> first | rfl | exact absurd (by decide) other

/-- All parameters are read back as they were set, whatever their texts are: each name stands for one
option, and a blank option has none. -/
theorem decode?_queryString (o : QueryOptions) :
    Form.decode? o.queryString = some o.pairs ∧
    (o.pairs.map Prod.fst).Sublist parameterNames ∧ (o.pairs.map Prod.fst).Nodup ∧
    (∀ p ∈ o.pairs, Text.isBlankText p.2 = false) ∧
    ∀ name value, (name, value) ∈ o.pairs ↔ o.setting? name = some value := by
  have mem (name value : String) : (name, value) ∈ o.pairs ↔ o.setting? name = some value := by
    rw [pairs_eq, List.mem_filterMap]
    constructor
    · rintro ⟨name, -, set⟩
      obtain ⟨value, set, ⟨⟩⟩ := Option.map_eq_some_iff.mp set
      exact set
    · intro set
      refine ⟨name, ?_, by rw [set]; rfl⟩
      by_contra other
      rw [setting?_of_not_mem other] at set
      cases set
  have names : (o.pairs.map Prod.fst).Sublist parameterNames := by
    rw [pairs_eq]
    exact names_sublist o.setting? parameterNames
  refine ⟨Form.decode?_encode _, names, names.nodup (by decide), ?_, mem⟩
  rintro ⟨name, value⟩ member
  exact not_blank_of_setting ((mem name value).mp member)

/-- Marks of the form inside a text are no marks, and an item of blanks is not sent. -/
theorem decode?_queryString_marks :
    let o : QueryOptions := { filter := " Name eq 'é&$top=1+%26' ", top := some 5, expand := [" ", "A"] }
    Form.decode? o.queryString =
        some [("$filter", "Name eq 'é&$top=1+%26'"), ("$top", "5"), ("$expand", "A")] ∧
      Text.isBlankText "Name eq 'é&$top=1+%26'" = false := by
  intro o
  obtain ⟨decoded, -, -, filled, -⟩ := decode?_queryString o
  have pairs : o.pairs =
      [("$filter", "Name eq 'é&$top=1+%26'"), ("$top", "5"), ("$expand", "A")] := by
    decide
  rw [pairs] at decoded filled
  exact ⟨decoded, filled _ List.mem_cons_self⟩

end QueryOptions

end ODataQuery
