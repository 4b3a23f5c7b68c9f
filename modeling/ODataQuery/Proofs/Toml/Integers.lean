import ODataQuery.Toml.Reader

/-! Whole numbers in documents have 64 bits. -/
namespace ODataQuery.Toml

def Fits : Toml → Prop
  | .integer z => z ≤ 9223372036854775807
  | _ => True

def ReadsFitting (read : Option (Toml × List Char)) : Prop :=
  ∀ v rest, read = some (v, rest) → v.Fits

theorem ReadsFitting.none : ReadsFitting none := by
  rintro v rest ⟨⟩

theorem ReadsFitting.some {v : Toml} (fits : v.Fits) (rest : List Char) :
    ReadsFitting (some (v, rest)) := by
  rintro _ _ ⟨⟩
  exact fits

theorem ReadsFitting.bind {α : Type} {first : Option α} {next : α → Option (Toml × List Char)}
    (second : ∀ a, ReadsFitting (next a)) : ReadsFitting (first.bind next) := by
  intro v rest read
  obtain ⟨a, -, read⟩ := Option.bind_eq_some_iff.mp read
  exact second a v rest read

theorem readsFitting_integerOf? (z : Int) (rest : List Char) :
    ReadsFitting ((integerOf? z).bind fun v => Option.some (v, rest)) := by
  unfold integerOf?
  split
  case isTrue within => exact .some (show Fits (.integer z) from within.2) rest
  case isFalse => exact .none

theorem readsFitting_based? (base : Nat) (cs : List Char) : ReadsFitting (based? base cs) :=
  .bind fun _ => readsFitting_integerOf? _ _

theorem readsFitting_decimal? (cs : List Char) : ReadsFitting (decimal? cs) := by
  have last (negative : Bool) (whole fraction : List Char) (exponent : Option Int) (rest : List Char) :
      ReadsFitting (
        if fraction.isEmpty ∧ exponent.isNone then
          (integerOf? (if negative then -(valueOfDigits whole : Int) else valueOfDigits whole)).bind
            fun v => Option.some (v, rest)
        else
          if Decimal.round negative
              ⟨valueOfDigits (whole ++ fraction), exponent.getD 0 - fraction.length⟩ =
            .infinite false then Option.none
          else Option.some (.real (Decimal.round negative
            ⟨valueOfDigits (whole ++ fraction), exponent.getD 0 - fraction.length⟩), rest)) := by
    split
    · exact readsFitting_integerOf? _ _
    split
    · exact .none
    · exact .some (show Fits (.real _) from trivial) _
  unfold decimal?
  generalize splitSign cs = sign
  obtain ⟨negative, unsigned⟩ := sign
  refine .bind fun whole => ?_
  dsimp only
  split
  · exact .none
  -- Whether there is a fraction or not, an exponent may follow.
  split
  all_goals
    refine .bind fun fraction => ?_
    split
    case h_1 =>
      split
      case isTrue => exact .bind fun _ => .bind fun _ => last _ _ _ _ _
      case isFalse => exact .bind fun _ => last _ _ _ _ _
    case h_2 => exact .bind fun _ => last _ _ _ _ _

theorem readsFitting_number? (cs : List Char) : ReadsFitting (number? cs) := by
  unfold number?
  split
  · exact readsFitting_based? _ _
  · exact readsFitting_based? _ _
  · exact readsFitting_based? _ _
  dsimp only
  split
  · exact .some (show Fits (.real _) from trivial) _
  · exact .some (show Fits (.real _) from trivial) _
  · exact readsFitting_decimal? cs

theorem ReadsFitting.or {first second : Option (Toml × List Char)} (one : ReadsFitting first)
    (other : ReadsFitting second) : ReadsFitting (first.or second) := by
  cases first with
  | none => exact other
  | some => exact one

theorem readsFitting_scalar? (cs : List Char) : ReadsFitting (scalar? cs) := by
  unfold scalar?
  split
  · exact .some (show Fits (.boolean _) from trivial) _
  · exact .some (show Fits (.boolean _) from trivial) _
  refine .or ?_ (.or ?_ (readsFitting_number? cs))
  · rintro v rest read
    obtain ⟨_, -, made⟩ := Option.map_eq_some_iff.mp read
    cases made
    trivial
  · rintro v rest read
    obtain ⟨_, -, made⟩ := Option.map_eq_some_iff.mp read
    cases made
    trivial

theorem readsFitting_value? (depth : Nat) (cs : List Char) : ReadsFitting (value? depth cs) := by
  cases depth with
  | zero => exact readsFitting_scalar? cs
  | succ depth =>
    unfold value?
    split
    · rintro v rest read
      obtain ⟨_, -, made⟩ := Option.map_eq_some_iff.mp read
      cases made
      trivial
    · unfold inlineTable?
      split
      · exact .some (show Fits (.table _) from trivial) _
      · exact .bind fun _ => .bind fun _ => .some (show Fits (.table _) from trivial) _
    · exact readsFitting_scalar? cs

def Entries.Fitting (root : Entries) : Prop :=
  ∀ key v, root.lookup key = some (.value v) → v.Fits

variable {root root' : Entries} {key : String} {node : Node} {v : Toml}

theorem lookup_set (key other : String) (node : Node) (root : Entries) :
    (root.set key node).lookup other = if other = key then some node else root.lookup other := by
  induction root with
  | nil =>
    by_cases same : other = key
    · simp [Entries.set, same]
    · simp [Entries.set, same, List.lookup_cons, beq_eq_false_iff_ne.mpr same]
  | cons first rest ih =>
    obtain ⟨k, n⟩ := first
    rw [Entries.set]
    split
    case isTrue found =>
      subst found
      by_cases same : other = k
      · simp [same]
      · simp [same, List.lookup_cons, beq_eq_false_iff_ne.mpr same]
    case isFalse other' =>
      rw [List.lookup_cons, List.lookup_cons, ih]
      by_cases same : other = k
      · simp [same, other']
      · simp [beq_eq_false_iff_ne.mpr same]

namespace Entries.Fitting

theorem set (fitting : root.Fitting) (fits : ∀ v, node = .value v → v.Fits) :
    (root.set key node).Fitting := by
  intro other v found
  rw [lookup_set] at found
  split at found
  · exact fits v (Option.some.inj found)
  · exact fitting other v found

theorem set_bind {read : Option Entries} {made : Entries → Node} (fitting : root.Fitting)
    (table : ∀ entries v, made entries ≠ .value v)
    (set : (read.bind fun entries => some (root.set key (made entries))) = some root') :
    root'.Fitting := by
  obtain ⟨entries, -, made⟩ := Option.bind_eq_some_iff.mp set
  cases made
  exact fitting.set fun v same => absurd same (table entries v)

theorem put {path : List String} (fitting : root.Fitting) (fits : v.Fits)
    (put : root.put v path = some root') : root'.Fitting := by
  unfold Entries.put at put
  split at put
  · cases put
  · split at put
    · cases put
    · cases put
      exact fitting.set fun w same => Node.value.inj same ▸ fits
  split at put
  · exact fitting.set_bind (by simp) put
  · split at put
    · cases put
    · exact fitting.set_bind (by simp) put
  · split at put
    · cases put
    · exact fitting.set_bind (by simp) put
  · cases put

theorem update {change : Entries → Option Entries} {here : List String} (fitting : root.Fitting)
    (changed : ∀ root', here = [] → change root = some root' → root'.Fitting)
    (update : root.update change here = some root') : root'.Fitting := by
  unfold Entries.update at update
  split at update
  · exact changed root' rfl update
  split at update
  · exact fitting.set_bind (by simp) update
  · exact fitting.set_bind (by simp) update
  · exact fitting.set_bind (by simp) update
  · cases update

theorem openTable (fitting : root.Fitting) (opened : root.openTable key = some root') :
    root'.Fitting := by
  unfold Entries.openTable at opened
  split at opened
  · cases opened
    exact fitting.set (by simp)
  · cases opened
    exact fitting.set (by simp)
  · cases opened

theorem openNext (fitting : root.Fitting) (opened : root.openNext key = some root') :
    root'.Fitting := by
  unfold Entries.openNext at opened
  split at opened
  · cases opened
    exact fitting.set (by simp)
  · cases opened
    exact fitting.set (by simp)
  · cases opened

end Entries.Fitting

theorem fits_pair? {depth : Nat} {path : List String} {cs left : List Char}
    (read : pair? (value? depth) cs = some ((path, v), left)) : v.Fits := by
  obtain ⟨⟨keys, rest⟩, -, read⟩ := Option.bind_eq_some_iff.mp read
  split at read
  · obtain ⟨⟨w, behind⟩, value, made⟩ := Option.bind_eq_some_iff.mp read
    cases made
    exact readsFitting_value? depth _ v _ value
  · cases read

theorem fitting_lines? {fuel : Nat} {here : List String} {cs : List Char} (fitting : root.Fitting)
    (read : lines? fuel here root cs = some root') : root'.Fitting := by
  induction fuel generalizing here root cs with
  | zero =>
    unfold lines? at read
    split at read
    · cases read
      exact fitting
    · cases read
  | succ fuel ih =>
    unfold lines? at read
    split at read
    · cases read
      exact fitting
    · obtain ⟨⟨path, left⟩, -, read⟩ := Option.bind_eq_some_iff.mp read
      split at read
      · obtain ⟨⟨way, key⟩, -, read⟩ := Option.bind_eq_some_iff.mp read
        obtain ⟨opened, updated, read⟩ := Option.bind_eq_some_iff.mp read
        obtain ⟨behind, -, read⟩ := Option.bind_eq_some_iff.mp read
        exact ih (fitting.update (fun _ _ opened => fitting.openNext opened) updated) read
      · cases read
    · obtain ⟨⟨path, left⟩, -, read⟩ := Option.bind_eq_some_iff.mp read
      split at read
      · obtain ⟨⟨way, key⟩, -, read⟩ := Option.bind_eq_some_iff.mp read
        obtain ⟨opened, updated, read⟩ := Option.bind_eq_some_iff.mp read
        obtain ⟨behind, -, read⟩ := Option.bind_eq_some_iff.mp read
        exact ih (fitting.update (fun _ _ opened => fitting.openTable opened) updated) read
      · cases read
    · split at read
      · obtain ⟨behind, -, read⟩ := Option.bind_eq_some_iff.mp read
        exact ih fitting read
      · obtain ⟨⟨⟨path, value⟩, left⟩, pair, read⟩ := Option.bind_eq_some_iff.mp read
        obtain ⟨changed, updated, read⟩ := Option.bind_eq_some_iff.mp read
        obtain ⟨behind, -, read⟩ := Option.bind_eq_some_iff.mp read
        have fits := fits_pair? pair
        exact ih (fitting.update (fun _ _ put => fitting.put fits put) updated) read

theorem lookup_entriesToToml (root : Entries) (key : String) :
    (Node.entriesToToml root).lookup key = (root.lookup key).map Node.toToml := by
  induction root with
  | nil => rfl
  | cons first rest ih =>
    obtain ⟨k, n⟩ := first
    rw [Node.entriesToToml, List.lookup_cons, List.lookup_cons, ih]
    split <;> rfl

/-- Every whole number that a document gives a name has 64 bits. -/
theorem fits_of_parse? {s : String} {entries : List (String × Toml)}
    (read : parse? s = some entries) (found : entries.lookup key = some v) : v.Fits := by
  obtain ⟨root, lines, made⟩ := Option.bind_eq_some_iff.mp read
  cases made
  have empty : Entries.Fitting [] := by
    rintro key v ⟨⟩
  have fitting := fitting_lines? empty lines
  rw [lookup_entriesToToml] at found
  obtain ⟨node, stands, rfl⟩ := Option.map_eq_some_iff.mp found
  cases node with
  | value v => exact fitting key v stands
  | table => trivial
  | tables => trivial

end ODataQuery.Toml
