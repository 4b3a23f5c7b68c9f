import Mathlib.Data.List.Induction
import ODataQuery.Filter.Payload
import ODataQuery.Proofs.Filter.Literal

/-! The values of filters. Their equality is symmetric and transitive, though not reflexive: NaN
differs from itself. A selection of values has no two equal ones, and selecting it again changes
nothing; of the values that are not blank a second listing changes nothing either. -/
namespace ODataQuery

namespace Binary64

theorem same_symm {x y : Binary64} (h : x.same y = true) : y.same x = true := by
  cases x <;> cases y <;> try cases h
  case infinite.infinite => exact same_infinite_iff.mpr (same_infinite_iff.mp h).symm
  case finite.finite =>
    obtain ⟨units, sign⟩ := same_finite_iff.mp h
    exact same_finite_iff.mpr ⟨units.symm, sign.imp Eq.symm units.symm.trans⟩

theorem same_trans {x y z : Binary64} (first : x.same y = true) (second : y.same z = true) :
    x.same z = true := by
  cases x <;> cases y <;> (try cases first) <;> cases z <;> try cases second
  case infinite.infinite.infinite =>
    exact same_infinite_iff.mpr
      ((same_infinite_iff.mp first).trans (same_infinite_iff.mp second))
  case finite.finite.finite =>
    obtain ⟨units, sign⟩ := same_finite_iff.mp first
    obtain ⟨units', sign'⟩ := same_finite_iff.mp second
    refine same_finite_iff.mpr ⟨units.trans units', ?_⟩
    rcases sign with rfl | zero
    · exact sign'.imp_right units.trans
    · exact .inr zero

end Binary64

namespace Literal

theorem same_symm {v w : Literal} (h : v.same w = true) : w.same v = true := by
  cases v <;> cases w <;> try cases h
  case null.null.refl => rfl
  case number.number => exact Binary64.same_symm h
  all_goals exact decide_eq_true (of_decide_eq_true h).symm

theorem same_trans {u v w : Literal} (first : u.same v = true) (second : v.same w = true) :
    u.same w = true := by
  cases u <;> cases v <;> (try cases first) <;> cases w <;> try cases second
  case null.refl.null.refl => rfl
  case number.number.number => exact Binary64.same_trans first second
  all_goals exact decide_eq_true ((of_decide_eq_true first).trans (of_decide_eq_true second))

theorem isBlank_eq_of_same {v w : Literal} (h : v.same w = true) :
    v.isBlank = w.isBlank := by
  cases v <;> cases w <;> simp only [same, decide_eq_true_eq, Bool.false_eq_true] at h
  case number.number x y =>
    cases x <;> cases y <;> first | rfl | cases h
  all_goals first | rw [h] | rfl

end Literal

namespace Payload

theorem sameNumber_symm {x y : Option Binary64} (h : sameNumber x y = true) :
    sameNumber y x = true := by
  cases x <;> cases y <;> try cases h
  case none.none => rfl
  case some.some => exact Binary64.same_symm h

theorem sameNumber_trans {x y z : Option Binary64} (first : sameNumber x y = true)
    (second : sameNumber y z = true) : sameNumber x z = true := by
  cases x <;> cases y <;> (try cases first) <;> cases z <;> try cases second
  case none.none.refl.none.refl => rfl
  case some.some.some => exact Binary64.same_trans first second

theorem sameList_symm {vs ws : List Literal} (h : sameList vs ws = true) :
    sameList ws vs = true := by
  fun_induction sameList vs ws with
  | case1 => rfl
  | case2 v vs w ws ih =>
    obtain ⟨same, rest⟩ := (Bool.and_eq_true ..).mp h
    exact (Bool.and_eq_true ..).mpr ⟨Literal.same_symm same, ih rest⟩
  | case3 => cases h

theorem sameList_trans {us vs ws : List Literal} (first : sameList us vs = true)
    (second : sameList vs ws = true) : sameList us ws = true := by
  fun_induction sameList us vs generalizing ws with
  | case1 => exact second
  | case2 u us v vs ih =>
    cases ws with
    | nil => cases second
    | cons w ws =>
      obtain ⟨same, rest⟩ := (Bool.and_eq_true ..).mp first
      obtain ⟨same', rest'⟩ := (Bool.and_eq_true ..).mp second
      exact (Bool.and_eq_true ..).mpr ⟨Literal.same_trans same same', ih rest rest'⟩
  | case3 => cases first

theorem same_symm {p q : Payload} (h : p.same q = true) : q.same p = true := by
  cases p <;> cases q <;> try cases h
  case text.text | date.date => exact decide_eq_true (of_decide_eq_true h).symm
  case numbers.numbers =>
    obtain ⟨low, high⟩ := (Bool.and_eq_true ..).mp h
    exact (Bool.and_eq_true ..).mpr ⟨sameNumber_symm low, sameNumber_symm high⟩
  case choice.choice => exact sameList_symm h

theorem same_trans {p q r : Payload} (first : p.same q = true) (second : q.same r = true) :
    p.same r = true := by
  cases p <;> cases q <;> (try cases first) <;> cases r <;> try cases second
  case text.text.text | date.date.date =>
    exact decide_eq_true ((of_decide_eq_true first).trans (of_decide_eq_true second))
  case numbers.numbers.numbers =>
    obtain ⟨low, high⟩ := (Bool.and_eq_true ..).mp first
    obtain ⟨low', high'⟩ := (Bool.and_eq_true ..).mp second
    exact (Bool.and_eq_true ..).mpr ⟨sameNumber_trans low low', sameNumber_trans high high'⟩
  case choice.choice.choice => exact sameList_trans first second

end Payload

namespace Literal

theorem same_self_iff {v : Literal} : v.same v = true ↔ v ≠ .number .nan := by
  cases v with
  | number x => simpa [Literal.same] using Binary64.same_self_iff x
  | text | boolean | instant | guid | null => simp [Literal.same]

theorem same_self_of_usable {v : Literal} (usable : v.isBlank = false) : v.same v = true := by
  refine same_self_iff.mpr ?_
  rintro rfl
  cases usable

end Literal

namespace Payload

/-- NaN is among the values. -/
def HoldsNan : Payload → Prop
  | numbers value secondary => value = some .nan ∨ secondary = some .nan
  | choice selected => .number .nan ∈ selected
  | text _ | date _ => False

instance : DecidablePred HoldsNan
  | numbers _ _ => inferInstanceAs (Decidable (_ ∨ _))
  | choice _ => inferInstanceAs (Decidable (_ ∈ _))
  | text _ | date _ => inferInstanceAs (Decidable False)

theorem sameNumber_self_iff {x : Option Binary64} : sameNumber x x = true ↔ x ≠ some .nan := by
  cases x with
  | none => simp [sameNumber]
  | some x => simpa [sameNumber] using Binary64.same_self_iff x

theorem sameList_self_iff {vs : List Literal} :
    sameList vs vs = true ↔ .number .nan ∉ vs := by
  induction vs with
  | nil => simp [sameList]
  | cons v rest ih =>
    rw [sameList, Bool.and_eq_true, Literal.same_self_iff, ih, List.mem_cons, not_or, ne_comm]

theorem same_self_iff {p : Payload} : p.same p = true ↔ ¬ p.HoldsNan := by
  cases p with
  | text | date => simp [same, HoldsNan]
  | numbers value secondary =>
    rw [same, Bool.and_eq_true, sameNumber_self_iff, sameNumber_self_iff, HoldsNan, not_or]
  | choice selected => exact sameList_self_iff

/-- A choice lists each of its values once, as one that is made of values does. -/
def Selected : Payload → Prop
  | choice selected => ∃ values, selected = selection values
  | _ => True

theorem selection_concat (values : List Literal) (v : Literal) :
    selection (values ++ [v]) = select v (selection values) := by
  simp [selection]

theorem selection_selection_append (values others : List Literal) :
    selection (selection values ++ others) = selection (values ++ others) := by
  have once : selection (selection values) = selection values := by
    induction values using List.reverseRecOn with
    | nil => rfl
    | append_singleton values v ih =>
      rw [selection_concat, select]
      split
      · exact ih
      · rename_i absent
        rw [selection_concat, ih, select, if_neg absent]
  have continued (vs : List Literal) : selection (vs ++ others) =
      others.foldl (fun selected v => select v selected) (selection vs) := List.foldl_append
  rw [continued, continued, once]

/-- Values that are equal to selected ones add nothing. -/
theorem selection_append_of_known {values others : List Literal}
    (known : ∀ w ∈ others, (selection values).any (·.same w) = true) :
    selection (values ++ others) = selection values := by
  induction others using List.reverseRecOn with
  | nil => rw [List.append_nil]
  | append_singleton others w ih =>
    obtain ⟨front, last⟩ := List.forall_mem_append.mp known
    rw [← List.append_assoc, selection_concat, ih front, select, if_pos (last w (by simp))]

theorem any_same_of_sameList {vs ws : List Literal} (h : sameList vs ws = true) :
    ∀ w ∈ ws, vs.any (·.same w) = true := by
  fun_induction sameList vs ws with
  | case1 => simp
  | case2 v vs w ws ih =>
    obtain ⟨same, rest⟩ := (Bool.and_eq_true ..).mp h
    rw [List.forall_mem_cons]
    refine ⟨by simp [same], fun u member => ?_⟩
    rw [List.any_cons, ih rest u member, Bool.or_true]
  | case3 => cases h

/-- Selecting values once keeps what holds of all of them, when it holds of equal values alike. -/
theorem all_selection {p : Literal → Bool}
    (alike : ∀ v w, Literal.same v w = true → p v = p w) (values : List Literal) :
    (selection values).all p = values.all p := by
  have step (v : Literal) (selected : List Literal) :
      (select v selected).all p = (selected.all p && p v) := by
    unfold select
    split
    · rename_i known
      obtain ⟨w, member, same⟩ := List.any_eq_true.mp known
      cases all : selected.all p with
      | false => rfl
      | true => rw [← alike w v same, List.all_eq_true.mp all w member]; rfl
    · simp
  induction values using List.reverseRecOn with
  | nil => rfl
  | append_singleton values v ih => simp [selection_concat, step, ih]

theorem any_same_selection (values : List Literal) (v : Literal) :
    (selection values).any (·.same v) = values.any (·.same v) := by
  have alike (a b : Literal) (same : a.same b = true) : (!a.same v) = (!b.same v) := by
    refine congrArg (!·) (Bool.eq_iff_iff.mpr ⟨fun h => ?_, Literal.same_trans same⟩)
    exact Literal.same_trans (Literal.same_symm same) h
  have all := all_selection alike values
  rwa [← List.not_any_eq_all_not, ← List.not_any_eq_all_not, Bool.not_inj_iff] at all

/-- Blank values have no part in what is selected of the others. -/
theorem filter_selection (values : List Literal) :
    (selection values).filter (!·.isBlank) = selection (values.filter (!·.isBlank)) := by
  induction values using List.reverseRecOn with
  | nil => rfl
  | append_singleton values v ih =>
    rw [selection_concat, select, List.filter_append]
    cases blank : v.isBlank with
    | true =>
      split <;> simp [blank, ih]
    | false =>
      have known : (selection (values.filter (!·.isBlank))).any (·.same v) =
          (selection values).any (·.same v) := by
        rw [any_same_selection, any_same_selection, List.any_filter]
        refine List.any_congr rfl fun w => ?_
        cases same : w.same v with
        | false => rw [Bool.and_false]
        | true => rw [Literal.isBlank_eq_of_same same, blank]; rfl
      have last : [v].filter (!·.isBlank) = [v] := by simp [blank]
      rw [last, selection_concat, select, known]
      split
      · exact ih
      · rw [List.filter_append, last, ih]

/-- NaN, which is selected each time it is listed, is blank. -/
theorem filter_selection_twice (values : List Literal) :
    (selection (values ++ values)).filter (!·.isBlank) =
      (selection values).filter (!·.isBlank) := by
  rw [filter_selection, filter_selection, List.filter_append]
  refine selection_append_of_known fun w member => ?_
  have usable : w.isBlank = false := by simpa using (List.mem_filter.mp member).2
  rw [any_same_selection, List.any_eq_true]
  exact ⟨w, member, Literal.same_self_of_usable usable⟩

end Payload

end ODataQuery
