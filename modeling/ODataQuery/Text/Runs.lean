/-! Sets of characters as sorted runs of code points. A run holds every `step`-th code point from
`first` to `last`, so that an alternation of capital and small letters is a single run. -/
namespace ODataQuery.Text

/-- The code points `first`, `first + step`, … up to `last`. -/
structure Run where
  first : Nat
  last : Nat
  step : Nat := 1
  deriving DecidableEq

namespace Run

def contains (r : Run) (n : Nat) : Bool :=
  decide (r.first ≤ n) && decide (n ≤ r.last) && (n - r.first) % r.step == 0

/-- Membership in runs that ascend without overlapping: the search ends at the first run that
starts above the code point. -/
def anyContains : List Run → Nat → Bool
  | [], _ => false
  | r :: rest, n => if n < r.first then false else r.contains n || anyContains rest n

theorem contains_iff {r : Run} {n : Nat} :
    r.contains n = true ↔ r.first ≤ n ∧ n ≤ r.last ∧ (n - r.first) % r.step = 0 := by
  simp [contains, and_assoc]

theorem anyContains_sound {runs : List Run} {n : Nat} (h : anyContains runs n = true) :
    ∃ r ∈ runs, r.contains n = true := by
  induction runs with
  | nil => simp [anyContains] at h
  | cons r rest ih =>
    rw [anyContains] at h
    split at h
    · simp at h
    · rcases Bool.or_eq_true .. |>.mp h with h | h
      · exact ⟨r, by simp, h⟩
      · obtain ⟨s, hs, hn⟩ := ih h
        exact ⟨s, by simp [hs], hn⟩

end Run

end ODataQuery.Text
