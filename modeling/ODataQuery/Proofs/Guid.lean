import ODataQuery.Guid
import ODataQuery.Number.Text
import ODataQuery.Proofs.Text.Parts

/-! The hyphenated form of identifiers. It is read back as what it was written for, and told from other
words by its length, its hyphens and the hexadecimal digit it begins with. -/
namespace ODataQuery.Guid

theorem mapM_hexValue? (digits : List (Fin 16)) :
    (digits.map hexDigit).mapM hexValue? = some digits := by
  induction digits with
  | nil => rfl
  | cons d rest ih => simp [hexValue?_hexDigit, ih]

/-- The hyphens are taken out where they were put in. -/
theorem bare_hyphenated {cs : List Char} (length : cs.length = 32) :
    let written := hyphenated cs
    written.take 8 ++ (written.drop 9).take 4 ++ (written.drop 14).take 4 ++
      (written.drop 19).take 4 ++ written.drop 24 = cs := by
  intro written
  have whole : cs = cs.take 8 ++ ((cs.drop 8).take 4 ++ ((cs.drop 12).take 4 ++
      ((cs.drop 16).take 4 ++ cs.drop 20))) := by
    have split (n : Nat) : cs.drop n = (cs.drop n).take 4 ++ cs.drop (n + 4) := by
      rw [← List.drop_drop, List.take_append_drop]
    rw [← split 16, ← split 12, ← split 8, List.take_append_drop]
  have lengths : (cs.take 8).length = 8 ∧ ((cs.drop 8).take 4).length = 4 ∧
      ((cs.drop 12).take 4).length = 4 ∧ ((cs.drop 16).take 4).length = 4 := by
    simp [length]
  simp only [written, hyphenated]
  generalize cs.take 8 = a, (cs.drop 8).take 4 = b, (cs.drop 12).take 4 = c,
    (cs.drop 16).take 4 = d, cs.drop 20 = e at whole lengths ⊢
  obtain ⟨ha, hb, hc, hd⟩ := lengths
  simp (disch := omega) [List.drop_append, List.drop_of_length_le, ha, hb, hc, hd,
    whole]

theorem toList_text (g : Guid) : g.text.toList = hyphenated (g.digits.map hexDigit) :=
  String.toList_ofList

theorem length_text (g : Guid) : g.text.toList.length = 36 := by
  rw [toList_text]
  simp [hyphenated, g.length_digits]

theorem ofText?_text (g : Guid) : ofText? g.text = some g := by
  have length : (g.digits.map hexDigit).length = 32 := by rw [List.length_map, g.length_digits]
  have bare := bare_hyphenated length
  have digits : ofDigits? (g.digits.map hexDigit) = some g := by
    rw [ofDigits?, mapM_hexValue?]
    exact dif_pos g.length_digits
  simp only [ofText?, g.length_text]
  rw [toList_text, ofHyphenated?]
  simp only [bare, length, and_self, if_true, digits]

theorem ofText?_of_length {s : String} (other : s.toList.length ∉ [32, 36, 38, 45]) :
    ofText? s = none := by
  unfold ofText?
  dsimp only
  split <;> simp_all

theorem mem_hyphenated {cs : List Char} {c : Char} (member : c ∈ hyphenated cs) :
    c = '-' ∨ c ∈ cs := by
  have inside {n k : Nat} (part : c ∈ (cs.drop n).take k) : c ∈ cs :=
    List.mem_of_mem_drop (List.mem_of_mem_take part)
  simp only [hyphenated, List.mem_append, List.mem_cons] at member
  rcases member with part | rfl | part | rfl | part | rfl | part | rfl | part
  · exact .inr (List.mem_of_mem_take part)
  · exact .inl rfl
  · exact .inr (inside part)
  · exact .inl rfl
  · exact .inr (inside part)
  · exact .inl rfl
  · exact .inr (inside part)
  · exact .inl rfl
  · exact .inr (List.mem_of_mem_drop part)

theorem count_minus_text (g : Guid) : 1 < g.text.toList.count '-' := by
  rw [toList_text, hyphenated]
  simp only [List.count_append, List.count_cons_self]
  omega

/-- An identifier begins with a digit, and not with a sign. -/
theorem exists_first_text (g : Guid) :
    ∃ c cs, g.text.toList = c :: cs ∧ c ≠ '-' ∧ c ≠ '+' := by
  have plain : ∀ d : Fin 16, hexDigit d ≠ '-' ∧ hexDigit d ≠ '+' := by decide
  obtain ⟨digits, length⟩ := g
  obtain ⟨d, rest, rfl⟩ := List.exists_cons_of_length_pos (by omega : 0 < digits.length)
  rw [toList_text]
  exact ⟨hexDigit d, _, rfl, plain d⟩

theorem utf8ByteSize_text (g : Guid) : g.text.utf8ByteSize = 36 := by
  have small : ∀ d : Fin 16, (hexDigit d).utf8Size = 1 := by decide
  rw [Text.utf8ByteSize_of_single, length_text]
  intro c member
  rw [toList_text] at member
  rcases mem_hyphenated member with rfl | digit
  · decide
  · obtain ⟨d, -, rfl⟩ := List.mem_map.mp digit
    exact small d

end ODataQuery.Guid
