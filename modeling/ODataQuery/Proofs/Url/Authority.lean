import ODataQuery.Proofs.Text.Parts
import ODataQuery.Url.Basic

/-! The authority of an address of the web and what follows it. An authority that ends in a control
character or a blank makes no address. -/
namespace ODataQuery.Url

theorem utf8EncodeChar_of_control {c : Char} (control : isControlOrSpace c = true) :
    String.utf8EncodeChar c = [UInt8.ofNat c.toNat] :=
  if_pos (Nat.le_trans (of_decide_eq_true control) (by decide))

/-- A byte of ASCII is the whole encoding of its character. -/
theorem toNat_of_mem_utf8EncodeChar {c : Char} {b : UInt8} (ascii : b.toNat < 128)
    (member : b ∈ String.utf8EncodeChar c) : c.toNat = b.toNat := by
  have value : c.toNat = c.val.toNat := rfl
  have ofNat (n : Nat) : (UInt8.ofNat n).toNat = n % 256 := UInt8.toNat_ofNat'
  unfold String.utf8EncodeChar at member
  dsimp only at member
  split at member
  · rw [List.mem_singleton.mp member, ofNat]
    omega
  split at member
  · simp only [List.mem_cons, List.not_mem_nil, or_false] at member
    rcases member with rfl | rfl <;> rw [ofNat] at ascii <;> omega
  split at member
  · simp only [List.mem_cons, List.not_mem_nil, or_false] at member
    rcases member with rfl | rfl | rfl <;> rw [ofNat] at ascii <;> omega
  · simp only [List.mem_cons, List.not_mem_nil, or_false] at member
    rcases member with rfl | rfl | rfl | rfl <;> rw [ofNat] at ascii <;> omega

theorem hexValue?_of_control {c : Char} (control : isControlOrSpace c = true) :
    hexValue? c = none := by
  have small : c.toNat ≤ 32 := of_decide_eq_true control
  have above {d : Char} (greater : 32 < d.toNat) : ¬ d ≤ c := fun le =>
    Nat.not_le.mpr greater (Nat.le_trans (UInt32.le_iff_toNat_le.mp le) small)
  have zero : ¬ '0' ≤ c := above (by decide)
  have little : ¬ 'a' ≤ c := above (by decide)
  have great : ¬ 'A' ≤ c := above (by decide)
  simp [hexValue?, zero, little, great]

/-- A control character is no digit behind a percent sign, so that its byte stays. -/
theorem mem_percentDecode {c : Char} (control : isControlOrSpace c = true) {cs : List Char}
    (member : c ∈ cs) : UInt8.ofNat c.toNat ∈ percentDecode cs := by
  have percent : c ≠ '%' := by rintro rfl; exact absurd control (by decide)
  have noDigit {d : Char} {n : Nat} (digit : hexValue? d = some n) : c ≠ d := by
    rintro rfl
    rw [hexValue?_of_control control] at digit
    cases digit
  fun_induction percentDecode cs with
  | case1 a b rest x y low high ih =>
    simp only [List.mem_cons, percent, noDigit low, noDigit high, false_or] at member
    exact List.mem_cons_of_mem _ (ih member)
  | case2 a b rest _ ih =>
    simp only [List.mem_cons, percent, false_or] at member
    exact List.mem_cons_of_mem _ (ih (List.mem_cons.mpr (member.imp_right List.mem_cons.mpr)))
  | case3 d rest _ ih =>
    rcases List.mem_cons.mp member with rfl | member
    · simp [utf8EncodeChar_of_control control]
    · exact List.mem_append_right _ (ih member)
  | case4 => cases member

/-- The tables of international names change neither a control character nor a blank. -/
def Domains.KeepsControls (domains : Domains) : Prop :=
  ∀ s name, domains.ascii? s = some name →
    ∀ c ∈ s.toList, isControlOrSpace c = true → c ∈ name.toList

theorem Domains.keepsControls_plain : Domains.plain.KeepsControls := by
  intro s name form c member control
  have small : c.toNat ≤ 32 := of_decide_eq_true control
  have noLetter : ¬ (c.val ≥ 'A'.val ∧ c.val ≤ 'Z'.val) := fun upper =>
    absurd (Nat.le_trans (UInt32.le_iff_toNat_le.mp upper.1) small) (by decide)
  have same : c.toLower = c := dif_neg noLetter
  obtain ⟨-, lower⟩ := Option.ite_none_right_eq_some.mp form
  obtain rfl := Option.some.inj lower
  rw [Text.asciiLower, String.toList_ofList]
  exact List.mem_map.mpr ⟨c, member, same⟩

namespace Host

variable {domains : Domains}

theorem asciiDomain?_of_control (keeps : domains.KeepsControls) {c : Char}
    (control : isControlOrSpace c = true) {s : List Char} (member : c ∈ s) :
    asciiDomain? domains s = none := by
  have small : c.toNat ≤ 32 := of_decide_eq_true control
  have byte : (UInt8.ofNat c.toNat).toNat = c.toNat :=
    UInt8.toNat_ofNat_of_lt' (Nat.lt_of_le_of_lt small (by decide))
  rw [asciiDomain?]
  cases decoded : String.fromUTF8? ⟨(percentDecode s).toArray⟩ with
  | none => rfl
  | some text =>
    have bytes : percentDecode s = text.toList.flatMap String.utf8EncodeChar := by
      obtain ⟨valid, same⟩ := Option.dite_none_right_eq_some.mp decoded
      have whole := Text.toByteArray_eq text
      rw [← Option.some.inj same] at whole ⊢
      exact congrArg (fun b => b.data.toList) whole
    obtain ⟨d, inside, encoded⟩ := List.mem_flatMap.mp (bytes ▸ mem_percentDecode control member)
    obtain rfl : d = c := by
      apply Char.toNat_inj.mp
      rw [toNat_of_mem_utf8EncodeChar (by omega) encoded, byte]
    rw [Option.bind_eq_bind, Option.bind_some]
    cases form : domains.ascii? text with
    | none => rfl
    | some name =>
      have forbidden : isForbidden d = true := by simp [isForbidden, small]
      have kept : d ∈ name.toList := keeps text name form d inside control
      exact if_pos (List.any_eq_true.mpr ⟨d, kept, forbidden⟩)

/-- No host ends in a control character or a blank, in brackets or not. -/
theorem ofSpecial_of_control (keeps : domains.KeepsControls) {c : Char}
    (control : isControlOrSpace c = true) (front : List Char) (host : Host) :
    ofSpecial domains (front ++ [c]) ≠ .ok host := by
  have bracket : c ≠ ']' := by rintro rfl; exact absurd control (by decide)
  unfold ofSpecial
  split
  · rename_i rest same
    have last : rest.getLast? ≠ some ']' := by
      intro last
      have ends : (front ++ [c]).getLast? = some ']' := by
        rw [same, List.getLast?_cons, last]
        rfl
      exact bracket (by simpa using ends)
    rw [if_neg last]
    nofun
  · rw [asciiDomain?_of_control keeps control (List.mem_append_right _ List.mem_cons_self)]
    nofun

end Host

/-- Behind a sign or not, the host ends as the authority does. -/
theorem splitUser_concat {front : List Char} {c : Char} (plain : c ≠ '@')
    {user password : String} {host : List Char}
    (split : splitUser (front ++ [c]) = .ok (user, password, host)) :
    ∃ before, host = before ++ [c] := by
  unfold splitUser splitLastAt? at split
  split at split
  · cases split
    exact ⟨front, rfl⟩
  · rename_i info last found
    split at found
    · cases found
      split at split
      · cases split
      · cases split
        simp [plain]
    · cases found

/-- Without a port the host ends as the whole does, and with one the port does. -/
theorem splitPort_concat {c : Char} (plain : c ≠ ':') (front : List Char) (inBrackets : Bool) :
    (splitPort inBrackets (front ++ [c])).2 = none ∧
        (∃ before, (splitPort inBrackets (front ++ [c])).1 = before ++ [c]) ∨
      ∃ before, (splitPort inBrackets (front ++ [c])).2 = some (before ++ [c]) := by
  induction front generalizing inBrackets with
  | nil => exact .inl ⟨by simp [splitPort, plain], [], by simp [splitPort, plain]⟩
  | cons d rest ih =>
    rw [List.cons_append, splitPort]
    split
    · exact .inr ⟨rest, rfl⟩
    · rcases ih (if d = '[' then true else if d = ']' then false else inBrackets) with
        ⟨none, before, host⟩ | ⟨before, port⟩
      · exact .inl ⟨none, d :: before, congrArg (d :: ·) host⟩
      · exact .inr ⟨before, port⟩

theorem portOf_of_control {c : Char} (control : isControlOrSpace c = true) (scheme : String)
    (front : List Char) (port : Option Nat) : portOf scheme (front ++ [c]) ≠ .ok port := by
  have small : c.toNat ≤ 32 := of_decide_eq_true control
  have noDigit : isDigit c = false := by
    have below : ¬ '0' ≤ c := fun le =>
      absurd (Nat.le_trans (UInt32.le_iff_toNat_le.mp le) small) (by decide)
    simp [isDigit, digitValue?, below]
  have none : natOfDigits? (front ++ [c]) = none := by simp [natOfDigits?, noDigit]
  rw [portOf, if_neg (by simp), none]
  nofun

def siteOf (domains : Domains) (scheme : String) (authority : List Char) : Except AddressError Url := do
  let (user, password, hostAndPort) ← splitUser authority
  let (hostText, portText) := splitPort false hostAndPort
  if hostText.isEmpty then throw .emptyHost
  let host ← Host.ofSpecial domains hostText
  let port ← portOf scheme (portText.getD [])
  return { scheme, user, password, host := some host, port, path := .segments [] }

/-- The address with the path, the query and the fragment of a text. -/
def followedBy (site : Url) (tail : List Char) : Url :=
  let (path, query, fragment) := splitParts tail
  withParts { site with path := .segments (segmentsOf true false path) } query fragment

variable {domains : Domains} {scheme : String}

/-- An address of the web is the one of its authority, followed by the rest. -/
theorem ofAuthority_eq (web : scheme = "http" ∨ scheme = "https") (cs : List Char) :
    ofAuthority domains scheme cs =
      (siteOf domains scheme (cs.takeWhile fun c => !endsAuthority true c)).map
        (·.followedBy (cs.dropWhile fun c => !endsAuthority true c)) := by
  have special : isSpecial scheme = true := by rcases web with rfl | rfl <;> decide
  have noFile : scheme ≠ "file" := by rcases web with rfl | rfl <;> decide
  have known : (true && decide (scheme ≠ "file")) = true := by simp [noFile]
  unfold ofAuthority siteOf
  simp only [special, known]
  rcases splitUser (cs.takeWhile fun c => !endsAuthority true c) with e | ⟨user, password, whole⟩
  · rfl
  rcases parts : splitPort false whole with ⟨hostText, portText⟩
  simp only [bind, Except.bind, parts]
  cases empty : hostText.isEmpty with
  | true => rfl
  | false =>
    rcases Host.ofSpecial domains hostText with e | host
    · rfl
    rcases portOf scheme (portText.getD []) with e | port
    · rfl
    · rfl

/-- An authority that ends in a control character or a blank makes no address. -/
theorem siteOf_of_control (keeps : domains.KeepsControls) {c : Char}
    (control : isControlOrSpace c = true) (front : List Char) (site : Url) :
    siteOf domains scheme (front ++ [c]) ≠ .ok site := by
  have plain {d : Char} (visible : isControlOrSpace d = false) : c ≠ d := by
    rintro rfl
    rw [control] at visible
    cases visible
  intro made
  unfold siteOf at made
  cases split : splitUser (front ++ [c]) with
  | error e => simp [split, bind, Except.bind] at made
  | ok parts =>
    obtain ⟨user, password, whole⟩ := parts
    obtain ⟨before, rfl⟩ := splitUser_concat (plain (by decide)) split
    rw [split] at made
    simp only [bind, Except.bind] at made
    split at made
    · cases made
    rcases splitPort_concat (plain (by decide)) before false with ⟨-, host, ends⟩ | ⟨port, ends⟩
    · rw [ends] at made
      split at made
      · cases made
      · rename_i refused
        exact Host.ofSpecial_of_control keeps control host _ refused
    · rw [ends] at made
      split at made
      · cases made
      split at made
      · cases made
      · rename_i refused
        exact portOf_of_control control scheme port _ refused

end ODataQuery.Url
