import Mathlib.Data.List.DropRight
import ODataQuery.Proofs.Config.Stored
import ODataQuery.Proofs.Query.Address

/-! Stored addresses. What is stored is the last value that was accepted, without the blanks around it
and then without the slashes at its end. Taking off the slashes can lay bare another blank, or cut the
scheme; an address is stored as it is when it is set again, unless that happened. -/
namespace ODataQuery.Config

/-- An address of the web without blanks around it and slashes at its end. -/
structure IsSettled (address : String) : Prop where
  web : IsWeb address.toList
  front : ∀ c ∈ address.toList.head?, Text.isBlank c = false
  back : ∀ c ∈ address.toList.getLast?, Text.isBlank c = false ∧ c ≠ '/'

/-- The slashes at the end of a value are those of its scheme, or have a blank in front of them. -/
def LaysBare (value : String) : Prop :=
  ∃ front slashes, Text.trimChars value.toList = front ++ slashes ∧ (∀ c ∈ slashes, c = '/') ∧
    (front = "http:".toList ∨ front = "https:".toList ∨ ∃ c ∈ front.getLast?, Text.isBlank c = true)

variable {value address : String}

theorem slashless (stored : addressOf value = .ok address) :
    ∀ c ∈ address.toList.getLast?, c ≠ '/' := by
  have kept := Text.dropEndWhile_eq_self_iff.mp
    (Text.dropEndWhile_idem (· = '/') (Text.trimChars value.toList))
  rw [← (of_addressOf stored).2] at kept
  exact fun c last => by simpa using kept c last

/-- Just the settled addresses are stored as they are. -/
theorem addressOf_self_iff : addressOf address = .ok address ↔ IsSettled address := by
  constructor
  · intro stored
    obtain ⟨web, kept⟩ := of_addressOf stored
    obtain ⟨front, back, whole, -⟩ := Text.trimChars_append address.toList
    obtain ⟨slashes, trimmed, -⟩ :=
      Text.dropEndWhile_append (· = '/') (Text.trimChars address.toList)
    rw [← kept] at trimmed
    -- Trimming leaves no more than there was, and so much is stored.
    have same : Text.trimChars address.toList = address.toList := by
      have lengths := congrArg List.length whole
      have least := congrArg List.length trimmed
      simp only [List.length_append] at lengths least
      obtain rfl : front = [] := List.eq_nil_of_length_eq_zero (by omega)
      obtain rfl : back = [] := List.eq_nil_of_length_eq_zero (by omega)
      simpa using whole.symm
    have unblank := Text.trimChars_unblank address.toList
    rw [same] at web unblank
    exact ⟨web, unblank.1, fun c last => ⟨unblank.2 c last, slashless stored c last⟩⟩
  · intro settled
    have trimmed : Text.trimChars address.toList = address.toList :=
      Text.trimChars_eq_self settled.front fun c last => (settled.back c last).1
    have kept : Text.dropEndWhile (· = '/') address.toList = address.toList :=
      Text.dropEndWhile_eq_self_iff.mpr fun c last => by simpa using (settled.back c last).2
    rw [addressOf_eq (trimmed.symm ▸ settled.web), trimmed, kept, String.ofList_toList]

/-- Of the slashes behind a scheme both are left, or none. -/
theorem dropEndWhile_scheme (scheme rest : List Char) :
    Text.dropEndWhile (· = '/') (scheme ++ ':' :: '/' :: '/' :: rest) = scheme ++ [':'] ∨
      scheme ++ [':', '/', '/'] <+:
        Text.dropEndWhile (· = '/') (scheme ++ ':' :: '/' :: '/' :: rest) := by
  rw [Text.dropEndWhile_append_cons (by decide)]
  cases left : Text.dropEndWhile (· = '/') rest with
  | nil => exact .inl (by simp [Text.dropEndWhile, left])
  | cons c more => exact .inr ⟨c :: more, by simp [Text.dropEndWhile, left]⟩

theorem isWeb_or (stored : addressOf value = .ok address) :
    IsWeb address.toList ∨ address.toList = "http:".toList ∨ address.toList = "https:".toList := by
  obtain ⟨⟨rest, whole⟩ | ⟨rest, whole⟩, kept⟩ := of_addressOf stored
  · rw [← whole] at kept
    rcases dropEndWhile_scheme "http".toList rest with cut | left
    · exact .inr (.inl (kept.trans cut))
    · exact .inl (.inl (kept ▸ left))
  · rw [← whole] at kept
    rcases dropEndWhile_scheme "https".toList rest with cut | left
    · exact .inr (.inr (kept.trans cut))
    · exact .inl (.inr (kept ▸ left))

theorem laysBare_iff (stored : addressOf value = .ok address) :
    LaysBare value ↔ address.toList = "http:".toList ∨ address.toList = "https:".toList ∨
      ∃ c ∈ address.toList.getLast?, Text.isBlank c = true := by
  obtain ⟨-, kept⟩ := of_addressOf stored
  constructor
  · rintro ⟨front, slashes, whole, isSlash, bare⟩
    have last : ∀ c ∈ front.getLast?, decide (c = '/') = false := by
      rcases bare with rfl | rfl | ⟨b, last, blank⟩
      · simp
      · simp
      · intro c last'
        obtain rfl := Option.mem_unique last' last
        exact decide_eq_false (by rintro rfl; revert blank; decide)
    have same : address.toList = front := by
      rw [kept, whole, Text.dropEndWhile_append_of last (by simpa using isSlash)]
    exact same ▸ bare
  · intro bare
    obtain ⟨slashes, whole, isSlash⟩ :=
      Text.dropEndWhile_append (· = '/') (Text.trimChars value.toList)
    exact ⟨address.toList, slashes, kept ▸ whole, by simpa using isSlash, bare⟩

/-- What is stored is settled, unless taking off the slashes laid something bare. -/
theorem isSettled_iff (stored : addressOf value = .ok address) :
    IsSettled address ↔ ¬ LaysBare value := by
  rw [laysBare_iff stored]
  constructor
  · rintro ⟨web, -, back⟩ (cut | cut | ⟨c, last, blank⟩)
    · simp [IsWeb, cut] at web
    · simp [IsWeb, cut] at web
    · rw [(back c last).1] at blank
      cases blank
  · intro whole
    obtain ⟨notHttp, notHttps, unblank⟩ := (not_or.mp whole).imp_right not_or.mp
    refine ⟨(isWeb_or stored).resolve_right (not_or.mpr ⟨notHttp, notHttps⟩), ?_, ?_⟩
    · intro c first
      rw [(of_addressOf stored).2] at first
      exact (Text.trimChars_unblank value.toList).1 c (Text.head?_dropEndWhile first)
    · exact fun c last =>
        ⟨Bool.eq_false_iff.mpr fun blank => unblank ⟨c, last, blank⟩, slashless stored c last⟩

inductive Slot
  | base
  | alternate (name : String) (named : name ≠ "")
  deriving DecidableEq

namespace Slot

def key : Slot → String
  | base => "base_address"
  | alternate name _ => "alternate." ++ name

def get? : Slot → Config → Option String
  | base, c => c.baseAddress
  | alternate name _, c => c.alternates.find? name

def put : Slot → Config → String → Config
  | base, c, address => { c with baseAddress := some address }
  | alternate name _, c, address => { c with alternates := c.alternates.insert name address }

end Slot

variable {c d : Config} {key : String} {slot : Slot}

theorem set_key (c : Config) (slot : Slot) (value : String) :
    c.set slot.key value = (addressOf value).map fun a => slot.put c a := by
  cases slot with
  | base =>
    change (do return { c with baseAddress := some (← addressOf value) } : Except _ _) = _
    cases addressOf value <;> rfl
  | alternate name named =>
    have found := alternateName?_eq_some.mpr ⟨named, rfl⟩
    unfold Config.set
    split
    case h_1 same => simp [Slot.key, String.ext_iff] at same
    case h_2 same => simp [Slot.key, String.ext_iff] at same
    case h_3 same => simp [Slot.key, String.ext_iff] at same
    case h_4 =>
      rw [show alternateName? (Slot.alternate name named).key = some name from found]
      change (do return { c with alternates := c.alternates.insert name (← addressOf value) } :
        Except _ _) = _
      cases addressOf value <;> rfl

/-- The setting of a number changes no address, and no other keys are known. -/
theorem set_other (other : ∀ slot : Slot, slot.key ≠ key) (changed : c.set key value = .ok d) :
    d.baseAddress = c.baseAddress ∧ d.alternates = c.alternates := by
  cases sets_of_set changed with
  | base known => exact absurd known.symm (other .base)
  | alternate named known => exact absurd known.symm (other (.alternate _ named))
  | pageSize => exact ⟨rfl, rfl⟩
  | timeout => exact ⟨rfl, rfl⟩

theorem Slot.key_inj {s t : Slot} : s.key = t.key ↔ s = t := by
  constructor
  · intro same
    cases s with
    | base =>
      cases t with
      | base => rfl
      | alternate => simp [key, String.ext_iff] at same
    | alternate name =>
      cases t with
      | base => simp [key, String.ext_iff] at same
      | alternate => simpa [key, String.ext_iff] using same
  · rintro rfl
    rfl

theorem Slot.get?_put (s t : Slot) (c : Config) (address : String) :
    s.get? (t.put c address) = if s.key = t.key then some address else s.get? c := by
  simp only [key_inj]
  cases t with
  | base => cases s <;> simp [get?, put]
  | alternate name =>
    cases s with
    | base => simp [get?, put]
    | alternate other => simp [get?, put, Addresses.find?_insert]

def Slot.taken (slot : Slot) (commands : List (String × String)) : List String :=
  (commands.filter fun e => e.1 = slot.key ∧ (addressOf e.2).toOption.isSome).map (·.2)

theorem Slot.taken_concat (slot : Slot) (before : List (String × String)) (e : String × String) :
    slot.taken (before ++ [e]) = slot.taken before ++
      if e.1 = slot.key ∧ (addressOf e.2).toOption.isSome then [e.2] else [] := by
  by_cases counts : e.1 = slot.key ∧ (addressOf e.2).toOption.isSome <;> simp [taken, counts]

theorem Slot.of_taken {slot : Slot} {commands : List (String × String)} {value : String}
    (taken : value ∈ slot.taken commands) : ∃ address, addressOf value = .ok address := by
  obtain ⟨e, counts, rfl⟩ := List.mem_map.mp taken
  obtain ⟨-, accepted⟩ := of_decide_eq_true (List.mem_filter.mp counts).2
  cases stored : addressOf e.2 with
  | error => rw [stored] at accepted; cases accepted
  | ok address => exact ⟨address, rfl⟩

/-- One setting changes the address of its key, if it accepts the value, and no other. -/
theorem Slot.get?_set (slot : Slot) (c : Config) (key value : String) :
    slot.get? ((c.set key value).toOption.getD c) =
      if key = slot.key then (addressOf value).toOption.or (slot.get? c) else slot.get? c := by
  by_cases address : ∃ t : Slot, t.key = key
  · obtain ⟨t, rfl⟩ := address
    rw [set_key]
    cases addressOf value with
    | error => simp [Except.map, Except.toOption]
    | ok a => simp [Except.map, Except.toOption, get?_put, eq_comm]
  · push Not at address
    rw [if_neg (Ne.symm (address slot))]
    cases changed : c.set key value with
    | error => rfl
    | ok d =>
      obtain ⟨base, alternates⟩ := set_other address changed
      cases slot <;> simp [get?, Except.toOption, base, alternates]

/-- After any settings an address is the last one that was accepted. -/
theorem Slot.get?_run (slot : Slot) (c : Config) (commands : List (String × String)) :
    slot.get? (c.run commands) =
      ((slot.taken commands).getLast?.bind fun v => (addressOf v).toOption).or (slot.get? c) := by
  induction commands using List.reverseRecOn with
  | nil => rfl
  | append_singleton before e ih =>
    rw [run, List.foldl_concat, get?_set]
    change (if e.1 = slot.key then (addressOf e.2).toOption.or (slot.get? (c.run before))
      else slot.get? (c.run before)) = _
    rw [ih, taken_concat]
    by_cases same : e.1 = slot.key
    · cases stored : addressOf e.2 with
      | error => simp [same, Except.toOption]
      | ok a => simp [same, stored, Except.toOption]
    · simp [same]

theorem Slot.put_self (w : c.Writable) {address : String} (found : slot.get? c = some address) :
    slot.put c address = c := by
  cases slot with
  | base => rw [put, ← show c.baseAddress = some address from found]
  | alternate name => rw [put, w.ordered.insert_self found]

/-- Setting an address to itself changes nothing if it is settled. Otherwise it is refused, or stored in
another form. -/
theorem set_self_iff (w : c.Writable) {address : String} (found : slot.get? c = some address) :
    c.set slot.key address = .ok c ↔ IsSettled address := by
  rw [set_key, ← addressOf_self_iff]
  constructor
  · intro same
    cases stored : addressOf address with
    | error => rw [stored] at same; cases same
    | ok a =>
      rw [stored] at same
      have put : slot.put c a = c := Except.ok.inj same
      have again := slot.get?_put slot c a
      rw [put, found, if_pos rfl] at again
      rw [Option.some.inj again]
  · intro stored
    rw [stored]
    exact congrArg Except.ok (Slot.put_self w found)

theorem change_self_iff (w : c.Writable) {address : String} (found : slot.get? c = some address) :
    change (some c.fileText) slot.key address = .ok c.fileText ↔ IsSettled address := by
  rw [change_eq (load_fileText w), ← set_self_iff w found]
  cases changed : c.set slot.key address with
  | error => simp [Except.map]
  | ok d =>
    have same := fileText_inj (writable_set w changed) w
    simp [Except.map, same]

/-- Where a value was accepted for an address, the file was written anew. -/
theorem written_of_taken {file : Option String} (loaded : load file = .ok c)
    {commands : List (String × String)} (taken : slot.taken commands ≠ []) :
    written file commands = some (c.run commands).fileText := by
  induction commands using List.reverseRecOn with
  | nil => exact absurd rfl taken
  | append_singleton before e ih =>
    rw [written_concat, run_concat, change_eq (load_written loaded before)]
    cases changed : (c.run before).set e.1 e.2 with
    | ok d => rfl
    | error =>
      refine ih fun none => taken ?_
      rw [Slot.taken_concat, none, if_neg, List.append_nil]
      rintro ⟨same, accepted⟩
      rw [same, set_key] at changed
      cases stored : addressOf e.2 with
      | ok => rw [stored] at changed; cases changed
      | error => rw [stored] at accepted; cases accepted

/-- An accepted value is stored as a settled address, which is stored as it is when it is set again,
unless taking off the slashes laid something bare. So after any settings, each of which reads the file
and writes it, an address is the one that was there, if no value was accepted for it, or else the one
of the last accepted value; and setting it to itself leaves the file as it is, with the same
exception. -/
theorem stored_written {file : Option String} (loaded : load file = .ok c)
    (commands : List (String × String)) (slot : Slot) :
    (∀ value address, addressOf value = .ok address →
      (IsSettled address ↔ ¬ LaysBare value) ∧
        (addressOf address = .ok address ↔ ¬ LaysBare value)) ∧
    ∃ d, load (written file commands) = .ok d ∧
      ((slot.taken commands).getLast? = none → slot.get? d = slot.get? c) ∧
      ∀ value, (slot.taken commands).getLast? = some value →
        ∃ address text, addressOf value = .ok address ∧ slot.get? d = some address ∧
          written file commands = some text ∧ (IsSettled address ↔ ¬ LaysBare value) ∧
          (change (some text) slot.key address = .ok text ↔ ¬ LaysBare value) := by
  have writable := writable_run (writable_load loaded) commands
  have found := slot.get?_run c commands
  refine ⟨?_, c.run commands, load_written loaded commands, ?_, ?_⟩
  · intro value address stored
    rw [addressOf_self_iff, isSettled_iff stored]
    exact ⟨Iff.rfl, Iff.rfl⟩
  · intro none
    rw [found, none]
    rfl
  · intro value last
    obtain ⟨address, stored⟩ := slot.of_taken (List.mem_of_mem_getLast? last)
    have taken : slot.taken commands ≠ [] := fun none => by
      rw [none] at last
      cases last
    rw [last, Option.bind_some, stored] at found
    refine ⟨address, _, stored, found, written_of_taken loaded taken, isSettled_iff stored, ?_⟩
    rw [change_self_iff writable found, isSettled_iff stored]

/-- Trimming comes before the slashes are taken off: a blank that stood in front of them stays, and an
address of slashes alone loses those of its scheme. -/
theorem addressOf_not_settled :
    addressOf "http://x /" = .ok "http://x " ∧ addressOf "http://x " = .ok "http://x" ∧
      addressOf "http://" = .ok "http:" ∧ addressOf "http:" = .error (.badAddress "http:") :=
  ⟨by rfl, by rfl, by rfl, by rfl⟩

theorem stored_written_odata :
    let commands := [("base_address", " https://example.com/odata// "), ("page_size", "x")]
    load none = .ok {} ∧ ∃ d text, load (written none commands) = .ok d ∧
      d.baseAddress = some "https://example.com/odata" ∧ IsSettled "https://example.com/odata" ∧
      written none commands = some text ∧
      change (some text) "base_address" "https://example.com/odata" = .ok text := by
  intro commands
  obtain ⟨-, d, read, -, stored⟩ := stored_written (show load none = .ok {} from rfl) commands .base
  obtain ⟨address, text, made, found, file, settled, again⟩ :=
    stored " https://example.com/odata// " (by rfl)
  obtain rfl : "https://example.com/odata" = address := Except.ok.inj made
  have isSettled : IsSettled "https://example.com/odata" := addressOf_self_iff.mp (by rfl)
  exact ⟨rfl, d, text, read, found, isSettled, file, again.mpr (settled.mp isSettled)⟩

end ODataQuery.Config
