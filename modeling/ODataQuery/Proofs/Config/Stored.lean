import ODataQuery.Proofs.Settings.Addresses
import ODataQuery.Proofs.Toml.Integers
import ODataQuery.Proofs.Toml.Written

/-! Files of configurations. What is written for a configuration is read as that configuration, so that
settings made one after the other, each on the file that the one before has left, are settings made one
after the other on the configuration. -/
namespace ODataQuery.Config

open Toml (Setting writes_digitsOf writes_stringText keyText)

variable {c d : Config}

/-- What a file can hold: the version is the one that is known, the names of addresses stand in order,
and no number exceeds what fits. -/
structure Writable (c : Config) : Prop where
  version : c.version = 1
  ordered : c.alternates.Ordered
  pageSize : ∀ n ∈ c.pageSize, n ≤ 4294967295
  timeout : ∀ n ∈ c.timeoutSeconds, n ≤ 9223372036854775807

def numberSetting (key : String) (n : Option Nat) (small : ∀ m ∈ n, m ≤ 9223372036854775807) :
    List Setting :=
  match n, small with
  | none, _ => []
  | some m, small => [⟨key, .integer m, digitsOf m, writes_digitsOf (small m rfl)⟩]

def addressSetting (key : String) (address : Option String) : List Setting :=
  address.toList.map fun a => ⟨key, .string a, Toml.stringText a, writes_stringText a⟩

def Writable.settings (w : c.Writable) : List Setting :=
  numberSetting "version" (some c.version) (by rintro m ⟨⟩; rw [w.version]; decide) ++
    (addressSetting "base_address" c.baseAddress ++
      (numberSetting "page_size" c.pageSize (fun m found => (w.pageSize m found).trans (by decide)) ++
        numberSetting "timeout_secs" c.timeoutSeconds w.timeout))

def alternateSettings (s : Addresses) : List Setting :=
  s.entries.map fun e => ⟨e.1, .string e.2, Toml.stringText e.2, writes_stringText e.2⟩

theorem numberLine_eq (key : String) (bare : keyText key = key.toList) {n : Option Nat}
    (small : ∀ m ∈ n, m ≤ 9223372036854775807) :
    numberLine key n = (numberSetting key n small).flatMap Setting.line := by
  cases n with
  | none => rfl
  | some m => simp [numberLine, numberSetting, Setting.line, bare]

theorem addressLines_eq {s : Addresses} (some : s.isEmpty = false) :
    addressLines s = '\n' :: '[' :: (keyText "alternate_base_addresses" ++ ']' :: '\n' ::
      (alternateSettings s).flatMap Setting.line) := by
  have bare : keyText "alternate_base_addresses" = "alternate_base_addresses".toList := by
    decide
  rw [addressLines, some, if_neg Bool.false_ne_true, bare]
  simp [alternateSettings, List.flatMap_map, Setting.line]

theorem toList_fileText (w : c.Writable) :
    c.fileText.toList = w.settings.flatMap Setting.line ++ addressLines c.alternates := by
  have bare : keyText "base_address" = "base_address".toList := by decide
  have version := numberLine_eq "version" (by decide) (n := some c.version)
    (by rintro m ⟨⟩; rw [w.version]; decide)
  have pageSize := numberLine_eq "page_size" (by decide)
    fun m found => (w.pageSize m found).trans (by decide)
  have timeout := numberLine_eq "timeout_secs" (by decide) w.timeout
  cases base : c.baseAddress with
  | none => simp [fileText, Writable.settings, base, addressSetting, version, pageSize, timeout]
  | some a =>
    simp [fileText, Writable.settings, base, addressSetting, version, pageSize, timeout,
      Setting.line, bare]

def optional (key : String) (value : Option Toml) : List (String × Toml) := value.toList.map (key, ·)

def tableOf? (s : Addresses) : Option Toml :=
  if s.isEmpty then none else some (.table (s.entries.map fun e => (e.1, .string e.2)))

def topEntries (c : Config) : List (String × Toml) :=
  optional "version" (some (.integer c.version)) ++
    (optional "base_address" (c.baseAddress.map .string) ++
      (optional "page_size" (c.pageSize.map fun n : Nat => .integer n) ++
        optional "timeout_secs" (c.timeoutSeconds.map fun n : Nat => .integer n)))

def entries (c : Config) : List (String × Toml) :=
  topEntries c ++ optional "alternate_base_addresses" (tableOf? c.alternates)

theorem Writable.pairs (w : c.Writable) : w.settings.map Setting.pair = topEntries c := by
  have number (key : String) (n : Option Nat) (small : ∀ m ∈ n, m ≤ 9223372036854775807) :
      (numberSetting key n small).map Setting.pair =
        optional key (n.map fun m : Nat => .integer m) := by
    cases n <;> rfl
  have address : (addressSetting "base_address" c.baseAddress).map Setting.pair =
      optional "base_address" (c.baseAddress.map .string) := by
    cases c.baseAddress <;> rfl
  simp only [settings, List.map_append, number, address, topEntries, Option.map_some]

/-- The keys of the settings are distinct, and none of them is that of the named addresses. -/
theorem Writable.keys (w : c.Writable) :
    (w.settings.map (·.key)).Nodup ∧ "alternate_base_addresses" ∉ w.settings.map (·.key) := by
  have one (key : String) (value : Option Toml) : ((optional key value).map (·.1)).Sublist [key] := by
    cases value with
    | none => exact List.nil_sublist _
    | some v => exact List.Sublist.refl _
  have among : (w.settings.map (·.key)).Sublist
      ["version", "base_address", "page_size", "timeout_secs"] := by
    have keys : w.settings.map (·.key) = (topEntries c).map (·.1) := by
      rw [← w.pairs, List.map_map]
      rfl
    rw [keys]
    simp only [topEntries, List.map_append]
    exact (one "version" _).append ((one "base_address" _).append ((one "page_size" _).append
      (one "timeout_secs" _)))
  exact ⟨among.nodup (by decide), fun member => absurd (among.mem member) (by decide)⟩

theorem parse?_fileText (w : c.Writable) : Toml.parse? c.fileText = some (entries c) := by
  have text := toList_fileText w
  obtain ⟨rest, first⟩ : ∃ rest, c.fileText.toList = 'v' :: rest := by
    have bare : keyText "version" = "version".toList := by decide
    simp [text, Writable.settings, numberSetting, Setting.line, line, bare]
  have noMark : ¬ 'v'.toNat = 0xFEFF := by decide
  have enough := Toml.length_le_lines w.settings
  obtain ⟨distinct, new⟩ := w.keys
  rw [Toml.parse?, first]
  simp only [if_neg noMark]
  rw [← first, text, entries, ← w.pairs]
  cases none : c.alternates.isEmpty with
  | true =>
    rw [show addressLines c.alternates = [] from if_pos none, List.append_nil,
      Toml.lines?_plain distinct (by omega)]
    simp [optional, tableOf?, none, Toml.entriesToToml_settings]
  | false =>
    have inside : ((alternateSettings c.alternates).map (·.key)).Nodup := by
      simpa [alternateSettings, Function.comp_def] using w.ordered.nodup
    have pairs : (alternateSettings c.alternates).map Setting.pair =
        c.alternates.entries.map fun e => (e.1, Toml.string e.2) := by
      simp [alternateSettings, Setting.pair]
    have enoughInside := Toml.length_le_lines (alternateSettings c.alternates)
    rw [addressLines_eq none, Toml.lines?_table distinct new inside]
    · simp [optional, tableOf?, none, Toml.entriesToToml_append, Toml.entriesToToml_settings,
        Toml.Node.entriesToToml, Toml.Node.toToml, pairs]
    · simp only [List.length_append, List.length_cons]
      omega

theorem lookup_optional (key other : String) (value : Option Toml) (rest : List (String × Toml)) :
    (optional key value ++ rest).lookup other =
      if other = key then value.or (rest.lookup other) else rest.lookup other := by
  cases value with
  | none => simp [optional]
  | some v =>
    by_cases same : other = key
    · simp [optional, same]
    · simp [optional, List.lookup_cons, same, beq_eq_false_iff_ne.mpr same]

theorem lookup_entries (c : Config) (key : String) : (entries c).lookup key =
    if key = "version" then some (.integer c.version)
    else if key = "base_address" then c.baseAddress.map .string
    else if key = "page_size" then c.pageSize.map fun n : Nat => .integer n
    else if key = "timeout_secs" then c.timeoutSeconds.map fun n : Nat => .integer n
    else if key = "alternate_base_addresses" then tableOf? c.alternates
    else none := by
  have last := lookup_optional "alternate_base_addresses" key (tableOf? c.alternates) []
  rw [List.append_nil] at last
  simp only [entries, topEntries, List.append_assoc, lookup_optional, last]
  split_ifs <;> simp_all

theorem setting?_of_lookup {α : Type} {entries : List (String × Toml)} {key : String}
    {decode : Toml → Option α} {value : Option α} {encode : α → Toml}
    (found : entries.lookup key = value.map encode)
    (again : ∀ a ∈ value, decode (encode a) = some a) : setting? entries key decode = some value := by
  rw [setting?, found]
  cases value with
  | none => rfl
  | some a => simp [again a rfl]

theorem asNat?_integer {n bound : Nat} (small : n ≤ bound) :
    Toml.asNat? bound (.integer n) = some n := by
  simp [Toml.asNat?, small]

theorem addressesOfToml?_entries {s : Addresses} (ordered : s.Ordered) :
    addressesOfToml? (.table (s.entries.map fun e => (e.1, .string e.2))) = some s := by
  have texts (entries : List (String × String)) :
      (entries.map fun e => (e.1, Toml.string e.2)).mapM
        (fun e : String × Toml => do some (e.1, ← e.2.asString?)) = some entries := by
    induction entries with
    | nil => rfl
    | cons e rest ih =>
      rw [List.map_cons, List.mapM_cons, ih]
      rfl
  rw [addressesOfToml?, texts]
  exact congrArg some ordered.ofList_entries

theorem ofToml?_entries (w : c.Writable) : ofToml? (entries c) = some c := by
  have version : setting? (entries c) "version" (Toml.asNat? 4294967295) =
      some (some c.version) := by
    refine setting?_of_lookup
      (show _ = (some c.version).map fun n : Nat => Toml.integer n from lookup_entries c _) ?_
    rintro n ⟨⟩
    exact asNat?_integer (by rw [w.version]; decide)
  have base : setting? (entries c) "base_address" Toml.asString? = some c.baseAddress :=
    setting?_of_lookup (lookup_entries c _) fun _ _ => rfl
  have page : setting? (entries c) "page_size" (Toml.asNat? 4294967295) = some c.pageSize :=
    setting?_of_lookup (lookup_entries c _) fun n found => asNat?_integer (w.pageSize n found)
  have timeout : setting? (entries c) "timeout_secs" (Toml.asNat? 18446744073709551615) =
      some c.timeoutSeconds :=
    setting?_of_lookup (lookup_entries c _) fun n found =>
      asNat?_integer ((w.timeout n found).trans (by decide))
  obtain ⟨named, alternates, same⟩ : ∃ named,
      setting? (entries c) "alternate_base_addresses" addressesOfToml? = some named ∧
        named.getD {} = c.alternates := by
    rw [setting?, lookup_entries]
    cases isEmpty : c.alternates.isEmpty with
    | true =>
      have empty : c.alternates = {} := congrArg Addresses.mk (List.isEmpty_iff.mp isEmpty)
      exact ⟨none, by simp [tableOf?, isEmpty], empty.symm⟩
    | false =>
      exact ⟨some c.alternates, by simp [tableOf?, isEmpty, addressesOfToml?_entries w.ordered], rfl⟩
  simp [ofToml?, version, base, page, timeout, alternates, same]

/-- What is written for a configuration is read as that configuration. -/
theorem load_fileText (w : c.Writable) : load (some c.fileText) = .ok c := by
  rw [load, ofFile, parse?_fileText w, Option.bind_some, ofToml?_entries w, ← w.version]

theorem fileText_inj (w : c.Writable) (w' : d.Writable) : c.fileText = d.fileText ↔ c = d := by
  constructor
  · intro same
    have read := load_fileText w
    rw [same, load_fileText w'] at read
    exact (Except.ok.inj read).symm
  · rintro rfl
    rfl

theorem ordered_addressesOfToml? {t : Toml} {s : Addresses} (read : addressesOfToml? t = some s) :
    s.Ordered := by
  cases t with
  | table entries =>
    obtain ⟨texts, -, made⟩ := Option.bind_eq_some_iff.mp read
    cases made
    exact Addresses.ordered_ofList texts
  | _ => cases read

theorem setting?_eq_some {α : Type} {entries : List (String × Toml)} {key : String}
    {decode : Toml → Option α} {value : Option α} (read : setting? entries key decode = some value) :
    ∀ a ∈ value, ∃ v, entries.lookup key = some v ∧ decode v = some a := by
  rintro a rfl
  unfold setting? at read
  split at read
  case h_1 => cases read
  case h_2 v found =>
    obtain ⟨b, decoded, same⟩ := Option.map_eq_some_iff.mp read
    cases same
    exact ⟨v, found, decoded⟩

theorem of_asNat? {v : Toml} {n bound : Nat} (read : v.asNat? bound = some n) :
    v = .integer n ∧ n ≤ bound := by
  unfold Toml.asNat? at read
  split at read
  case h_1 z =>
    split at read
    case isTrue within =>
      cases read
      exact ⟨by rw [Int.toNat_of_nonneg within.1], by omega⟩
    case isFalse => cases read
  case h_2 => cases read

theorem writable_load {file : Option String} (loaded : load file = .ok c) : c.Writable := by
  cases file with
  | none =>
    cases loaded
    exact ⟨rfl, .nil, by simp, by simp⟩
  | some text =>
    simp only [load, ofFile] at loaded
    split at loaded
    case h_2 => cases loaded
    case h_1 read made =>
      cases loaded
      obtain ⟨entries, parsed, made⟩ := Option.bind_eq_some_iff.mp made
      simp only [ofToml?, Option.bind_eq_bind, Option.bind_eq_some_iff] at made
      obtain ⟨version, -, base, -, named, alternates, page, pageSize, seconds, timeout, made⟩ := made
      cases made
      constructor
      case version => rfl
      case ordered =>
        cases named with
        | none => exact .nil
        | some s =>
          obtain ⟨v, -, decoded⟩ := setting?_eq_some alternates s rfl
          exact ordered_addressesOfToml? decoded
      case pageSize =>
        intro n found
        obtain ⟨v, -, decoded⟩ := setting?_eq_some pageSize n found
        exact (of_asNat? decoded).2
      case timeout =>
        intro n found
        obtain ⟨v, stands, decoded⟩ := setting?_eq_some timeout n found
        have fits := Toml.fits_of_parse? parsed stands
        rw [(of_asNat? decoded).1] at fits
        exact Int.ofNat_le.mp fits

variable {key value : String}

theorem alternateName?_eq_some {name : String} :
    alternateName? key = some name ↔ name ≠ "" ∧ key = "alternate." ++ name := by
  unfold alternateName?
  dsimp only
  constructor
  · intro named
    split at named
    case isTrue starts =>
      cases named
      obtain ⟨rest, whole⟩ := List.isPrefixOf_iff_prefix.mp starts.1
      have left : key.toList.drop "alternate.".toList.length = rest := by
        rw [← whole, List.drop_left]
      rw [left] at starts ⊢
      refine ⟨by simpa using starts.2, String.toList_injective ?_⟩
      exact whole.symm.trans (by simp)
    case isFalse => cases named
  · rintro ⟨named, rfl⟩
    have some : name.toList ≠ [] := by simpa using named
    rw [String.toList_append, List.drop_left, if_pos]
    · rw [String.ofList_toList]
    · exact ⟨List.isPrefixOf_iff_prefix.mpr (List.prefix_append ..), by simpa using named⟩

inductive Sets (c : Config) (key value : String) : Config → Prop
  | base {address : String} (known : key = "base_address") (stored : addressOf value = .ok address) :
      Sets c key value { c with baseAddress := some address }
  | alternate {name address : String} (named : name ≠ "") (known : key = "alternate." ++ name)
      (stored : addressOf value = .ok address) :
      Sets c key value { c with alternates := c.alternates.insert name address }
  | pageSize {n : Nat} (known : key = "page_size") (small : n ≤ 4294967295) :
      Sets c key value { c with pageSize := some n }
  | timeout {n : Nat} (known : key = "timeout_secs") (small : n ≤ 4294967295) :
      Sets c key value { c with timeoutSeconds := some n }

theorem positiveOf_le {n : Nat} (read : positiveOf key value = .ok n) : n ≤ 4294967295 := by
  unfold positiveOf at read
  split at read
  case h_2 => cases read
  case h_1 m within =>
    split at read
    case isFalse => cases read
    case isTrue =>
      cases read
      obtain ⟨k, -, kept⟩ := Option.bind_eq_some_iff.mp within
      split at kept
      case isTrue small => cases kept; exact small
      case isFalse => cases kept

theorem sets_of_set (changed : c.set key value = .ok d) : Sets c key value d := by
  unfold Config.set at changed
  split at changed
  case h_1 =>
    cases stored : addressOf value with
    | error e => rw [stored] at changed; cases changed
    | ok a => rw [stored] at changed; cases changed; exact .base rfl stored
  case h_2 =>
    cases read : positiveOf "page_size" value with
    | error e => rw [read] at changed; cases changed
    | ok n => rw [read] at changed; cases changed; exact .pageSize rfl (positiveOf_le read)
  case h_3 =>
    cases read : positiveOf "timeout_secs" value with
    | error e => rw [read] at changed; cases changed
    | ok n => rw [read] at changed; cases changed; exact .timeout rfl (positiveOf_le read)
  case h_4 =>
    cases known : alternateName? key with
    | none => rw [known] at changed; cases changed
    | some name =>
      obtain ⟨named, same⟩ := alternateName?_eq_some.mp known
      rw [known] at changed
      cases stored : addressOf value with
      | error e => rw [stored] at changed; cases changed
      | ok a => rw [stored] at changed; cases changed; exact .alternate named same stored

theorem writable_set (w : c.Writable) (changed : c.set key value = .ok d) : d.Writable := by
  cases sets_of_set changed with
  | base => exact ⟨w.version, w.ordered, w.pageSize, w.timeout⟩
  | alternate => exact ⟨w.version, w.ordered.insert _ _, w.pageSize, w.timeout⟩
  | pageSize _ small => exact ⟨w.version, w.ordered, by rintro n ⟨⟩; exact small, w.timeout⟩
  | timeout _ small =>
    exact ⟨w.version, w.ordered, w.pageSize, by rintro n ⟨⟩; exact small.trans (by decide)⟩

/-- The configuration after settings one after the other; one that is refused changes nothing. -/
def run (c : Config) (commands : List (String × String)) : Config :=
  commands.foldl (fun c e => (c.set e.1 e.2).toOption.getD c) c

/-- The file after settings one after the other; one that is refused writes nothing. -/
def written (file : Option String) (commands : List (String × String)) : Option String :=
  commands.foldl (fun file e => (change file e.1 e.2).toOption.or file) file

variable {file : Option String} {commands : List (String × String)}

theorem run_concat (c : Config) (before : List (String × String)) (e : String × String) :
    c.run (before ++ [e]) = ((c.run before).set e.1 e.2).toOption.getD (c.run before) :=
  List.foldl_concat ..

theorem written_concat (file : Option String) (before : List (String × String))
    (e : String × String) : written file (before ++ [e]) =
      (change (written file before) e.1 e.2).toOption.or (written file before) :=
  List.foldl_concat ..

theorem change_eq (loaded : load file = .ok c) (key value : String) :
    change file key value = (c.set key value).map fileText := by
  rw [change, loaded]
  change (c.set key value >>= fun d => pure d.fileText) = _
  cases c.set key value <;> rfl

theorem writable_run (w : c.Writable) (commands : List (String × String)) :
    (c.run commands).Writable := by
  induction commands using List.reverseRecOn with
  | nil => exact w
  | append_singleton before e ih =>
    rw [run_concat]
    cases changed : (c.run before).set e.1 e.2 with
    | error => exact ih
    | ok d => exact writable_set ih changed

/-- The file after some settings holds the configuration after them. -/
theorem load_written (loaded : load file = .ok c) (commands : List (String × String)) :
    load (written file commands) = .ok (c.run commands) := by
  induction commands using List.reverseRecOn with
  | nil => exact loaded
  | append_singleton before e ih =>
    have writable := writable_run (writable_load loaded) before
    rw [written_concat, run_concat, change_eq ih]
    cases changed : (c.run before).set e.1 e.2 with
    | error => exact ih
    | ok d => exact load_fileText (writable_set writable changed)

end ODataQuery.Config
