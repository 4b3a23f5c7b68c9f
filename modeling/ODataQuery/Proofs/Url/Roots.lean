import ODataQuery.Proofs.Url.Authority
import ODataQuery.Proofs.Url.Segments

/-! Roots of the web with a name behind them. Root and name are joined as texts and read after that, so
that the name is the next segment of the path where the root leaves its path open, and nowhere else:
behind a query, a fragment or a blank it is part of something else. -/
namespace ODataQuery.Url

/-- Tabs and line ends do not count in an address. -/
def isKept (c : Char) : Bool := !(c = '\t' || c = '\n' || c = '\r')

theorem isKept_of_visible {c : Char} (visible : isControlOrSpace c = false) : isKept c = true := by
  simp only [isKept, Bool.not_eq_true', Bool.or_eq_false_iff, decide_eq_false_iff_not]
  refine ⟨⟨?_, ?_⟩, ?_⟩ <;> (rintro rfl; cases visible)

theorem filter_dropEndWhile (cs : List Char) :
    (Text.dropEndWhile isControlOrSpace cs).filter isKept =
      Text.dropEndWhile isControlOrSpace (cs.filter isKept) := by
  induction cs using List.reverseRecOn with
  | nil => rfl
  | append_singleton cs c ih =>
    rw [Text.dropEndWhile_append_singleton, List.filter_append]
    cases control : isControlOrSpace c with
    | true =>
      rw [if_pos rfl, ih]
      cases kept : isKept c <;> simp [kept, control, Text.dropEndWhile_append_singleton]
    | false =>
      have kept := isKept_of_visible control
      simp [kept, control, Text.dropEndWhile_append_singleton]

def counted (cs : List Char) : List Char := Text.dropEndWhile isControlOrSpace (cs.filter isKept)

variable {domains : Domains} {scheme : String}

theorem parse_web (web : scheme = "http" ∨ scheme = "https") {s : String} {rest : List Char}
    (text : s.toList = scheme.toList ++ ':' :: rest) :
    parse domains s = ofAuthority domains scheme ((counted rest).dropWhile isSlash) := by
  have front : (scheme.toList ++ ':' :: rest).dropWhile isControlOrSpace =
      scheme.toList ++ ':' :: rest := by
    rcases web with rfl | rfl <;> rfl
  have kept : scheme.toList.filter isKept = scheme.toList := by
    rcases web with rfl | rfl <;> rfl
  have read (cs : List Char) : splitScheme? (scheme.toList ++ ':' :: cs) = some (scheme, cs) := by
    rcases web with rfl | rfl <;> rfl
  have special : isSpecial scheme = true := by rcases web with rfl | rfl <;> rfl
  have noFile : scheme ≠ "file" := by rcases web with rfl | rfl <;> decide
  have cleaned : (Text.dropEndWhile isControlOrSpace (scheme.toList ++ ':' :: rest)).filter isKept =
      scheme.toList ++ ':' :: counted rest := by
    rw [Text.dropEndWhile_append_cons (by decide), List.filter_append, kept,
      List.filter_cons_of_pos (by decide), filter_dropEndWhile, counted]
  have split : splitScheme? ((Text.dropEndWhile isControlOrSpace
      (s.toList.dropWhile isControlOrSpace)).filter isKept) = some (scheme, counted rest) := by
    rw [text, front, cleaned, read]
  unfold isKept at split
  simp only [parse, split, noFile, special, if_false, if_true]
  rfl

theorem endsAuthority_of_control {c : Char} (control : isControlOrSpace c = true) :
    endsAuthority true c = false := by
  have plain := plain_of_control control
  simpa [endsAuthority, isSlash, plain.2.1, plain.2.2] using plain.1

theorem isSlash_of_inside {c : Char} (inside : endsAuthority true c = false) :
    isSlash c = false := by
  simp only [endsAuthority, Bool.or_eq_false_iff, Bool.true_and] at inside
  exact Bool.or_eq_false_iff.mpr ⟨inside.1.1.1, inside.2⟩

/-- An address of the web in its authority and what follows. -/
theorem ofAuthority_append (web : scheme = "http" ∨ scheme = "https") {authority tail : List Char}
    (inside : ∀ c ∈ authority, endsAuthority true c = false)
    (ends : ∀ c ∈ tail.head?, endsAuthority true c = true) :
    ofAuthority domains scheme (authority ++ tail) =
      (siteOf domains scheme authority).map (·.followedBy tail) := by
  have before : ∀ c ∈ authority, (!endsAuthority true c) = true := by simpa using inside
  have behind : ∀ c ∈ tail.head?, (!endsAuthority true c) = false := by simpa using ends
  obtain ⟨taken, dropped⟩ := Text.longest_run before behind
  rw [ofAuthority_eq web, taken, dropped]

/-- What counts of the text of a root: the slashes behind the scheme, the authority, the tail, and at
the end the characters that count only where more text follows. -/
structure Divided (scheme root : String) (slashes authority tail controls : List Char) : Prop where
  text : ∃ rest, root.toList = scheme.toList ++ ':' :: rest ∧
    rest.filter isKept = slashes ++ (authority ++ (tail ++ controls))
  slash : ∀ c ∈ slashes, isSlash c = true
  inside : ∀ c ∈ authority, endsAuthority true c = false
  ends : ∀ c ∈ tail.head?, endsAuthority true c = true
  control : ∀ c ∈ controls, isControlOrSpace c = true
  filled : authority ≠ []
  visible : ∀ c ∈ (authority ++ tail).getLast?, isControlOrSpace c = false

theorem visible_of_counted {cs : List Char} {c : Char} (last : (counted cs).getLast? = some c) :
    isControlOrSpace c = false := by
  rw [counted, Text.dropEndWhile_eq_rdropWhile] at last
  obtain ⟨front, whole⟩ := List.getLast?_eq_some_iff.mp last
  have kept := List.rdropWhile_eq_self_iff.mp
    (List.rdropWhile_idempotent isControlOrSpace (cs.filter isKept))
  simpa [whole] using kept

/-- A root that is read has an authority, which makes the site, and a tail that follows it. -/
theorem exists_divided (web : scheme = "http" ∨ scheme = "https") {root : String} {rest : List Char}
    (text : root.toList = scheme.toList ++ ':' :: rest) {base : Url}
    (read : parse domains root = .ok base) :
    ∃ slashes authority tail controls site, Divided scheme root slashes authority tail controls ∧
      siteOf domains scheme authority = .ok site ∧ base = site.followedBy tail := by
  obtain ⟨controls, whole, control⟩ :=
    Text.dropEndWhile_append isControlOrSpace (rest.filter isKept)
  let body := (counted rest).dropWhile isSlash
  let authority := body.takeWhile fun c => !endsAuthority true c
  let tail := body.dropWhile fun c => !endsAuthority true c
  have parts : authority ++ tail = body := List.takeWhile_append_dropWhile
  have inside : ∀ c ∈ authority, endsAuthority true c = false := by
    intro c member
    simpa using List.mem_takeWhile_imp member
  have ends : ∀ c ∈ tail.head?, endsAuthority true c = true := by
    intro c first
    have stops := List.head?_dropWhile_not (fun c => !endsAuthority true c) body
    rw [Option.mem_def.mp first] at stops
    simpa using stops
  rw [parse_web web text] at read
  change ofAuthority domains scheme body = .ok base at read
  rw [← parts, ofAuthority_append web inside ends] at read
  cases made : siteOf domains scheme authority with
  | error e => rw [made] at read; cases read
  | ok site =>
    rw [made] at read
    refine ⟨(counted rest).takeWhile isSlash, authority, tail, controls, site, ?_, made, ?_⟩
    · refine ⟨⟨rest, text, ?_⟩, ?_, inside, ends, control, ?_, ?_⟩
      · rw [← List.append_assoc authority, parts, ← List.append_assoc,
          List.takeWhile_append_dropWhile, counted, ← whole]
      · exact fun c member => List.mem_takeWhile_imp member
      · intro none
        rw [none] at made
        cases made
      · intro c last
        have kept : (counted rest).getLast? = some c := by
          rw [← List.takeWhile_append_dropWhile (p := isSlash) (l := counted rest),
            List.getLast?_append]
          change body.getLast?.or _ = some c
          rw [← parts, Option.mem_def.mp last]
          rfl
        exact visible_of_counted kept
    · cases read
      rfl

/-- Whatever is read behind a scheme of the web is a site and what follows it. -/
theorem exists_followedBy (web : scheme = "http" ∨ scheme = "https") {s : String} {rest : List Char}
    (text : s.toList = scheme.toList ++ ':' :: rest) {u : Url} (read : parse domains s = .ok u) :
    ∃ (site : Url) (tail : List Char), u = site.followedBy tail := by
  rw [parse_web web text, ofAuthority_eq web] at read
  cases made : siteOf domains scheme
      (((counted rest).dropWhile isSlash).takeWhile fun c => !endsAuthority true c) with
  | error e => rw [made] at read; cases read
  | ok site =>
    rw [made] at read
    exact ⟨site, _, (Except.ok.inj read).symm⟩

namespace Divided

variable {root : String} {slashes authority tail controls : List Char}
  (d : Divided scheme root slashes authority tail controls)
include d

theorem unmarked_iff (web : scheme = "http" ∨ scheme = "https") :
    Unmarked root.toList ↔ Unmarked tail := by
  obtain ⟨rest, text, parts⟩ := d.text
  constructor
  · intro unmarked c member
    refine unmarked c ?_
    have inside : c ∈ rest.filter isKept := by simp [parts, member]
    rw [text]
    simp [List.mem_of_mem_filter inside]
  · intro unmarked c member
    by_contra marked
    have mark : c = '?' ∨ c = '#' := by simpa [Decidable.or_iff_not_imp_left] using marked
    have behind : c ∈ rest := by
      rw [text] at member
      rcases web with rfl | rfl <;> rcases mark with rfl | rfl <;> simpa using member
    have kept : c ∈ rest.filter isKept :=
      List.mem_filter.mpr ⟨behind, by rcases mark with rfl | rfl <;> rfl⟩
    rw [parts] at kept
    simp only [List.mem_append] at kept
    rcases kept with member | member | member | member
    · have slash := d.slash c member
      rcases mark with rfl | rfl <;> cases slash
    · have inside := d.inside c member
      rcases mark with rfl | rfl <;> cases inside
    · exact marked (unmarked c member)
    · exact marked (plain_of_control (d.control c member)).2

theorem last_iff :
    (∀ c ∈ (root.toList.filter isKept).getLast?, isSlash c = false ∧ isControlOrSpace c = false) ↔
      controls = [] ∧ ∀ c ∈ (authority ++ tail).getLast?, isSlash c = false := by
  obtain ⟨rest, text, parts⟩ := d.text
  have whole : root.toList.filter isKept =
      scheme.toList.filter isKept ++ ':' :: slashes ++ (authority ++ tail) ++ controls := by
    rw [text, List.filter_append, List.filter_cons_of_pos (by decide), parts]
    simp
  cases controls using List.reverseRecOn with
  | nil =>
    have filled : authority ++ tail ≠ [] := by simp [d.filled]
    rw [whole, List.append_nil, List.getLast?_append_of_ne_nil _ filled]
    constructor
    · exact fun both => ⟨rfl, fun c member => (both c member).1⟩
    · exact fun ⟨_, slash⟩ c member => ⟨slash c member, d.visible c member⟩
  | append_singleton more c =>
    have control : isControlOrSpace c = true := d.control c (by simp)
    rw [whole, ← List.append_assoc, List.getLast?_concat]
    simp [control]

theorem parse_joined (web : scheme = "http" ∨ scheme = "https") {name : String}
    (named : ∀ c ∈ name.toList, c.isAlphanum = true) :
    parse domains (root ++ "/" ++ name) =
      ofAuthority domains scheme (authority ++ (tail ++ controls ++ '/' :: name.toList)) := by
  obtain ⟨rest, text, parts⟩ := d.text
  have joined : (root ++ "/" ++ name).toList = scheme.toList ++ ':' :: (rest ++ '/' :: name.toList) := by
    simp [text]
  have visible : ∀ c ∈ name.toList, isControlOrSpace c = false := by
    intro c member
    exact visible_of_isAlphanum (named c member)
  have name_kept : name.toList.filter isKept = name.toList :=
    List.filter_eq_self.mpr fun c member => isKept_of_visible (visible c member)
  have name_whole : Text.dropEndWhile isControlOrSpace name.toList = name.toList := by
    rw [Text.dropEndWhile_eq_rdropWhile, List.rdropWhile_eq_self_iff]
    intro filled
    simp [visible _ (List.getLast_mem filled)]
  have counts : counted (rest ++ '/' :: name.toList) =
      slashes ++ (authority ++ (tail ++ controls ++ '/' :: name.toList)) := by
    rw [counted, List.filter_append, List.filter_cons_of_pos (by decide), name_kept,
      Text.dropEndWhile_append_cons (by decide), name_whole, parts]
    simp
  have front : (authority ++ (tail ++ controls ++ '/' :: name.toList)).dropWhile isSlash =
      authority ++ (tail ++ controls ++ '/' :: name.toList) := by
    obtain ⟨c, more, whole⟩ := List.exists_cons_of_ne_nil d.filled
    have noSlash : isSlash c = false := isSlash_of_inside (d.inside c (whole ▸ List.mem_cons_self))
    rw [whole, List.cons_append, List.dropWhile_cons, noSlash, if_neg Bool.false_ne_true]
  rw [parse_web web joined, counts, List.dropWhile_append_of_pos d.slash, front]

end Divided

/-- Behind the text of such a root an entity set is the next segment of the path: no query or fragment
has begun, it ends neither in a slash nor in a blank, and its path does not come to two slashes. -/
structure IsServiceRoot (domains : Domains) (root : String) : Prop where
  unmarked : Unmarked root.toList
  last : ∀ c ∈ (root.toList.filter isKept).getLast?, isSlash c = false ∧ isControlOrSpace c = false
  single : ∃ base, parse domains root = .ok base ∧ ¬ ['/', '/'] <:+ (pathText base.path).toList

/-- The address has scheme, host and port of the root, and its path is the one of the root with the name
behind it. -/
def Leads (domains : Domains) (root name : String) (u : Url) : Prop :=
  ∃ base, parse domains root = .ok base ∧ u.scheme = base.scheme ∧ u.host = base.host ∧
    u.port = base.port ∧
    (pathText u.path).toList =
      Text.dropEndWhile (· = '/') (pathText base.path).toList ++ '/' :: name.toList

theorem toList_pathText_followedBy (site : Url) (tail : List Char) :
    (pathText (site.followedBy tail).path).toList = pathOf tail := toList_pathText _

/-- Where a query or a fragment has begun, a name does not come to the path. -/
theorem pathOf_marked {tail : List Char} (marked : ¬ Unmarked tail) {name : String}
    (filled : name ≠ "") (named : ∀ c ∈ name.toList, c.isAlphanum = true) (more : List Char) :
    pathOf (tail ++ more ++ '/' :: name.toList) ≠
      Text.dropEndWhile (· = '/') (pathOf tail) ++ '/' :: name.toList := by
  have begun : ∃ c ∈ tail, c = '?' ∨ c = '#' := by
    simpa [Unmarked, Decidable.or_iff_not_imp_left] using marked
  rw [pathOf, List.append_assoc, splitParts_of_marked begun, ← pathOf]
  intro same
  obtain ⟨back, whole, slashes⟩ := Text.dropEndWhile_append (· = '/') (pathOf tail)
  obtain rfl := List.append_cancel_left (whole.symm.trans same)
  obtain ⟨c, rest, letters⟩ :=
    List.exists_cons_of_ne_nil (mt String.toList_eq_nil_iff.mp filled)
  have member : c ∈ name.toList := letters ▸ List.mem_cons_self
  have slash : c = '/' := by simpa using slashes c (List.mem_cons_of_mem _ member)
  have plain := named c member
  rw [slash] at plain
  cases plain

namespace Divided

variable {root : String} {slashes authority tail controls : List Char}
  (d : Divided scheme root slashes authority tail controls)
include d

/-- Control characters at the end of an authority are taken into it, and then it makes no address. -/
theorem parse_joined_iff (keeps : domains.KeepsControls)
    (web : scheme = "http" ∨ scheme = "https") {site : Url}
    (made : siteOf domains scheme authority = .ok site) {name : String}
    (named : ∀ c ∈ name.toList, c.isAlphanum = true) (u : Url) :
    parse domains (root ++ "/" ++ name) = .ok u ↔
      (tail = [] → controls = []) ∧ u = site.followedBy (tail ++ controls ++ '/' :: name.toList) := by
  rw [d.parse_joined web named]
  by_cases taken : tail = [] ∧ controls ≠ []
  · obtain ⟨rfl, filled⟩ := taken
    refine iff_of_false ?_ fun both => filled (both.1 rfl)
    have inside : ∀ c ∈ authority ++ controls, endsAuthority true c = false := by
      intro c member
      rcases List.mem_append.mp member with member | member
      · exact d.inside c member
      · exact endsAuthority_of_control (d.control c member)
    rw [List.nil_append, ← List.append_assoc, ofAuthority_append web inside (by rintro c ⟨⟩; rfl)]
    cases controls using List.reverseRecOn with
    | nil => exact absurd rfl filled
    | append_singleton front c =>
      rw [← List.append_assoc]
      cases site : siteOf domains scheme (authority ++ front ++ [c]) with
      | error e => nofun
      | ok site => exact absurd site (siteOf_of_control keeps (d.control c (by simp)) _ _)
  · have alone : tail = [] → controls = [] := by simpa using taken
    have ends : ∀ c ∈ (tail ++ controls ++ '/' :: name.toList).head?,
        endsAuthority true c = true := by
      intro c first
      cases tail with
      | nil =>
        rw [alone rfl] at first
        cases first
        rfl
      | cons t rest => exact d.ends c first
    rw [ofAuthority_append web d.inside ends, made]
    constructor
    · rintro ⟨⟩
      exact ⟨alone, rfl⟩
    · rintro ⟨-, rfl⟩
      rfl

/-- The name is the next segment of the path just where the root leaves the path open. -/
theorem pathOf_joined_iff {name : String} (named : ∀ c ∈ name.toList, c.isAlphanum = true)
    (alone : tail = [] → controls = []) (filled : Unmarked tail ∨ name ≠ "") :
    pathOf (tail ++ controls ++ '/' :: name.toList) =
        Text.dropEndWhile (· = '/') (pathOf tail) ++ '/' :: name.toList ↔
      Unmarked tail ∧ (controls = [] ∧ ∀ c ∈ (authority ++ tail).getLast?, isSlash c = false) ∧
        ¬ ['/', '/'] <:+ pathOf tail := by
  by_cases unmarked : Unmarked tail
  · rw [and_iff_right unmarked, and_assoc]
    cases tail with
    | nil =>
      obtain rfl := alone rfl
      have apart : ∀ c ∈ (authority ++ []).getLast?, isSlash c = false := by
        intro c last
        rw [List.append_nil] at last
        exact isSlash_of_inside (d.inside c (List.mem_of_getLast? last))
      exact iff_of_true (pathOf_name named) ⟨rfl, apart, by decide⟩
    | cons t rest =>
      have slash : isSlash t = true := by
        have plain := unmarked t List.mem_cons_self
        simpa [endsAuthority, isSlash, plain.1, plain.2] using d.ends t rfl
      rw [Url.pathOf_joined_iff named ⟨t, rfl, slash⟩ unmarked d.control,
        List.getLast?_append_of_ne_nil _ (List.cons_ne_nil t rest)]
  · refine iff_of_false ?_ fun leaves => unmarked leaves.1
    exact pathOf_marked unmarked (filled.resolve_left unmarked) named controls

/-- Whether a root leaves its path open, told from its parts. -/
theorem isServiceRoot_iff (web : scheme = "http" ∨ scheme = "https") {site : Url}
    (read : parse domains root = .ok (site.followedBy tail)) :
    IsServiceRoot domains root ↔ Unmarked tail ∧
      (controls = [] ∧ ∀ c ∈ (authority ++ tail).getLast?, isSlash c = false) ∧
      ¬ ['/', '/'] <:+ pathOf tail := by
  rw [← d.unmarked_iff web, ← d.last_iff, ← toList_pathText_followedBy site]
  constructor
  · rintro ⟨unmarked, last, base, same, single⟩
    rw [read] at same
    cases same
    exact ⟨unmarked, last, single⟩
  · rintro ⟨unmarked, last, single⟩
    exact ⟨unmarked, last, _, read, single⟩

end Divided

/-- Behind a root of the web a name is the next segment of the path just where the root leaves the path
open. -/
theorem leads_joined_iff (keeps : domains.KeepsControls)
    (web : scheme = "http" ∨ scheme = "https") {root : String} {rest : List Char}
    (text : root.toList = scheme.toList ++ ':' :: rest) {name : String}
    (named : ∀ c ∈ name.toList, c.isAlphanum = true) :
    (IsServiceRoot domains root →
      ∃ u, parse domains (root ++ "/" ++ name) = .ok u ∧ Leads domains root name u) ∧
    ∀ u, parse domains (root ++ "/" ++ name) = .ok u → name ≠ "" → Leads domains root name u →
      IsServiceRoot domains root := by
  cases read : parse domains root with
  | error e =>
    refine ⟨fun leaves => ?_, fun u _ _ leads => ?_⟩
    · obtain ⟨base, same, -⟩ := leaves.single
      rw [read] at same
      cases same
    · obtain ⟨base, same, -⟩ := leads
      rw [read] at same
      cases same
  | ok base =>
    obtain ⟨slashes, authority, tail, controls, site, d, made, rfl⟩ := exists_divided web text read
    rw [d.isServiceRoot_iff web read]
    constructor
    · intro leaves
      have alone : tail = [] → controls = [] := fun _ => leaves.2.1.1
      have path := (d.pathOf_joined_iff named alone (.inl leaves.1)).mpr leaves
      have joined := (d.parse_joined_iff keeps web made named _).mpr ⟨alone, rfl⟩
      refine ⟨_, joined, _, read, rfl, rfl, rfl, ?_⟩
      rw [toList_pathText_followedBy, toList_pathText_followedBy, path]
    · intro u joined filled leads
      obtain ⟨alone, rfl⟩ := (d.parse_joined_iff keeps web made named u).mp joined
      refine (d.pathOf_joined_iff named alone (.inr filled)).mp ?_
      obtain ⟨base, same, -, -, -, path⟩ := leads
      rw [read] at same
      cases same
      rwa [toList_pathText_followedBy, toList_pathText_followedBy] at path

end ODataQuery.Url
