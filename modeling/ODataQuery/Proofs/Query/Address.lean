import ODataQuery.Config.Basic
import ODataQuery.Proofs.Url.Roots
import ODataQuery.Query.Address

/-! The address of a query: the service root that is configured, the entity set behind its path, and the
options as the query. -/
namespace ODataQuery

namespace Config

/-- Begins like an address of the web. -/
def IsWeb (cs : List Char) : Prop := "http://".toList <+: cs ∨ "https://".toList <+: cs

variable {value address : String}

theorem addressOf_eq (web : IsWeb (Text.trimChars value.toList)) :
    addressOf value =
      .ok (String.ofList (Text.dropEndWhile (· = '/') (Text.trimChars value.toList))) := by
  simp only [IsWeb, ← List.isPrefixOf_iff_prefix] at web
  simp only [addressOf, web, if_true]

theorem of_addressOf (stored : addressOf value = .ok address) :
    IsWeb (Text.trimChars value.toList) ∧
      address.toList = Text.dropEndWhile (· = '/') (Text.trimChars value.toList) := by
  unfold addressOf at stored
  dsimp only at stored
  split at stored
  case isTrue web =>
    cases stored
    exact ⟨by simpa only [IsWeb, List.isPrefixOf_iff_prefix] using web, String.toList_ofList⟩
  case isFalse => cases stored

theorem addressOf_eq_ok {root : String} (stored : addressOf value = .ok root) :
    Text.dropEndWhile (· = '/') root.toList = root.toList ∧
      ∃ scheme rest, (scheme = "http" ∨ scheme = "https") ∧
        root.toList = scheme.toList ++ ':' :: rest := by
  obtain ⟨web, kept⟩ := of_addressOf stored
  refine ⟨by rw [kept, Text.dropEndWhile_idem], ?_⟩
  rcases web with ⟨rest, same⟩ | ⟨rest, same⟩
  · refine ⟨"http", Text.dropEndWhile (· = '/') ("//".toList ++ rest), .inl rfl, ?_⟩
    rw [kept, ← same]
    exact Text.dropEndWhile_append_cons (by decide) "http".toList ("//".toList ++ rest)
  · refine ⟨"https", Text.dropEndWhile (· = '/') ("//".toList ++ rest), .inr rfl, ?_⟩
    rw [kept, ← same]
    exact Text.dropEndWhile_append_cons (by decide) "https".toList ("//".toList ++ rest)

end Config

namespace QueryOptions

theorem joined_eq {root name : String} (trimmed : Text.dropEndWhile (· = '/') root.toList = root.toList)
    (named : ∀ c ∈ name.toList, c.isAlphanum = true) : joined root name = root ++ "/" ++ name := by
  have front : name.toList.dropWhile (· = '/') = name.toList := by
    cases letters : name.toList with
    | nil => rfl
    | cons c rest =>
      have plain := named c (letters ▸ List.mem_cons_self)
      have other : c ≠ '/' := by rintro rfl; cases plain
      simp [other]
  rw [joined, trimmed, front, String.ofList_toList, String.ofList_toList]

theorem query_withQuery (u : Url) (query : Option String) : (u.withQuery query).query = query := by
  unfold Url.withQuery
  split <;> rfl

/-- Another query changes neither the site nor a path of segments. -/
theorem leads_withQuery_iff {domains : Url.Domains} {root name : String} (site : Url) (tail : List Char)
    (query : Option String) :
    Url.Leads domains root name ((site.followedBy tail).withQuery query) ↔
      Url.Leads domains root name (site.followedBy tail) := by
  have same : (site.followedBy tail).withQuery query = { site.followedBy tail with query } := by
    unfold Url.withQuery
    split
    · rename_i path
      cases path
    · rfl
  rw [same]
  rfl

/-- The query of an address is the one of the options, whatever the root has behind its path. The
entity set is the next segment behind the path of the root for the roots that leave the path open, and
for no others. -/
theorem address_leads_iff {domains : Url.Domains} (keeps : domains.KeepsControls)
    {value root : String} (stored : Config.addressOf value = .ok root) {name : String}
    (named : ∀ c ∈ name.toList, c.isAlphanum = true) (o : QueryOptions) :
    (Url.IsServiceRoot domains root → ∃ u, o.address domains root name = .ok u) ∧
      ∀ u, o.address domains root name = .ok u →
        u.query = (if o.queryString.isEmpty then none else some o.queryString) ∧
          (Url.IsServiceRoot domains root → Url.Leads domains root name u) ∧
          (name ≠ "" → Url.Leads domains root name u → Url.IsServiceRoot domains root) := by
  obtain ⟨trimmed, scheme, rest, web, text⟩ := Config.addressOf_eq_ok stored
  obtain ⟨leads, needs⟩ := Url.leads_joined_iff keeps web text named
  cases parsed : Url.parse domains (root ++ "/" ++ name) with
  | error e =>
    have read : o.address domains root name = .error (root ++ "/" ++ name ++ ": " ++ e.message) := by
      simp only [address, joined_eq trimmed named, parsed]
    rw [read]
    refine ⟨fun isRoot => ?_, by rintro u ⟨⟩⟩
    obtain ⟨u, made, -⟩ := leads isRoot
    rw [parsed] at made
    cases made
  | ok u =>
    have read : o.address domains root name =
        .ok (u.withQuery (if o.queryString.isEmpty then none else some o.queryString)) := by
      simp only [address, joined_eq trimmed named, parsed]
    rw [read]
    refine ⟨fun _ => ⟨_, rfl⟩, fun v made => ?_⟩
    obtain rfl := Except.ok.inj made
    have whole : (root ++ "/" ++ name).toList =
        scheme.toList ++ ':' :: (rest ++ '/' :: name.toList) := by simp [text]
    obtain ⟨site, tail, rfl⟩ := Url.exists_followedBy web whole parsed
    rw [leads_withQuery_iff]
    refine ⟨query_withQuery _ _, fun isRoot => ?_, needs _ parsed⟩
    obtain ⟨u, made, leads⟩ := leads isRoot
    rw [parsed] at made
    cases made
    exact leads

/-- A root can be configured with a query in it. The entity set is then part of that query, which the
options replace. -/
theorem address_query_lost :
    Config.addressOf "https://example.com/odata?x=1" = .ok "https://example.com/odata?x=1" ∧
      ∃ u, ({} : QueryOptions).address .plain "https://example.com/odata?x=1" "Users" = .ok u ∧
        u.text = "https://example.com/odata" ∧
        ¬ Url.Leads .plain "https://example.com/odata?x=1" "Users" u := by
  have read : Url.parse .plain "https://example.com/odata?x=1" =
      .ok { scheme := "https", host := some (.domain "example.com"), path := .segments ["odata"],
            query := some "x=1" } := by rfl
  have made : ({} : QueryOptions).address .plain "https://example.com/odata?x=1" "Users" =
      .ok { scheme := "https", host := some (.domain "example.com"),
            path := .segments ["odata"] } := by rfl
  refine ⟨by rfl, _, made, by decide, ?_⟩
  rintro ⟨base, same, -, -, -, path⟩
  obtain rfl := Except.ok.inj (read.symm.trans same)
  exact absurd path (by decide)

theorem address_leads_iff_odata :
    Config.addressOf " https://example.com/odata/ " = .ok "https://example.com/odata" ∧
      ∃ u, ({ top := some 5 } : QueryOptions).address .plain "https://example.com/odata" "Users" =
          .ok u ∧
        u.query = some "%24top=5" ∧ Url.Leads .plain "https://example.com/odata" "Users" u := by
  have stored : Config.addressOf " https://example.com/odata/ " =
      .ok "https://example.com/odata" := by rfl
  have unmarked : ("https://example.com/odata".toList.all fun c => c ≠ '?' ∧ c ≠ '#') = true := by
    decide
  simp only [List.all_eq_true, decide_eq_true_eq] at unmarked
  have last : ("https://example.com/odata".toList.filter Url.isKept).getLast? = some 'a' := by
    decide
  have isRoot : Url.IsServiceRoot .plain "https://example.com/odata" := by
    refine ⟨unmarked, ?_, _, rfl, by decide⟩
    rw [last]
    rintro c ⟨⟩
    decide
  have named : ∀ c ∈ "Users".toList, c.isAlphanum = true := List.all_eq_true.mp (by decide)
  obtain ⟨made, told⟩ :=
    address_leads_iff Url.Domains.keepsControls_plain stored named { top := some 5 }
  obtain ⟨u, made⟩ := made isRoot
  obtain ⟨query, leads, -⟩ := told u made
  refine ⟨stored, u, made, ?_, leads isRoot⟩
  rw [query]
  decide

end QueryOptions

end ODataQuery
