import Mathlib.Data.List.Basic
import ODataQuery.Query.Exchange

/-! The stages of an exchange. They come in one order; each lets the query go on or ends it with an
error, and the first that ends it decides. What can be seen of a stage is seen just when every stage
before it let the query go on. -/
namespace ODataQuery

inductive Exchange.Stage
  | start
  /-- The query gets an address and the address a request. -/
  | address
  | requestHook
  | sending
  | responseHook
  | status
  | decoding
  | resultHook
  deriving DecidableEq

def ExchangeEvent.stage : ExchangeEvent R → Exchange.Stage
  | called (.request _) => .requestHook
  | sent _ => .sending
  | called (.response _ _) => .responseHook
  | called (.result _ _) => .resultHook

namespace Exchange

namespace Stage

def all : List Stage :=
  [start, address, requestHook, sending, responseHook, status, decoding, resultHook]

/-- The stages before this one. -/
def earlier (stage : Stage) : List Stage := all.takeWhile (· ≠ stage)

theorem nodup_all : all.Nodup := by decide

theorem mem_all (stage : Stage) : stage ∈ all := by cases stage <;> decide

end Stage

structure Setting (R α : Type) where
  network : Network R
  hooks : Hooks R
  cancellation : Cancellation
  decodeRow : Json → Except String α
  root : String
  entitySet : String
  options : QueryOptions

namespace Setting

variable {R α : Type} (s : Setting R α)

def run : Exchange R α :=
  Exchange.run s.network s.hooks s.cancellation s.decodeRow s.root s.entitySet s.options

def address : Except String Url := s.options.address s.network.domains s.root s.entitySet

/-- The request that the network makes for an address. -/
def requestFor (url : Url) : Except NetworkFault R :=
  s.network.request url [("accept", "application/json")]

def request? : Option R := s.address.toOption.bind fun url => (s.requestFor url).toOption

/-- The request as the hook leaves it. -/
def shaped? : Option R := s.request?.map fun r => (s.hooks.onRequest r).1

/-- The status and the body of the response. -/
def response? : Option (Nat × String) := s.shaped?.bind fun r => (s.network.deliver r).toOption

def envelope? : Option (Envelope α) :=
  s.response?.bind fun r => (Envelope.decode s.decodeRow r.2).toOption

/-- The error with which a stage ends the query, if it does. -/
def refusal? : Stage → Option QueryError
  | .start => if s.cancellation = .beforeStart then some .cancelled else none
  | .address => match s.address with
    | .error reason => some (.badAddress reason)
    | .ok url => match s.requestFor url with
      | .error fault => some (.network fault)
      | .ok _ => none
  | .requestHook =>
    if s.request?.any fun r => (s.hooks.onRequest r).2 then some (.handled .request) else none
  | .sending =>
    if s.cancellation = .beforeSend ∨ s.cancellation = .beforeBody then some .cancelled
    else s.shaped?.bind fun r => match s.network.deliver r with
      | .error fault => some (.network fault)
      | .ok _ => none
  | .responseHook =>
    if s.response?.any fun r => s.hooks.onResponse r.1 r.2 then some (.handled .response) else none
  | .status => s.response?.bind fun r =>
    if 200 ≤ r.1 ∧ r.1 < 300 then none else some (.status r.1 r.2)
  | .decoding => s.response?.bind fun r => match Envelope.decode s.decodeRow r.2 with
    | .error e => some e
    | .ok _ => none
  | .resultHook =>
    if s.envelope?.any fun e => s.hooks.onResult e.count e.size then
      some (.handled .result)
    else none

def event? : Stage → Option (ExchangeEvent R)
  | .requestHook => s.request?.map fun r => .called (.request r)
  | .sending => if s.cancellation = .beforeSend then none else s.shaped?.map .sent
  | .responseHook => s.response?.map fun r => .called (.response r.1 r.2)
  | .resultHook => s.envelope?.map fun e => .called (.result e.count e.size)
  | .start | .address | .status | .decoding => none

/-- Whether every stage before this one lets the query go on. -/
def reaches (stage : Stage) : Bool := stage.earlier.all fun earlier => (s.refusal? earlier).isNone

theorem stage_of_event? {stage : Stage} {event : ExchangeEvent R} (h : s.event? stage = some event) :
    event.stage = stage := by
  cases stage <;> simp only [event?, reduceCtorEq, Option.map_eq_some_iff] at h
  case requestHook | responseHook | resultHook =>
    obtain ⟨_, -, rfl⟩ := h
    rfl
  case sending =>
    split at h
    · cases h
    · obtain ⟨_, -, rfl⟩ := Option.map_eq_some_iff.mp h
      rfl

/-- The stages that are reached of those that are to be gone through. -/
def reached : List Stage → List Stage
  | [] => []
  | stage :: rest => stage :: if (s.refusal? stage).isNone then reached rest else []

theorem reached_eq_filter {stages : List Stage} (distinct : stages.Nodup) :
    s.reached stages = stages.filter fun stage =>
      (stages.takeWhile (· ≠ stage)).all fun earlier => (s.refusal? earlier).isNone := by
  induction stages with
  | nil => rfl
  | cons stage rest ih =>
    obtain ⟨fresh, distinct⟩ := List.nodup_cons.mp distinct
    have behind : rest.filter (fun later =>
        ((stage :: rest).takeWhile (· ≠ later)).all fun earlier => (s.refusal? earlier).isNone) =
        if (s.refusal? stage).isNone then s.reached rest else [] := by
      rw [ih distinct]
      -- each later stage has this one among those before it
      have before : ∀ later ∈ rest, (stage :: rest).takeWhile (· ≠ later) =
          stage :: rest.takeWhile (· ≠ later) := by
        intro later member
        have other : stage ≠ later := fun same => fresh (same ▸ member)
        rw [List.takeWhile_cons_of_pos (by simpa using other)]
      rw [List.filter_congr fun later member => by rw [before later member, List.all_cons]]
      cases (s.refusal? stage).isNone <;> simp
    rw [reached, List.filter_cons_of_pos (by simp), behind]

/-- What is seen of stages is seen in their order, and at most once of each. -/
theorem sublist_events (stages : List Stage) :
    ((stages.filterMap s.event?).map ExchangeEvent.stage).Sublist stages := by
  induction stages with
  | nil => exact .slnil
  | cons stage rest ih =>
    cases seen : s.event? stage with
    | none =>
      rw [List.filterMap_cons_none seen]
      exact ih.cons stage
    | some event =>
      rw [List.filterMap_cons_some seen, List.map_cons, s.stage_of_event? seen]
      exact ih.cons_cons stage

/-- An exchange that goes through these stages: the first that ends the query is the last one. -/
inductive Through (s : Setting R α) : List Stage → Exchange R α → Prop
  | done : s.envelope? = some e → Through s [] ⟨[], .ok e⟩
  | ends : s.refusal? stage = some err →
      Through s (stage :: rest) ⟨(s.event? stage).toList, .error err⟩
  | passes : s.refusal? stage = none → Through s rest x →
      Through s (stage :: rest) ⟨(s.event? stage).toList ++ x.events, x.outcome⟩

namespace Through

variable {s : Setting R α} {stages : List Stage} {x : Exchange R α}

theorem outcome_error_iff (through : Through s stages x) (err : QueryError) :
    x.outcome = .error err ↔ stages.findSome? s.refusal? = some err := by
  induction through with
  | done => simp
  | ends refused => simp [refused]
  | passes passed _ ih => simpa [List.findSome?_cons, passed] using ih

theorem outcome_ok_iff (through : Through s stages x) (e : Envelope α) :
    x.outcome = .ok e ↔ stages.findSome? s.refusal? = none ∧ s.envelope? = some e := by
  induction through with
  | done found => simp [found]
  | ends refused => simp [refused]
  | passes passed _ ih => simpa [List.findSome?_cons, passed] using ih

theorem events_eq (through : Through s stages x) :
    x.events = (s.reached stages).filterMap s.event? := by
  induction through with
  | done => rfl
  | @ends stage _ _ refused =>
    rw [reached, refused]
    cases seen : s.event? stage <;> simp [seen]
  | @passes stage _ _ passed _ ih =>
    rw [reached, passed, ih]
    cases seen : s.event? stage <;> simp [seen]

theorem ends_seen {stage : Stage} {rest : List Stage} {event : ExchangeEvent R} {err : QueryError}
    (seen : s.event? stage = some event) (refused : s.refusal? stage = some err) :
    Through s (stage :: rest) ⟨[event], .error err⟩ := by
  have through : Through s (stage :: rest) _ := .ends refused
  rwa [seen] at through

theorem ends_unseen {stage : Stage} {rest : List Stage} {err : QueryError}
    (unseen : s.event? stage = none) (refused : s.refusal? stage = some err) :
    Through s (stage :: rest) ⟨[], .error err⟩ := by
  have through : Through s (stage :: rest) _ := .ends refused
  rwa [unseen] at through

theorem passes_seen {stage : Stage} {event : ExchangeEvent R} (seen : s.event? stage = some event)
    (passed : s.refusal? stage = none) (through : Through s stages x) :
    Through s (stage :: stages) (x.after event) := by
  have through := Through.passes passed through
  rwa [seen] at through

theorem passes_unseen {stage : Stage} (unseen : s.event? stage = none)
    (passed : s.refusal? stage = none) (through : Through s stages x) :
    Through s (stage :: stages) x := by
  have through := Through.passes passed through
  rwa [unseen] at through

end Through

variable {s}

theorem through_finish {e : Envelope α} (found : s.envelope? = some e) :
    Through s [.resultHook] (finish s.hooks e) := by
  have seen : s.event? .resultHook = some (.called (.result e.count e.size)) := by
    simp [event?, found]
  unfold finish
  split
  · rename_i handled
    exact .ends_seen seen (by simp [refusal?, found, handled])
  · rename_i goes
    exact .passes_seen seen (by simp [refusal?, found, goes]) (.done found)

theorem through_receive {status : Nat} {body : String} (came : s.response? = some (status, body)) :
    Through s [.responseHook, .status, .decoding, .resultHook]
      (receive s.hooks s.decodeRow status body) := by
  have seen : s.event? .responseHook = some (.called (.response status body)) := by
    simp [event?, came]
  unfold receive
  split
  · rename_i handled
    exact .ends_seen seen (by simp [refusal?, came, handled])
  rename_i goes
  have passed : s.refusal? .responseHook = none := by simp [refusal?, came, goes]
  split
  · rename_i fails
    have ends : Through s [.status, .decoding, .resultHook] ⟨[], .error (.status status body)⟩ :=
      .ends_unseen rfl (by simpa [refusal?, came, isSuccess, imp_iff_not_or] using fails)
    exact .passes_seen seen passed ends
  rename_i succeeds
  have success : s.refusal? .status = none := by simpa [refusal?, came, isSuccess] using succeeds
  split
  · rename_i err faulty
    have ends : Through s [.decoding, .resultHook] ⟨[], .error err⟩ :=
      .ends_unseen rfl (by simp [refusal?, came, faulty])
    exact .passes_seen seen passed (.passes_unseen rfl success ends)
  · rename_i e decoded
    have found : s.envelope? = some e := by
      simp [envelope?, came, decoded, Except.toOption]
    have readable : s.refusal? .decoding = none := by simp [refusal?, came, decoded]
    exact .passes_seen seen passed
      (.passes_unseen rfl success (.passes_unseen rfl readable (through_finish found)))

theorem through_await {request : R} (shaped : s.shaped? = some request) :
    Through s [.sending, .responseHook, .status, .decoding, .resultHook]
      (await s.network s.hooks s.cancellation s.decodeRow request) := by
  unfold await
  split
  · rename_i early
    exact .ends_unseen (by simp [event?, early]) (by simp [refusal?, early])
  rename_i inTime
  have seen : s.event? .sending = some (.sent request) := by simp [event?, inTime, shaped]
  split
  · rename_i cancelled
    exact .ends_seen seen (by simp [refusal?, cancelled])
  rename_i kept
  cases delivery : s.network.deliver request with
  | error fault => exact .ends_seen seen (by simp [refusal?, inTime, kept, shaped, delivery])
  | ok answer =>
    have came : s.response? = some answer := by simp [response?, shaped, delivery, Except.toOption]
    exact .passes_seen seen (by simp [refusal?, inTime, kept, shaped, delivery])
      (through_receive came)

theorem through_send {request : R} (asked : s.request? = some request) :
    Through s [.requestHook, .sending, .responseHook, .status, .decoding, .resultHook]
      (send s.network s.hooks s.cancellation s.decodeRow request) := by
  have seen : s.event? .requestHook = some (.called (.request request)) := by
    simp [event?, asked]
  unfold send
  dsimp only
  split
  · rename_i handled
    exact .ends_seen seen (by simp [refusal?, asked, handled])
  · rename_i goes
    have shaped : s.shaped? = some (s.hooks.onRequest request).1 := by simp [shaped?, asked]
    exact .passes_seen seen (by simp [refusal?, asked, goes]) (through_await shaped)

variable (s)

/-- There is a request just where the options make an address and the network a request for it. -/
theorem requestOf_cases :
    (∃ err, requestOf s.network s.root s.entitySet s.options = .error err ∧
      s.refusal? .address = some err) ∨
    ∃ request, requestOf s.network s.root s.entitySet s.options = .ok request ∧
      s.request? = some request ∧ s.refusal? .address = none := by
  cases addressed : s.address with
  | error reason =>
    refine .inl ⟨.badAddress reason, ?_, by simp [refusal?, addressed]⟩
    rw [address] at addressed
    rw [requestOf, addressed]
  | ok url =>
    have made : requestOf s.network s.root s.entitySet s.options =
        (s.requestFor url).mapError .network := by
      rw [address] at addressed
      rw [requestOf, addressed]
      rfl
    cases asked : s.requestFor url with
    | error fault =>
      exact .inl ⟨.network fault, by rw [made, asked]; rfl, by simp [refusal?, addressed, asked]⟩
    | ok request =>
      refine .inr ⟨request, by rw [made, asked]; rfl, ?_, by simp [refusal?, addressed, asked]⟩
      simp [request?, addressed, asked, Except.toOption]

/-- An exchange goes through all stages in their order. -/
theorem through_run : Through s Stage.all s.run := by
  unfold run Exchange.run
  split
  · rename_i early
    exact .ends_unseen rfl (by simp [refusal?, early])
  rename_i inTime
  have started : s.refusal? .start = none := by simp [refusal?, inTime]
  rcases s.requestOf_cases with ⟨err, asked, refused⟩ | ⟨request, asked, there, passed⟩
  · rw [asked]
    exact .passes_unseen rfl started (.ends_unseen rfl refused)
  · rw [asked]
    exact .passes_unseen rfl started (.passes_unseen rfl passed (through_send there))

theorem mem_reached_all {stage : Stage} : stage ∈ s.reached Stage.all ↔ s.reaches stage = true := by
  rw [s.reached_eq_filter Stage.nodup_all, List.mem_filter]
  exact and_iff_right stage.mem_all

/-- The first error is that of the one stage that is reached and ends the query. -/
theorem findSome?_refusal {stages : List Stage} {err : QueryError} :
    stages.findSome? s.refusal? = some err ↔
      ∃ stage ∈ s.reached stages, s.refusal? stage = some err := by
  induction stages with
  | nil => simp [reached]
  | cons stage rest ih => cases refused : s.refusal? stage <;> simp [reached, refused, ih]

/-- Nothing looks for a cancellation once the body is read. -/
theorem run_afterBody : Setting.run { s with cancellation := .afterBody } =
    Setting.run { s with cancellation := .never } := by
  simp only [run, Exchange.run, send, await, reduceCtorEq, if_false]

/-- An exchange runs its stages in their order. What is seen of it is seen of the stages that are
reached, at most once of each. It gives the decoded envelope when no stage ends it, and otherwise the
error of the first that does: a hook that takes over a response goes before its status, and a
cancellation before the body is read ends it, while a later one changes nothing. -/
theorem stages_run :
    s.run.events = (Stage.all.filter s.reaches).filterMap s.event? ∧
    (s.run.events.map ExchangeEvent.stage).Sublist Stage.all ∧
    (∀ e, s.run.outcome = .ok e ↔
      (∀ stage, s.refusal? stage = none) ∧ s.envelope? = some e) ∧
    (∀ err, s.run.outcome = .error err ↔
      ∃ stage, s.reaches stage = true ∧ s.refusal? stage = some err) ∧
    (∀ status body, s.reaches .responseHook = true → s.response? = some (status, body) →
      s.hooks.onResponse status body = true → s.run.outcome = .error (.handled .response)) ∧
    (s.cancellation = .beforeStart ∨ s.reaches .sending = true ∧
        (s.cancellation = .beforeSend ∨ s.cancellation = .beforeBody) →
      s.run.outcome = .error .cancelled) ∧
    Setting.run { s with cancellation := .afterBody } =
      Setting.run { s with cancellation := .never } := by
  have through := s.through_run
  have events : s.run.events = (Stage.all.filter s.reaches).filterMap s.event? := by
    rw [through.events_eq, s.reached_eq_filter Stage.nodup_all]
    rfl
  have errors (err : QueryError) : s.run.outcome = .error err ↔
      ∃ stage, s.reaches stage = true ∧ s.refusal? stage = some err := by
    rw [through.outcome_error_iff, s.findSome?_refusal]
    simp only [s.mem_reached_all]
  refine ⟨events, ?_, ?_, errors, ?_, ?_, s.run_afterBody⟩
  · rw [events]
    exact (s.sublist_events _).trans List.filter_sublist
  · intro e
    rw [through.outcome_ok_iff, List.findSome?_eq_none_iff]
    simp only [Stage.mem_all, true_implies]
  · intro status body reaches came handled
    exact (errors _).mpr ⟨.responseHook, reaches, by simp [refusal?, came, handled]⟩
  · rintro (early | ⟨reaches, cancelled⟩)
    · exact (errors _).mpr ⟨.start, rfl, by simp [refusal?, early]⟩
    · exact (errors _).mpr ⟨.sending, reaches, by simp [refusal?, cancelled]⟩

/-- A refusal of the server that a hook takes over is no error of its status. -/
example :
    (Setting.run (α := Json) ⟨⟨.plain, fun url _ => .ok url, fun _ => .ok (401, "denied")⟩,
      { onResponse := fun status _ => status = 401 }, .afterBody, .ok, "https://h/odata", "Users",
      {}⟩).outcome matches
        .error (.handled .response) := by
  decide

end Setting
end Exchange

end ODataQuery
