import Ssvc.Proofs.Http.Exchange

set_option autoImplicit false

/-! # The documents that are kept

A document that was fetched is kept for its address and given again from then on, whatever happens to
the breaker in the meantime. What one action can do to the documents is said once: nothing, or keep one
that has just come over the line for an address that had none. For whole runs it follows that each
document goes back to a response for its own address, and that none is ever replaced. -/

namespace Ssvc.Http

open Time (Ticks)

variable {τ : Type}

/-! ## Keeping -/

namespace Client

variable {client : Client τ} {url : String} {document : Value}

theorem kept?_keep_self (hkeeps : client.keeps = true) (url : String) (document : Value) :
    (client.keep url document).kept? url = some document := by
  simp [keep, kept?, hkeeps]

/-- Keeping a document for an address that has none leaves the others as they are. -/
theorem kept?_keep_of_kept (hkept : client.kept? url = some document) {url' : String}
    (hnone : client.kept? url' = none) (document' : Value) :
    (client.keep url' document').kept? url = some document := by
  have hne : url ≠ url' := by
    -- an address cannot have a document and have none
    rintro rfl
    rw [hkept] at hnone
    cases hnone
  unfold kept? at hkept ⊢
  split at hkept
  · next hkeeps => simpa [keep, hkeeps, List.lookup_cons, beq_false_of_ne hne] using hkept
  · cases hkept

theorem mem_of_kept? (hkept : client.kept? url = some document) :
    (url, document) ∈ client.kept := by
  unfold kept? at hkept
  split at hkept
  · obtain ⟨before, after, hsplit, -⟩ := List.lookup_eq_some_iff.1 hkept
    rw [hsplit]
    exact List.mem_append_right before List.mem_cons_self
  · cases hkept

theorem keeps_keep (client : Client τ) (url : String) (document : Value) :
    (client.keep url document).keeps = client.keeps := by
  unfold keep
  split <;> rfl

theorem eq_or_mem_of_mem_keep {entry : String × Value}
    (h : entry ∈ (client.keep url document).kept) :
    entry = (url, document) ∨ entry ∈ client.kept := by
  unfold keep at h
  split at h
  · exact List.mem_cons.1 h
  · exact Or.inr h

theorem kept?_of_not_keeps (hkeeps : client.keeps = false) (url : String) :
    client.kept? url = none := by
  simp [kept?, hkeeps]

end Client

/-- Holds of a request with its reply if they are how a document was got from an address. -/
def Delivers (exchange : Request × Reply) (url : String) (document : Value) : Prop :=
  exchange.1.url = url ∧
    ∃ response, exchange.2 = .response response ∧ Json.read response.body = .ok document

namespace Session

/-! ## What becomes of a fetch -/

/-- What a fetch does with the documents: it gives the one that is kept, keeps none, or keeps the one
that has just come over the line. -/
inductive Gets (session : Session τ) (url : String) : Outcome τ Value → Prop
  | kept {document : Value} (hkept : session.client.kept? url = some document) :
      Gets session url (.ok document, session.note .debug ("cache hit for " ++ url))
  | failed {error : FetchError} {after : Session τ} {breaker : Breaker τ}
      (hclient : after.client = { session.client with breaker := breaker }) :
      Gets session url (.error error, after)
  | delivered {document : Value} {after : Session τ} {breaker : Breaker τ}
      (hkept : session.client.kept? url = none)
      (hdelivers : ∃ exchange ∈ session.host.exchanges after.host, Delivers exchange url document)
      (hclient : after.client
        = ({ session.client with breaker := breaker } : Client τ).keep url document) :
      Gets session url (.ok document, after)

namespace Gets

variable {session : Session τ} {url : String} {document : Value} {outcome : Outcome τ Value}

theorem kept?_eq (h : session.Gets url outcome) (hkeeps : session.client.keeps = true)
    (hresult : outcome.1 = .ok document) : outcome.2.client.kept? url = some document := by
  cases h with
  | kept hkept =>
      cases hresult
      exact hkept
  | failed => cases hresult
  | delivered _ _ hclient =>
      cases hresult
      rw [hclient]
      refine Client.kept?_keep_self ?_ url document
      exact hkeeps

/-- A client that keeps nothing has asked for what it gives. -/
theorem requests_lt (h : session.Gets url outcome) (hfollows : session.host.Follows outcome.2.host)
    (hkeeps : session.client.keeps = false) (hresult : outcome.1 = .ok document) :
    session.host.requests.length < outcome.2.host.requests.length := by
  cases h with
  | kept hkept =>
      rw [Client.kept?_of_not_keeps hkeeps] at hkept
      cases hkept
  | failed => cases hresult
  | delivered _ hdelivers _ =>
      obtain ⟨exchange, hmem, -⟩ := hdelivers
      rw [Host.length_requests_of_follows hfollows]
      exact Nat.lt_add_of_pos_right (List.length_pos_of_mem hmem)

theorem kept_eq_of_error (h : session.Gets url outcome) {error : FetchError}
    (hresult : outcome.1 = .error error) : outcome.2.client.kept = session.client.kept := by
  cases h with
  | kept | delivered => cases hresult
  | failed hclient =>
      dsimp only
      rw [hclient]

end Gets

section

variable [Ticks τ]

theorem client_request (session : Session τ) (url : String) (headers : Value) :
    ∃ breaker, (request url headers session).2.client
      = { session.client with breaker := breaker } := by
  rcases hgranted : session.canAttempt.1 with _ | _
  · rw [request_of_refused hgranted]
    exact ⟨session.client.breaker, rfl⟩
  · exact ⟨_, (tells_request hgranted url headers).client_eq⟩

/-- A response to a request comes from the address that was asked. -/
theorem delivers_request {session after : Session τ} {url : String} {headers : Value}
    {response : Response} {document : Value}
    (hrequest : request url headers session = (.ok response, after))
    (hread : Json.read response.body = .ok document) :
    ∃ exchange ∈ session.host.exchanges after.host, Delivers exchange url document := by
  rcases hgranted : session.canAttempt.1 with _ | _
  · rw [request_of_refused hgranted] at hrequest
    cases hrequest
  · have hattempts := attempts_request hgranted url headers
    rw [hrequest] at hattempts
    obtain ⟨exchange, hmem, hreply⟩ := hattempts.mem_of_ok response rfl
    have hasked := hattempts.request_eq exchange hmem
    exact ⟨exchange, hmem, congrArg Request.url hasked, response, hreply, hread⟩

theorem gets_fetch (session : Session τ) (url : String) (headers : Value) :
    session.Gets url (Http.fetch url headers session) := by
  rcases hkept : session.client.kept? url with _ | document
  · obtain ⟨breaker, hclient⟩ := client_request session url headers
    unfold Http.fetch
    rw [hkept]
    dsimp only
    rcases hrequest : request url headers session with ⟨error | response, after⟩
    · rw [hrequest] at hclient
      exact .failed hclient
    · rw [hrequest] at hclient
      dsimp only at hclient ⊢
      -- the breaker has been told of a success, whether or not the body can be read
      rcases hread : Json.read response.body with fault | document
      · exact .failed hclient
      · have hdelivers := delivers_request hrequest hread
        exact .delivered hkept hdelivers (by rw [hclient])
  · rw [fetch_of_kept hkept]
    exact .kept hkept

end

/-! ## Actions -/

/-- What happens to a session whose breaker is called from elsewhere too. -/
inductive Action (τ : Type) where
  | event (event : Event τ)
  | attempt
  | success
  | failure

/-- The session after an action. -/
def act [Ticks τ] (session : Session τ) : Action τ → Session τ
  | .event event => session.step event
  | .attempt => session.canAttempt.2
  | .success => session.recordSuccess
  | .failure => session.recordFailure

/-- The session after some actions. -/
def acts [Ticks τ] (session : Session τ) (actions : List (Action τ)) : Session τ :=
  actions.foldl act session

/-- What an action does with the documents: it keeps none, or one that has just come over the line for
an address that had none. -/
inductive Learns (before after : Session τ) : Prop
  | nothing {breaker : Breaker τ}
      (hclient : after.client = { before.client with breaker := breaker })
  | document {url : String} {document : Value} {breaker : Breaker τ}
      (hkept : before.client.kept? url = none)
      (hdelivers : ∃ exchange ∈ before.host.exchanges after.host, Delivers exchange url document)
      (hclient : after.client
        = ({ before.client with breaker := breaker } : Client τ).keep url document)

theorem Gets.learns {session : Session τ} {url : String} {outcome : Outcome τ Value}
    (h : session.Gets url outcome) : session.Learns outcome.2 := by
  cases h with
  | kept => exact .nothing rfl
  | failed hclient => exact .nothing hclient
  | delivered hkept hdelivers hclient => exact .document hkept hdelivers hclient

theorem learns_act [Ticks τ] (session : Session τ) (action : Action τ) :
    session.Learns (session.act action) := by
  cases action with
  | event event =>
      cases event with
      | wait seconds micros => exact .nothing rfl
      | fetch url headers => exact (gets_fetch session url headers).learns
  | attempt | success | failure => exact .nothing rfl

theorem follows_act [Ticks τ] (session : Session τ) (action : Action τ) :
    session.host.Follows (session.act action).host := by
  cases action with
  | event event => exact follows_step session event
  | attempt | success | failure => exact Host.Idle.follows ⟨rfl, rfl, List.prefix_refl _, rfl⟩

/-! ## Where documents come from -/

/-- Holds of the sessions whose documents have come over the line since a start, each of them from the
address that it is kept for. -/
structure Sourced (start session : Session τ) : Prop where
  follows : start.host.Follows session.host
  keeps_eq : session.client.keeps = start.client.keeps
  delivers : ∀ entry ∈ session.client.kept,
    ∃ exchange ∈ start.host.exchanges session.host, Delivers exchange entry.1 entry.2

namespace Sourced

variable {start session : Session τ}

theorem refl (hnew : start.client.kept = []) : Sourced start start where
  follows := .refl _
  keeps_eq := rfl
  delivers := by
    rw [hnew]
    simp

/-- What has come over the line stays there, so only a document that is new has to be traced back. -/
theorem act [Ticks τ] (h : Sourced start session) (action : Action τ) :
    Sourced start (session.act action) := by
  have hfollows := follows_act session action
  have hexchanges := Host.exchanges_trans h.follows hfollows
  have hold : ∀ entry ∈ session.client.kept,
      ∃ exchange ∈ start.host.exchanges (session.act action).host,
        Delivers exchange entry.1 entry.2 := by
    intro entry hentry
    obtain ⟨exchange, hmem, hdelivers⟩ := h.delivers entry hentry
    exact ⟨exchange, hexchanges ▸ List.mem_append_left _ hmem, hdelivers⟩
  cases learns_act session action with
  | nothing hclient =>
      refine ⟨h.follows.trans hfollows, ?_, ?_⟩
      · rw [hclient]
        exact h.keeps_eq
      · rw [hclient]
        exact hold
  | document _ hdelivers hclient =>
      refine ⟨h.follows.trans hfollows, ?_, ?_⟩
      · rw [hclient, Client.keeps_keep]
        exact h.keeps_eq
      · rw [hclient]
        intro entry hentry
        rcases Client.eq_or_mem_of_mem_keep hentry with rfl | hkept
        · obtain ⟨exchange, hmem, hfrom⟩ := hdelivers
          exact ⟨exchange, hexchanges ▸ List.mem_append_right _ hmem, hfrom⟩
        · exact hold entry hkept

theorem acts [Ticks τ] (h : Sourced start session) (actions : List (Action τ)) :
    Sourced start (session.acts actions) := by
  induction actions generalizing session with
  | nil => exact h
  | cons action rest ih => exact ih (h.act action)

/-- A document that is given was kept and goes back to a delivery, or has just been delivered. -/
theorem exists_delivers {url : String} {document : Value} {outcome : Outcome τ Value}
    (h : Sourced start session) (hgets : session.Gets url outcome)
    (hfollows : session.host.Follows outcome.2.host) (hresult : outcome.1 = .ok document) :
    ∃ exchange ∈ start.host.exchanges outcome.2.host, Delivers exchange url document := by
  rw [Host.exchanges_trans h.follows hfollows]
  cases hgets with
  | kept hkept =>
      cases hresult
      obtain ⟨exchange, hmem, hfrom⟩ := h.delivers _ (Client.mem_of_kept? hkept)
      exact ⟨exchange, List.mem_append_left _ hmem, hfrom⟩
  | failed => cases hresult
  | delivered _ hdelivers _ =>
      cases hresult
      obtain ⟨exchange, hmem, hfrom⟩ := hdelivers
      exact ⟨exchange, List.mem_append_right _ hmem, hfrom⟩

end Sourced

/-! ## Documents over whole runs -/

section

variable [Ticks τ] {session : Session τ} {url : String} {document : Value}

theorem kept?_act (hkept : session.client.kept? url = some document) (action : Action τ) :
    (session.act action).client.kept? url = some document := by
  cases learns_act session action with
  | nothing hclient =>
      rw [hclient]
      exact hkept
  | document hnone _ hclient =>
      rw [hclient]
      refine Client.kept?_keep_of_kept ?_ ?_ _
      · exact hkept
      · exact hnone

theorem kept?_acts (hkept : session.client.kept? url = some document)
    (actions : List (Action τ)) : (session.acts actions).client.kept? url = some document := by
  induction actions generalizing session with
  | nil => exact hkept
  | cons action rest ih => exact ih (kept?_act hkept action)

/-- **What a fetch gives.** In a run that starts with a client that keeps nothing yet, whatever servers
reply and whoever calls the breaker in between, a document that a fetch gives was delivered by the
address that was asked for. If the client keeps documents, then every later fetch of the address gives
this one and does nothing but make a note; if it keeps none, then the fetch has made a request. A fetch
that fails leaves the kept documents as they were. -/
theorem fetch_documents (start : Session τ) (hnew : start.client.kept = [])
    (actions : List (Action τ)) (url : String) (headers : Value) :
    let reached := start.acts actions
    let outcome := Http.fetch url headers reached
    (∀ document, outcome.1 = .ok document →
      (∃ exchange ∈ start.host.exchanges outcome.2.host, Delivers exchange url document) ∧
      (start.client.keeps = true → ∀ later headers',
        Http.fetch url headers' (outcome.2.acts later)
          = (.ok document, (outcome.2.acts later).note .debug ("cache hit for " ++ url))) ∧
      (start.client.keeps = false →
        reached.host.requests.length < outcome.2.host.requests.length)) ∧
    (∀ error, outcome.1 = .error error → outcome.2.client.kept = reached.client.kept) := by
  intro reached outcome
  have hreached : Sourced start reached := (Sourced.refl hnew).acts actions
  have hfollows : reached.host.Follows outcome.2.host := follows_fetch reached url headers
  have hgets : reached.Gets url outcome := gets_fetch reached url headers
  constructor
  · intro document hresult
    refine ⟨hreached.exists_delivers hgets hfollows hresult, ?_, ?_⟩
    · intro hkeeps later headers'
      rw [← hreached.keeps_eq] at hkeeps
      have hkept := hgets.kept?_eq hkeeps hresult
      exact fetch_of_kept (kept?_acts hkept later) headers'
    · intro hkeeps
      rw [← hreached.keeps_eq] at hkeeps
      exact hgets.requests_lt hfollows hkeeps hresult
  · intro error hresult
    exact hgets.kept_eq_of_error hresult

end

/-- A line on which an empty document waits, and nothing after it. -/
def nullLine : Host Rat :=
  { shakyLine with replies := [.response ⟨200, [], "null", ""⟩] }

/-- An empty document is kept like any other, and is given while the breaker is open. -/
theorem fetch_documents_null :
    let start : Session Rat := ⟨impatient, nullLine⟩
    let fetched := Http.fetch "http://h/t" .null start
    let opened := fetched.2.acts [.failure]
    start.client.kept = [] ∧ fetched.1 = .ok .null ∧ opened.client.breaker.isOpen = true ∧
      Http.fetch "http://h/t" .null opened
        = (.ok .null, opened.note .debug "cache hit for http://h/t") := by
  intro start fetched opened
  have hfetched : fetched.1 = .ok .null := by rfl
  have hopened : opened.client.breaker.isOpen = true := by decide +kernel
  obtain ⟨hdocument, -⟩ := fetch_documents start rfl [] "http://h/t" .null
  obtain ⟨-, hagain, -⟩ := hdocument .null hfetched
  exact ⟨rfl, hfetched, hopened, hagain rfl [.failure] .null⟩

end Session

end Ssvc.Http
