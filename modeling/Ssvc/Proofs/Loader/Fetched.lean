import Ssvc.Proofs.Http.Cache
import Ssvc.Proofs.Loader

set_option autoImplicit false

/-! # A source that has been fetched

Once a loader has got something from a server, its client keeps it, whatever it is: a tree, a tree with
a fault, or no tree at all. From then on a load asks nobody and ends in the same way each time, because
the way in which it ends depends on the source and on what was got from it alone. That the client goes
on keeping it is an invariant of everything that can happen in between. -/

namespace Ssvc

open Time (Ticks)

namespace Loader

variable {τ : Type}

/-! ## What a load makes of a value -/

/-- The tree in a value that a source gives, or what is reported about it. -/
def readTree (source : Source) (value : Value) : Except LoadError Tree :=
  match value with
  | .obj fields =>
    (Tree.read (.obj fields)).mapError fun cause => .malformed source.text (.shape cause)
  | _ => .error (.notMapping source.text)

/-- How a load ends that has got so far. -/
def conclude (loader : Loader τ) (reading : Except LoadError Tree) (host : Host τ) :
    Except LoadFailure Tree × Loader τ × Host τ :=
  match reading with
  | .error error => loader.fail error host
  | .ok tree => loader.succeed tree (host.note (Journal.treeNotes tree))

/-- The record of a load without its time. -/
def timeless (health : Health) : Health :=
  { health with lastLoad := none }

section

variable [Ticks τ] {loader : Loader τ} {host after : Host τ} {client : Http.Client τ} {value : Value}

theorem load_of_value
    (h : loader.sourceValue host = (.ok value, { loader with client }, after)) :
    loader.load host = { loader with client }.conclude (readTree loader.source value) after := by
  rw [load, document, h]
  cases value with
  | obj fields =>
      dsimp only [Except.bind, requireMapping, readTree]
      cases Tree.read (.obj fields) <;> rfl
  | _ => rfl

theorem document_of_value
    (h : loader.sourceValue host = (.ok value, { loader with client }, after)) :
    (loader.document host).2 = ({ loader with client }, after) := by
  rw [document, h]

end

/-- What a load gives depends on what it has read alone. -/
theorem fst_conclude (loader loader' : Loader τ) (reading : Except LoadError Tree)
    (host host' : Host τ) :
    (loader.conclude reading host).1 = (loader'.conclude reading host').1 := by
  cases reading with
  | error error => rfl
  | ok tree =>
      simp only [conclude, succeed]
      cases Value.joinTexts ", " tree.steps <;> rfl

/-- So does what it records, apart from the source and the time. -/
theorem health_conclude (loader loader' : Loader τ) (hsource : loader.source = loader'.source)
    (reading : Except LoadError Tree) (host host' : Host τ) :
    timeless (loader.conclude reading host).2.1.health
      = timeless (loader'.conclude reading host').2.1.health := by
  cases reading with
  | error error =>
      simp only [conclude, fail, timeless, hsource]
  | ok tree =>
      simp only [conclude, succeed]
      cases Value.joinTexts ", " tree.steps <;> simp only [timeless, hsource]

/-- What is left of a loader and its surroundings is the same, but for the record and the notes. -/
theorem conclude_frame (loader : Loader τ) (reading : Except LoadError Tree) (host : Host τ) :
    ∃ health notes, (loader.conclude reading host).2 = ({ loader with health }, { host with notes }) ∧
      health.lastLoad = some host.civilClock := by
  cases reading with
  | error error => exact ⟨_, _, rfl, rfl⟩
  | ok tree =>
      simp only [conclude, succeed]
      cases Value.joinTexts ", " tree.steps with
      | error cause => exact ⟨_, _, rfl, rfl⟩
      | ok steps => exact ⟨_, _, rfl, rfl⟩

/-! ## Loaders whose source is kept -/

theorem exists_address {source : Source} (h : source.isRemote = true) :
    ∃ name, source = .named name ∧ Source.isAddress name = true := by
  cases source with
  | builtIn => cases h
  | named name => exact ⟨name, rfl, h⟩

/-- Holds of the loaders whose source is on a server and whose client keeps a value for it. -/
structure Pins (loader : Loader τ) (name : String) (value : Value) : Prop where
  source_eq : loader.source = .named name
  isAddress : Source.isAddress name = true
  kept_eq : loader.client.kept? name = some value

section

variable [Ticks τ] {loader : Loader τ} {host : Host τ} {name : String} {value : Value}

/-- A client that keeps documents keeps whatever has been got from the source. -/
theorem pins_of_sourceValue (hsource : loader.source = .named name)
    (haddress : Source.isAddress name = true) (hkeeps : loader.client.keeps = true)
    (h : (loader.sourceValue host).1 = .ok value) :
    ∃ client after, loader.sourceValue host = (.ok value, { loader with client }, after) ∧
      ({ loader with client } : Loader τ).Pins name value := by
  have hvalue : loader.sourceValue host = loader.fetchDocument name host := by
    simp only [sourceValue, hsource, haddress, if_true]
  rw [hvalue] at h ⊢
  have hgets := Http.Session.gets_fetch ⟨loader.client, host⟩ name .null
  rw [fetchDocument] at h ⊢
  rcases hfetch : Http.fetch name .null ⟨loader.client, host⟩ with ⟨error | document, session⟩
  · rw [hfetch] at h
    cases h
  · rw [hfetch] at h hgets
    cases h
    exact ⟨session.client, session.host, rfl, hsource, haddress, hgets.kept?_eq hkeeps rfl⟩

namespace Pins

/-- What is kept is given without asking anybody. -/
theorem sourceValue_eq (h : loader.Pins name value) (host : Host τ) :
    ∃ notes, loader.sourceValue host = (.ok value, loader, { host with notes }) := by
  let session : Http.Session τ := ⟨loader.client, host⟩
  have hfetch : Http.fetch name .null session
      = (.ok value, session.note .debug ("cache hit for " ++ name)) :=
    Http.fetch_of_kept h.kept_eq .null
  have hvalue : loader.sourceValue host = loader.fetchDocument name host := by
    simp only [sourceValue, h.source_eq, h.isAddress, if_true]
  refine ⟨(session.note .debug ("cache hit for " ++ name)).host.notes, ?_⟩
  rw [hvalue, fetchDocument, hfetch]
  rfl

theorem load_eq (h : loader.Pins name value) (host : Host τ) :
    ∃ notes, loader.load host = loader.conclude (readTree loader.source value) { host with notes } := by
  obtain ⟨notes, hvalue⟩ := h.sourceValue_eq host
  exact ⟨notes, load_of_value hvalue⟩

/-- A load that asks nobody ends as any load of the same value from the same source. -/
theorem load_again (h : loader.Pins name value) (host : Host τ) (first : Loader τ)
    (hsource : loader.source = first.source) (fetched : Host τ) :
    let again := loader.load host
    let ended := first.conclude (readTree first.source value) fetched
    (again.2.2.requests = host.requests ∧ again.2.2.replies = host.replies ∧
      again.2.2.waits = host.waits) ∧
    again.1 = ended.1 ∧ timeless again.2.1.health = timeless ended.2.1.health ∧
    again.2.1.health.lastLoad = some host.civilClock := by
  obtain ⟨notes, hload⟩ := h.load_eq host
  rw [hsource] at hload
  obtain ⟨health, notes', hframe, hmoment⟩ := conclude_frame loader
    (readTree first.source value) { host with notes }
  rw [hload]
  refine ⟨?_, fst_conclude _ _ _ _ _, health_conclude _ _ hsource _ _ _, ?_⟩
  · rw [hframe]
    exact ⟨rfl, rfl, rfl⟩
  · rw [hframe]
    exact hmoment

omit [Ticks τ] in
theorem of_health (h : loader.Pins name value) (health : Health) :
    ({ loader with health } : Loader τ).Pins name value :=
  ⟨h.source_eq, h.isAddress, h.kept_eq⟩

omit [Ticks τ] in
theorem conclude (h : loader.Pins name value) (reading : Except LoadError Tree) (host : Host τ) :
    (loader.conclude reading host).2.1.Pins name value := by
  obtain ⟨health, notes, hframe, -⟩ := conclude_frame loader reading host
  rw [hframe]
  exact h.of_health health

end Pins

end

/-! ## What can happen in between -/

/-- What happens to a loader and its surroundings: it is used, its client is used or the breaker called
from elsewhere, time passes, or more replies come in. -/
inductive Happening (τ : Type) where
  | load
  | document
  | client (action : Http.Session.Action τ)
  | replies (more : List Http.Reply)

/-- A loader and its surroundings after something has happened. -/
def step [Ticks τ] (state : Loader τ × Host τ) : Happening τ → Loader τ × Host τ
  | .load => (state.1.load state.2).2
  | .document => (state.1.document state.2).2
  | .client action =>
    let session := Http.Session.act ⟨state.1.client, state.2⟩ action
    ({ state.1 with client := session.client }, session.host)
  | .replies more => (state.1, { state.2 with replies := state.2.replies ++ more })

/-- A loader and its surroundings after some things have happened. -/
def after [Ticks τ] (state : Loader τ × Host τ) (happenings : List (Happening τ)) :
    Loader τ × Host τ :=
  happenings.foldl step state

section

variable [Ticks τ] {name : String} {value : Value}

theorem Pins.step {state : Loader τ × Host τ} (h : state.1.Pins name value)
    (happening : Happening τ) : (Loader.step state happening).1.Pins name value := by
  cases happening with
  | load =>
      obtain ⟨notes, hload⟩ := h.load_eq state.2
      show (state.1.load state.2).2.1.Pins name value
      rw [hload]
      exact h.conclude _ _
  | document =>
      obtain ⟨notes, hvalue⟩ := h.sourceValue_eq state.2
      show (state.1.document state.2).2.1.Pins name value
      rw [document_of_value hvalue]
      exact h
  | client action =>
      let session : Http.Session τ := ⟨state.1.client, state.2⟩
      have hkept : session.client.kept? name = some value := h.kept_eq
      exact ⟨h.source_eq, h.isAddress, Http.Session.kept?_act hkept action⟩
  | replies more => exact h

theorem Pins.after {state : Loader τ × Host τ} (h : state.1.Pins name value)
    (happenings : List (Happening τ)) : (Loader.after state happenings).1.Pins name value := by
  induction happenings generalizing state with
  | nil => exact h
  | cons happening rest ih => exact ih (h.step happening)

/-- **A source that has been fetched is settled.** Let a loader whose client keeps documents have got
some value from a server, in a load or when its document was asked for. Then whatever happens
afterwards, a load makes no request, takes no reply and does not wait. It ends as a load would have ended
that first time, and leaves the same record but for the time. -/
theorem load_pinned (loader : Loader τ) (host : Host τ) (hremote : loader.source.isRemote = true)
    (hkeeps : loader.client.keeps = true) {value : Value}
    (hobtained : (loader.sourceValue host).1 = .ok value) {first : Happening τ}
    (hfirst : first = .load ∨ first = .document) (later : List (Happening τ)) :
    let reached := after (loader, host) (first :: later)
    let again := reached.1.load reached.2
    (again.2.2.requests = reached.2.requests ∧ again.2.2.replies = reached.2.replies ∧
      again.2.2.waits = reached.2.waits) ∧
    again.1 = (loader.load host).1 ∧
    timeless again.2.1.health = timeless (loader.load host).2.1.health ∧
    again.2.1.health.lastLoad = some reached.2.civilClock := by
  obtain ⟨name, hsource, haddress⟩ := exists_address hremote
  obtain ⟨client, fetched, hvalue, hpins⟩ := pins_of_sourceValue hsource haddress hkeeps hobtained
  have hload := load_of_value hvalue
  have hstarted : (Loader.step (loader, host) first).1.Pins name value := by
    rcases hfirst with rfl | rfl
    · show (loader.load host).2.1.Pins name value
      rw [hload]
      exact hpins.conclude _ _
    · show (loader.document host).2.1.Pins name value
      rw [document_of_value hvalue]
      exact hpins
  intro reached again
  have hreached : reached.1.Pins name value := hstarted.after later
  have hsame : reached.1.source = loader.source := hreached.source_eq.trans hsource.symm
  rw [hload]
  exact hreached.load_again reached.2 { loader with client } hsame fetched

end

/-- A loader whose source is a list on a server. -/
def ofList : Loader Rat :=
  .new (.named "http://h/t") Http.Session.impatient

/-- A line that gives a list. -/
def listLine : Host Rat :=
  { Http.Session.shakyLine with replies := [.response ⟨200, [], "[]", ""⟩] }

/-- The list is given for good, although a tree comes in later and the breaker opens. -/
theorem load_pinned_list :
    let later : List (Happening Rat) := [.replies [.response ⟨200, [], "\x7b\x7d", ""⟩],
      .client .failure, .client (.event (.wait 20 20000000))]
    let reached := after (ofList, listLine) (.document :: later)
    let again := reached.1.load reached.2
    ofList.source.isRemote = true ∧ ofList.client.keeps = true ∧
      (ofList.sourceValue listLine).1 = .ok (.arr []) ∧
      reached.1.client.breaker.isOpen = true ∧ reached.2.replies.length = 1 ∧
      again.2.2.requests = reached.2.requests ∧
      again.1 = .error (.reported (.notMapping "http://h/t")) := by
  intro later reached again
  have hremote : ofList.source.isRemote = true := by decide +kernel
  have hobtained : (ofList.sourceValue listLine).1 = .ok (.arr []) := by rfl
  have hopen : reached.1.client.breaker.isOpen = true := by decide +kernel
  obtain ⟨⟨hrequests, -, -⟩, hresult, -, -⟩ :=
    load_pinned ofList listLine hremote rfl hobtained (Or.inr rfl) later
  refine ⟨hremote, rfl, hobtained, hopen, ?_, hrequests, ?_⟩
  · decide +kernel
  · show (reached.1.load reached.2).1 = _
    rw [hresult]
    rfl

end Loader

end Ssvc
