import Ssvc.Proofs.Workflow

set_option autoImplicit false

/-! # The history of a document

A document starts out new, and everyone who moves it must be allowed to. This module says what lies
behind a document that has come to a state: the moves that led it to its first review, and as many
returns from review as there were other reviews. A move along an edge of the table preserves that,
and so does every run of moves. What is archived has therefore been worked on by an editor and
accepted by a reviewer, whatever their tokens are. -/

namespace Ssvc.Workflow

/-! ## Moves -/

/-- A move of a document from one state to another, and who makes it. -/
structure Move where
  who : Holder
  source : Value
  target : Value

/-- Holds of the moves between two states. -/
def Move.goes (move : Move) (source target : State) : Bool :=
  names move.source source && names move.target target

/-- Holds of those who hold the token of a role. -/
def Machine.Has (machine : Machine) (who : Holder) (role : Role) : Prop :=
  ∃ held, machine.held who = .ok held ∧ machine.token role ∈ held

/-- The runs of a document: moves of which each one starts where the one before it has ended, and is
allowed to the one who makes it. -/
inductive Run (machine : Machine) (start : Value) : List Move → Value → Prop
  | start : Run machine start [] start
  | move {moves : List Move} {source target : Value} (who : Holder)
      (run : Run machine start moves source)
      (hallowed : machine.allowed who source target = .ok true) :
      Run machine start (moves ++ [⟨who, source, target⟩]) target

/-- Holds of the moves along an edge that are made by a holder of a token of one of its roles. -/
def Move.Follows (machine : Machine) (move : Move) (edge : Edge) : Prop :=
  edge.Links move.source move.target ∧ ∃ role ∈ edge.roles, machine.Has move.who role

variable {machine : Machine} {start state : Value} {moves : List Move} {move : Move} {edge : Edge}

theorem Move.goes_iff (h : edge.Links move.source move.target) (source target : State) :
    move.goes source target = true ↔ edge.source = source ∧ edge.target = target := by
  rw [goes, Bool.and_eq_true, names_iff, names_iff, h.1, h.2, Value.str.injEq, Value.str.injEq,
    State.name_inj, State.name_inj]

/-- A move that is allowed follows some edge. -/
theorem exists_follows (h : machine.hasTextTokens = true) (move : Move)
    (hallowed : machine.allowed move.who move.source move.target = .ok true) :
    ∃ edge ∈ edges, move.Follows machine edge := by
  obtain ⟨held, hheld, hopens⟩ := Machine.allowed_eq_true_iff.1 hallowed
  obtain ⟨edge, hedge, hlinks, role, hrole, htoken⟩ := (Machine.opens_iff h).1 hopens
  exact ⟨edge, hedge, hlinks, role, hrole, held, hheld, htoken⟩

theorem Run.exists_follows (h : machine.hasTextTokens = true)
    (run : Run machine start moves state) :
    ∀ move ∈ moves, ∃ edge ∈ edges, move.Follows machine edge := by
  induction run with
  | start => simp
  | move who run hallowed ih =>
      intro move hmove
      rcases List.mem_append.1 hmove with hmove | hmove
      · exact ih move hmove
      · rw [List.mem_singleton.1 hmove]
        exact Workflow.exists_follows h _ hallowed

/-! ## What lies behind a state -/

/-- The moves that lead a document to its first review. -/
def wayToReview : List (State × State) :=
  [(.new, .read), (.read, .assessing), (.assessing, .review)]

namespace State

/-- How many of these moves lie behind a document in a state; nothing is known of a deleted one. -/
def stage : State → Nat
  | new => 0
  | read => 1
  | assessing => 2
  | review => 3
  | archived => 3
  | deleted => 0

/-- How many more reviews than returns lie behind a document in a state. -/
def reviews : State → Nat
  | review => 1
  | archived => 1
  | _ => 0

end State

/-- What lies behind a document that has come to a state. -/
structure History (moves : List Move) (state : State) : Prop where
  passed : ∀ way ∈ wayToReview.take state.stage, ∃ move ∈ moves, move.goes way.1 way.2 = true
  balanced : state ≠ .deleted →
    moves.countP (·.goes .assessing .review)
      = moves.countP (·.goes .review .assessing) + state.reviews

theorem history_new : History [] .new :=
  ⟨by simp [State.stage], fun _ => rfl⟩

/-- What lies behind the end of an edge is what lies behind its start, or the edge itself. -/
theorem mem_wayToReview_step (hedge : edge ∈ edges) {way : State × State}
    (hway : way ∈ wayToReview.take edge.target.stage) :
    way ∈ wayToReview.take edge.source.stage ∨ way = (edge.source, edge.target) := by
  have hall : ∀ edge ∈ edges, ∀ way ∈ wayToReview.take edge.target.stage,
      way ∈ wayToReview.take edge.source.stage ∨ way = (edge.source, edge.target) := by decide
  exact hall edge hedge way hway

/-- An edge into a review or back out of it changes the balance by one, no other edge does. -/
theorem reviews_step (hedge : edge ∈ edges) (htarget : edge.target ≠ .deleted) :
    edge.source.reviews + (if edge.source = .assessing ∧ edge.target = .review then 1 else 0)
      = edge.target.reviews
        + (if edge.source = .review ∧ edge.target = .assessing then 1 else 0) := by
  have hall : ∀ edge ∈ edges, edge.target ≠ .deleted →
      edge.source.reviews + (if edge.source = .assessing ∧ edge.target = .review then 1 else 0)
        = edge.target.reviews
          + (if edge.source = .review ∧ edge.target = .assessing then 1 else 0) := by decide
  exact hall edge hedge htarget

theorem source_of_mem_edges (hedge : edge ∈ edges) :
    edge.source ≠ .archived ∧ edge.source ≠ .deleted ∧ edge.source ≠ edge.target := by
  have hall : ∀ edge ∈ edges,
      edge.source ≠ .archived ∧ edge.source ≠ .deleted ∧ edge.source ≠ edge.target := by decide
  exact hall edge hedge

theorem countP_goes_append (h : edge.Links move.source move.target) (source target : State) :
    (moves ++ [move]).countP (·.goes source target)
      = moves.countP (·.goes source target)
        + if edge.source = source ∧ edge.target = target then 1 else 0 := by
  rw [List.countP_append, List.countP_singleton]
  simp only [Move.goes_iff h]

/-- A move along an edge preserves what lies behind a document. -/
theorem History.step (hedge : edge ∈ edges) (hlinks : edge.Links move.source move.target)
    (history : History moves edge.source) : History (moves ++ [move]) edge.target := by
  refine ⟨fun way hway => ?_, fun htarget => ?_⟩
  · rcases mem_wayToReview_step hedge hway with hearlier | rfl
    · obtain ⟨earlier, hmem, hgoes⟩ := history.passed way hearlier
      exact ⟨earlier, List.mem_append_left _ hmem, hgoes⟩
    · exact ⟨move, by simp, (Move.goes_iff hlinks _ _).2 ⟨rfl, rfl⟩⟩
  · have hbalanced := history.balanced (source_of_mem_edges hedge).2.1
    have hstep := reviews_step hedge htarget
    rw [countP_goes_append hlinks, countP_goes_append hlinks, hbalanced]
    omega

/-- So does a run: wherever a new document is taken, its history agrees with its state. -/
theorem Run.history (h : machine.hasTextTokens = true)
    (run : Run machine (.str State.new.name) moves state) :
    ∃ s : State, state = .str s.name ∧ History moves s := by
  induction run with
  | start => exact ⟨.new, rfl, history_new⟩
  | @move moves source target who run hallowed ih =>
      obtain ⟨s, rfl, hhistory⟩ := ih
      obtain ⟨edge, hedge, hlinks, -⟩ :=
        Workflow.exists_follows h ⟨who, .str s.name, target⟩ hallowed
      obtain ⟨hsource, rfl⟩ := hlinks
      obtain rfl := State.name_inj.1 (Value.str.inj hsource)
      exact ⟨edge.target, rfl, hhistory.step hedge ⟨rfl, rfl⟩⟩

/-! ## Who has moved it -/

/-- Whoever moves a document holds the token of an editor or of a reviewer. -/
theorem Move.Follows.has_either (hedge : edge ∈ edges) (hfollows : move.Follows machine edge) :
    machine.Has move.who .editor ∨ machine.Has move.who .reviewer := by
  have hall : ∀ edge ∈ edges, ∀ role ∈ edge.roles, role = .editor ∨ role = .reviewer := by decide
  obtain ⟨-, role, hrole, hhas⟩ := hfollows
  rcases hall edge hedge role hrole with rfl | rfl
  · exact Or.inl hhas
  · exact Or.inr hhas

/-- Every move on the way to review is that of an editor. -/
theorem Move.Follows.has_editor (hedge : edge ∈ edges) (hfollows : move.Follows machine edge)
    {way : State × State} (hway : way ∈ wayToReview) (hgoes : move.goes way.1 way.2 = true) :
    machine.Has move.who .editor := by
  have hall : ∀ edge ∈ edges, (edge.source, edge.target) ∈ wayToReview →
      edge.roles = [.editor] := by decide
  obtain ⟨hlinks, role, hrole, hhas⟩ := hfollows
  obtain ⟨hsource, htarget⟩ := (Move.goes_iff hlinks way.1 way.2).1 hgoes
  rw [hall edge hedge (by rwa [hsource, htarget]), List.mem_singleton] at hrole
  exact hrole ▸ hhas

/-- A move into the archive is that of a reviewer, from review. -/
theorem Move.Follows.archives (hedge : edge ∈ edges) (hfollows : move.Follows machine edge)
    (htarget : move.target = .str State.archived.name) :
    move.goes .review .archived = true ∧ machine.Has move.who .reviewer := by
  have hall : ∀ edge ∈ edges, edge.target = .archived →
      edge.source = .review ∧ edge.roles = [.reviewer] := by decide
  obtain ⟨hlinks, role, hrole, hhas⟩ := hfollows
  have harchived : edge.target = .archived :=
    State.name_inj.1 (Value.str.inj (hlinks.2.symm.trans htarget))
  obtain ⟨hreview, hroles⟩ := hall edge hedge harchived
  rw [hroles, List.mem_singleton] at hrole
  exact ⟨(Move.goes_iff hlinks _ _).2 ⟨hreview, harchived⟩, hrole ▸ hhas⟩

/-- A run that ends elsewhere than it starts has a last move, which ends there. -/
theorem Run.exists_last (run : Run machine start moves state) (hne : state ≠ start) :
    ∃ move, moves.getLast? = some move ∧ move.target = state := by
  cases run with
  | start => exact absurd rfl hne
  | move who run hallowed => exact ⟨_, List.getLast?_concat, rfl⟩

/-- **Nothing is archived without an editor and a reviewer.** A new document that has come to the
archive was read, taken up and given to review, each time by an editor; it was archived by a
reviewer, with the last move; and it was given to review once more than it was returned. In every
run, no move starts at an archived or a deleted document or keeps its state, and nobody makes one
without the token of an editor or a reviewer. -/
theorem four_eyes (h : machine.hasTextTokens = true) (run : Run machine start moves state) :
    (start = .str State.new.name → state = .str State.archived.name →
      (∀ way ∈ [(State.new, State.read), (.read, .assessing), (.assessing, .review)],
        (∃ move ∈ moves, move.goes way.1 way.2 = true) ∧
          ∀ move ∈ moves, move.goes way.1 way.2 = true → machine.Has move.who .editor) ∧
      (∃ move, moves.getLast? = some move ∧ move.goes .review .archived = true ∧
        machine.Has move.who .reviewer) ∧
      moves.countP (·.goes .assessing .review) = moves.countP (·.goes .review .assessing) + 1) ∧
    ∀ move ∈ moves,
      move.source ≠ .str State.archived.name ∧ move.source ≠ .str State.deleted.name ∧
        move.source ≠ move.target ∧
        (machine.Has move.who .editor ∨ machine.Has move.who .reviewer) := by
  have hfollows := Run.exists_follows h run
  refine ⟨?_, fun move hmove => ?_⟩
  · rintro rfl rfl
    obtain ⟨s, hs, hhistory⟩ := Run.history h run
    obtain rfl := State.name_inj.1 (Value.str.inj hs)
    refine ⟨fun way hway => ⟨hhistory.passed way hway, fun move hmove hgoes => ?_⟩, ?_, ?_⟩
    · obtain ⟨edge, hedge, hfollow⟩ := hfollows move hmove
      exact hfollow.has_editor hedge hway hgoes
    · obtain ⟨move, hlast, htarget⟩ := run.exists_last (by simp [State.name])
      obtain ⟨edge, hedge, hfollow⟩ := hfollows move (List.mem_of_getLast? hlast)
      exact ⟨move, hlast, hfollow.archives hedge htarget⟩
    · exact hhistory.balanced (by decide)
  · obtain ⟨edge, hedge, hfollow⟩ := hfollows move hmove
    have heither := hfollow.has_either hedge
    obtain ⟨⟨hsource, htarget⟩, -⟩ := hfollow
    obtain ⟨harchived, hdeleted, hends⟩ := source_of_mem_edges hedge
    rw [hsource, htarget]
    simp only [ne_eq, Value.str.injEq, State.name_inj]
    exact ⟨harchived, hdeleted, hends, heither⟩

/-- A deployment that has another word for editors. -/
def clerks : Machine := ⟨[(.editor, "bearbeiter")]⟩

theorem read_clerks : Machine.read (.obj [("editor", "bearbeiter")]) = .ok clerks := rfl

theorem four_eyes_after_return :
    clerks.hasTextTokens = true ∧
      ∃ moves, Run clerks (.str State.new.name) moves (.str State.archived.name) ∧
        moves.countP (·.goes .review .assessing) = 1 ∧
        moves.countP (·.goes .assessing .review) = 2 ∧
        ∃ move, moves.getLast? = some move ∧ clerks.Has move.who .reviewer := by
  have htext : clerks.hasTextTokens = true :=
    Machine.hasTextTokens_of_read read_clerks (by simp [Value.isStr])
  have hread : Run clerks "new" _ "read" := .move (.value "bearbeiter") .start rfl
  have htaken : Run clerks "new" _ "assessing" := .move (.list [.role .editor]) hread rfl
  have hgiven : Run clerks "new" _ "review" := .move (.one .editor) htaken rfl
  have hreturned : Run clerks "new" _ "assessing" := .move (.value "reviewer") hgiven rfl
  have hagain : Run clerks "new" _ "review" := .move (.value "bearbeiter") hreturned rfl
  have harchived : Run clerks "new" _ "archived" := .move (.list [.token "reviewer"]) hagain rfl
  obtain ⟨-, ⟨move, hlast, -, hhas⟩, hcount⟩ := (four_eyes htext harchived).1 rfl rfl
  exact ⟨htext, _, harchived, rfl, hcount, move, hlast, hhas⟩

end Ssvc.Workflow
