set_option autoImplicit false

/-! # The workflow table

Documents go through stages. Which stage follows which, and which roles may move a document, is a
fixed table; so is who may comment in which stage. -/

namespace Ssvc.Workflow

/-- A stage in the life of a document. -/
inductive State where
  | new
  | read
  | assessing
  | review
  | archived
  | deleted
  deriving DecidableEq, Repr, Inhabited

/-- A role that somebody can have. -/
inductive Role where
  | admin
  | importer
  | editor
  | reviewer
  | auditor
  deriving DecidableEq, Repr, Inhabited

namespace State

/-- All states in order. -/
def all : List State := [new, read, assessing, review, archived, deleted]

/-- The name of a state. -/
def name : State → String
  | new => "new"
  | read => "read"
  | assessing => "assessing"
  | review => "review"
  | archived => "archived"
  | deleted => "deleted"

theorem mem_all (s : State) : s ∈ all := by cases s <;> decide

end State

namespace Role

/-- All roles in order. -/
def all : List Role := [admin, importer, editor, reviewer, auditor]

/-- The name of a role. -/
def name : Role → String
  | admin => "admin"
  | importer => "importer"
  | editor => "editor"
  | reviewer => "reviewer"
  | auditor => "auditor"

/-- The role with a name. -/
def ofName? (name : String) : Option Role :=
  all.find? fun role => role.name = name

theorem mem_all (r : Role) : r ∈ all := by cases r <;> decide

@[simp] theorem ofName?_name (r : Role) : ofName? r.name = some r := by cases r <;> decide

end Role

/-- An edge of the table: a holder of one of the roles may move a document along it. -/
structure Edge where
  source : State
  target : State
  roles : List Role
  deriving DecidableEq, Repr

/-- All edges, in the order in which choices are offered. -/
def edges : List Edge := [
  ⟨.new, .read, [.editor]⟩,
  ⟨.read, .assessing, [.editor]⟩,
  ⟨.assessing, .review, [.editor]⟩,
  ⟨.review, .assessing, [.reviewer]⟩,
  ⟨.review, .archived, [.reviewer]⟩,
  ⟨.review, .deleted, [.reviewer]⟩,
  ⟨.read, .deleted, [.editor, .reviewer]⟩,
  ⟨.assessing, .deleted, [.editor, .reviewer]⟩]

/-- Who may comment in a state. -/
inductive Commenting where
  | everyone
  | only (roles : List Role)
  deriving DecidableEq, Repr

/-- The states in which there is commenting at all. -/
def commenting : List (State × Commenting) := [
  (.read, .everyone),
  (.assessing, .everyone),
  (.review, .only [.reviewer, .editor, .admin]),
  (.archived, .only [.editor, .admin]),
  (.deleted, .only [.admin])]

end Ssvc.Workflow
