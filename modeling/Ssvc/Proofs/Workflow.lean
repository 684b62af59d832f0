import Ssvc.Workflow.Aliases
import Ssvc.Proofs.Value.Texts

set_option autoImplicit false

/-! # Tokens and edges

The workflow table names roles, but callers hold tokens. This module says what each question about
the table comes down to where tokens are texts: a holder is known by the tokens that it holds, and
an edge is open to it when the token of one of the edge's roles is among them. Nothing after it
looks at how the table is searched. -/

namespace Ssvc.Workflow

/-! ## Tokens that are texts -/

/-- Holds of the machines that call roles by texts only. -/
def Machine.hasTextTokens (machine : Machine) : Bool :=
  machine.aliases.all fun entry => entry.2.isStr

/-- Holds of roles, and of the tokens that are texts. -/
def Grant.isText : Grant → Bool
  | .role _ => true
  | .token v => v.isStr

/-- Holds of the holders of roles and of tokens that are texts. -/
def Holder.isText (holder : Holder) : Bool :=
  match holder.grants with
  | .ok grants => grants.all Grant.isText
  | .error _ => false

theorem Holder.exists_grants {holder : Holder} (h : holder.isText = true) :
    ∃ grants, holder.grants = .ok grants ∧ ∀ grant ∈ grants, grant.isText = true := by
  unfold isText at h
  split at h
  · next grants hgrants => exact ⟨grants, hgrants, List.all_eq_true.1 h⟩
  · cases h

/-- The entries of an object are its fields. -/
theorem readEntries_obj (fields : Fields) :
    readEntries (.obj fields) = .ok (fields.map fun field => (.str field.1, field.2)) := by
  cases fields <;> rfl

/-- The machine of a deployment that calls some roles by other tokens, given by their names. -/
def Machine.ofAliases (fields : Fields) : Machine :=
  ⟨fields.filterMap fun field => (Role.ofName? field.1).map fun role => (role, field.2)⟩

theorem Machine.hasTextTokens_ofAliases {fields : Fields}
    (htext : ∀ field ∈ fields, field.2.isStr = true) :
    (Machine.ofAliases fields).hasTextTokens = true := by
  rw [hasTextTokens, List.all_eq_true]
  intro entry hentry
  obtain ⟨field, hfield, hrole⟩ := List.mem_filterMap.1 hentry
  obtain ⟨role, -, rfl⟩ := Option.map_eq_some_iff.1 hrole
  exact htext field hfield

/-- The roles of an object's entries are those that its names are of. -/
theorem Machine.ofAliases_eq (fields : Fields) :
    (⟨(fields.map fun field => (Value.str field.1, field.2)).filterMap fun entry =>
      (entryRole? entry.1).map fun role => (role, entry.2)⟩ : Machine) = ofAliases fields := by
  rw [ofAliases, List.filterMap_map]
  rfl

/-- A machine that was read from an object of texts calls roles by texts. -/
theorem Machine.hasTextTokens_of_read {fields : Fields} {machine : Machine}
    (h : Machine.read (.obj fields) = .ok machine)
    (htext : ∀ field ∈ fields, field.2.isStr = true) : machine.hasTextTokens = true := by
  simp only [Machine.read, readEntries_obj, Traversal.bind_eq_ok_iff] at h
  obtain ⟨_, ⟨⟩, h⟩ := h
  split at h
  · simp [Traversal.bind_eq_ok_iff] at h
  · simp only [Traversal.bind_eq_ok_iff, ofAliases_eq] at h
    obtain ⟨_, -, h⟩ := h
    cases h
    exact hasTextTokens_ofAliases htext

/-! ## States and edges of the table -/

theorem State.name_inj {s t : State} : s.name = t.name ↔ s = t := by
  cases s <;> cases t <;> simp [name]

theorem names_iff {value : Value} {state : State} :
    names value state = true ↔ value = .str state.name :=
  Value.str_beq_iff state.name value

/-- There is at most one edge between two states. -/
theorem edge_eq_of_ends {edge other : Edge} (hedge : edge ∈ edges) (hother : other ∈ edges)
    (hsource : other.source = edge.source) (htarget : other.target = edge.target) :
    other = edge := by
  have hunique : ∀ edge ∈ edges, ∀ other ∈ edges,
      other.source = edge.source → other.target = edge.target → other = edge := by decide
  exact hunique edge hedge other hother hsource htarget

theorem roles_ne_nil {edge : Edge} (hedge : edge ∈ edges) : edge.roles ≠ [] := by
  have hall : ∀ edge ∈ edges, edge.roles ≠ [] := by decide
  exact hall edge hedge

/-- Holds of the edges that lead from one state to another, given by their names. -/
def Edge.Links (edge : Edge) (source target : Value) : Prop :=
  source = .str edge.source.name ∧ target = .str edge.target.name

theorem Edge.Links.unique {edge other : Edge} {source target : Value} (hedge : edge ∈ edges)
    (hother : other ∈ edges) (h : edge.Links source target) (h' : other.Links source target) :
    other = edge := by
  obtain ⟨rfl, rfl⟩ := h
  obtain ⟨hsource, htarget⟩ := h'
  refine edge_eq_of_ends hedge hother ?_ ?_
  · exact State.name_inj.1 (Value.str.inj hsource).symm
  · exact State.name_inj.1 (Value.str.inj htarget).symm

namespace Machine

variable {machine : Machine} {holder : Holder} {held : List Value} {source target : Value}

/-! ## What is held -/

theorem isStr_token (h : machine.hasTextTokens = true) (role : Role) :
    (machine.token role).isStr = true := by
  rw [token]
  rcases hlookup : machine.aliases.lookup role with _ | token
  · rfl
  · obtain ⟨before, after, hsplit, -⟩ := List.lookup_eq_some_iff.1 hlookup
    refine List.all_eq_true.1 h (role, token) ?_
    rw [hsplit]
    simp

theorem isStr_grantToken (h : machine.hasTextTokens = true) {grant : Grant}
    (hgrant : grant.isText = true) : (machine.grantToken grant).isStr = true := by
  cases grant with
  | role role => exact isStr_token h role
  | token v => exact hgrant

/-- A holder of texts holds the tokens of its grants. -/
theorem held_eq {grants : List Grant} (h : machine.hasTextTokens = true)
    (hgrants : holder.grants = .ok grants) (htext : ∀ grant ∈ grants, grant.isText = true) :
    machine.held holder = .ok (Value.distinct (grants.map machine.grantToken)) := by
  have hhashed : (grants.mapM fun grant => (machine.grantToken grant).hashed)
      = .ok (grants.map machine.grantToken) := by
    rw [Traversal.mapM_eq_ok_iff, List.forall₂_map_right_iff, List.forall₂_same]
    exact fun grant hgrant => Value.hashed_of_isStr (isStr_grantToken h (htext grant hgrant))
  rw [held, hgrants]
  simp only [Traversal.bind_eq_ok_iff]
  exact ⟨grants, rfl, _, hhashed, rfl⟩

theorem mem_held_iff {grants : List Grant} (h : machine.hasTextTokens = true)
    (hgrants : holder.grants = .ok grants) (htext : ∀ grant ∈ grants, grant.isText = true)
    (hheld : machine.held holder = .ok held) (token : Value) :
    token ∈ held ↔ ∃ grant ∈ grants, machine.grantToken grant = token := by
  rw [held_eq h hgrants htext] at hheld
  cases hheld
  have hstr : ∀ token ∈ grants.map machine.grantToken, token.isStr = true :=
    List.forall_mem_map.2 fun grant hgrant => isStr_grantToken h (htext grant hgrant)
  rw [Value.mem_distinct_iff hstr, List.mem_map]

theorem exists_held (h : machine.hasTextTokens = true) (hholder : holder.isText = true) :
    ∃ held, machine.held holder = .ok held ∧ ∀ token ∈ held, token.isStr = true := by
  obtain ⟨grants, hgrants, htext⟩ := Holder.exists_grants hholder
  have hheld := held_eq h hgrants htext
  refine ⟨_, hheld, fun token htoken => ?_⟩
  obtain ⟨grant, hgrant, rfl⟩ := (mem_held_iff h hgrants htext hheld token).1 htoken
  exact isStr_grantToken h (htext grant hgrant)

/-- Holding the tokens that somebody holds is holding the same, whatever roles they may name. -/
theorem exists_held_tokens (h : machine.hasTextTokens = true)
    (hstr : ∀ token ∈ held, token.isStr = true) :
    ∃ again, machine.held (.list (held.map .token)) = .ok again ∧
      ∀ token, token ∈ again ↔ token ∈ held := by
  have htext : ∀ grant ∈ held.map Grant.token, grant.isText = true := List.forall_mem_map.2 hstr
  have hagain : machine.held (.list (held.map .token))
      = .ok (Value.distinct ((held.map Grant.token).map machine.grantToken)) :=
    held_eq h rfl htext
  refine ⟨_, hagain, fun token => ?_⟩
  rw [mem_held_iff h rfl htext hagain]
  simp [grantToken]

/-! ## What opens an edge -/

/-- Holds when the token of one of some roles is among those held. -/
def Admits (machine : Machine) (roles : List Role) (held : List Value) : Prop :=
  ∃ role ∈ roles, machine.token role ∈ held

theorem mem_tokens_iff (h : machine.hasTextTokens = true) (roles : List Role) (token : Value) :
    token ∈ machine.tokens roles ↔ ∃ role ∈ roles, machine.token role = token := by
  have hstr : ∀ token ∈ roles.map machine.token, token.isStr = true :=
    List.forall_mem_map.2 fun role _ => isStr_token h role
  rw [tokens, Value.mem_distinct_iff hstr, List.mem_map]

theorem meets_tokens_iff (h : machine.hasTextTokens = true) (roles : List Role)
    (held : List Value) : meets (machine.tokens roles) held = true ↔ machine.Admits roles held := by
  simp only [meets, List.any_eq_true, mem_tokens_iff h]
  constructor
  · rintro ⟨_, ⟨role, hrole, rfl⟩, hheld⟩
    exact ⟨role, hrole, (Value.contains_iff_mem_of_isStr (isStr_token h role) held).1 hheld⟩
  · rintro ⟨role, hrole, hheld⟩
    exact ⟨_, ⟨role, hrole, rfl⟩,
      (Value.contains_iff_mem_of_isStr (isStr_token h role) held).2 hheld⟩

theorem opens_iff (h : machine.hasTextTokens = true) :
    machine.opens held source target = true ↔
      ∃ edge ∈ edges, edge.Links source target ∧ machine.Admits edge.roles held := by
  simp only [opens, transitions, List.any_map, List.any_eq_true, Function.comp_apply,
    Bool.and_eq_true, names_iff, meets_tokens_iff h, and_assoc, Edge.Links]

theorem admits_congr {roles : List Role} {again : List Value}
    (hsame : ∀ token, token ∈ again ↔ token ∈ held) :
    machine.Admits roles again ↔ machine.Admits roles held := by
  simp only [Admits, hsame]

/-! ## Questions -/

theorem allowed_eq_true_iff :
    machine.allowed holder source target = .ok true ↔
      ∃ held, machine.held holder = .ok held ∧ machine.opens held source target = true := by
  simp only [allowed, Traversal.bind_eq_ok_iff]
  refine exists_congr fun held => and_congr_right fun _ => ?_
  split
  · next hopens => simp [hopens, pure, Except.pure]
  · next hopens => simp [hopens, Traversal.bind_eq_ok_iff, pure, Except.pure]

/-- Whether a move is allowed is always answered where tokens are texts. -/
theorem allowed_eq (hheld : machine.held holder = .ok held)
    (hstr : ∀ token ∈ held, token.isStr = true) :
    machine.allowed holder source target = .ok (machine.opens held source target) := by
  obtain ⟨shown, hshown, -⟩ := Value.exists_sorted hstr
  rw [allowed, hheld]
  rcases hopens : machine.opens held source target with _ | _
  · simp [hopens, hshown, bind, Except.bind, pure, Except.pure]
  · simp [hopens, bind, Except.bind, pure, Except.pure]

theorem allowedFrom_eq (hheld : machine.held holder = .ok held) (source : Value) :
    machine.allowedFrom holder source = .ok (machine.transitions.filter fun t =>
      names source t.source && meets t.tokens held) := by
  rw [allowedFrom, hheld]
  rfl

/-- The transitions that are offered are those of the edges that are open. -/
theorem mem_allowedFrom_iff (h : machine.hasTextTokens = true)
    (hheld : machine.held holder = .ok held) {offered : List Transition}
    (hoffered : machine.allowedFrom holder source = .ok offered) (t : Transition) :
    t ∈ offered ↔ ∃ edge ∈ edges, t = ⟨edge.source, edge.target, machine.tokens edge.roles⟩ ∧
      source = .str edge.source.name ∧ machine.Admits edge.roles held := by
  rw [allowedFrom_eq hheld source] at hoffered
  cases hoffered
  rw [List.mem_filter, transitions, List.mem_map, Bool.and_eq_true]
  constructor
  · rintro ⟨⟨edge, hedge, rfl⟩, hsource, hmeets⟩
    exact ⟨edge, hedge, rfl, names_iff.1 hsource, (meets_tokens_iff h _ _).1 hmeets⟩
  · rintro ⟨edge, hedge, rfl, hsource, hadmits⟩
    exact ⟨⟨edge, hedge, rfl⟩, names_iff.2 hsource, (meets_tokens_iff h _ _).2 hadmits⟩

theorem required_eq_tokens {edge : Edge} (hedge : edge ∈ edges)
    (hlinks : edge.Links source target) :
    machine.required source target = machine.tokens edge.roles := by
  have hfind : (machine.transitions.find? fun t => names source t.source && names target t.target)
      = some ⟨edge.source, edge.target, machine.tokens edge.roles⟩ := by
    refine Traversal.find_eq_some_of_unique (List.mem_map.2 ⟨edge, hedge, rfl⟩) ?_ ?_
    · simp [names_iff, hlinks.1, hlinks.2]
    · intro t ht hnames
      obtain ⟨other, hother, rfl⟩ := List.mem_map.1 ht
      rw [Bool.and_eq_true, names_iff, names_iff] at hnames
      rw [Edge.Links.unique hedge hother hlinks hnames]
  rw [required, hfind]

theorem required_eq_nil (hnone : ¬ ∃ edge ∈ edges, edge.Links source target) :
    machine.required source target = [] := by
  have hfind : (machine.transitions.find? fun t => names source t.source && names target t.target)
      = none := by
    refine List.find?_eq_none.2 fun t ht hnames => hnone ?_
    obtain ⟨edge, hedge, rfl⟩ := List.mem_map.1 ht
    rw [Bool.and_eq_true, names_iff, names_iff] at hnames
    exact ⟨edge, hedge, hnames⟩
  rw [required, hfind]

theorem isTerminal_iff {state : Value} :
    machine.isTerminal state = true ↔
      (∃ s : State, state = .str s.name) ∧ ∀ edge ∈ edges, state ≠ .str edge.source.name := by
  simp only [isTerminal, Bool.and_eq_true, List.any_eq_true, names_iff, Bool.not_eq_true',
    List.any_eq_false, transitions, List.forall_mem_map]
  constructor
  · rintro ⟨⟨s, -, hs⟩, hnone⟩
    exact ⟨⟨s, hs⟩, hnone⟩
  · rintro ⟨⟨s, hs⟩, hnone⟩
    exact ⟨⟨s, State.mem_all s, hs⟩, hnone⟩

end Machine

end Ssvc.Workflow
