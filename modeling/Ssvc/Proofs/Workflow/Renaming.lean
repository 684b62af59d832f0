import Ssvc.Proofs.Workflow

set_option autoImplicit false

/-! # Roles under other names

A deployment that calls roles by other tokens changes nothing but their names: somebody who holds
some tokens there gets the answers that the workflow table has for the roles that these tokens stand
for. What is held counts only through the roles whose token is among it, so each answer is first put
in terms of what meets the tokens of some roles. Two deployments are then compared role by role. -/

namespace Ssvc.Workflow

/-- The states between which a transition leads. -/
def Transition.ends (t : Transition) : State × State :=
  (t.source, t.target)

theorem Role.name_inj {r s : Role} : r.name = s.name ↔ r = s := by
  constructor
  · intro h
    have hfound := congrArg Role.ofName? h
    rwa [Role.ofName?_name, Role.ofName?_name, Option.some.injEq] at hfound
  · intro h
    rw [h]

namespace Machine

variable {machine other : Machine} {holder otherHolder : Holder} {held otherHeld : List Value}

/-! ## Answers that rest on what is held -/

/-- The ends of the edges from a state that some tokens open, in the order of the table. -/
def offers (machine : Machine) (held : List Value) (source : Value) : List (State × State) :=
  (edges.filter fun edge =>
    names source edge.source && meets (machine.tokens edge.roles) held).map fun edge =>
      (edge.source, edge.target)

/-- Whether some tokens give leave to comment in a state. -/
def comments (machine : Machine) (held : List Value) (state : Value) : Bool :=
  match commenting.find? fun entry => names state entry.1 with
  | none => false
  | some (_, .everyone) => true
  | some (_, .only roles) => meets (machine.tokens roles) held

theorem opens_eq_any (machine : Machine) (held : List Value) (source target : Value) :
    machine.opens held source target = edges.any fun edge =>
      names source edge.source && names target edge.target
        && meets (machine.tokens edge.roles) held := by
  rw [opens, transitions, List.any_map]
  rfl

theorem allowedFrom_eq_offers (hheld : machine.held holder = .ok held) (source : Value) :
    ∃ offered, machine.allowedFrom holder source = .ok offered ∧
      offered.map Transition.ends = machine.offers held source := by
  refine ⟨_, allowedFrom_eq hheld source, ?_⟩
  rw [transitions, List.filter_map, List.map_map]
  rfl

/-- The tokens of those who may comment, nothing if everyone may. -/
def commenters (machine : Machine) : Commenting → Option (List Value)
  | .everyone => none
  | .only roles => some (machine.tokens roles)

theorem find_commentingTokens (machine : Machine) (state : Value) :
    (machine.commentingTokens.find? fun entry => names state entry.1)
      = (commenting.find? fun entry => names state entry.1).map fun entry =>
          (entry.1, machine.commenters entry.2) := by
  have hmap : machine.commentingTokens
      = commenting.map fun entry => (entry.1, machine.commenters entry.2) := rfl
  rw [hmap, List.find?_map]
  rfl

theorem mayComment_eq (hheld : machine.held holder = .ok held) {state : Value}
    (hstate : state.isAtom = true) :
    machine.mayComment holder state = .ok (machine.comments held state) := by
  have hhashed : state.hashed = .ok state := by rw [Value.hashed, if_pos hstate]
  simp only [mayComment, comments, hhashed, find_commentingTokens, bind, Except.bind]
  rcases hfind : commenting.find? fun entry => names state entry.1 with _ | ⟨s, who⟩
  · rw [hfind]
    rfl
  · rw [hfind]
    cases who with
    | everyone => rfl
    | only roles =>
        rw [hheld]
        rfl

/-! ## Comparing what is held -/

/-- Holds of the machines and holders that tokens are texts for, and of what is held. -/
structure Holds (machine : Machine) (holder : Holder) (held : List Value) : Prop where
  hasTextTokens : machine.hasTextTokens = true
  held_eq : machine.held holder = .ok held
  isStr_of_mem : ∀ token ∈ held, token.isStr = true

theorem exists_holds {grants : List Grant} (h : machine.hasTextTokens = true)
    (hgrants : holder.grants = .ok grants) (htext : ∀ grant ∈ grants, grant.isText = true) :
    ∃ held, machine.Holds holder held ∧
      ∀ token, token ∈ held ↔ ∃ grant ∈ grants, machine.grantToken grant = token := by
  have hheld := held_eq h hgrants htext
  have hmem := mem_held_iff h hgrants htext hheld
  refine ⟨_, ⟨h, hheld, fun token htoken => ?_⟩, hmem⟩
  obtain ⟨grant, hgrant, rfl⟩ := (hmem token).1 htoken
  exact isStr_grantToken h (htext grant hgrant)

/-- Who holds some roles holds their tokens. -/
theorem exists_holds_roles (h : machine.hasTextTokens = true) (roles : List Role) :
    ∃ held, machine.Holds (.list (roles.map .role)) held ∧
      ∀ token, token ∈ held ↔ ∃ role ∈ roles, machine.token role = token := by
  have htext : ∀ grant ∈ roles.map Grant.role, grant.isText = true := by simp [Grant.isText]
  have hgrants : (Holder.list (roles.map .role)).grants = .ok (roles.map .role) := rfl
  obtain ⟨held, hholds, hmem⟩ := exists_holds h hgrants htext
  exact ⟨held, hholds, by simpa [grantToken] using hmem⟩

/-- Holds when every role whose token is held in the other deployment has its token held in this
one. -/
def Covers (machine : Machine) (held : List Value) (other : Machine) (otherHeld : List Value) :
    Prop :=
  ∀ role, other.token role ∈ otherHeld → machine.token role ∈ held

theorem Covers.meets (hcovers : machine.Covers held other otherHeld)
    (h : machine.hasTextTokens = true) (h' : other.hasTextTokens = true) {roles : List Role}
    (hmeets : meets (other.tokens roles) otherHeld = true) :
    Workflow.meets (machine.tokens roles) held = true := by
  obtain ⟨role, hrole, htoken⟩ := (meets_tokens_iff h' roles otherHeld).1 hmeets
  exact (meets_tokens_iff h roles held).2 ⟨role, hrole, hcovers role htoken⟩

/-! ## Comparing answers -/

/-- Holds when whatever a holder may do in the other deployment, this holder may do in this one. -/
structure MayAll (machine : Machine) (holder : Holder) (other : Machine) (otherHolder : Holder) :
    Prop where
  allowed : ∀ source target, other.allowed otherHolder source target = .ok true →
    machine.allowed holder source target = .ok true
  offered : ∀ source, ∃ offered otherOffered, machine.allowedFrom holder source = .ok offered ∧
    other.allowedFrom otherHolder source = .ok otherOffered ∧
    (otherOffered.map Transition.ends).Sublist (offered.map Transition.ends)
  commenting : ∀ state, other.mayComment otherHolder state = .ok true →
    machine.mayComment holder state = .ok true

/-- Holds when two holders get the same answers, each in a deployment. -/
structure SameAnswers (machine : Machine) (holder : Holder) (other : Machine)
    (otherHolder : Holder) : Prop where
  allowed : ∀ source target, ∃ answer, machine.allowed holder source target = .ok answer ∧
    other.allowed otherHolder source target = .ok answer
  offered : ∀ source, ∃ offered otherOffered, machine.allowedFrom holder source = .ok offered ∧
    other.allowedFrom otherHolder source = .ok otherOffered ∧
    offered.map Transition.ends = otherOffered.map Transition.ends
  commenting : ∀ state, state.isAtom = true → ∃ answer,
    machine.mayComment holder state = .ok answer ∧ other.mayComment otherHolder state = .ok answer

section

variable (hholds : machine.Holds holder held) (hother : other.Holds otherHolder otherHeld)

include hholds hother

theorem MayAll.of_covers (hcovers : machine.Covers held other otherHeld) :
    machine.MayAll holder other otherHolder := by
  have hmeets : ∀ roles, meets (other.tokens roles) otherHeld = true →
      meets (machine.tokens roles) held = true :=
    fun _ => hcovers.meets hholds.hasTextTokens hother.hasTextTokens
  refine ⟨fun source target hallowed => ?_, fun source => ?_, fun state hcommenting => ?_⟩
  · rw [allowed_eq hother.held_eq hother.isStr_of_mem, Except.ok.injEq, opens_eq_any,
      List.any_eq_true] at hallowed
    obtain ⟨edge, hedge, hopen⟩ := hallowed
    rw [Bool.and_eq_true] at hopen
    rw [allowed_eq hholds.held_eq hholds.isStr_of_mem, Except.ok.injEq, opens_eq_any,
      List.any_eq_true]
    exact ⟨edge, hedge, Bool.and_eq_true_iff.2 ⟨hopen.1, hmeets _ hopen.2⟩⟩
  · obtain ⟨offered, hoffered, hends⟩ := allowedFrom_eq_offers hholds.held_eq source
    obtain ⟨otherOffered, hotherOffered, hotherEnds⟩ :=
      allowedFrom_eq_offers hother.held_eq source
    refine ⟨offered, otherOffered, hoffered, hotherOffered, ?_⟩
    rw [hends, hotherEnds]
    refine (List.monotone_filter_right edges fun edge hopen => ?_).map _
    rw [Bool.and_eq_true] at hopen ⊢
    exact ⟨hopen.1, hmeets _ hopen.2⟩
  · by_cases hstate : state.isAtom = true
    · rw [mayComment_eq hother.held_eq hstate, Except.ok.injEq] at hcommenting
      rw [mayComment_eq hholds.held_eq hstate, Except.ok.injEq]
      unfold comments at hcommenting ⊢
      split at hcommenting
      · cases hcommenting
      · rfl
      · exact hmeets _ hcommenting
    · -- what cannot be a name is no state
      have hhashed : state.hashed = .error (.notHashable state.kindName) := by
        rw [Value.hashed, if_neg hstate]
      rw [mayComment, hhashed] at hcommenting
      cases hcommenting

/-- Covering each other, two holders may do the same, so they get the same answers. -/
theorem SameAnswers.of_covers (hcovers : machine.Covers held other otherHeld)
    (hcovered : other.Covers otherHeld machine held) :
    machine.SameAnswers holder other otherHolder := by
  have hmay := MayAll.of_covers hholds hother hcovers
  have hothers := MayAll.of_covers hother hholds hcovered
  refine ⟨fun source target => ?_, fun source => ?_, fun state hstate => ?_⟩
  · have hanswer : machine.allowed holder source target
        = .ok (machine.opens held source target) := allowed_eq hholds.held_eq hholds.isStr_of_mem
    have hotherAnswer : other.allowed otherHolder source target
        = .ok (other.opens otherHeld source target) :=
      allowed_eq hother.held_eq hother.isStr_of_mem
    have hthere := hothers.allowed source target
    have hback := hmay.allowed source target
    rw [hanswer, hotherAnswer, Except.ok.injEq, Except.ok.injEq] at hthere hback
    rw [← Bool.eq_iff_iff.2 ⟨hthere, hback⟩] at hotherAnswer
    exact ⟨_, hanswer, hotherAnswer⟩
  · obtain ⟨offered, otherOffered, hoffered, hotherOffered, hsub⟩ := hmay.offered source
    obtain ⟨_, _, hotherAgain, hagain, hsup⟩ := hothers.offered source
    obtain rfl := Except.ok.inj (hoffered.symm.trans hagain)
    obtain rfl := Except.ok.inj (hotherOffered.symm.trans hotherAgain)
    exact ⟨offered, otherOffered, hoffered, hotherOffered, hsup.antisymm hsub⟩
  · have hanswer := mayComment_eq hholds.held_eq hstate
    have hotherAnswer := mayComment_eq hother.held_eq hstate
    have hthere := hothers.commenting state
    have hback := hmay.commenting state
    rw [hanswer, hotherAnswer, Except.ok.injEq, Except.ok.injEq] at hthere hback
    rw [← Bool.eq_iff_iff.2 ⟨hthere, hback⟩] at hotherAnswer
    exact ⟨_, hanswer, hotherAnswer⟩

end

/-! ## Deployments that are given by an object -/

section

variable {aliases : Fields} (hroles : ∀ entry ∈ aliases, ∃ role : Role, entry.1 = role.name)

include hroles

/-- A role is called by its entry or, without one, by its name. -/
theorem token_ofAliases (role : Role) :
    (ofAliases aliases).token role = (aliases.lookup role.name).getD (.str role.name) := by
  have hlookup : (ofAliases aliases).aliases.lookup role = aliases.lookup role.name := by
    unfold ofAliases
    induction aliases with
    | nil => rfl
    | cons entry rest ih =>
        rw [List.forall_mem_cons] at hroles
        obtain ⟨⟨other, hname⟩, hrest⟩ := hroles
        obtain ⟨name, token⟩ := entry
        obtain rfl : name = other.name := hname
        rw [List.filterMap_cons]
        by_cases hsame : role = other
        · subst hsame
          simp
        · have hnames : role.name ≠ other.name := mt Role.name_inj.1 hsame
          simpa [List.lookup_cons, beq_false_of_ne hsame, beq_false_of_ne hnames] using ih hrest
  rw [token, hlookup]

theorem read_aliases (htokens : ∀ entry ∈ aliases, entry.2.isStr = true) :
    Machine.read (.obj aliases) = .ok (ofAliases aliases) := by
  have hknown : (((aliases.map fun entry => (Value.str entry.1, entry.2)).map (·.1)).filter
      fun name => (entryRole? name).isNone) = [] := by
    rw [List.filter_eq_nil_iff, List.map_map, List.forall_mem_map]
    intro entry hentry
    obtain ⟨role, hrole⟩ := hroles entry hentry
    simp [entryRole?, hrole]
  have hused : ∀ role ∈ usedRoles, ∃ token,
      AliasError.lift ((ofAliases aliases).token role).hashed = .ok token := by
    intro role _
    rw [Value.hashed_of_isStr (isStr_token (hasTextTokens_ofAliases htokens) role)]
    exact ⟨_, rfl⟩
  obtain ⟨tokens, htokens⟩ := (Traversal.exists_mapM_ok_iff _ _).2 hused
  simp only [read, readEntries_obj, Traversal.bind_eq_ok_iff]
  refine ⟨_, rfl, ?_⟩
  rw [hknown, if_neg (by simp)]
  simp only [ofAliases_eq, Traversal.bind_eq_ok_iff]
  exact ⟨tokens, htokens, rfl⟩

end

/-! ## Renaming -/

theorem plain_token_inj {role other : Role} (h : plain.token role = plain.token other) :
    role = other :=
  Role.name_inj.1 (Value.str.inj h)

/-- Without aliases, the roles whose token is held are those that are held. -/
theorem exists_holds_plain (roles : List Role) :
    ∃ held, plain.Holds (.list (roles.map .role)) held ∧
      ∀ role, plain.token role ∈ held ↔ role ∈ roles := by
  have htext : plain.hasTextTokens = true := rfl
  obtain ⟨held, hholds, hmem⟩ := exists_holds_roles htext roles
  refine ⟨held, hholds, fun role => ?_⟩
  rw [hmem]
  constructor
  · rintro ⟨other, hother, htoken⟩
    exact plain_token_inj htoken ▸ hother
  · intro hrole
    exact ⟨role, hrole, rfl⟩

/-- Holding some tokens is holding the roles that they stand for. -/
theorem sameAnswers_plain (h : machine.hasTextTokens = true) {grants : List Grant}
    (hgrants : holder.grants = .ok grants) (htext : ∀ grant ∈ grants, grant.isText = true)
    {roles : List Role}
    (hroles : ∀ role, role ∈ roles ↔
      ∃ grant ∈ grants, machine.grantToken grant = machine.token role) :
    machine.SameAnswers holder plain (.list (roles.map .role)) := by
  obtain ⟨held, hholds, hmem⟩ := exists_holds h hgrants htext
  obtain ⟨plainHeld, hplain, hmemPlain⟩ := exists_holds_plain roles
  refine .of_covers hholds hplain (fun role htoken => ?_) (fun role htoken => ?_)
  · rw [hmem, ← hroles, ← hmemPlain]
    exact htoken
  · rw [hmemPlain, hroles, ← hmem]
    exact htoken

/-- Whoever holds roles holds their tokens, so renaming takes nothing away. -/
theorem mayAll_plain (h : machine.hasTextTokens = true) (members : List Role) :
    machine.MayAll (.list (members.map .role)) plain (.list (members.map .role)) := by
  obtain ⟨held, hholds, hmem⟩ := exists_holds_roles h members
  obtain ⟨plainHeld, hplain, hmemPlain⟩ := exists_holds_plain members
  refine .of_covers hholds hplain fun role htoken => ?_
  exact (hmem _).2 ⟨role, (hmemPlain role).1 htoken, rfl⟩

/-- **Aliases rename roles and do nothing else.** Aliases for roles, given by their names, make a
machine that calls each role by its alias or else by its name. Whoever holds some tokens and roles
there gets the answers that the table without aliases has for the roles whose token is held. If no
two roles share a token, holders of roles get the answers that they get without aliases; and whatever
the aliases are, they may do all that they may do without them. -/
theorem answers_renamed (aliases : Fields)
    (hroles : ∀ entry ∈ aliases, ∃ role : Role, entry.1 = role.name)
    (htokens : ∀ entry ∈ aliases, entry.2.isStr = true) :
    ∃ machine, Machine.read (.obj aliases) = .ok machine ∧
      (∀ role, machine.token role = (aliases.lookup role.name).getD (.str role.name)) ∧
      (∀ (holder : Holder) (grants : List Grant) (roles : List Role), holder.grants = .ok grants →
        (∀ grant ∈ grants, grant.isText = true) →
        (∀ role, role ∈ roles ↔
          ∃ grant ∈ grants, machine.grantToken grant = machine.token role) →
        machine.SameAnswers holder plain (.list (roles.map .role))) ∧
      ((∀ role other, machine.token role = machine.token other → role = other) →
        ∀ members : List Role,
          machine.SameAnswers (.list (members.map .role)) plain (.list (members.map .role))) ∧
      ∀ members : List Role,
        machine.MayAll (.list (members.map .role)) plain (.list (members.map .role)) := by
  have htext := hasTextTokens_ofAliases htokens
  refine ⟨ofAliases aliases, read_aliases hroles htokens, token_ofAliases hroles, ?_, ?_,
    mayAll_plain htext⟩
  · intro holder grants roles hgrants hgrantsText hmem
    exact sameAnswers_plain htext hgrants hgrantsText hmem
  · intro hdistinct members
    refine sameAnswers_plain htext rfl (by simp [Grant.isText]) fun role => ?_
    constructor
    · intro hrole
      exact ⟨.role role, List.mem_map_of_mem hrole, rfl⟩
    · rintro ⟨_, hgrant, htoken⟩
      obtain ⟨other, hother, rfl⟩ := List.mem_map.1 hgrant
      exact hdistinct other role htoken ▸ hother

/-- Editors and reviewers have each other's name, and administrators that of the reviewers too. -/
def crossed : Fields :=
  [("editor", "reviewer"), ("reviewer", "editor"), ("admin", "editor")]

/-- Whoever holds the token that is an editor's name is a reviewer and an administrator there, and
editors may do what they may do without the aliases. -/
theorem answers_renamed_crossed :
    (∀ entry ∈ crossed, ∃ role : Role, entry.1 = role.name) ∧
      (∀ entry ∈ crossed, entry.2.isStr = true) ∧
      ∃ machine, Machine.read (.obj crossed) = .ok machine ∧
        machine.SameAnswers (.list [.token "editor", .token "clerk"]) plain
          (.list [.role .reviewer, .role .admin]) ∧
        machine.MayAll (.list [.role .editor]) plain (.list [.role .editor]) := by
  have hroles : ∀ entry ∈ crossed, ∃ role : Role, entry.1 = role.name := by
    simp only [crossed, List.forall_mem_cons]
    exact ⟨⟨.editor, rfl⟩, ⟨.reviewer, rfl⟩, ⟨.admin, rfl⟩, by simp⟩
  have htokens : ∀ entry ∈ crossed, entry.2.isStr = true := by decide
  obtain ⟨machine, hread, htoken, hsame, -, hmay⟩ := answers_renamed crossed hroles htokens
  refine ⟨hroles, htokens, machine, hread, ?_, hmay [.editor]⟩
  refine hsame _ _ [.reviewer, .admin] rfl (by simp [Grant.isText, Value.isStr]) fun role => ?_
  simp only [List.exists_mem_cons_iff, grantToken, htoken, crossed]
  cases role <;> simp [Role.name, List.lookup_cons]

end Machine

end Ssvc.Workflow
