import Ssvc.Proofs.Workflow.Agreement
import Ssvc.Proofs.Workflow.Renaming

set_option autoImplicit false

/-! # Roles add up

Somebody who has the roles of two holders has their rights: what either of them may do, and nothing
more. Each answer asks whether one of some tokens is held, and a token is held by both together when
one of them holds it. So the law is that of `meets`, carried through the three searches of the
table, whatever they answer where there is no edge or no commenting. That order, repetition and
grouping of roles do not matter, and that more roles never take a right away, follows from it. -/

namespace Ssvc.Workflow

/-- An edge is known by its ends. -/
theorem nodup_ends_edges : (edges.map fun edge => (edge.source, edge.target)).Nodup := by
  decide

/-- Holds when some members are those of two lists together, in any order and any number. -/
def Joins {α : Type} (both first second : List α) : Prop :=
  ∀ x, x ∈ both ↔ x ∈ first ∨ x ∈ second

namespace Machine

variable {machine : Machine} {holder firstHolder secondHolder : Holder}
  {held first second : List Value}

/-! ## Answers that rest on what is held together -/

section

variable (h : machine.hasTextTokens = true) (hjoins : Joins held first second)

include h hjoins

theorem meets_of_joins (roles : List Role) :
    meets (machine.tokens roles) held
      = (meets (machine.tokens roles) first || meets (machine.tokens roles) second) := by
  rw [Bool.eq_iff_iff, Bool.or_eq_true]
  simp only [meets_tokens_iff h, Admits, hjoins _, and_or_left, exists_or]

theorem opens_of_joins (source target : Value) :
    machine.opens held source target
      = (machine.opens first source target || machine.opens second source target) := by
  rw [Bool.eq_iff_iff, Bool.or_eq_true]
  simp only [opens_eq_any, List.any_eq_true, Bool.and_eq_true, meets_of_joins h hjoins,
    Bool.or_eq_true, and_or_left, exists_or]

/-- Where commenting is open to everyone or to nobody, it is so for each of the two already. -/
theorem comments_of_joins (state : Value) :
    machine.comments held state
      = (machine.comments first state || machine.comments second state) := by
  unfold comments
  split
  · rfl
  · rfl
  · exact meets_of_joins h hjoins _

theorem mem_allowedFrom_of_joins (hheld : machine.held holder = .ok held)
    (hfirst : machine.held firstHolder = .ok first)
    (hsecond : machine.held secondHolder = .ok second) {source : Value}
    {offered firstOffered secondOffered : List Transition}
    (hoffered : machine.allowedFrom holder source = .ok offered)
    (hfirstOffered : machine.allowedFrom firstHolder source = .ok firstOffered)
    (hsecondOffered : machine.allowedFrom secondHolder source = .ok secondOffered) :
    Joins offered firstOffered secondOffered := by
  intro t
  rw [mem_allowedFrom_iff h hheld hoffered, mem_allowedFrom_iff h hfirst hfirstOffered,
    mem_allowedFrom_iff h hsecond hsecondOffered]
  simp only [Admits, hjoins _, and_or_left, exists_or]

end

/-! ## What is offered -/

theorem nodup_offers (machine : Machine) (held : List Value) (source : Value) :
    (machine.offers held source).Nodup :=
  nodup_ends_edges.sublist (List.filter_sublist.map _)

theorem allowedFrom_sublist (hheld : machine.held holder = .ok held) {source : Value}
    {offered : List Transition} (hoffered : machine.allowedFrom holder source = .ok offered) :
    offered.Sublist machine.transitions := by
  rw [allowedFrom_eq hheld source] at hoffered
  cases hoffered
  exact List.filter_sublist

/-! ## Rights -/

/-- Holds when a holder may do what one or the other of two holders may do. Every transition that is
offered to one of the two is offered once, in the order of the table. -/
structure HasRightsOf (machine : Machine) (holder first second : Holder) : Prop where
  allowed : ∀ source target, ∃ answer other, machine.allowed first source target = .ok answer ∧
    machine.allowed second source target = .ok other ∧
    machine.allowed holder source target = .ok (answer || other)
  commenting : ∀ state, state.isAtom = true → ∃ answer other,
    machine.mayComment first state = .ok answer ∧ machine.mayComment second state = .ok other ∧
    machine.mayComment holder state = .ok (answer || other)
  offered : ∀ source, ∃ offered firstOffered secondOffered,
    machine.allowedFrom holder source = .ok offered ∧
    machine.allowedFrom first source = .ok firstOffered ∧
    machine.allowedFrom second source = .ok secondOffered ∧
    Joins offered firstOffered secondOffered ∧ (offered.map Transition.ends).Nodup ∧
    offered.Sublist machine.transitions

theorem HasRightsOf.of_joins (hholds : machine.Holds holder held)
    (hfirst : machine.Holds firstHolder first) (hsecond : machine.Holds secondHolder second)
    (hjoins : Joins held first second) :
    machine.HasRightsOf holder firstHolder secondHolder := by
  have h := hholds.hasTextTokens
  refine ⟨fun source target => ?_, fun state hstate => ?_, fun source => ?_⟩
  · refine ⟨_, _, allowed_eq hfirst.held_eq hfirst.isStr_of_mem,
      allowed_eq hsecond.held_eq hsecond.isStr_of_mem, ?_⟩
    rw [allowed_eq hholds.held_eq hholds.isStr_of_mem, opens_of_joins h hjoins]
  · refine ⟨_, _, mayComment_eq hfirst.held_eq hstate, mayComment_eq hsecond.held_eq hstate, ?_⟩
    rw [mayComment_eq hholds.held_eq hstate, comments_of_joins h hjoins]
  · obtain ⟨offered, hoffered, hends⟩ := allowedFrom_eq_offers hholds.held_eq source
    obtain ⟨firstOffered, hfirstOffered, -⟩ := allowedFrom_eq_offers hfirst.held_eq source
    obtain ⟨secondOffered, hsecondOffered, -⟩ := allowedFrom_eq_offers hsecond.held_eq source
    refine ⟨offered, firstOffered, secondOffered, hoffered, hfirstOffered, hsecondOffered, ?_, ?_,
      allowedFrom_sublist hholds.held_eq hoffered⟩
    · exact mem_allowedFrom_of_joins h hjoins hholds.held_eq hfirst.held_eq hsecond.held_eq
        hoffered hfirstOffered hsecondOffered
    · rw [hends]
      exact nodup_offers machine held source

/-! ## Collections of roles and tokens -/

section

variable {grants others : List Grant} {other : Holder} (h : machine.hasTextTokens = true)
  (hgrants : holder.grants = .ok grants) (hothers : other.grants = .ok others)
  (htext : ∀ grant ∈ grants, grant.isText = true) (hsubset : others ⊆ grants)

include h hgrants hothers htext hsubset

/-- Whoever has all roles and tokens of another one has all its rights. -/
theorem mayAll_of_subset : machine.MayAll holder machine other := by
  obtain ⟨held, hholds, hmem⟩ := exists_holds h hgrants htext
  obtain ⟨otherHeld, hholdsOther, hmemOther⟩ :=
    exists_holds h hothers fun grant hgrant => htext grant (hsubset hgrant)
  refine .of_covers hholds hholdsOther fun role htoken => ?_
  obtain ⟨grant, hgrant, hrole⟩ := (hmemOther _).1 htoken
  exact (hmem _).2 ⟨grant, hsubset hgrant, hrole⟩

theorem sameAnswers_of_subset (hsuperset : grants ⊆ others) :
    machine.SameAnswers holder machine other := by
  obtain ⟨held, hholds, hmem⟩ := exists_holds h hgrants htext
  obtain ⟨otherHeld, hholdsOther, hmemOther⟩ :=
    exists_holds h hothers fun grant hgrant => htext grant (hsubset hgrant)
  have hsame : ∀ token, token ∈ held ↔ token ∈ otherHeld := by
    intro token
    rw [hmem, hmemOther]
    exact ⟨fun ⟨grant, hgrant, htoken⟩ => ⟨grant, hsuperset hgrant, htoken⟩,
      fun ⟨grant, hgrant, htoken⟩ => ⟨grant, hsubset hgrant, htoken⟩⟩
  exact .of_covers hholds hholdsOther (fun role => (hsame _).2) fun role => (hsame _).1

end

/-- **Roles add up.** Where tokens are texts, and somebody has the roles and tokens of two holders
together, in any order and any number, a move is allowed and commenting is allowed exactly if it is
to one of the two, and the transitions that are offered are those that are offered to one of the
two, each once and in the order of the table. So whoever has the same roles and tokens in another
order, repeated or grouped in another way gets the same answers, and whoever has fewer of them may
do nothing more. -/
theorem rights_add_up (h : machine.hasTextTokens = true)
    {grants firstGrants secondGrants : List Grant} (hgrants : holder.grants = .ok grants)
    (hfirst : firstHolder.grants = .ok firstGrants)
    (hsecond : secondHolder.grants = .ok secondGrants)
    (htext : ∀ grant ∈ grants, grant.isText = true)
    (hjoins : Joins grants firstGrants secondGrants) :
    machine.HasRightsOf holder firstHolder secondHolder ∧
      ∀ (other : Holder) (others : List Grant), other.grants = .ok others → others ⊆ grants →
        machine.MayAll holder machine other ∧
        (grants ⊆ others → machine.SameAnswers holder machine other) := by
  have htextFirst : ∀ grant ∈ firstGrants, grant.isText = true :=
    fun grant hgrant => htext grant ((hjoins grant).2 (Or.inl hgrant))
  have htextSecond : ∀ grant ∈ secondGrants, grant.isText = true :=
    fun grant hgrant => htext grant ((hjoins grant).2 (Or.inr hgrant))
  obtain ⟨held, hholds, hmem⟩ := exists_holds h hgrants htext
  obtain ⟨first, hholdsFirst, hmemFirst⟩ := exists_holds h hfirst htextFirst
  obtain ⟨second, hholdsSecond, hmemSecond⟩ := exists_holds h hsecond htextSecond
  refine ⟨.of_joins hholds hholdsFirst hholdsSecond fun token => ?_, ?_⟩
  · simp only [hmem, hmemFirst, hmemSecond, hjoins _, or_and_right, exists_or]
  · intro other others hothers hsubset
    exact ⟨mayAll_of_subset h hgrants hothers htext hsubset,
      sameAnswers_of_subset h hgrants hothers htext hsubset⟩

/-- Two who have each other's name add up under the names of both, whichever way they are told. -/
theorem rights_add_up_swapped :
    swapped.hasTextTokens = true ∧
      (∀ grant ∈ [Grant.role .reviewer, .token "reviewer", .role .reviewer],
        grant.isText = true) ∧
      Joins [Grant.role .reviewer, .token "reviewer", .role .reviewer] [.token "reviewer"]
        [.role .reviewer] ∧
      swapped.HasRightsOf (.list [.role .reviewer, .token "reviewer", .role .reviewer])
        (.value "reviewer") (.one .reviewer) ∧
      swapped.SameAnswers (.list [.role .reviewer, .token "reviewer", .role .reviewer]) swapped
        (.list [.token "reviewer", .role .reviewer]) := by
  have htokens : swapped.hasTextTokens = true := by decide
  have htext : ∀ grant ∈ [Grant.role .reviewer, .token "reviewer", .role .reviewer],
      grant.isText = true := by simp [Grant.isText, Value.isStr]
  have hjoins : Joins [Grant.role .reviewer, .token "reviewer", .role .reviewer]
      [.token "reviewer"] [.role .reviewer] := by simp [Joins, or_comm]
  have hboth : (Holder.list [.role .reviewer, .token "reviewer", .role .reviewer]).grants
      = .ok [.role .reviewer, .token "reviewer", .role .reviewer] := rfl
  have hfirst : (Holder.value "reviewer").grants = .ok [.token "reviewer"] := rfl
  have hsecond : (Holder.one .reviewer).grants = .ok [.role .reviewer] := rfl
  have hother : (Holder.list [.token "reviewer", .role .reviewer]).grants
      = .ok [.token "reviewer", .role .reviewer] := rfl
  obtain ⟨hrights, hothers⟩ := rights_add_up htokens hboth hfirst hsecond htext hjoins
  exact ⟨htokens, htext, hjoins, hrights, (hothers _ _ hother (by simp)).2 (by simp)⟩

end Machine

end Ssvc.Workflow
