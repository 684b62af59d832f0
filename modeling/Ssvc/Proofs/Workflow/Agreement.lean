import Ssvc.Proofs.Workflow

set_option autoImplicit false

/-! # The questions agree

Whether a move is allowed is asked in four ways: outright, by what is offered from a state, by the
tokens that an edge requires, and by describing the move. Each way searches the table by itself, and
a description goes over what is held a second time. They agree because there is at most one edge
between two states, every edge names a role, and going over texts twice changes nothing. -/

namespace Ssvc.Workflow.Machine

variable {machine : Machine} {holder : Holder} {held : List Value} {source target : Value}

/-! ## One meaning for all questions -/

/-- Holds when an edge between two states is open to those who hold some tokens. -/
def Permits (machine : Machine) (held : List Value) (source target : Value) : Prop :=
  ∃ edge ∈ edges, edge.Links source target ∧ machine.Admits edge.roles held

theorem exists_offered_iff (h : machine.hasTextTokens = true)
    (hheld : machine.held holder = .ok held) {offered : List Transition}
    (hoffered : machine.allowedFrom holder source = .ok offered) :
    (∃ t ∈ offered, target = .str t.target.name) ↔ machine.Permits held source target := by
  simp only [mem_allowedFrom_iff h hheld hoffered]
  constructor
  · rintro ⟨_, ⟨edge, hedge, rfl, hsource, hadmits⟩, htarget⟩
    exact ⟨edge, hedge, ⟨hsource, htarget⟩, hadmits⟩
  · rintro ⟨edge, hedge, hlinks, hadmits⟩
    exact ⟨_, ⟨edge, hedge, rfl, hlinks.1, hadmits⟩, hlinks.2⟩

/-- The tokens that are required are those of the one edge, if there is one. -/
theorem exists_required_iff (h : machine.hasTextTokens = true) :
    (∃ token ∈ machine.required source target, token ∈ held)
      ↔ machine.Permits held source target := by
  by_cases hlink : ∃ edge ∈ edges, edge.Links source target
  · obtain ⟨edge, hedge, hlinks⟩ := hlink
    simp only [required_eq_tokens hedge hlinks, mem_tokens_iff h]
    constructor
    · rintro ⟨_, ⟨role, hrole, rfl⟩, hheld⟩
      exact ⟨edge, hedge, hlinks, role, hrole, hheld⟩
    · rintro ⟨other, hother, hlinks', role, hrole, hheld⟩
      rw [Edge.Links.unique hedge hother hlinks hlinks'] at hrole
      exact ⟨_, ⟨role, hrole, rfl⟩, hheld⟩
  · rw [required_eq_nil hlink]
    constructor
    · rintro ⟨_, hnil, -⟩
      cases hnil
    · rintro ⟨edge, hedge, hlinks, -⟩
      exact absurd ⟨edge, hedge, hlinks⟩ hlink

theorem required_eq_nil_iff (h : machine.hasTextTokens = true) :
    machine.required source target = [] ↔ ¬ ∃ edge ∈ edges, edge.Links source target := by
  refine ⟨?_, required_eq_nil⟩
  rintro hnil ⟨edge, hedge, hlinks⟩
  obtain ⟨role, hrole⟩ := List.exists_mem_of_ne_nil _ (roles_ne_nil hedge)
  have hmem : machine.token role ∈ machine.required source target := by
    rw [required_eq_tokens hedge hlinks, mem_tokens_iff h]
    exact ⟨role, hrole, rfl⟩
  rw [hnil] at hmem
  cases hmem

theorem isStr_of_mem_required (h : machine.hasTextTokens = true) {token : Value}
    (htoken : token ∈ machine.required source target) : token.isStr = true := by
  by_cases hlink : ∃ edge ∈ edges, edge.Links source target
  · obtain ⟨edge, hedge, hlinks⟩ := hlink
    rw [required_eq_tokens hedge hlinks, mem_tokens_iff h] at htoken
    obtain ⟨role, -, rfl⟩ := htoken
    exact isStr_token h role
  · rw [required_eq_nil hlink] at htoken
    cases htoken

/-! ## Refusals -/

/-- What is said where there is no edge. -/
def noEdgeText (source target : Value) : String :=
  "No transition: " ++ source.text ++ " -> " ++ target.text

/-- A refusal says that there is no edge exactly when no token is required. -/
theorem refusal_eq_noEdge_iff (source target : Value) {required : List Value}
    (hstr : ∀ token ∈ required, token.isStr = true) :
    ∃ reason, refusal source target required = .ok reason ∧
      (reason = noEdgeText source target ↔ required = []) := by
  cases required with
  | nil => exact ⟨noEdgeText source target, rfl, iff_of_true rfl rfl⟩
  | cons first rest =>
      obtain ⟨shown, hshown, hperm⟩ := Value.exists_sorted hstr
      obtain ⟨joined, hjoined⟩ := (Value.exists_joinTexts_iff ", " shown).2
        fun token htoken => hstr token (hperm.mem_iff.1 htoken)
      refine ⟨"Requires one of roles: " ++ joined, ?_, ?_⟩
      · simp [refusal, hshown, hjoined, bind, Except.bind, pure, Except.pure]
      · -- the two texts differ in their first character
        have hne : "Requires one of roles: " ++ joined ≠ noEdgeText source target := by
          intro (heq : _ = "No transition: " ++ source.text ++ " -> " ++ target.text)
          have hlist := congrArg String.toList heq
          simp at hlist
        exact iff_of_false hne (List.cons_ne_nil first rest)

/-! ## Descriptions -/

/-- A description is always given, and rests on what is held. -/
theorem exists_describe (h : machine.hasTextTokens = true) (hheld : machine.held holder = .ok held)
    (hstr : ∀ token ∈ held, token.isStr = true) (source target : Value) :
    ∃ description, machine.describe holder source target = .ok description ∧
      description.isAllowed = machine.opens held source target ∧
      (description.reason = none ↔ description.isAllowed = true) ∧
      (description.isAllowed = false →
        (description.reason = some (noEdgeText source target)
          ↔ machine.required source target = [])) := by
  obtain ⟨again, hagain, hsame⟩ := exists_held_tokens h hstr
  have hopens : machine.opens again source target = machine.opens held source target := by
    rw [Bool.eq_iff_iff, opens_iff h, opens_iff h]
    simp only [admits_congr hsame]
  have hallowed : machine.allowed (.list (held.map .token)) source target
      = .ok (machine.opens again source target) :=
    allowed_eq hagain fun token htoken => hstr token ((hsame token).1 htoken)
  rw [hopens] at hallowed
  have hrequired : ∀ token ∈ machine.required source target, token.isStr = true :=
    fun token htoken => isStr_of_mem_required h htoken
  obtain ⟨shown, hshown, -⟩ := Value.exists_sorted hrequired
  obtain ⟨reason, hreason, hnoEdge⟩ :=
    refusal_eq_noEdge_iff source target hrequired
  rcases hanswer : machine.opens held source target with _ | _
  · refine ⟨⟨source, target, false, some reason, shown, machine.isTerminal target⟩, ?_, rfl, ?_, ?_⟩
    · rw [hanswer] at hallowed
      simp [describe, hheld, hallowed, hreason, hshown, bind, Except.bind, pure, Except.pure]
    · simp
    · intro _
      simpa using hnoEdge
  · refine ⟨⟨source, target, true, none, shown, machine.isTerminal target⟩, ?_, rfl, ?_, ?_⟩
    · rw [hanswer] at hallowed
      simp [describe, hheld, hallowed, hshown, bind, Except.bind, pure, Except.pure]
    · simp
    · simp

/-! ## States without a way out -/

theorem allowedFrom_eq_nil (hholder : machine.held holder = .ok held)
    (hnone : ∀ edge ∈ edges, source ≠ .str edge.source.name) :
    machine.allowedFrom holder source = .ok [] := by
  rw [allowedFrom_eq hholder source]
  refine congrArg Except.ok (List.filter_eq_nil_iff.2 fun t ht hopen => ?_)
  obtain ⟨edge, hedge, rfl⟩ := List.mem_map.1 ht
  rw [Bool.and_eq_true, names_iff] at hopen
  exact hnone edge hedge hopen.1

/-- Whoever has one of the roles of an edge is offered its transition. -/
theorem allowedFrom_ne_nil (h : machine.hasTextTokens = true) {edge : Edge} (hedge : edge ∈ edges)
    {role : Role} (hrole : role ∈ edge.roles) :
    machine.allowedFrom (.one role) (.str edge.source.name) ≠ .ok [] := by
  intro hnil
  have htext : ∀ grant ∈ [Grant.role role], grant.isText = true := by simp [Grant.isText]
  have hheld : machine.held (.one role)
      = .ok (Value.distinct ([Grant.role role].map machine.grantToken)) := held_eq h rfl htext
  have hmem : machine.token role ∈ Value.distinct ([Grant.role role].map machine.grantToken) :=
    (mem_held_iff h rfl htext hheld _).2 ⟨.role role, by simp, rfl⟩
  have hoffered := (mem_allowedFrom_iff h hheld hnil _).2
    ⟨edge, hedge, rfl, rfl, role, hrole, hmem⟩
  cases hoffered

/-- A state has no way out exactly when it is a state from which nobody is offered anything. -/
theorem isTerminal_iff_offers_nothing (h : machine.hasTextTokens = true) (state : Value) :
    machine.isTerminal state = true ↔
      (∃ s : State, state = .str s.name) ∧
        ∀ holder : Holder, holder.isText = true → machine.allowedFrom holder state = .ok [] := by
  rw [isTerminal_iff]
  refine and_congr_right fun _ => ?_
  constructor
  · intro hnone holder hholder
    obtain ⟨held, hheld, -⟩ := exists_held h hholder
    exact allowedFrom_eq_nil hheld hnone
  · rintro hnothing edge hedge rfl
    obtain ⟨role, hrole⟩ := List.exists_mem_of_ne_nil _ (roles_ne_nil hedge)
    exact allowedFrom_ne_nil h hedge hrole (hnothing (.one role) rfl)

/-! ## Agreement -/

/-- **All questions about a move have one answer.** A move is allowed exactly when it is offered,
when one of the tokens that it requires is held, and when its description says so. The description
gives a reason exactly when the move is refused, and names the missing edge exactly when no token is
required, which is when there is no edge. A state has no way out when it is a state from which
nobody is offered anything. -/
theorem answers_agree (machine : Machine) (holder : Holder) (source target state : Value)
    (h : machine.hasTextTokens = true) (hholder : holder.isText = true) :
    ∃ held isAllowed offered description,
      machine.held holder = .ok held ∧
      machine.allowed holder source target = .ok isAllowed ∧
      machine.allowedFrom holder source = .ok offered ∧
      machine.describe holder source target = .ok description ∧
      (isAllowed = true ↔ ∃ t ∈ offered, target = .str t.target.name) ∧
      (isAllowed = true ↔ ∃ token ∈ machine.required source target, token ∈ held) ∧
      (isAllowed = true ↔ description.isAllowed = true) ∧
      (description.reason = none ↔ isAllowed = true) ∧
      (isAllowed = false →
        (description.reason = some (noEdgeText source target)
          ↔ machine.required source target = [])) ∧
      (machine.required source target = [] ↔ ¬ ∃ edge ∈ edges, edge.Links source target) ∧
      (machine.isTerminal state = true ↔
        (∃ s : State, state = .str s.name) ∧
          ∀ other : Holder, other.isText = true → machine.allowedFrom other state = .ok []) := by
  obtain ⟨held, hheld, hstr⟩ := exists_held h hholder
  have hoffered := allowedFrom_eq hheld source
  obtain ⟨description, hdescribe, htold, hreason, hnoEdge⟩ :=
    exists_describe h hheld hstr source target
  have hpermits : machine.opens held source target = true ↔ machine.Permits held source target :=
    opens_iff h
  refine ⟨held, machine.opens held source target, _, description, hheld,
    allowed_eq hheld hstr, hoffered, hdescribe, ?_, ?_, ?_, ?_, ?_, required_eq_nil_iff h,
    isTerminal_iff_offers_nothing h state⟩
  · rw [hpermits, exists_offered_iff h hheld hoffered]
  · rw [hpermits, exists_required_iff h]
  · rw [htold]
  · rw [hreason, htold]
  · intro hdenied
    exact hnoEdge (htold.trans hdenied)

/-- A deployment in which the two roles that move documents have each other's name. -/
def swapped : Machine :=
  ⟨[(.editor, "reviewer"), (.reviewer, "editor")]⟩

theorem answers_agree_swapped :
    swapped.hasTextTokens = true ∧
      (Holder.list [.role .reviewer, .token "clerk"]).isText = true ∧
      ∃ description,
        swapped.describe (.list [.role .reviewer, .token "clerk"]) "review" "archived"
          = .ok description ∧
        description.isAllowed = true ∧ description.reason = none := by
  obtain ⟨_, isAllowed, _, description, -, hallowed, -, hdescribe, -, -, htold, hreason, -⟩ :=
    answers_agree swapped (.list [.role .reviewer, .token "clerk"]) "review" "archived" "deleted"
      (by decide) (by decide)
  have htrue : isAllowed = true := (Except.ok.inj hallowed).symm
  exact ⟨by decide, by decide, description, hdescribe, htold.1 htrue, hreason.2 htrue⟩

end Ssvc.Workflow.Machine
