import Mathlib.Algebra.GroupWithZero.Nat
import Mathlib.Data.List.Nodup
import Ssvc.Metrics
import Ssvc.Proofs.Value.Equality

set_option autoImplicit false

/-! # What metrics count

A tally counts each key under the first entry that is like it. Where keys are told apart by what
they are, one more count makes the total and the count of its key larger by one and leaves all other
counts alone. From that follows what the metrics of a run say: they agree with the list of the
labels that were recorded, and with the list of the moves that were checked. -/

namespace Ssvc

/-! ## Tallies -/

namespace Tally

variable {κ : Type} [BEq κ] {key other : κ}

/-- Holds of the keys that are like nothing but themselves. -/
def IsExact (key : κ) : Prop :=
  ∀ k : κ, (k == key) = true ↔ k = key

theorem get_cons (k : κ) (n : Nat) (tally : Tally κ) (key : κ) :
    get ((k, n) :: tally) key = if k == key then n else get tally key := by
  rw [get, List.find?_cons]
  cases k == key <;> rfl

theorem total_count (key : κ) (tally : Tally κ) : total (count key tally) = total tally + 1 := by
  induction tally with
  | nil => rfl
  | cons entry tally ih =>
      rw [count]
      split
      · simp only [total]
        omega
      · simp only [total, ih]
        omega

theorem get_count (hkey : IsExact key) (hother : IsExact other) (tally : Tally κ) :
    get (count key tally) other = get tally other + if key == other then 1 else 0 := by
  induction tally with
  | nil =>
      rw [count, get_cons]
      simp [get]
  | cons entry tally ih =>
      obtain ⟨k, n⟩ := entry
      rw [count]
      split
      · next hk =>
          obtain rfl := (hkey k).1 hk
          rw [get_cons, get_cons]
          split <;> rfl
      · next hk =>
          rw [get_cons, get_cons, ih]
          split
          · -- the entry is that of the other key, which is then not the one that is counted
            next hfound =>
              obtain rfl := (hother k).1 hfound
              have hne : ¬ (key == k) = true := fun hsame =>
                hk ((hkey k).2 ((hother key).1 hsame).symm)
              rw [if_neg hne]
              rfl
          · rfl

theorem keys_count_of_mem (hkey : IsExact key) {tally : Tally κ} (hmem : key ∈ tally.keys) :
    (count key tally).keys = tally.keys := by
  induction tally with
  | nil => cases hmem
  | cons entry tally ih =>
      obtain ⟨k, n⟩ := entry
      rw [count]
      split
      · rfl
      · next hk =>
          rcases List.mem_cons.1 hmem with rfl | hrest
          · exact absurd ((hkey _).2 rfl) hk
          · exact congrArg (k :: ·) (ih hrest)

theorem keys_count_of_not_mem (hkey : IsExact key) {tally : Tally κ} (hnew : key ∉ tally.keys) :
    (count key tally).keys = tally.keys ++ [key] := by
  induction tally with
  | nil => rfl
  | cons entry tally ih =>
      obtain ⟨k, n⟩ := entry
      obtain ⟨hne, hrest⟩ := not_or.1 (mt List.mem_cons.2 hnew)
      rw [count]
      split
      · next hk => exact absurd ((hkey k).1 hk).symm hne
      · exact congrArg (k :: ·) (ih hrest)

theorem mem_keys_count_iff (hkey : IsExact key) (tally : Tally κ) (k : κ) :
    k ∈ (count key tally).keys ↔ k ∈ tally.keys ∨ k = key := by
  by_cases hmem : key ∈ tally.keys
  · rw [keys_count_of_mem hkey hmem]
    constructor
    · exact Or.inl
    · rintro (hk | rfl)
      · exact hk
      · exact hmem
  · rw [keys_count_of_not_mem hkey hmem, List.mem_append, List.mem_singleton]

theorem nodup_keys_count (hkey : IsExact key) {tally : Tally κ} (h : tally.keys.Nodup) :
    (count key tally).keys.Nodup := by
  by_cases hmem : key ∈ tally.keys
  · rwa [keys_count_of_mem hkey hmem]
  · rw [keys_count_of_not_mem hkey hmem]
    exact List.concat_eq_append ▸ h.concat hmem

/-- With each key once, the counts of the keys are the entries. -/
theorem sum_get_keys {tally : Tally κ} (hexact : ∀ key ∈ keys tally, IsExact key)
    (h : (keys tally).Nodup) : ((keys tally).map (get tally)).sum = total tally := by
  induction tally with
  | nil => rfl
  | cons entry tally ih =>
      obtain ⟨k, n⟩ := entry
      obtain ⟨hnew, hrest⟩ := List.nodup_cons.1 h
      obtain ⟨hk, htally⟩ := List.forall_mem_cons.1 hexact
      have hself : get ((k, n) :: tally) k = n := by
        rw [get_cons, if_pos ((hk k).2 rfl)]
      have hothers : (keys tally).map (get ((k, n) :: tally)) = (keys tally).map (get tally) := by
        refine List.map_congr_left fun other hother => ?_
        have hne : ¬ (k == other) = true := fun hsame =>
          hnew (((htally other hother) k).1 hsame ▸ hother)
        rw [get_cons, if_neg hne]
      show get ((k, n) :: tally) k + ((keys tally).map (get ((k, n) :: tally))).sum
        = n + total tally
      rw [hself, hothers, ih htally hrest]

end Tally

theorem Value.isExact_of_isStr {v : Value} (h : v.isStr = true) : Tally.IsExact v :=
  fun _ => Value.beq_iff_of_isStr_right h

namespace Metrics

/-! ## Labels -/

/-- Record the labels of decoded vectors one after the other. -/
def recordAll (labels : List Value) (metrics : Metrics) : Metrics :=
  labels.foldl (fun metrics label => metrics.recordDecode label) metrics

/-- Holds of the metrics that count vectors with some labels, an empty text for a vector that has no
outcome. -/
structure Counts (metrics : Metrics) (labels : List Value) : Prop where
  texts : ∀ label ∈ labels, label.isStr = true
  total : metrics.total = labels.length
  resolved : metrics.resolved = labels.countP Value.truthy
  outcomes_total : metrics.outcomes.total = metrics.resolved
  outcomes : ∀ label : String, label ≠ "" →
    metrics.outcomes.get (.str label) = labels.count (.str label)
  keys : ∀ key, key ∈ metrics.outcomes.keys ↔ key ∈ labels ∧ key ≠ .str ""
  nodup : metrics.outcomes.keys.Nodup

theorem counts_start (runId : Value) (startedAt completedAt : Option Time.DateTime)
    (treeTitle treeVersion : Value) :
    Counts (start runId startedAt completedAt treeTitle treeVersion) [] where
  texts := nofun
  total := rfl
  resolved := rfl
  outcomes_total := rfl
  outcomes _ _ := rfl
  keys key := by simp [start, Tally.keys]
  nodup := List.nodup_nil

theorem decodeFault_of_isStr {label : Value} (h : label.isStr = true) :
    decodeFault? label = none := by
  obtain ⟨s, rfl⟩ := Value.isStr_iff.1 h
  simp [decodeFault?, Value.isAtom]

theorem recordDecode_empty (metrics : Metrics) :
    metrics.recordDecode "" = { metrics with total := metrics.total + 1 } := rfl

theorem recordDecode_label {label : String} (h : label ≠ "") (metrics : Metrics) :
    metrics.recordDecode label = { metrics with
      total := metrics.total + 1
      resolved := metrics.resolved + 1
      outcomes := metrics.outcomes.count (.str label) } := by
  have htruthy : (Value.str label).truthy = true := (Value.truthy_iff_of_isStr rfl).2 (by simpa)
  rw [recordDecode, if_pos htruthy, if_pos (by rfl)]

variable {metrics : Metrics} {labels : List Value}

theorem count_append_singleton (labels : List Value) (label other : Value) :
    (labels ++ [label]).count other = labels.count other + if label == other then 1 else 0 := by
  rw [List.count_append, List.count_singleton]

theorem texts_append_singleton (h : Counts metrics labels) {label : Value}
    (htext : label.isStr = true) : ∀ other ∈ labels ++ [label], other.isStr = true := by
  rw [List.forall_mem_append, List.forall_mem_singleton]
  exact ⟨h.texts, htext⟩

theorem Counts.recordDecode_empty (h : Counts metrics labels) :
    Counts (metrics.recordDecode "") (labels ++ [.str ""]) where
  texts := texts_append_singleton h rfl
  total := by simp [Metrics.recordDecode_empty, h.total]
  resolved := by simp [Metrics.recordDecode_empty, h.resolved, Value.truthy]
  outcomes_total := h.outcomes_total
  outcomes label hlabel := by
    have hne : ¬ (Value.str "" == Value.str label) = true := by simpa using Ne.symm hlabel
    rw [count_append_singleton, if_neg hne]
    exact h.outcomes label hlabel
  keys key := by
    rw [List.mem_append, List.mem_singleton]
    constructor
    · intro hkey
      obtain ⟨hmem, hne⟩ := (h.keys key).1 hkey
      exact ⟨Or.inl hmem, hne⟩
    · rintro ⟨hmem | rfl, hne⟩
      · exact (h.keys key).2 ⟨hmem, hne⟩
      · exact absurd rfl hne
  nodup := h.nodup

theorem Counts.recordDecode_label (h : Counts metrics labels) {label : String}
    (hlabel : label ≠ "") :
    Counts (metrics.recordDecode label) (labels ++ [.str label]) := by
  have hexact : Tally.IsExact (Value.str label) := Value.isExact_of_isStr rfl
  rw [Metrics.recordDecode_label hlabel]
  refine ⟨texts_append_singleton h rfl, ?_, ?_, ?_, fun other hother => ?_, fun key => ?_, ?_⟩
  · simp [h.total]
  · simp [h.resolved, Value.truthy, hlabel]
  · exact (Tally.total_count _ _).trans (congrArg (· + 1) h.outcomes_total)
  · rw [count_append_singleton, ← h.outcomes other hother]
    exact Tally.get_count hexact (Value.isExact_of_isStr rfl) metrics.outcomes
  · show key ∈ (metrics.outcomes.count (.str label)).keys ↔ _
    rw [Tally.mem_keys_count_iff hexact, h.keys, List.mem_append, List.mem_singleton]
    constructor
    · rintro (⟨hmem, hne⟩ | rfl)
      · exact ⟨Or.inl hmem, hne⟩
      · exact ⟨Or.inr rfl, by simpa using hlabel⟩
    · rintro ⟨hmem | rfl, hne⟩
      · exact Or.inl ⟨hmem, hne⟩
      · exact Or.inr rfl
  · exact Tally.nodup_keys_count hexact h.nodup

/-- Recording a label adds it to what is counted. -/
theorem Counts.recordDecode (h : Counts metrics labels) {label : Value}
    (htext : label.isStr = true) : Counts (metrics.recordDecode label) (labels ++ [label]) := by
  obtain ⟨label, rfl⟩ := Value.isStr_iff.1 htext
  by_cases hlabel : label = ""
  · subst hlabel
    exact h.recordDecode_empty
  · exact h.recordDecode_label hlabel

theorem Counts.recordAll (h : Counts metrics labels) {more : List Value}
    (htexts : ∀ label ∈ more, label.isStr = true) :
    Counts (metrics.recordAll more) (labels ++ more) := by
  induction more generalizing metrics labels with
  | nil => rwa [List.append_nil]
  | cons label more ih =>
      obtain ⟨hlabel, hmore⟩ := List.forall_mem_cons.1 htexts
      have hrest := ih (h.recordDecode hlabel) hmore
      rwa [List.append_assoc] at hrest

/-- Labels change nothing but the counts of vectors and outcomes. -/
theorem recordAll_eq (labels : List Value) (metrics : Metrics) :
    ∃ total resolved outcomes,
      metrics.recordAll labels = { metrics with total, resolved, outcomes } := by
  induction labels generalizing metrics with
  | nil => exact ⟨_, _, _, rfl⟩
  | cons label labels ih =>
      obtain ⟨total, resolved, outcomes, hrest⟩ := ih (metrics.recordDecode label)
      refine ⟨total, resolved, outcomes, ?_⟩
      show (metrics.recordDecode label).recordAll labels = _
      rw [hrest, recordDecode]
      split <;> rfl

/-- What has no outcome is the rest. -/
theorem Counts.unresolved (h : Counts metrics labels) :
    metrics.unresolved = labels.count (.str "") := by
  have hempty : (labels.countP fun label => ¬ label.truthy) = labels.count (.str "") := by
    refine List.countP_congr fun label hlabel => ?_
    obtain ⟨s, rfl⟩ := Value.isStr_iff.1 (h.texts label hlabel)
    simp [Value.truthy]
  have hsplit : labels.length = labels.countP Value.truthy + labels.count (.str "") := by
    rw [← hempty]
    exact List.length_eq_countP_add_countP Value.truthy
  rw [Metrics.unresolved, h.total, h.resolved, hsplit]
  omega

/-! ## Checks -/

/-- A check of a move between states that are given by texts, with its answer. -/
structure Check where
  source : String
  target : String
  isAllowed : Bool
  deriving DecidableEq

/-- The move that a check is about. -/
def Check.move (check : Check) : Move :=
  ⟨.str check.source, .str check.target⟩

/-- Record checks one after the other. -/
def recordChecks (checks : List Check) (metrics : Metrics) : Metrics :=
  checks.foldl (fun metrics check => metrics.recordCheck check.move check.isAllowed) metrics

/-- Holds of the metrics that count some checks, each on the side of its answer. -/
structure CountsChecks (metrics : Metrics) (checks : List Check) : Prop where
  total : metrics.allowed.total + metrics.denied.total = checks.length
  allowed : ∀ check : Check, check.isAllowed = true →
    metrics.allowed.get check.move = checks.count check
  denied : ∀ check : Check, check.isAllowed = false →
    metrics.denied.get check.move = checks.count check

theorem countsChecks_start (runId : Value) (startedAt completedAt : Option Time.DateTime)
    (treeTitle treeVersion : Value) :
    CountsChecks (start runId startedAt completedAt treeTitle treeVersion) [] :=
  ⟨rfl, fun _ _ => rfl, fun _ _ => rfl⟩

theorem isExact_move (check : Check) : Tally.IsExact check.move := by
  rintro ⟨a, b⟩
  show (a == .str check.source && b == .str check.target) = true ↔ _
  simp [Check.move]

theorem moveFault_move (check : Check) : moveFault? check.move = none :=
  rfl

theorem beq_iff_of_isAllowed_eq {check other : Check} (h : check.isAllowed = other.isAllowed) :
    (check.move == other.move) = (check == other) := by
  obtain ⟨source, target, isAllowed⟩ := check
  obtain ⟨otherSource, otherTarget, otherAllowed⟩ := other
  show (Value.str source == .str otherSource && Value.str target == .str otherTarget) = _
  rw [Value.beq_str, Value.beq_str, Bool.eq_iff_iff]
  simp only [Bool.and_eq_true, beq_iff_eq, Check.mk.injEq]
  exact ⟨fun hmove => ⟨hmove.1, hmove.2, h⟩, fun hsame => ⟨hsame.1, hsame.2.1⟩⟩

variable {checks : List Check}

/-- Counting a move once more is counting a check once more among those with its answer. -/
theorem get_count_move {tally : Tally Move} {check other : Check}
    (h : tally.get other.move = checks.count other)
    (hsame : check.isAllowed = other.isAllowed) :
    (tally.count check.move).get other.move = (checks ++ [check]).count other := by
  rw [Tally.get_count (isExact_move check) (isExact_move other), h, List.count_append,
    List.count_singleton, beq_iff_of_isAllowed_eq hsame]

theorem count_append_of_ne {check other : Check} (hne : check.isAllowed ≠ other.isAllowed) :
    (checks ++ [check]).count other = checks.count other := by
  have hcheck : check ≠ other := fun hsame => hne (congrArg Check.isAllowed hsame)
  rw [List.count_append, List.count_singleton, if_neg (by simpa using hcheck), Nat.add_zero]

/-- Recording a check adds it on the side of its answer. -/
theorem CountsChecks.recordCheck (h : CountsChecks metrics checks) (check : Check) :
    CountsChecks (metrics.recordCheck check.move check.isAllowed) (checks ++ [check]) := by
  rw [Metrics.recordCheck, moveFault_move]
  rcases hanswer : check.isAllowed with _ | _
  · refine ⟨?_, fun other hother => ?_, fun other hother => ?_⟩
    · rw [List.length_append, ← h.total]
      show metrics.allowed.total + (metrics.denied.count _).total = _
      rw [Tally.total_count, List.length_singleton, Nat.add_assoc]
    · rw [count_append_of_ne (by simp [hanswer, hother])]
      exact h.allowed other hother
    · exact get_count_move (h.denied other hother) (hanswer.trans hother.symm)
  · refine ⟨?_, fun other hother => ?_, fun other hother => ?_⟩
    · rw [List.length_append, ← h.total]
      show (metrics.allowed.count _).total + metrics.denied.total = _
      rw [Tally.total_count, List.length_singleton]
      omega
    · exact get_count_move (h.allowed other hother) (hanswer.trans hother.symm)
    · rw [count_append_of_ne (by simp [hanswer, hother])]
      exact h.denied other hother

theorem CountsChecks.recordChecks (h : CountsChecks metrics checks) (more : List Check) :
    CountsChecks (metrics.recordChecks more) (checks ++ more) := by
  induction more generalizing metrics checks with
  | nil => rwa [List.append_nil]
  | cons check more ih =>
      have hrest := ih (h.recordCheck check)
      rwa [List.append_assoc] at hrest

/-! ## Labels and checks leave each other alone -/

theorem Counts.recordCheck (h : Counts metrics labels) (move : Move) (isAllowed : Bool) :
    Counts (metrics.recordCheck move isAllowed) labels := by
  rw [Metrics.recordCheck]
  split
  · exact h
  · split <;> exact ⟨h.texts, h.total, h.resolved, h.outcomes_total, h.outcomes, h.keys, h.nodup⟩

theorem Counts.recordChecks (h : Counts metrics labels) (checks : List Check) :
    Counts (metrics.recordChecks checks) labels := by
  induction checks generalizing metrics with
  | nil => exact h
  | cons check checks ih => exact ih (h.recordCheck check.move check.isAllowed)

theorem CountsChecks.recordAll (h : CountsChecks metrics checks) (labels : List Value) :
    CountsChecks (metrics.recordAll labels) checks := by
  obtain ⟨total, resolved, outcomes, hrecorded⟩ := recordAll_eq labels metrics
  rw [hrecorded]
  exact ⟨h.total, h.allowed, h.denied⟩

end Metrics

end Ssvc
