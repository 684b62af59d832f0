import Ssvc.Value

set_option autoImplicit false

/-! # The coordinator tree

The decision tree for coordinating agencies, as a document. It is used when a configuration names
no tree. Three decisions are made directly, the effect on mission and well-being follows from two
more, and the table gives the outcome for each of the thirty-six ways to decide. -/

namespace Ssvc.Coordinator

/-- A choice that is made directly. -/
def choice (label key description : String) : Value :=
  .obj [("label", label), ("key", key), ("description", description)]

/-- An outcome with its colour. -/
def outcome (label key color description : String) : Value :=
  .obj [("label", label), ("key", key), ("color", color), ("description", description)]

/-- The condition that a child has one of some choices, given as labels with their keys. -/
def condition (child key : String) (choices : List (String × String)) : Value :=
  .obj [("child_label", child), ("child_key", key),
    ("child_option_labels", .arr (choices.map fun (label, _) => .str label)),
    ("child_option_keys", .arr (choices.map fun (_, key) => .str key))]

/-- The combination of a condition on mission prevalence with one on the harm to people. -/
def both (prevalence impact : List (String × String)) : Value :=
  .arr [condition "Mission Prevalence" "MP" prevalence,
    condition "Public Well-being Impact" "B" impact]

/-- A choice that follows from combinations. -/
def derived (label key description : String) (combinations : List Value) : Value :=
  .obj [("label", label), ("key", key), ("description", description),
    ("child_combinations", .arr combinations)]

/-- A decision point; only complex ones name children. -/
def point (label key type : String) (children : List String) (choices : List Value) : Value :=
  .obj ([("label", .str label), ("key", .str key), ("decision_type", .str type)]
    ++ (if children.isEmpty then []
      else [("children", .arr (children.map fun child => .obj [("label", .str child)]))])
    ++ [("options", .arr choices)])

/-- A row of the decisions table. -/
def row (exploitation automatable impact mission decision : String) : Value :=
  .obj [("Exploitation", exploitation), ("Automatable", automatable),
    ("Technical Impact", impact), ("Mission & Well-being", mission), ("Decision", decision)]

/-! ## Decision points -/

/-- How far exploitation has come. -/
def exploitation : Value :=
  point "Exploitation" "E" "simple" [] [
    choice "none" "N"
      "No evidence of active exploitation and no public proof of concept.",
    choice "public PoC" "P"
      "Typical public PoC exists or the exploitation technique is well known.",
    choice "active" "A"
      "Shared, observable, reliable evidence that the vulnerability is exploited in the wild."]

/-- Whether an attack can be automated. -/
def automatable : Value :=
  point "Automatable" "A" "simple" [] [
    choice "no" "N"
      "Attackers cannot reliably automate all four steps of the kill chain.",
    choice "yes" "Y"
      "Attackers can reliably automate all four steps of the kill chain."]

/-- How much control an attack gives. -/
def technicalImpact : Value :=
  point "Technical Impact" "T" "simple" [] [
    choice "partial" "P"
      "The adversary has limited control over, or information exposure of, the affected software.",
    choice "total" "T"
      "The adversary has total control over the behavior of the software or total information disclosure."]

/-- How much a mission depends on the component. -/
def missionPrevalence : Value :=
  point "Mission Prevalence" "MP" "simple" [] [
    choice "Minimal" "M"
      "Neither Support nor Essential.",
    choice "Support" "S"
      "The vulnerable component only supports mission essential functions.",
    choice "Essential" "E"
      "The vulnerable component directly provides mission essential functions."]

/-- How much harm is done to people. -/
def wellBeingImpact : Value :=
  point "Public Well-being Impact" "B" "simple" [] [
    choice "Minimal" "M"
      "The effect is below the threshold for all aspects described in material.",
    choice "Material" "A"
      "Physical, environmental, financial or psychological harm reaches a material level.",
    choice "Irreversible" "I"
      "One or more aspects of harm are irreversible, such as loss of life."]

/-- The effect on mission and well-being, which follows from the two decisions before. -/
def mission : Value :=
  point "Mission & Well-being" "M" "complex" ["Mission Prevalence", "Public Well-being Impact"] [
    derived "Low" "L"
      "Mission Prevalence is Minimal and Public Well-being Impact is Minimal."
      [both [("Minimal", "M")] [("Minimal", "M")]],
    derived "Medium" "M"
      "Mission Prevalence is Support or Public Well-being Impact is Material, and neither is higher."
      [both [("Minimal", "M")] [("Material", "A")],
       both [("Support", "S")] [("Minimal", "M"), ("Material", "A")]],
    derived "High" "H"
      "Mission Prevalence is Essential or Public Well-being Impact is Irreversible."
      [both [("Essential", "E")] [("Minimal", "M"), ("Material", "A"), ("Irreversible", "I")],
       both [("Minimal", "M"), ("Support", "S")] [("Irreversible", "I")]]]

/-- The outcomes. -/
def decision : Value :=
  point "Decision" "D" "final" [] [
    outcome "Track" "T" "#28a745"
      "Remediate within standard update timelines.",
    outcome "Track*" "R" "#ffc107"
      "Monitor for changes; remediate within standard update timelines.",
    outcome "Attend" "A" "#fd7e14"
      "Seek assistance from leadership; remediate sooner than standard update timelines.",
    outcome "Act" "C" "#dc3545"
      "Seek assistance from leadership; remediate as soon as possible."]

/-! ## The decisions table -/

/-- The outcome for each way to decide. -/
def table : List Value := [
  row "none" "no" "partial" "Low" "Track",
  row "none" "no" "partial" "Medium" "Track",
  row "none" "no" "partial" "High" "Track",
  row "none" "no" "total" "Low" "Track",
  row "none" "no" "total" "Medium" "Track",
  row "none" "no" "total" "High" "Track*",
  row "none" "yes" "partial" "Low" "Track",
  row "none" "yes" "partial" "Medium" "Track",
  row "none" "yes" "partial" "High" "Attend",
  row "none" "yes" "total" "Low" "Track",
  row "none" "yes" "total" "Medium" "Track",
  row "none" "yes" "total" "High" "Attend",
  row "public PoC" "no" "partial" "Low" "Track",
  row "public PoC" "no" "partial" "Medium" "Track",
  row "public PoC" "no" "partial" "High" "Track*",
  row "public PoC" "no" "total" "Low" "Track",
  row "public PoC" "no" "total" "Medium" "Track*",
  row "public PoC" "no" "total" "High" "Attend",
  row "public PoC" "yes" "partial" "Low" "Track",
  row "public PoC" "yes" "partial" "Medium" "Track",
  row "public PoC" "yes" "partial" "High" "Attend",
  row "public PoC" "yes" "total" "Low" "Track",
  row "public PoC" "yes" "total" "Medium" "Track*",
  row "public PoC" "yes" "total" "High" "Attend",
  row "active" "no" "partial" "Low" "Track",
  row "active" "no" "partial" "Medium" "Track",
  row "active" "no" "partial" "High" "Attend",
  row "active" "no" "total" "Low" "Track",
  row "active" "no" "total" "Medium" "Attend",
  row "active" "no" "total" "High" "Act",
  row "active" "yes" "partial" "Low" "Attend",
  row "active" "yes" "partial" "Medium" "Attend",
  row "active" "yes" "partial" "High" "Act",
  row "active" "yes" "total" "Low" "Attend",
  row "active" "yes" "total" "Medium" "Act",
  row "active" "yes" "total" "High" "Act"]

/-- The whole document. -/
def document : Value :=
  .obj [("lang", "en"), ("title", "CISA Coordinator"), ("version", "2.0.3"),
    ("decision_points", .arr [exploitation, automatable, technicalImpact, missionPrevalence,
      wellBeingImpact, mission, decision]),
    ("decisions_table", .arr table)]

end Ssvc.Coordinator
