import Ssvc.Loader
import Ssvc.Platform.Standard
import Ssvc.Proofs.Http.Client
import Ssvc.Proofs.Tree
import Ssvc.Proofs.Value.Texts

set_option autoImplicit false

/-! # How loads end

A load should end in one of two ways: with a tree and a record that says healthy, or with an error
that the loader reports and a record that has it. What passes the loader by ends it in other ways:
a file that cannot be taken in, a reader of markup that fails, attempts that end in something else
than a failed request, waits that are refused, and labels that are no texts, which are only found
out when the record is written. This module says of each stage when it is passed by, and that
nothing else keeps a load from ending as it should. It does so for every platform. -/

namespace Ssvc

open Time (Ticks)

/-- Holds of what fails in a way that a load does not report. -/
def PassesBy {α : Type} (source : Source) (result : Except LoadFailure α) : Prop :=
  ∃ failure, result = .error failure ∧ failure.report? source = none

section

variable {α : Type} {source : Source}

theorem not_passesBy_ok (a : α) : ¬ PassesBy source (.ok a : Except LoadFailure α) :=
  nofun

theorem passesBy_error_iff (failure : LoadFailure) :
    PassesBy source (.error failure : Except LoadFailure α) ↔ failure.report? source = none := by
  simp [PassesBy]

theorem not_passesBy_reported (error : LoadError) :
    ¬ PassesBy source (.error (.reported error) : Except LoadFailure α) := by
  rw [passesBy_error_iff]
  exact Option.some_ne_none error

instance : (result : Except LoadFailure α) → Decidable (PassesBy source result)
  | .ok a => isFalse (not_passesBy_ok a)
  | .error failure => decidable_of_iff _ (passesBy_error_iff failure).symm

theorem LoadFailure.outside?_eq_none_iff (fault : OutsideFault) :
    outside? source fault = none ↔ fault.kind ≠ .shape := by
  rw [outside?]
  split
  · next hshape => exact iff_of_false (Option.some_ne_none _) (not_not_intro hshape)
  · next hshape => exact iff_of_true rfl hshape

end

/-! ## The disk -/

namespace Disk

variable {disk : Disk} {path : Path} {place : List String} {content : Content}

theorem hasPath_of_place (h : disk.placeOf path path.text = .ok place) :
    disk.hasPath path = .ok (disk.at? place).isSome := by
  simp only [hasPath, h]

/-- Where a path leads nowhere there is nothing, unless a name is too long. -/
theorem hasPath_of_error {error : DiskError} (h : disk.placeOf path path.text = .error error)
    (hlong : ∀ shown, error ≠ .tooLong shown) : disk.hasPath path = .ok false := by
  rw [hasPath, h]
  cases error with
  | tooLong shown => exact absurd rfl (hlong shown)
  | _ => rfl

theorem readText_of_directory (intake : Intake) (hplace : disk.placeOf path path.text = .ok place)
    (h : disk.at? place = some .directory) :
    disk.readText intake path path.text = .error (.isDirectory path.text) := by
  simp [readText, Disk.content, hplace, h, bind, Except.bind]

theorem readText_of_file (intake : Intake) (hplace : disk.placeOf path path.text = .ok place)
    (h : disk.at? place = some (.file content)) :
    disk.readText intake path path.text =
      match content.decode intake with
      | .ok s => .ok (String.ofList (Text.unifyLineEnds s.toList))
      | .error fault => .error (.undecodable fault) := by
  rcases hdecode : content.decode intake with fault | s <;>
    simp [readText, Disk.content, hplace, h, hdecode, bind, Except.bind, pure, Except.pure]

end Disk

/-! ## Files -/

/-- How a file is taken in. -/
def intakeOf (path : Path) : Intake :=
  if isMarkupFile path then .stream else .whole

/-- The document in a text that was read from a file. -/
def parseFile (read : MarkupReader) (path : Path) (text : String) : Except LoadFailure Value :=
  if isMarkupFile path then parseMarkup read path text else parseJson path text

/-- The document in the file at a path. -/
def documentAt (read : MarkupReader) (disk : Disk) (path : Path) : Except LoadFailure Value := do
  if ← (disk.hasPath path).mapError .disk then
    parseFile read path (← (disk.readText (intakeOf path) path path.text).mapError .disk)
  else .error (.reported (.notFound path.text))

theorem readDocument_eq (read : MarkupReader) (disk : Disk) (name : String) :
    readDocument read disk name = documentAt read disk (Path.read name) := by
  unfold readDocument documentAt intakeOf parseFile
  generalize Path.read name = path
  by_cases hpath : isMarkupFile path = true <;> simp [hpath]

variable {read : MarkupReader}

/-- Holds of the texts at which the reader of a file fails without finding a mistake: the reader of
markup fails for another reason, unless that is the shape of a value, or there is too much for the
reader of JSON. -/
inductive IsBeyond (read : MarkupReader) (path : Path) (text : String) : Prop
  | markup (fault : OutsideFault) (hpath : isMarkupFile path = true)
      (hread : read text = .error (.outside fault)) (hkind : fault.kind ≠ .shape)
  | json (excess : Json.Excess) (hpath : isMarkupFile path = false)
      (hread : Json.read text = .error (.beyond excess))

theorem passesBy_parseFile_iff (source : Source) (path : Path) (text : String) :
    PassesBy source (parseFile read path text) ↔ IsBeyond read path text := by
  unfold parseFile
  constructor
  · rintro ⟨failure, h, hpassed⟩
    split at h
    · next hpath =>
        unfold parseMarkup at h
        split at h <;> cases h
        · cases hpassed
        · next fault hread =>
            exact .markup fault hpath hread ((LoadFailure.outside?_eq_none_iff fault).1 hpassed)
    · next hpath =>
        unfold parseJson at h
        split at h <;> cases h
        · next excess hread => exact .json excess (Bool.not_eq_true _ ▸ hpath) hread
        · cases hpassed
  · rintro (⟨fault, hpath, hread, hkind⟩ | ⟨excess, hpath, hread⟩)
    · rw [if_pos hpath, parseMarkup, hread]
      exact ⟨_, rfl, (LoadFailure.outside?_eq_none_iff fault).2 hkind⟩
    · rw [hpath, parseJson, hread]
      exact ⟨_, rfl, rfl⟩

/-- What is wrong with a path when a loader does not report it: a name is too long, there is a
directory, the bytes are no text, or the text is beyond its reader. -/
inductive FileTrouble (read : MarkupReader) (disk : Disk) (path : Path) : Prop
  | tooLong (shown : String) (hplace : disk.placeOf path path.text = .error (.tooLong shown))
  | directory {place : List String} (hplace : disk.placeOf path path.text = .ok place)
      (h : disk.at? place = some .directory)
  | undecodable {place : List String} {content : Content} {fault : Text.Utf8.Fault}
      (hplace : disk.placeOf path path.text = .ok place)
      (h : disk.at? place = some (.file content))
      (hdecode : content.decode (intakeOf path) = .error fault)
  | beyond {place : List String} {content : Content} {text : String}
      (hplace : disk.placeOf path path.text = .ok place)
      (h : disk.at? place = some (.file content))
      (hdecode : content.decode (intakeOf path) = .ok text)
      (hbeyond : IsBeyond read path (String.ofList (Text.unifyLineEnds text.toList)))

section

variable {disk : Disk} {path : Path} {place : List String} {content : Content}

theorem documentAt_of_absent (h : disk.hasPath path = .ok false) :
    documentAt read disk path = .error (.reported (.notFound path.text)) := by
  rw [documentAt, h]
  rfl

theorem documentAt_of_tooLong {shown : String}
    (h : disk.placeOf path path.text = .error (.tooLong shown)) :
    documentAt read disk path = .error (.disk (.tooLong shown)) := by
  rw [documentAt, Disk.hasPath, h]
  rfl

theorem documentAt_of_directory (hplace : disk.placeOf path path.text = .ok place)
    (h : disk.at? place = some .directory) :
    documentAt read disk path = .error (.disk (.isDirectory path.text)) := by
  rw [documentAt, Disk.hasPath_of_place hplace, h, Disk.readText_of_directory _ hplace h]
  rfl

theorem documentAt_of_file (hplace : disk.placeOf path path.text = .ok place)
    (h : disk.at? place = some (.file content)) :
    documentAt read disk path =
      match content.decode (intakeOf path) with
      | .ok text => parseFile read path (String.ofList (Text.unifyLineEnds text.toList))
      | .error fault => .error (.disk (.undecodable fault)) := by
  rw [documentAt, Disk.hasPath_of_place hplace, h, Disk.readText_of_file _ hplace h]
  rcases content.decode (intakeOf path) with fault | text <;>
    simp [Except.mapError, bind, Except.bind]

/-- A file passes the loader by exactly if there is trouble with it. One that is missing does not,
and neither does one whose text is no document. -/
theorem passesBy_documentAt_iff (source : Source) (disk : Disk) (path : Path) :
    PassesBy source (documentAt read disk path) ↔ FileTrouble read disk path := by
  have habsent : disk.hasPath path = .ok false → ¬ PassesBy source (documentAt read disk path) := by
    intro h
    rw [documentAt_of_absent h]
    exact not_passesBy_reported _
  constructor
  · intro hpassed
    rcases hplace : disk.placeOf path path.text with error | place
    · by_cases hlong : ∃ shown, error = .tooLong shown
      · obtain ⟨shown, rfl⟩ := hlong
        exact .tooLong shown hplace
      · rw [not_exists] at hlong
        exact absurd hpassed (habsent (Disk.hasPath_of_error hplace hlong))
    · rcases hat : disk.at? place with _ | content | _
      · refine absurd hpassed (habsent ?_)
        rw [Disk.hasPath_of_place hplace, hat]
        rfl
      · rw [documentAt_of_file hplace hat] at hpassed
        rcases hdecode : content.decode (intakeOf path) with fault | text
        · exact .undecodable hplace hat hdecode
        · rw [hdecode] at hpassed
          exact .beyond hplace hat hdecode ((passesBy_parseFile_iff source _ _).1 hpassed)
      · exact .directory hplace hat
  · rintro (⟨shown, hplace⟩ | ⟨hplace, hat⟩ | ⟨hplace, hat, hdecode⟩ |
      ⟨hplace, hat, hdecode, hbeyond⟩)
    · exact ⟨_, documentAt_of_tooLong hplace, rfl⟩
    · exact ⟨_, documentAt_of_directory hplace hat, rfl⟩
    · rw [documentAt_of_file hplace hat, hdecode]
      exact ⟨_, rfl, rfl⟩
    · rw [documentAt_of_file hplace hat, hdecode]
      exact (passesBy_parseFile_iff source _ _).2 hbeyond

end

/-! ## Servers -/

section

variable {τ : Type}

/-- What is behind an error while fetching when a loader does not report it: there are no attempts
or too many, the platform refuses a wait for another reason than its value, the line breaks off for
a reason that is neither, or a reply asks for a wait with a date beyond all bounds or has a body
that is too deep. -/
inductive FetchTrouble (client : Http.Client τ) (host : Host τ) : Prop
  | noAttempts (h : client.retry.attempts = 0)
  | manyAttempts (h : 1025 < client.retry.attempts)
  | wait {attempt : Nat} {asked : Option Float} {seconds : Float} {fault : SleepFault}
      (hdelay : client.retry.delay? attempt host.chance asked = some seconds)
      (hfault : host.platform.sleepFault? seconds = some fault) (hkind : fault.kind ≠ .value)
  | outside {fault : OutsideFault} (hreply : Http.Reply.failure (.outside fault) ∈ host.replies)
      (hkind : fault.kind = .other)
  | date {response : Http.Response} {problem : Time.MailDate.Problem}
      (hreply : Http.Reply.response response ∈ host.replies)
      (hdate : Http.readAsked host.clock (response.header? "Retry-After") = .error problem)
  | depth {response : Http.Response} {excess : Json.Excess}
      (hreply : Http.Reply.response response ∈ host.replies)
      (hread : Json.read response.body = .error (.beyond excess))

theorem fetchTrouble_of_cause {client : Http.Client τ} {host : Host τ} {error : Http.FetchError}
    {source : Source} {address : String} (h : Http.FetchCause client host error)
    (hpassed : (fetchFailure address error).report? source = none) : FetchTrouble client host := by
  -- what is reported while fetching, and what a load takes for a fault of the tree, has not passed
  cases h with
  | circuitOpen name => cases hpassed
  | attempts h =>
      cases h with
      | exhausted name url hnone => exact .noAttempts hnone
      | delay hmany => exact .manyAttempts hmany
      | @wait _ _ _ fault hdelay hfault =>
          refine .wait hdelay hfault fun hvalue => ?_
          have hreported : isReported (.badWait fault) = true := decide_eq_true hvalue
          rw [fetchFailure, if_pos hreported] at hpassed
          cases hpassed
      | @about error habout =>
          cases error with
          | outside fault => cases habout
          | _ => cases hpassed
      | @outside fault hreply =>
          refine .outside hreply ?_
          rw [fetchFailure, isReported] at hpassed
          cases hkind : fault.kind with
          | value => simp [hkind, LoadFailure.report?] at hpassed
          | shape => simp [hkind, LoadFailure.report?, LoadFailure.outside?] at hpassed
          | other => rfl
      | status response url => cases hpassed
      | date hreply hdate => exact .date hreply hdate
  | @body response fault hreply hread =>
      cases fault with
      | malformed problem place => cases hpassed
      | beyond excess => exact .depth hreply hread

theorem passesBy_mapError_fetchFailure_iff {α : Type} (source : Source) (address : String)
    (result : Except Http.FetchError α) :
    PassesBy source (result.mapError (fetchFailure address)) ↔
      ∃ error, result = .error error ∧ (fetchFailure address error).report? source = none := by
  rcases result with error | a
  · simp [Except.mapError, passesBy_error_iff]
  · simp [Except.mapError, PassesBy]

end

namespace Loader

variable {τ : Type} [Ticks τ]

/-! ## Sources -/

/-- What is wrong with a source when a loader does not report it. -/
inductive SourceTrouble (loader : Loader τ) (host : Host τ) : Prop
  | file {name : String} (hsource : loader.source = .named name)
      (hlocal : Source.isAddress name = false)
      (h : FileTrouble host.platform.readMarkup host.disk (Path.read name))
  | fetch {name : String} {error : Http.FetchError} (hsource : loader.source = .named name)
      (hremote : Source.isAddress name = true)
      (hfetch : (Http.fetch name .null ⟨loader.client, host⟩).1 = .error error)
      (hpassed : (fetchFailure name error).report? loader.source = none)
      (htrouble : FetchTrouble loader.client host)

theorem passesBy_sourceValue_iff (loader : Loader τ) (host : Host τ) :
    PassesBy loader.source (loader.sourceValue host).1 ↔ loader.SourceTrouble host := by
  unfold sourceValue
  constructor
  · intro hpassed
    split at hpassed
    · exact absurd hpassed (not_passesBy_ok _)
    · next name hsource =>
        split at hpassed
        · next hremote =>
            obtain ⟨error, hfetch, hpassed⟩ :=
              (passesBy_mapError_fetchFailure_iff loader.source name _).1 hpassed
            obtain ⟨-, hcause⟩ := Http.fetch_spec name .null ⟨loader.client, host⟩
            exact .fetch hsource hremote hfetch hpassed
              (fetchTrouble_of_cause (hcause error hfetch) hpassed)
        · next hlocal =>
            rw [readDocument_eq, passesBy_documentAt_iff] at hpassed
            exact .file hsource (Bool.not_eq_true _ ▸ hlocal) hpassed
  · rintro (⟨hsource, hlocal, h⟩ | ⟨hsource, hremote, hfetch, hpassed, -⟩)
    · simp only [hsource, hlocal]
      rw [readDocument_eq]
      exact (passesBy_documentAt_iff _ _ _).2 h
    · rw [hsource] at hpassed
      simp only [hsource, hremote]
      exact (passesBy_mapError_fetchFailure_iff _ _ _).2 ⟨_, hfetch, hpassed⟩

/-- Reading a source changes no more of a loader than its client, and takes no time on the clock. -/
theorem sourceValue_frame (loader : Loader τ) (host : Host τ) :
    ∃ result client after, loader.sourceValue host = (result, { loader with client }, after) ∧
      after.civilClock = host.civilClock := by
  unfold sourceValue
  split
  · exact ⟨_, loader.client, host, rfl, rfl⟩
  · next name hsource =>
      split
      · obtain ⟨hframe, -⟩ := Http.fetch_spec name .null ⟨loader.client, host⟩
        exact ⟨_, _, _, rfl, congrArg ({ · with offset := none }) hframe.clock_eq⟩
      · exact ⟨_, loader.client, host, rfl, rfl⟩

theorem passesBy_requireMapping_iff (source : Source) (result : Except LoadFailure Value) :
    PassesBy source (result.bind (requireMapping source)) ↔ PassesBy source result := by
  rcases result with failure | document
  · rfl
  · refine iff_of_false ?_ (not_passesBy_ok document)
    cases document with
    | obj fields => exact not_passesBy_ok _
    | _ => exact not_passesBy_reported _

theorem document_spec (loader : Loader τ) (host : Host τ) :
    ∃ result client after, loader.document host = (result, { loader with client }, after) ∧
      after.civilClock = host.civilClock ∧
      (PassesBy loader.source result ↔ loader.SourceTrouble host) := by
  obtain ⟨result, client, after, hvalue, hclock⟩ := loader.sourceValue_frame host
  refine ⟨result.bind (requireMapping loader.source), client, after, ?_, hclock, ?_⟩
  · rw [document, hvalue]
  · rw [passesBy_requireMapping_iff, ← passesBy_sourceValue_iff, hvalue]

/-! ## Loads -/

/-- The record of a load that gave a tree. -/
def healthy (loader : Loader τ) (host : Host τ) (tree : Tree) : Health :=
  ⟨loader.source.text, true, some host.civilClock, tree.points.length, none⟩

/-- The record of a load that ended in an error. -/
def unhealthy (loader : Loader τ) (host : Host τ) (error : LoadError) : Health :=
  ⟨loader.source.text, false, some host.civilClock, 0, some error⟩

omit [Ticks τ] in
/-- A tree whose labels are texts is given back. In any case the record says healthy. -/
theorem succeed_spec (loader : Loader τ) (tree : Tree) (host : Host τ) :
    (loader.succeed tree host).2.1.health = loader.healthy host tree ∧
      ((∃ label ∈ tree.steps, label.isStr = false) ∧
          (∃ cause, (loader.succeed tree host).1 = .error (.labels cause)) ∨
        (∀ label ∈ tree.steps, label.isStr = true) ∧ (loader.succeed tree host).1 = .ok tree) := by
  unfold succeed
  have htexts := Value.exists_joinTexts_iff ", " tree.steps
  split
  · next cause hjoin =>
      refine ⟨rfl, Or.inl ⟨?_, cause, rfl⟩⟩
      by_contra hnone
      have hall : ∀ label ∈ tree.steps, label.isStr = true := by simpa using hnone
      obtain ⟨steps, hsteps⟩ := htexts.2 hall
      rw [hjoin] at hsteps
      cases hsteps
  · next steps hjoin => exact ⟨rfl, Or.inr ⟨htexts.1 ⟨steps, hjoin⟩, rfl⟩⟩

/-- Holds of the loads that end as they should. -/
def Settles (loader : Loader τ) (host : Host τ) : Prop :=
  (∃ tree, (loader.load host).1 = .ok tree ∧
    (loader.load host).2.1.health = loader.healthy host tree) ∨
  ∃ error, (loader.load host).1 = .error (.reported error) ∧
    (loader.load host).2.1.health = loader.unhealthy host error

theorem Settles.not_passesBy {loader : Loader τ} {host : Host τ} (h : loader.Settles host) :
    ¬ PassesBy loader.source (loader.load host).1 := by
  rcases h with ⟨tree, hload, -⟩ | ⟨error, hload, -⟩
  · rw [hload]
    exact not_passesBy_ok tree
  · rw [hload]
    exact not_passesBy_reported error

/-- Holds of the tree at the source if it has a main decision whose label is no text. -/
def LabelTrouble (loader : Loader τ) (host : Host τ) (tree : Tree) : Prop :=
  ∃ document, (loader.document host).1 = .ok document ∧ Tree.read document = .ok tree ∧
    ∃ label ∈ tree.steps, label.isStr = false

section

variable {loader : Loader τ} {host after : Host τ} {client : Http.Client τ}

theorem load_of_passed {failure : LoadFailure} (hpassed : failure.report? loader.source = none)
    (h : loader.document host = (.error failure, { loader with client }, after)) :
    loader.load host = (.error failure, { loader with client }, after) := by
  simp only [load, h, hpassed]

theorem load_of_caught {failure : LoadFailure} {error : LoadError}
    (hcaught : failure.report? loader.source = some error)
    (h : loader.document host = (.error failure, { loader with client }, after)) :
    loader.load host = { loader with client }.fail error after := by
  simp only [load, h, hcaught]

theorem settles_of_reported {error : LoadError} (hclock : after.civilClock = host.civilClock)
    (h : loader.load host = { loader with client }.fail error after) : loader.Settles host := by
  refine Or.inr ⟨error, ?_, ?_⟩
  · rw [h]
    rfl
  · rw [h, unhealthy, ← hclock]
    rfl

/-- A document that is read as a tree is recorded as one, whether its labels are texts or not. -/
theorem load_of_read {document : Value} {tree : Tree} (hclock : after.civilClock = host.civilClock)
    (hread : Tree.read document = .ok tree)
    (h : loader.document host = (.ok document, { loader with client }, after)) :
    (loader.load host).2.1.health = loader.healthy host tree ∧
      ((∃ label ∈ tree.steps, label.isStr = false) ∧
          (∃ cause, (loader.load host).1 = .error (.labels cause)) ∨
        (∀ label ∈ tree.steps, label.isStr = true) ∧ (loader.load host).1 = .ok tree) := by
  have hload : loader.load host
      = { loader with client }.succeed tree (after.note (Journal.treeNotes tree)) := by
    simp only [load, h, hread]
  obtain ⟨hhealth, hresult⟩ :=
    succeed_spec { loader with client } tree (after.note (Journal.treeNotes tree))
  rw [← hload] at hhealth hresult
  refine ⟨?_, hresult⟩
  rw [hhealth, healthy, healthy, ← hclock]
  rfl

end

/-- **How a load ends.** Where there is no trouble, a load ends as it should. Trouble with the
source ends it in a failure that is not reported and leaves the record of the load before. Labels
that are no texts end it in a failure as well, but the record says healthy. -/
theorem load_ends (loader : Loader τ) (host : Host τ) :
    (loader.Settles host ∧ ¬ loader.SourceTrouble host ∧ ¬ ∃ tree, loader.LabelTrouble host tree) ∨
    (loader.SourceTrouble host ∧ PassesBy loader.source (loader.load host).1 ∧
      (loader.load host).2.1.health = loader.health) ∨
    ∃ tree cause, loader.LabelTrouble host tree ∧
      (loader.load host).1 = .error (.labels cause) ∧
      (loader.load host).2.1.health = loader.healthy host tree := by
  obtain ⟨result, client, after, hdocument, hclock, hpassed⟩ := loader.document_spec host
  rcases result with failure | document
  · have hlabels : ¬ ∃ tree, loader.LabelTrouble host tree := by
      rintro ⟨tree, document, h, -⟩
      rw [hdocument] at h
      cases h
    rw [passesBy_error_iff] at hpassed
    rcases hreport : failure.report? loader.source with _ | error
    · have hload := load_of_passed hreport hdocument
      refine Or.inr (Or.inl ⟨hpassed.1 hreport, ⟨failure, ?_, hreport⟩, ?_⟩)
      · rw [hload]
      · rw [hload]
    · have hsource : ¬ loader.SourceTrouble host := by
        rw [← hpassed, hreport]
        exact Option.some_ne_none error
      exact Or.inl ⟨settles_of_reported hclock (load_of_caught hreport hdocument), hsource, hlabels⟩
  · have hsource : ¬ loader.SourceTrouble host := mt hpassed.2 (not_passesBy_ok document)
    have hlabels : ∀ tree, loader.LabelTrouble host tree ↔ Tree.read document = .ok tree ∧
        ∃ label ∈ tree.steps, label.isStr = false := by
      intro tree
      simp [LabelTrouble, hdocument]
    rcases hread : Tree.read document with cause | tree
    · have hload : loader.load host = { loader with client }.fail
          (.malformed loader.source.text (.shape cause)) after := by
        simp only [load, hdocument, hread]
      refine Or.inl ⟨settles_of_reported hclock hload, hsource, ?_⟩
      simp [hlabels, hread]
    · obtain ⟨hhealth, ⟨hsome, cause, hload⟩ | ⟨hall, hload⟩⟩ :=
        load_of_read hclock hread hdocument
      · exact Or.inr (Or.inr ⟨tree, cause, (hlabels tree).2 ⟨hread, hsome⟩, hload, hhealth⟩)
      · refine Or.inl ⟨Or.inl ⟨tree, hload, hhealth⟩, hsource, ?_⟩
        simpa [hlabels, hread] using hall

/-! ## One load of each kind -/

/-- A host with one entry on its disk and nobody to answer. -/
def holding (entry : Entry) : Host Rat where
  platform := .standard
  clock := ⟨2024, 5, 2, 14, 23, 11, 500000, some 0⟩
  ticks := 0
  chance := 0.5
  replies := []
  requests := []
  waits := []
  disk := ⟨[(["tree.json"], entry)]⟩
  notes := []

/-- The tree that is built in is loaded as it should be. -/
theorem load_ends_builtIn :
    (new .builtIn (Http.Client.new .standard)).Settles (holding .directory) := by
  rcases load_ends (new .builtIn (Http.Client.new .standard)) (holding .directory) with
    ⟨hsettles, -⟩ | ⟨hsource, -⟩ |
      ⟨tree, -, ⟨document, hdocument, hread, label, hlabel, htext⟩, -, -⟩
  · exact hsettles
  · rcases hsource with ⟨hnamed, -, -⟩ | ⟨hnamed, -, -, -, -⟩ <;> cases hnamed
  · have hbuiltIn : document = Coordinator.document := (Except.ok.inj hdocument).symm
    have htexts : (Tree.read Coordinator.document).toOption.all
        (fun tree => tree.steps.all Value.isStr) = true := by decide +kernel
    rw [← hbuiltIn, hread] at htexts
    rw [List.all_eq_true.1 htexts label hlabel] at htext
    cases htext

/-- The file of a tree whose only decision has a number for its label. -/
def numbered : Content :=
  .text (Json.compact (.obj [("decision_points", .arr [.obj [("label", .int 1)]])]))

/-- A loader that is set up with the name of a file. Where the decision in the file has a number for
its label, the load fails and the record says healthy; where there is a directory, the load fails
and the loader does not report it. -/
theorem load_unsettled :
    ∃ loader : Loader Rat, Loader.read (.obj [("source", "tree.json")]) none = .ok loader ∧
      ¬ loader.Settles (holding (.file numbered)) ∧ ¬ loader.Settles (holding .directory) ∧
      PassesBy loader.source (loader.load (holding (.file numbered))).1 ∧
      (loader.load (holding (.file numbered))).2.1.health.isHealthy = true := by
  obtain ⟨loader, hread, htests⟩ : ∃ loader : Loader Rat,
      Loader.read (.obj [("source", "tree.json")]) none = .ok loader ∧
        decide (PassesBy loader.source (loader.load (holding (.file numbered))).1 ∧
          PassesBy loader.source (loader.load (holding .directory)).1 ∧
          (loader.load (holding (.file numbered))).2.1.health.isHealthy = true) = true :=
    Traversal.exists_ok_of_any (by decide +kernel)
  obtain ⟨hnumbered, hdirectory, hhealthy⟩ := of_decide_eq_true htests
  exact ⟨loader, hread, fun h => h.not_passesBy hnumbered, fun h => h.not_passesBy hdirectory,
    hnumbered, hhealthy⟩

end Loader

end Ssvc
