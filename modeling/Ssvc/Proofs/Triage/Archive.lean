import Mathlib.Data.List.Basic
import Ssvc.Proofs.Disk
import Ssvc.Proofs.Report
import Ssvc.Proofs.Time.Order
import Ssvc.Proofs.Triage

set_option autoImplicit false

/-! # The reports that a run has saved

A report is drafted and then saved under a name that tells the second. Nothing else is written to
the disk, and no directory is taken away, so what is read under the name of a report is what was
written there last: the latest report of that second. A report is lost exactly to a later one of the
same second. -/

namespace Ssvc.Triage

open Time (Ticks)

variable {τ : Type}

/-! ## Drafts -/

/-- Decode all vectors in a file and render a report about them, without saving it. -/
def draft (vectors : Path) (triage : Triage) (host : Host τ) : Outcome τ String :=
  match host.disk.readText .whole vectors vectors.text with
  | .error error => (.error (.disk error), triage, host)
  | .ok text =>
    let lines := vectorLines text
    let host := host.note [⟨.info, .application,
      "Decoding " ++ toString lines.length ++ " vectors from " ++ vectors.text⟩]
    match decode (lines.map .str) triage host with
    | (.error failure, triage, host) => (.error failure, triage, host)
    | (.ok results, triage, host) =>
      let metrics := { triage.metrics with completedAt := some host.civilClock }
      ((Report.render host.platform.layTable metrics results).mapError .shape,
        { triage with metrics }, host)

/-- Save what was drafted, if anything was. -/
def saveDraft (outcome : Outcome τ String) : Outcome τ Path :=
  match outcome with
  | (.error failure, triage, host) => (.error failure, triage, host)
  | (.ok text, triage, host) =>
    ((triage.save text host).1.mapError .disk, triage,
      { host with disk := (triage.save text host).2 })

theorem report_eq_saveDraft (vectors : Path) (triage : Triage) (host : Host τ) :
    report vectors triage host = saveDraft (draft vectors triage host) := by
  unfold report draft
  rcases host.disk.readText .whole vectors vectors.text with error | text
  · rfl
  · dsimp only
    rcases decode _ triage _ with ⟨failure | results, after, later⟩
    · rfl
    · dsimp only [saveReport]
      cases Report.render later.platform.layTable _ results <;> rfl

/-- Decoding changes the metrics of a run and adds notes. -/
theorem exists_decode_snd (vectors : List Value) (triage : Triage) (host : Host τ) :
    ∃ metrics notes,
      (decode vectors triage host).2 = ({ triage with metrics }, host.note notes) := by
  induction vectors generalizing triage host with
  | nil => exact ⟨triage.metrics, [], by simp [decode, Host.note]⟩
  | cons vector rest ih =>
      rw [decode]
      split
      · exact ⟨_, _, rfl⟩
      · obtain ⟨metrics, notes, hrest⟩ := ih (triage.count (Vector.decode triage.tree vector).label)
          (host.note (triage.decodeNotes (Vector.decode triage.tree vector)))
        rw [Host.note_note] at hrest
        split
        · next hdecode =>
            rw [hdecode] at hrest
            exact ⟨_, _, hrest⟩
        · next hdecode =>
            rw [hdecode] at hrest
            exact ⟨_, _, hrest⟩

/-- So does drafting. -/
theorem exists_draft_snd (vectors : Path) (triage : Triage) (host : Host τ) :
    ∃ metrics notes,
      (draft vectors triage host).2 = ({ triage with metrics }, host.note notes) := by
  unfold draft
  rcases host.disk.readText .whole vectors vectors.text with error | text
  · exact ⟨triage.metrics, [], by simp [Host.note]⟩
  · dsimp only
    obtain ⟨metrics, notes, hdecode⟩ := exists_decode_snd ((vectorLines text).map .str) triage
      (host.note [⟨.info, .application,
        "Decoding " ++ toString (vectorLines text).length ++ " vectors from " ++ vectors.text⟩])
    rw [Host.note_note] at hdecode
    rcases hresult : decode _ triage _ with ⟨failure | results, after, later⟩
    · rw [hresult] at hdecode
      exact ⟨_, _, hdecode⟩
    · rw [hresult] at hdecode
      obtain ⟨rfl, rfl⟩ := Prod.mk.inj hdecode
      exact ⟨_, _, rfl⟩

/-! ## Saving -/

/-- The name of the report that is written at a moment. -/
def reportName (moment : Time.DateTime) : String :=
  "triage-report-" ++ moment.tag ++ ".md"

theorem reportPath_eq (triage : Triage) (moment : Time.DateTime) :
    triage.reportPath moment = triage.output.join (reportName moment) := rfl

/-- No name of a report leads to the directory above. -/
theorem reportName_ne (moment : Time.DateTime) : reportName moment ≠ ".." := by
  intro h
  have hlength := congrArg String.length h
  unfold reportName at hlength
  rw [String.length_append, String.length_append] at hlength
  have hprefix : "triage-report-".length = 14 := rfl
  have hdots : "..".length = 2 := rfl
  omega

theorem reportName_inj {moment moment' : Time.DateTime} :
    reportName moment = reportName moment' ↔ moment.tag = moment'.tag := by
  unfold reportName
  rw [String.append_left_inj, String.append_right_inj]

theorem reportPath_inj {triage : Triage} {moment moment' : Time.DateTime} :
    triage.reportPath moment = triage.reportPath moment' ↔ moment.tag = moment'.tag := by
  rw [← reportName_inj, reportPath_eq, reportPath_eq, Path.join, Path.join, Path.mk.injEq,
    and_iff_right rfl, List.append_cancel_left_eq, List.singleton_inj]

/-- Directories are made first. If they can be made, the text is written. -/
theorem save_cases (triage : Triage) (text : String) (host : Host τ) :
    (∃ error, (triage.save text host).1 = .error error ∧
      host.disk.Grows (triage.save text host).2) ∨
    ∃ made, host.disk.Grows made ∧
      made.writeText (triage.reportPath host.clock) text = .ok (triage.save text host).2 ∧
      (triage.save text host).1 = .ok (triage.reportPath host.clock) := by
  have hgrows := Disk.grows_makeDirectories host.disk triage.output
  unfold save
  rcases hmade : host.disk.makeDirectories triage.output with ⟨error | ⟨⟩, made⟩
  · rw [hmade] at hgrows
    exact Or.inl ⟨error, rfl, hgrows⟩
  · rw [hmade] at hgrows
    dsimp only
    rcases hwritten : made.writeText (triage.reportPath host.clock) text with error | after
    · exact Or.inl ⟨error, rfl, hgrows⟩
    · exact Or.inr ⟨made, hgrows, hwritten, rfl⟩

/-! ## Runs -/

/-- A run of triage in its surroundings. -/
structure Office (τ : Type) where
  triage : Triage
  host : Host τ

/-- What happens in an office: time passes, or a report about the vectors in a file is asked for. -/
inductive Errand (τ : Type) where
  | wait (seconds : τ) (micros : Int)
  | report (vectors : Path)

/-- A report that was saved: when, where, and what it says. -/
structure Saved where
  moment : Time.DateTime
  path : Path
  text : String

namespace Office

/-- The report about the vectors in a file, or why there is none. -/
def answer (office : Office τ) (vectors : Path) : Except Failure Path :=
  (report vectors office.triage office.host).1

/-- The text that is drafted for it. -/
def wording (office : Office τ) (vectors : Path) : Except Failure String :=
  (draft vectors office.triage office.host).1

/-- What is saved by an errand: the draft, if a path is answered. -/
def saved (office : Office τ) : Errand τ → List Saved
  | .wait _ _ => []
  | .report vectors =>
    match office.wording vectors, office.answer vectors with
    | .ok text, .ok path => [⟨office.host.clock, path, text⟩]
    | _, _ => []

section

variable [Ticks τ]

/-- The office after an errand. -/
def step (office : Office τ) : Errand τ → Office τ
  | .wait seconds micros => { office with host := office.host.advance seconds micros }
  | .report vectors =>
    let (_, triage, host) := report vectors office.triage office.host
    ⟨triage, host⟩

/-- The office after some errands. -/
def after (office : Office τ) (errands : List (Errand τ)) : Office τ :=
  errands.foldl step office

/-- The reports that are saved by some errands, in their order. -/
def archive (office : Office τ) : List (Errand τ) → List Saved
  | [] => []
  | errand :: rest => office.saved errand ++ (office.step errand).archive rest

/-! ## One errand -/

/-- What comes of asking for a report: only metrics, notes and the disk change. Either nothing is
saved and nothing on the disk is lost, or the draft is written, after directories are made. -/
theorem step_report (office : Office τ) (vectors : Path) :
    ∃ metrics notes disk, office.step (.report vectors)
        = ⟨{ office.triage with metrics }, { office.host.note notes with disk }⟩ ∧
      ((office.saved (.report vectors) = [] ∧ (∀ path, office.answer vectors ≠ .ok path) ∧
          office.host.disk.Grows disk) ∨
        ∃ text made, office.wording vectors = .ok text ∧
          office.answer vectors = .ok (office.triage.reportPath office.host.clock) ∧
          office.saved (.report vectors)
            = [⟨office.host.clock, office.triage.reportPath office.host.clock, text⟩] ∧
          office.host.disk.Grows made ∧
          made.writeText (office.triage.reportPath office.host.clock) text = .ok disk) := by
  obtain ⟨metrics, notes, hdraft⟩ := exists_draft_snd vectors office.triage office.host
  simp only [step, saved, answer, wording, report_eq_saveDraft]
  rcases hresult : draft vectors office.triage office.host with ⟨failure | text, after, later⟩
  · rw [hresult] at hdraft
    obtain ⟨rfl, rfl⟩ := Prod.mk.inj hdraft
    exact ⟨metrics, notes, _, rfl, Or.inl ⟨rfl, nofun, .refl _⟩⟩
  · rw [hresult] at hdraft
    obtain ⟨rfl, rfl⟩ := Prod.mk.inj hdraft
    refine ⟨metrics, notes, _, rfl, ?_⟩
    -- saving reads neither metrics nor notes
    rcases save_cases { office.triage with metrics } text (office.host.note notes) with
      ⟨error, herror, hgrows⟩ | ⟨made, hgrows, hwritten, hpath⟩
    · refine Or.inl ⟨?_, ?_, hgrows⟩
      · simp only [saveDraft, herror]
        rfl
      · simp only [saveDraft, herror]
        nofun
    · refine Or.inr ⟨text, made, rfl, ?_, ?_, hgrows, hwritten⟩
      · simp only [saveDraft, hpath]
        rfl
      · simp only [saveDraft, hpath]
        rfl

theorem output_step (office : Office τ) (errand : Errand τ) :
    (office.step errand).triage.output = office.triage.output := by
  cases errand with
  | wait seconds micros => rfl
  | report vectors =>
      obtain ⟨metrics, notes, disk, hstep, -⟩ := office.step_report vectors
      rw [hstep]

theorem output_after (office : Office τ) (errands : List (Errand τ)) :
    (office.after errands).triage.output = office.triage.output := by
  induction errands generalizing office with
  | nil => rfl
  | cons errand rest ih => exact (ih (office.step errand)).trans (office.output_step errand)

theorem valid_step {office : Office τ} (h : office.host.clock.Valid) (errand : Errand τ) :
    (office.step errand).host.clock.Valid := by
  cases errand with
  | wait seconds micros => exact Time.DateTime.valid_plus h micros
  | report vectors =>
      obtain ⟨metrics, notes, disk, hstep, -⟩ := office.step_report vectors
      rw [hstep]
      exact h

theorem valid_after {office : Office τ} (h : office.host.clock.Valid) (errands : List (Errand τ)) :
    (office.after errands).host.clock.Valid := by
  induction errands generalizing office with
  | nil => exact h
  | cons errand rest ih => exact ih (valid_step h errand)

/-! ## What is read under a path -/

/-- The text of the last one of a report and later ones that were saved in the same second. -/
def lastWord (moment : Time.DateTime) (text : String) (later : List Saved) : String :=
  later.foldl (fun kept saved =>
    if saved.moment.civilSeconds = moment.civilSeconds then saved.text else kept) text

omit [Ticks τ] in
theorem lastWord_of_forall_ne {moment : Time.DateTime} {text : String} {later : List Saved}
    (h : ∀ saved ∈ later, saved.moment.civilSeconds ≠ moment.civilSeconds) :
    lastWord moment text later = text := by
  induction later with
  | nil => rfl
  | cons saved rest ih =>
      obtain ⟨hsaved, hrest⟩ := List.forall_mem_cons.1 h
      rw [lastWord, List.foldl_cons, if_neg hsaved]
      exact ih hrest

omit [Ticks τ] in
/-- It does not matter what came before the last one. -/
theorem lastWord_append_cons {moment : Time.DateTime} (text : String) (between : List Saved)
    {last : Saved} (hlast : last.moment.civilSeconds = moment.civilSeconds) {later : List Saved}
    (h : ∀ saved ∈ later, saved.moment.civilSeconds ≠ moment.civilSeconds) :
    lastWord moment text (between ++ last :: later) = last.text := by
  rw [lastWord, List.foldl_append, List.foldl_cons, if_pos hlast]
  exact lastWord_of_forall_ne h

/-- Holds of the offices where a text is read under the path for the reports of a moment. -/
def Shows (office : Office τ) (moment : Time.DateTime) (text : String) : Prop :=
  office.host.disk.content (office.triage.reportPath moment)
    (office.triage.reportPath moment).text = .ok (.text text)

variable {office : Office τ} {moment : Time.DateTime} {text : String}

/-- An errand writes one report at most. If it is of another second it has another name. -/
theorem Shows.step (h : office.Shows moment text) (hclock : office.host.clock.Valid)
    (hmoment : moment.Valid) (errand : Errand τ) :
    (office.step errand).Shows moment (lastWord moment text (office.saved errand)) := by
  cases errand with
  | wait seconds micros => exact h
  | report vectors =>
      obtain ⟨metrics, notes, disk, hstep, ⟨hsaved, -, hgrows⟩ | hwritten⟩ :=
        office.step_report vectors
      · rw [hstep, hsaved]
        exact Disk.content_of_grows hgrows h
      · obtain ⟨written, made, -, -, hsaved, hgrows, hdisk⟩ := hwritten
        have hmade := Disk.content_of_grows hgrows h
        have htag := Time.DateTime.tag_eq_iff hclock hmoment
        rw [hstep, hsaved, lastWord, List.foldl_cons, List.foldl_nil, Shows, reportPath_eq]
        split
        · next hsame =>
            have hname : reportName moment = reportName office.host.clock :=
              reportName_inj.2 (htag.2 hsame).symm
            rw [hname]
            exact Disk.content_writeText hdisk
        · next hother =>
            have hname : reportName office.host.clock ≠ reportName moment :=
              fun hname => hother (htag.1 (reportName_inj.1 hname))
            exact Disk.content_writeText_of_ne hname (reportName_ne _) (reportName_ne _) hdisk hmade

theorem Shows.after (h : office.Shows moment text) (hclock : office.host.clock.Valid)
    (hmoment : moment.Valid) (errands : List (Errand τ)) :
    (office.after errands).Shows moment (lastWord moment text (office.archive errands)) := by
  induction errands generalizing office text with
  | nil => exact h
  | cons errand rest ih =>
      rw [archive, lastWord, List.foldl_append]
      exact ih (h.step hclock hmoment errand) (valid_step hclock errand)

/-- A report that is answered with a path is saved, and then it is read there. -/
theorem shows_step_report {vectors path : Path} (hanswer : office.answer vectors = .ok path) :
    ∃ text, office.wording vectors = .ok text ∧
      path = office.triage.reportPath office.host.clock ∧
      office.saved (.report vectors) = [⟨office.host.clock, path, text⟩] ∧
      (office.step (.report vectors)).Shows office.host.clock text := by
  obtain ⟨metrics, notes, disk, hstep, ⟨-, hnone, -⟩ | hwritten⟩ := office.step_report vectors
  · exact absurd hanswer (hnone path)
  · obtain ⟨text, made, hwording, hpath, hsaved, -, hdisk⟩ := hwritten
    obtain rfl := Except.ok.inj (hpath.symm.trans hanswer)
    refine ⟨text, hwording, rfl, hsaved, ?_⟩
    rw [hstep]
    exact Disk.content_writeText hdisk

/-- The reports of a run are saved in one directory, each under the name of its moment. -/
theorem path_of_mem_archive (hclock : office.host.clock.Valid) {errands : List (Errand τ)}
    {saved : Saved} (h : saved ∈ office.archive errands) :
    saved.moment.Valid ∧ saved.path = office.triage.reportPath saved.moment := by
  induction errands generalizing office with
  | nil => cases h
  | cons errand rest ih =>
      rw [archive, List.mem_append] at h
      rcases h with h | h
      · cases errand with
        | wait seconds micros => cases h
        | report vectors =>
            obtain ⟨metrics, notes, disk, -, ⟨hsaved, -⟩ | hwritten⟩ := office.step_report vectors
            · rw [hsaved] at h
              cases h
            · obtain ⟨text, made, -, -, hsaved, -⟩ := hwritten
              rw [hsaved, List.mem_singleton] at h
              subst h
              exact ⟨hclock, rfl⟩
      · obtain ⟨hvalid, hpath⟩ := ih (valid_step hclock errand) h
        rw [hpath, reportPath_eq, reportPath_eq, output_step]
        exact ⟨hvalid, rfl⟩

theorem archive_append (office : Office τ) (front rest : List (Errand τ)) :
    office.archive (front ++ rest) = office.archive front ++ (office.after front).archive rest := by
  induction front generalizing office with
  | nil => rfl
  | cons errand front ih =>
      rw [List.cons_append, archive, archive, ih, List.append_assoc]
      rfl

/-- **Reports stay until the next one of the same second.** Take any run of reports about any files
on any disk, with any time between them. Whenever a report is answered with a path, its draft is
saved there, and later reports have the same path exactly if they are of the same second. If there is
none, the path holds the draft at the end of the run as well. Otherwise it holds the last of them. -/
theorem report_stays (start : Office τ) (hclock : start.host.clock.Valid)
    (front : List (Errand τ)) (vectors : Path) (rest : List (Errand τ)) {path : Path}
    (hanswer : (start.after front).answer vectors = .ok path) :
    let office := start.after front
    let later := (office.step (.report vectors)).archive rest
    let final := start.after (front ++ .report vectors :: rest)
    let second := office.host.clock.civilSeconds
    ∃ text, office.wording vectors = .ok text ∧
      start.archive (front ++ .report vectors :: rest)
        = start.archive front ++ ⟨office.host.clock, path, text⟩ :: later ∧
      (∀ saved ∈ later, saved.path = path ↔ saved.moment.civilSeconds = second) ∧
      ((∀ saved ∈ later, saved.moment.civilSeconds ≠ second) →
        final.host.disk.content path path.text = .ok (.text text)) ∧
      ∀ between last others, later = between ++ last :: others →
        last.moment.civilSeconds = second →
        (∀ saved ∈ others, saved.moment.civilSeconds ≠ second) →
        final.host.disk.content path path.text = .ok (.text last.text) := by
  intro office later final second
  have hoffice : office.host.clock.Valid := valid_after hclock front
  have hfiled := valid_step hoffice (.report vectors)
  obtain ⟨text, hwording, rfl, hsaved, hshows⟩ := shows_step_report hanswer
  have hfinal : final = (office.step (.report vectors)).after rest := List.foldl_append
  have houtput : final.triage.output = office.triage.output := by
    rw [hfinal, output_after, output_step]
  have hcontent := hshows.after hfiled hoffice rest
  rw [← hfinal, Shows, reportPath_eq, houtput] at hcontent
  refine ⟨text, hwording, ?_, fun saved hmem => ?_, fun hnone => ?_, ?_⟩
  · rw [archive_append, archive, hsaved]
    rfl
  · obtain ⟨hvalid, hpath⟩ := path_of_mem_archive hfiled hmem
    rw [hpath, reportPath_eq, output_step, ← reportPath_eq, reportPath_inj,
      Time.DateTime.tag_eq_iff hvalid hoffice]
  · rwa [lastWord_of_forall_ne hnone] at hcontent
  · intro between last others hlater hlast hothers
    have hword : lastWord office.host.clock text later = last.text :=
      hlater ▸ lastWord_append_cons text between hlast hothers
    rwa [hword] at hcontent

end

/-! ## Two reports in one second -/

/-- A file with one vector, which ends at no choice. -/
def busyFile : Path := Path.read "busy.txt"

/-- A file without vectors. -/
def quietFile : Path := Path.read "quiet.txt"

/-- A host in the afternoon with both on its disk. -/
def twoFiles : Host Rat :=
  desk ⟨[(["busy.txt"], .file (.text "x")), (["quiet.txt"], .file (.text ""))]⟩

/-- The clerks at their desk, who have done nothing yet. -/
def clerks : Office Rat :=
  ⟨clerksStart twoFiles.civilClock, twoFiles⟩

/-- The clerks once they have written a report about the first file. -/
def busyClerks : Office Rat :=
  clerks.step (.report busyFile)

/-- Their metrics then. -/
def busyMetrics : Metrics :=
  { clerks.triage.metrics.recordDecode "" with completedAt := some twoFiles.civilClock }

theorem exists_answer_busy : ∃ path, clerks.answer busyFile = .ok path :=
  ⟨_, Traversal.eq_ok_get (by decide +kernel)⟩

theorem exists_answer_quiet : ∃ path, busyClerks.answer quietFile = .ok path :=
  ⟨_, Traversal.eq_ok_get (by decide +kernel)⟩

/-- When the second report is written a second later, the first one stays. -/
theorem report_stays_for_a_second :
    clerks.host.clock.Valid ∧ ∃ path text,
      clerks.answer busyFile = .ok path ∧ clerks.wording busyFile = .ok text ∧
      (clerks.after [.report busyFile, .wait 1 1000000, .report quietFile]).host.disk.content
        path path.text = .ok (.text text) := by
  have hclock : clerks.host.clock.Valid := by decide
  obtain ⟨path, hanswer⟩ := exists_answer_busy
  obtain ⟨text, hwording, -, -, hstays, -⟩ :=
    report_stays clerks hclock [] busyFile [.wait 1 1000000, .report quietFile] hanswer
  have hnext : (busyClerks.archive [.wait 1 1000000, .report quietFile]).all (fun saved =>
      saved.moment.civilSeconds = clerks.host.clock.civilSeconds + 1) = true := by decide +kernel
  refine ⟨hclock, path, text, hanswer, hwording, hstays fun saved hmem => ?_⟩
  rw [of_decide_eq_true (List.all_eq_true.1 hnext saved hmem)]
  exact Nat.succ_ne_self _

theorem wording_busy : clerks.wording busyFile
    = (Report.render PipeTable.render busyMetrics [Vector.unresolved "x"]).mapError .shape := rfl

theorem wording_quiet : busyClerks.wording quietFile
    = (Report.render PipeTable.render busyMetrics []).mapError .shape := rfl

/-- The second report is written in the second of the first one, and then the path of the first one
holds the text of the second. -/
theorem report_lost :
    ∃ path first second,
      clerks.answer busyFile = .ok path ∧ clerks.wording busyFile = .ok first ∧
      busyClerks.host.disk.content path path.text = .ok (.text first) ∧
      busyClerks.answer quietFile = .ok path ∧ busyClerks.wording quietFile = .ok second ∧
      (busyClerks.step (.report quietFile)).host.disk.content path path.text
        = .ok (.text second) ∧
      first ≠ second := by
  obtain ⟨path, hanswer⟩ := exists_answer_busy
  obtain ⟨path', hagain⟩ := exists_answer_quiet
  obtain ⟨first, hfirst, hpath, -, hshows⟩ := shows_step_report hanswer
  obtain ⟨second, hsecond, hpath', -, hshows'⟩ := shows_step_report hagain
  have houtput : busyClerks.triage.output = clerks.triage.output := output_step _ _
  have hmoment : busyClerks.host.clock = clerks.host.clock := by decide +kernel
  obtain rfl : path' = path := by
    rw [hpath, hpath', hmoment, reportPath_eq, reportPath_eq, houtput]
  rw [Shows, reportPath_eq, output_step, ← reportPath_eq, ← hpath] at hshows
  rw [Shows, reportPath_eq, output_step, ← reportPath_eq, ← hpath'] at hshows'
  refine ⟨path', first, second, hanswer, hfirst, hshows, hagain, hsecond, hshows', ?_⟩
  rw [wording_busy, Traversal.mapError_eq_ok_iff] at hfirst
  rw [wording_quiet, Traversal.mapError_eq_ok_iff] at hsecond
  exact Report.render_ne_render_nil (List.cons_ne_nil _ _) hfirst hsecond

end Office

end Ssvc.Triage
