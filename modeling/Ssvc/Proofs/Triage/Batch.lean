import Mathlib.Logic.Relation
import Ssvc.Proofs.Disk
import Ssvc.Proofs.Platform.PipeTable
import Ssvc.Proofs.Text.Lines
import Ssvc.Proofs.Triage

set_option autoImplicit false

/-! # Reports about a file

A file names vectors, one on a line, with blank lines and comments between them. Its vectors are
read off the pieces between line ends, so text may be added or taken away at the ends of lines
without any effect, as long as every piece of it is blank or a comment. A run that has done nothing
before then writes a report from these vectors alone, and files it under a name that tells the
second. What the report says is put down here table by table, and the layout of a table may be any
function of its headers and rows. -/

namespace Ssvc.Triage

open Text

/-! ## The vectors of a file -/

/-- The vectors that a text names: its lines, stripped, without those that are empty then or start
with a number sign. -/
def namedVectors (s : String) : List String :=
  ((lines s).map strip).filter fun line => line ≠ "" ∧ line.toList.head? ≠ some '#'

theorem vectorLines_eq (s : String) : vectorLines s = namedVectors s := by
  refine List.filter_congr fun line _ => ?_
  rw [Bool.decide_and, show "#".toList = ['#'] from rfl]
  cases line.toList with
  | nil => simp
  | cons c cs =>
      simp [List.isPrefixOf, @eq_comm Char c]
      rfl

/-- Holds of the lines that name a vector: they are neither empty nor comments. -/
def isVectorLine (line : List Char) : Bool :=
  line ≠ [] && line.head? ≠ some '#'

/-- The vectors that are named between the line ends of a text. -/
def vectorPieces (cs : List Char) : List (List Char) :=
  ((cs.splitOnP isLineEnd).map trim).filter isVectorLine

theorem filter_isVectorLine_trim (pieces : List (List Char)) :
    (pieces.map trim).filter isVectorLine
      = ((pieces.filter (· ≠ [])).map trim).filter isVectorLine := by
  rw [List.filter_map, List.filter_map, List.filter_filter]
  refine congrArg (List.map trim) (List.filter_congr fun piece _ => ?_)
  by_cases hnil : piece = []
  · subst hnil
    rfl
  · simp [hnil]

theorem namedVectors_eq (s : String) :
    namedVectors s = (vectorPieces s.toList).map String.ofList := by
  have hlines : (lines s).map strip = ((cutLines s.toList).map trim).map String.ofList := by
    simp [lines, strip, Function.comp_def]
  have hkept : ∀ line : List Char,
      decide (String.ofList line ≠ "" ∧ (String.ofList line).toList.head? ≠ some '#')
        = isVectorLine line := by
    intro line
    rw [String.toList_ofList]
    cases line with
    | nil => rfl
    | cons c line => simp [isVectorLine]
  rw [namedVectors, hlines, List.filter_map]
  simp only [Function.comp_def, hkept]
  rw [vectorPieces, filter_isVectorLine_trim, filter_cutLines, ← filter_isVectorLine_trim]

/-- It does not matter how line ends are marked. -/
theorem namedVectors_unifyLineEnds (s : String) :
    namedVectors (String.ofList (unifyLineEnds s.toList)) = namedVectors s := by
  rw [namedVectors, lines_unifyLineEnds]
  rfl

/-- What is on both sides of a line end is read apart. -/
theorem vectorPieces_append_cons {c : Char} (h : isLineEnd c = true) (front back : List Char) :
    vectorPieces (front ++ c :: back) = vectorPieces front ++ vectorPieces back := by
  rw [vectorPieces, List.splitOnP_append_cons front back h, List.map_append, List.filter_append]
  rfl

theorem vectorPieces_nil : vectorPieces [] = [] := rfl

/-- Behind a line end the text is read as if it stood alone. -/
theorem vectorPieces_append_of_last {front : List Char}
    (h : ∀ c ∈ front.getLast?, isLineEnd c = true) (back : List Char) :
    vectorPieces (front ++ back) = vectorPieces front ++ vectorPieces back := by
  rcases List.eq_nil_or_concat front with rfl | ⟨front, c, rfl⟩
  · rw [vectorPieces_nil, List.nil_append, List.nil_append]
  · have hc : isLineEnd c = true := h c (by simp)
    rw [List.concat_eq_append, List.append_assoc, List.singleton_append,
      vectorPieces_append_cons hc, vectorPieces_append_cons hc, vectorPieces_nil, List.append_nil]

/-- Before a line end too. -/
theorem vectorPieces_append_of_head {back : List Char}
    (h : ∀ c ∈ back.head?, isLineEnd c = true) (front : List Char) :
    vectorPieces (front ++ back) = vectorPieces front ++ vectorPieces back := by
  cases back with
  | nil => rw [vectorPieces_nil, List.append_nil, List.append_nil]
  | cons c back =>
      have hc : isLineEnd c = true := h c rfl
      have hback : vectorPieces (c :: back) = vectorPieces back :=
        vectorPieces_append_cons hc [] back
      rw [vectorPieces_append_cons hc, hback]

/-! ## Lines that make no difference -/

/-- Holds of the lines that are blank, and of comments behind white space. -/
inductive IsIdle : List Char → Prop
  | blank {line : List Char} (hblank : line.all isBlank = true) : IsIdle line
  | comment {indent words : List Char} (hindent : indent.all isBlank = true) :
      IsIdle (indent ++ '#' :: words)

/-- One text with a whole line more than another, which is blank or a comment: before a line and
with its own line end, or behind a line. -/
inductive AddsLine : List Char → List Char → Prop
  | before {front back line ends : List Char} (hfront : ∀ c ∈ front.getLast?, isLineEnd c = true)
      (hidle : IsIdle line) (hline : ∀ c ∈ line, isLineEnd c = false) (hne : ends ≠ [])
      (hends : ∀ c ∈ ends, isLineEnd c = true) :
      AddsLine (front ++ back) (front ++ (line ++ ends) ++ back)
  | behind {front back line ends : List Char} (hback : ∀ c ∈ back.head?, isLineEnd c = true)
      (hidle : IsIdle line) (hline : ∀ c ∈ line, isLineEnd c = false) (hne : ends ≠ [])
      (hends : ∀ c ∈ ends, isLineEnd c = true) :
      AddsLine (front ++ back) (front ++ (ends ++ line) ++ back)

theorem trimEnd_cons {c : Char} (h : isBlank c = false) (cs : List Char) :
    ∃ rest, trimEnd (c :: cs) = c :: rest := by
  rw [trimEnd, List.reverse_cons, List.dropWhile_append]
  split
  · exact ⟨[], by simp [h]⟩
  · exact ⟨_, by rw [List.reverse_append]; rfl⟩

theorem IsIdle.not_isVectorLine {line : List Char} (h : IsIdle line) :
    isVectorLine (trim line) = false := by
  cases h with
  | blank hblank =>
      have hnil : line.dropWhile isBlank = [] := List.dropWhile_eq_nil_iff.2 (by simpa using hblank)
      rw [trim, hnil]
      rfl
  | @comment indent words hindent =>
      have hdrop : (indent ++ '#' :: words).dropWhile isBlank = '#' :: words := by
        rw [List.dropWhile_append_of_pos (by simpa using hindent)]
        rfl
      obtain ⟨rest, hrest⟩ := trimEnd_cons (c := '#') rfl words
      rw [trim, hdrop, hrest]
      rfl

theorem vectorPieces_of_isIdle {line : List Char} (h : IsIdle line)
    (hline : ∀ c ∈ line, isLineEnd c = false) : vectorPieces line = [] := by
  rw [vectorPieces, List.splitOnP_eq_singleton hline, List.map_singleton, List.filter_singleton,
    h.not_isVectorLine]
  rfl

theorem vectorPieces_of_ends {ends : List Char} (hends : ∀ c ∈ ends, isLineEnd c = true) :
    vectorPieces ends = [] := by
  induction ends with
  | nil => rfl
  | cons c ends ih =>
      obtain ⟨hc, hrest⟩ := List.forall_mem_cons.1 hends
      have hsplit : vectorPieces (c :: ends) = vectorPieces [] ++ vectorPieces ends :=
        vectorPieces_append_cons hc [] ends
      rw [hsplit, ih hrest]
      rfl

theorem AddsLine.vectorPieces_eq {cs more : List Char} (h : AddsLine cs more) :
    vectorPieces more = vectorPieces cs := by
  -- the text falls apart at line ends into what was there before and a line that names nothing
  cases h with
  | @before front back line ends hfront hidle hline hne hends =>
      have hhead : ∀ c ∈ ends.head?, isLineEnd c = true :=
        fun c hc => hends c (List.mem_of_head? hc)
      have hlast : ∀ c ∈ (line ++ ends).getLast?, isLineEnd c = true := by
        rw [List.getLast?_append_of_ne_nil _ hne]
        exact fun c hc => hends c (List.mem_of_getLast? hc)
      rw [List.append_assoc, vectorPieces_append_of_last hfront, vectorPieces_append_of_last hlast,
        vectorPieces_append_of_head hhead, vectorPieces_of_isIdle hidle hline,
        vectorPieces_of_ends hends, vectorPieces_append_of_last hfront]
      rfl
  | @behind front back line ends hback hidle hline hne hends =>
      have hhead : ∀ c ∈ (ends ++ line).head?, isLineEnd c = true := by
        rw [List.head?_append_of_ne_nil _ hne]
        exact fun c hc => hends c (List.mem_of_head? hc)
      have hlast : ∀ c ∈ ends.getLast?, isLineEnd c = true :=
        fun c hc => hends c (List.mem_of_getLast? hc)
      rw [vectorPieces_append_of_head hback, vectorPieces_append_of_head hhead,
        vectorPieces_append_of_last hlast, vectorPieces_of_isIdle hidle hline,
        vectorPieces_of_ends hends, vectorPieces_append_of_head hback, List.append_nil,
        List.append_nil]

/-- Whatever whole lines are added or taken away that are blank or comments, a file names the same
vectors. -/
theorem namedVectors_eq_of_eqvGen {s t : String}
    (h : Relation.EqvGen AddsLine s.toList t.toList) : namedVectors s = namedVectors t := by
  have hpieces : ∀ cs ds, Relation.EqvGen AddsLine cs ds → vectorPieces cs = vectorPieces ds := by
    intro cs ds hedits
    induction hedits with
    | rel cs ds hadds => exact hadds.vectorPieces_eq.symm
    | refl cs => rfl
    | symm cs ds _ ih => exact ih.symm
    | trans cs ds es _ _ hleft hright => exact hleft.trans hright
  rw [namedVectors_eq, namedVectors_eq, hpieces _ _ h]

/-! ## The report -/

/-- What the vectors of a file stand for. -/
def decodeAll (tree : Tree) (vectors : List String) : List Vector.Decoded :=
  vectors.map fun vector => Vector.decode tree (.str vector)

/-- The text of the report about the vectors of a file, of a run that has started at one moment and
is completed at another: what is said of the run, and then each table under its heading. -/
def batchText (lay : TableLayout) (tree : Tree) (started completed : Time.DateTime)
    (vectors : List String) : Except ShapeError String := do
  let head ← Report.headLines { freshMetrics tree started with completedAt := some completed }
  let tables ← (Report.batchSections (decodeAll tree vectors)).mapM fun part => do
    return ["## " ++ part.heading, ← lay part.headers part.rows, ""]
  return Text.join "\n" (head ++ tables.flatten)

variable {τ : Type} {document : Document} {tree : Tree} {started completed : Time.DateTime}
  {start : Triage}

theorem isStr_label_decodeAll (hread : Tree.ofDocument document = .ok tree)
    (htree : tree.hasTextLabels = true) (vectors : List String) :
    ∀ decoded ∈ decodeAll tree vectors, decoded.label.isStr = true :=
  List.forall_mem_map.2 fun vector _ => Vector.isStr_label_decode hread htree (.str vector)

/-- Holds of the trees in which no colour is a number out of range. -/
def hasPlainColors (tree : Tree) : Bool :=
  tree.points.all fun point => point.choices.all fun choice => Report.isInRange choice.color

theorem isInRange_color_decode (hread : Tree.ofDocument document = .ok tree)
    (hcolors : hasPlainColors tree = true) (vector : Value) :
    Report.isInRange (Vector.decode tree vector).color = true := by
  rcases Vector.decode_cases hread vector with h | ⟨point, hpoint, choice, hchoice, h⟩
  · rw [h]
    rfl
  · rw [h]
    have hpoints := List.all_eq_true.1 hcolors point hpoint
    exact Report.isInRange_orElse (List.all_eq_true.1 hpoints choice hchoice) rfl

/-- There is a text if moments can be compared and no colour is a number out of range. -/
theorem exists_batchText {lay : TableLayout} (hlay : Report.LaysPlain lay)
    (hread : Tree.ofDocument document = .ok tree)
    (hcolors : hasPlainColors tree = true)
    (hmoments : started.offset.isSome = completed.offset.isSome) (vectors : List String) :
    ∃ text, batchText lay tree started completed vectors = .ok text := by
  have hvectors : ∀ decoded ∈ decodeAll tree vectors, decoded.vector.isStr = true :=
    List.forall_mem_map.2 fun vector _ => by
      rw [Vector.vector_decode hread]
      rfl
  obtain ⟨body, hbody⟩ := Report.exists_lines_batchSections hlay hvectors
    (List.forall_mem_map.2 fun vector _ => isInRange_color_decode hread hcolors (.str vector))
  obtain ⟨head, hhead⟩ := Report.exists_headLines
    { freshMetrics tree started with completedAt := some completed } rfl rfl hmoments
  simp only [batchText, Traversal.bind_eq_ok_iff]
  exact ⟨_, head, hhead, body, hbody, rfl⟩

theorem counts_recordAll (hread : Tree.ofDocument document = .ok tree)
    (htree : tree.hasTextLabels = true) (started : Time.DateTime) (vectors : List String) :
    ((freshMetrics tree started).recordAll
      ((decodeAll tree vectors).map Vector.Decoded.label)).Counts
        ((decodeAll tree vectors).map Vector.Decoded.label) :=
  (Metrics.counts_start _ _ _ _ _).recordAll
    (List.forall_mem_map.2 (isStr_label_decodeAll hread htree vectors))

/-- What decoding leaves in the metrics of a new run is reported from the vectors alone. -/
theorem render_recordAll (lay : TableLayout) (hread : Tree.ofDocument document = .ok tree)
    (htree : tree.hasTextLabels = true) (started completed : Time.DateTime)
    (vectors : List String) :
    Report.render lay
        { (freshMetrics tree started).recordAll
            ((decodeAll tree vectors).map Vector.Decoded.label) with
          completedAt := some completed }
        (decodeAll tree vectors)
      = batchText lay tree started completed vectors := by
  have hcounts := counts_recordAll hread htree started vectors
  -- recording touches the three counts only, so nothing else in the report can differ
  obtain ⟨total, resolved, outcomes, hrecorded⟩ := Metrics.recordAll_eq
    ((decodeAll tree vectors).map Vector.Decoded.label) (freshMetrics tree started)
  rw [hrecorded] at hcounts ⊢
  exact Report.render_eq ⟨hcounts.texts, hcounts.total, hcounts.resolved, hcounts.outcomes_total,
    hcounts.outcomes, hcounts.keys, hcounts.nodup⟩ rfl rfl rfl rfl

theorem readText_of_content {disk : Disk} {file : Path} {content : Content} {raw : String}
    (hcontent : disk.content file file.text = .ok content)
    (hraw : content.decode .whole = .ok raw) :
    disk.readText .whole file file.text = .ok (String.ofList (unifyLineEnds raw.toList)) := by
  rw [Disk.readText, hcontent]
  simp only [Traversal.bind_eq_ok_iff, Except.ok.injEq, exists_eq_left', hraw]
  rfl

/-- What comes of filing a text, if there is one: the path of the report or why there is none, and
the disk. Directories are made as they are needed, and the text goes under a name that tells the
second. -/
inductive Files (start : Triage) (host : Host τ) :
    Except ShapeError String → Except Failure Path × Disk → Prop
  | noText (cause : ShapeError) :
      Files start host (.error cause) (.error (.shape cause), host.disk)
  | noDirectory (text : String) {error : DiskError} {made : Disk}
      (hmade : host.disk.makeDirectories start.output = (.error error, made)) :
      Files start host (.ok text) (.error (.disk error), made)
  | noFile (text : String) {path : Path} {error : DiskError} {made : Disk}
      (hpath : path = start.output.join ("triage-report-" ++ host.clock.tag ++ ".md"))
      (hmade : host.disk.makeDirectories start.output = (.ok (), made))
      (hrefused : made.writeText path text = .error error) :
      Files start host (.ok text) (.error (.disk error), made)
  | filed (text : String) {path : Path} {made after : Disk}
      (hpath : path = start.output.join ("triage-report-" ++ host.clock.tag ++ ".md"))
      (hmade : host.disk.makeDirectories start.output = (.ok (), made))
      (hwritten : made.writeText path text = .ok after)
      (hcontent : after.content path path.text = .ok (.text text)) :
      Files start host (.ok text) (.ok path, after)

/-- What comes of a report: its path or why there is none, and the disk. -/
def published (outcome : Outcome τ Path) : Except Failure Path × Disk :=
  (outcome.1, outcome.2.2.disk)

theorem files_saveReport (start : Triage) (metrics : Metrics) (results : List Vector.Decoded)
    (host : Host τ) (notes : Log.Notes) :
    start.Files host (Report.render host.platform.layTable metrics results)
      (published (saveReport results { start with metrics } (host.note notes))) := by
  rw [saveReport, Host.platform_note]
  -- where a report goes depends neither on metrics nor on notes
  cases hrender : Report.render host.platform.layTable metrics results with
  | error cause => exact .noText cause
  | ok text =>
      dsimp only [save, reportPath, Host.note]
      rcases hmade : host.disk.makeDirectories start.output with ⟨error | ⟨⟩, made⟩
      · exact .noDirectory text hmade
      · dsimp only
        cases hwritten : made.writeText
            (start.output.join ("triage-report-" ++ host.clock.tag ++ ".md")) text with
        | error error => exact .noFile text rfl hmade hwritten
        | ok after => exact .filed text rfl hmade hwritten (Disk.content_writeText hwritten)

/-- A report saves what the vectors of the file stand for, with their labels counted. -/
theorem exists_report_eq (hread : Tree.ofDocument document = .ok start.tree)
    (htree : start.tree.hasTextLabels = true) {file : Path} {host : Host τ} {text : String}
    (htext : host.disk.readText .whole file file.text = .ok text) :
    ∃ notes, report file start host
      = saveReport (decodeAll start.tree (namedVectors text))
        { start with
          metrics := { start.metrics.recordAll
              ((decodeAll start.tree (namedVectors text)).map Vector.Decoded.label) with
            completedAt := some host.civilClock } }
        (host.note notes) := by
  obtain ⟨notes, hdecode⟩ := decode_eq hread htree ((namedVectors text).map .str)
    (host.note [⟨.info, .application, "Decoding " ++ toString (namedVectors text).length
      ++ " vectors from " ++ file.text⟩])
  rw [List.map_map, List.map_map, Host.note_note] at hdecode
  -- neither the clock nor the disk has changed, as decoding does nothing to a host but make notes
  rw [report, htext]
  simp only [vectorLines_eq, hdecode]
  rw [decodeAll, List.map_map]
  exact ⟨_, rfl⟩

/-- A run that has done nothing before files a text about the vectors of the file alone. -/
theorem files_report (hread : Tree.ofDocument document = .ok tree)
    (htree : tree.hasTextLabels = true) (hsame : start.tree = tree)
    (hfresh : start.metrics = freshMetrics tree started) {file : Path} {host : Host τ}
    {content : Content} {raw : String} (hcontent : host.disk.content file file.text = .ok content)
    (hraw : content.decode .whole = .ok raw) :
    start.Files host
      (batchText host.platform.layTable tree started host.civilClock (namedVectors raw))
      (published (report file start host)) := by
  subst hsame
  obtain ⟨notes, hreport⟩ := exists_report_eq hread htree (readText_of_content hcontent hraw)
  rw [hreport, hfresh, namedVectors_unifyLineEnds, ← render_recordAll _ hread htree]
  exact files_saveReport _ _ _ _ _

/-- **Reports about files lose and invent nothing.** Take a run over a tree whose labels are texts
that has done nothing since it was set up, and a file with any text. Then the report of the run is
written from the vectors that the file names and from nothing else: its tables count them and their
outcomes, which balance, and have a row for each of them with what it stands for. However tables are
laid out, this text is filed, and if plain tables can be laid out there is always such a text, unless
a colour in the tree is a number out of range. At the same time and with the same layout it is the
same for every file that differs by whole lines that are blank or comments. -/
theorem report_of_batch {config : Value} {before : Host τ}
    (hread : Tree.ofDocument document = .ok tree) (htree : tree.hasTextLabels = true)
    (hstart : assemble config tree before.civilClock = .ok start) {file : Path} {host : Host τ}
    {content : Content} {raw : String} (hcontent : host.disk.content file file.text = .ok content)
    (hraw : content.decode .whole = .ok raw) :
    let lay := host.platform.layTable
    let results := decodeAll tree (namedVectors raw)
    let text := batchText lay tree before.civilClock host.civilClock (namedVectors raw)
    start.Files host text (published (report file start host)) ∧
      (Report.LaysPlain lay → hasPlainColors tree = true → ∃ written, text = .ok written) ∧
      results.map Vector.Decoded.vector = (namedVectors raw).map .str ∧
      Report.Balances (Report.labelsOf results) ∧
      ∀ (other : Host τ) (edited : Path) (more : Content) (changed : String),
        other.platform.layTable = lay → other.clock = host.clock →
        other.disk.content edited edited.text = .ok more → more.decode .whole = .ok changed →
        Relation.EqvGen AddsLine raw.toList changed.toList →
        start.Files other text (published (report edited start other)) := by
  intro lay results text
  obtain ⟨hsame, hfresh⟩ := of_assemble hstart
  have hmoments : before.civilClock.offset.isSome = host.civilClock.offset.isSome := rfl
  have hcounts := counts_recordAll hread htree before.civilClock (namedVectors raw)
  rw [← Report.map_str_labelsOf (isStr_label_decodeAll hread htree _)] at hcounts
  refine ⟨files_report hread htree hsame hfresh hcontent hraw,
    fun hlay hcolors => exists_batchText hlay hread hcolors hmoments _, ?_,
    Report.balances hcounts, ?_⟩
  · show (decodeAll tree (namedVectors raw)).map Vector.Decoded.vector = _
    rw [decodeAll, List.map_map]
    exact List.map_congr_left fun vector _ => Vector.vector_decode hread (.str vector)
  · intro other edited more changed hlay hclock hmore hchanged hedits
    have hcivil : other.civilClock = host.civilClock := by
      simp only [Host.civilClock, hclock]
    have hfiles := files_report hread htree hsame hfresh hmore hchanged
    rwa [hlay, hcivil, ← namedVectors_eq_of_eqvGen hedits] at hfiles

/-! ## A file of two vectors -/

def firstVector : List Char := "SSVCv2/E:A/A:Y/T:T/M:H/D:C/2024-05-02T14:23:11Z/".toList

def secondVector : List Char := "SSVCv2/E:A/A:Y/T:T/M:H/D:Z/now/".toList

/-- Two vectors with a line end behind the first one and something between them. -/
def vectorsText (between : List Char) : String :=
  String.ofList (firstVector ++ ['\n'] ++ between ++ secondVector)

/-- The only file on a disk. -/
def vectorsFile : Path := Path.read "vectors.txt"

/-- A host in the afternoon with these vectors on its disk. -/
def vectorsDesk (between : List Char) : Host Rat :=
  desk ⟨[(["vectors.txt"], .file (.text (vectorsText between)))]⟩

theorem content_vectorsDesk (between : List Char) :
    (vectorsDesk between).disk.content vectorsFile vectorsFile.text
      = .ok (.text (vectorsText between)) := rfl

/-- A line with a comment behind white space. -/
def secondBatch : List Char := [' ', '\t', '#', '2', '\n']

theorem addsLine_secondBatch (front back : List Char) :
    AddsLine (front ++ ['\n'] ++ back) (front ++ ['\n'] ++ secondBatch ++ back) := by
  have hfront : ∀ c ∈ (front ++ ['\n']).getLast?, isLineEnd c = true := by
    rw [List.getLast?_concat]
    rintro c ⟨⟩
    rfl
  have hidle : IsIdle [' ', '\t', '#', '2'] := @IsIdle.comment [' ', '\t'] ['2'] rfl
  have hline : ∀ c ∈ [' ', '\t', '#', '2'], isLineEnd c = false := by simp [isLineEnd]
  exact .before hfront hidle hline (List.cons_ne_nil '\n' []) (by simp [isLineEnd])

/-- A report is written about the two vectors, and with a comment between them it is the same. The
first vector has an outcome and the second one has none. -/
theorem report_of_commented_batch :
    let vectors := namedVectors (vectorsText [])
    let now := (desk .empty).civilClock
    Tree.ofDocument Coordinator.parsed = .ok Coordinator.tree ∧
    Coordinator.tree.hasTextLabels = true ∧
    Report.LaysPlain PipeTable.render ∧ hasPlainColors Coordinator.tree = true ∧
    ∃ start, assemble clerksConfig Coordinator.tree now = .ok start ∧
      Relation.EqvGen AddsLine (vectorsText []).toList (vectorsText secondBatch).toList ∧
      (Report.batchSections (decodeAll Coordinator.tree vectors)).map
          (fun part => part.rows.map fun row => row.map Value.text)
        = [[["Vectors", "2"], ["Resolved", "1"], ["Unresolved", "1"], ["Errors", "0"]],
          [["Act", "1"]],
          [["✓", String.ofList firstVector, "Act", "#dc3545"],
            ["✗", String.ofList secondVector, "-", "-"]]] ∧
      ∃ text, batchText PipeTable.render Coordinator.tree now now vectors = .ok text ∧
        start.Files (vectorsDesk []) (.ok text)
          (published (report vectorsFile start (vectorsDesk []))) ∧
        start.Files (vectorsDesk secondBatch) (.ok text)
          (published (report vectorsFile start (vectorsDesk secondBatch))) := by
  intro vectors now
  have hread := Coordinator.ofDocument_parsed
  have htree := Coordinator.hasTextLabels_tree
  have hcolors : hasPlainColors Coordinator.tree = true := by decide
  have hstart := assemble_clerks now
  have hraw : ∀ s, (Content.text s).decode .whole = .ok s := fun s => rfl
  have hadds : AddsLine (vectorsText []).toList (vectorsText secondBatch).toList := by
    rw [vectorsText, vectorsText, String.toList_ofList, String.toList_ofList, List.append_nil]
    exact addsLine_secondBatch firstVector secondVector
  have hedits := Relation.EqvGen.rel _ _ hadds
  obtain ⟨hfiles, hwritten, -, -, hedited⟩ :=
    report_of_batch hread htree hstart (content_vectorsDesk []) (hraw _)
  obtain ⟨text, htext⟩ := hwritten PipeTable.laysPlain_render hcolors
  -- said of each desk by itself, as two desks are only told apart by the texts in their files
  have hclock : ∀ between, (vectorsDesk between).clock = Coordinator.afternoon := fun _ => rfl
  have hcommented := hedited (vectorsDesk secondBatch) vectorsFile _ _ rfl
    ((hclock secondBatch).trans (hclock []).symm) (content_vectorsDesk secondBatch) (hraw _) hedits
  rw [htext] at hfiles hcommented
  exact ⟨hread, htree, PipeTable.laysPlain_render, hcolors, _, hstart, hedits,
    by decide +kernel, text, htext, hfiles, hcommented⟩

end Ssvc.Triage
