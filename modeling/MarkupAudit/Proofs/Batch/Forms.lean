import MarkupAudit.Proofs.Batch.History

/-!
# The forms in which documents are given

Pairs and a table by source give the same tasks as long as no source is repeated. The rows of a
table with columns give them too, except that what is no text counts as missing in a cell. Such a
document is skipped, while a worker that is given it as it stands fails at it. So a batch of rows
goes along with a batch of pairs, with all reports the same, and has skipped as many more documents
as it has fewer failures.

Main statements: a table that lists documents gives their tasks (`Frame.tasks_of_lists`); a batch
of cells goes along with a batch of documents, one delivery after another (`GoesAlong.add`,
`GoesAlong.addAll`); `forms_of_documents_agree`.
-/

namespace MarkupAudit.Batch

/-! ## Tasks of a table -/

namespace Frame

/-- What stands in a row under the name of a column. -/
def cell (frame : Frame) (name : String) (row : Value × List Value) : Value :=
  row.2.getD (frame.columns.idxOf name) .null

/-- The columns `source` and `content` of the table hold the documents, a row each. -/
structure Lists (frame : Frame) (documents : List (String × Value)) : Prop where
  source : "source" ∈ frame.columns
  content : "content" ∈ frame.columns
  cells : (frame.rows.map fun row => (frame.cell "source" row, frame.cell "content" row)) =
    documents.map fun document => (.str document.1, document.2)

/-- The markup is there, but counts as missing in a cell. -/
def omits (markup : Value) : Bool :=
  markup.kind ≠ .str ∧ markup.kind ≠ .null

/-- The documents that count as missing in a cell. -/
def omitted (documents : List (String × Value)) : List (String × Value) :=
  documents.filter fun document => omits document.2

theorem cellMarkup_of_omits {markup : Value} (h : omits markup = true) :
    cellMarkup markup = .null := by
  cases markup with
  | str => simp [omits, Value.kind] at h
  | null | bool | int | float | list | object => rfl

theorem cellMarkup_of_not_omits {markup : Value} (h : omits markup = false) :
    cellMarkup markup = markup := by
  cases markup with
  | null | str => rfl
  | bool | int | float | list | object => simp [omits, Value.kind] at h

variable {frame : Frame} {documents : List (String × Value)}

theorem findIdx?_of_mem {name : String} (h : name ∈ frame.columns) :
    frame.columns.findIdx? (· == name) = some (frame.columns.idxOf name) :=
  List.findIdx?_eq_some_of_exists ⟨name, h, beq_self_eq_true name⟩

/-- The preferred column is taken if the table has it. -/
theorem column?_cons {name : String} (rest : List String) (h : name ∈ frame.columns) :
    frame.column? (name :: rest) = some (frame.columns.idxOf name) := by
  have hcontains : frame.columns.contains name = true := List.contains_iff_mem.2 h
  rw [column?, List.find?_cons_of_pos hcontains, Option.bind_some, findIdx?_of_mem h]

/-- A table that lists documents gives their tasks, with markup as it is taken from a cell. -/
theorem tasks_of_lists (h : frame.Lists documents) :
    frame.tasks = .ok (documents.map fun document => ⟨document.1, cellMarkup document.2⟩) := by
  have hsource : frame.column? sourceColumns = some (frame.columns.idxOf "source") :=
    column?_cons ["url"] h.source
  have hcontent : frame.column? contentColumns = some (frame.columns.idxOf "content") :=
    column?_cons ["html"] h.content
  have htasks := congrArg
    (List.mapM fun cells : Value × Value => Task.ofLabelled (cells.1, cellMarkup cells.2)) h.cells
  rw [List.mapM_map, List.mapM_map] at htasks
  simp only [tasks, hsource, hcontent]
  exact htasks.trans List.mapM_pure

end Frame

/-! ## Workers -/

section

variable {registry : Registry} {s : Settings} {categories : List Category} {task : Task}

/-- The task with markup as it is taken from a cell. -/
def Task.inCell (task : Task) : Task :=
  { task with markup := Frame.cellMarkup task.markup }

/-- A worker fails at what is no text. -/
theorem work_of_omits (h : Frame.omits task.markup = true) :
    work registry s categories task =
      .failed task.source (Fault.markupNotText task.markup.kind).message := by
  rcases task with ⟨source, markup⟩
  cases markup with
  | null | str => simp [Frame.omits, Value.kind] at h
  | bool | int | float | list | object => rfl

theorem work_inCell_of_omits (h : Frame.omits task.markup = true) :
    work registry s categories task.inCell = .skipped := by
  rw [Task.inCell, Frame.cellMarkup_of_omits h, work]

theorem inCell_of_not_omits (h : Frame.omits task.markup = false) : task.inCell = task := by
  rw [Task.inCell, Frame.cellMarkup_of_not_omits h]

/-- A worker that fails names the source of its task. -/
theorem source_of_work_eq_failed {source message : String}
    (h : work registry s categories task = .failed source message) : source = task.source := by
  rw [work] at h
  split at h
  · cases h
  · split at h
    · cases h
    · cases h
      rfl

end

/-! ## Batches that go along -/

/-- A batch that is like another one, except that it has skipped the documents of some sources at
which the other one has failed. -/
structure GoesAlong (sources : List String) (omitted : Nat) (given tabled : Progress) : Prop where
  same : tabled =
    { given with
      findings :=
        { given.findings with
          failures := given.findings.failures.filter fun failed => failed.source ∉ sources }
      skipped := given.skipped + omitted }
  failed : given.findings.failures.countP (fun failed => failed.source ∈ sources) = omitted

namespace GoesAlong

variable {registry : Registry} {s : Settings} {categories : List Category}
  {sources : List String} {omitted : Nat} {given tabled next final : Progress}

theorem start (sources : List String) : GoesAlong sources 0 .start .start := ⟨rfl, rfl⟩

/-- The failures that are left out are as many as the documents that are skipped instead. -/
theorem length_failures (h : GoesAlong sources omitted given tabled) :
    given.findings.failures.length = tabled.findings.failures.length + omitted := by
  have hparts := @List.length_eq_countP_add_countP _
    (fun failed : Failed => failed.source ∈ sources) given.findings.failures
  have hkept : tabled.findings.failures.length =
      given.findings.failures.countP fun failed => failed.source ∉ sources := by
    rw [h.same, List.countP_eq_length_filter]
  have hrest : given.findings.failures.length = omitted + tabled.findings.failures.length := by
    simpa [h.failed, hkept] using hparts
  omega

/-- What is handed over to both batches is taken up by both. -/
theorem addSame (h : GoesAlong sources omitted given tabled) {delivery : Delivery}
    (hother : ∀ source message, delivery = .failed source message → source ∉ sources)
    (hadd : given.add delivery = .ok next) :
    ∃ next', tabled.add delivery = .ok next' ∧ GoesAlong sources omitted next next' := by
  cases delivery with
  | skipped =>
    cases hadd
    refine ⟨_, rfl, ?_, h.failed⟩
    simp [h.same, Nat.add_right_comm]
  | failed source message =>
    cases hadd
    have hkept : source ∉ sources := hother source message rfl
    refine ⟨_, rfl, ?_, ?_⟩
    · simp [h.same, hkept]
    · simpa [hkept] using h.failed
  | audited report rows tally =>
    simp only [Progress.add] at hadd ⊢
    cases hread : ScanReport.read report with
    | error fault =>
      rw [hread] at hadd
      cases hadd
    | ok report =>
      rw [hread] at hadd
      cases hadd
      refine ⟨_, rfl, ?_, ?_⟩
      · rw [h.same, Progress.addAudited, Progress.addAudited]
        split <;> rfl
      · rw [Progress.addAudited]
        split <;> exact h.failed

/-- A document that is skipped by the one batch and fails in the other one is left out. -/
theorem addOmitted (h : GoesAlong sources omitted given tabled) {source : String}
    (hsource : source ∈ sources) {message : String}
    (hadd : given.add (.failed source message) = .ok next) :
    ∃ next', tabled.add .skipped = .ok next' ∧ GoesAlong sources (omitted + 1) next next' := by
  cases hadd
  refine ⟨_, rfl, ?_, ?_⟩
  · simp [h.same, hsource, Nat.add_assoc]
  · simp [h.failed, hsource]

/-- A further document is taken up by both batches, as it stands and as it stands in a cell. -/
theorem add (h : GoesAlong sources omitted given tabled) {task : Task}
    (hsource : task.source ∈ sources ↔ Frame.omits task.markup = true)
    (hadd : given.add (work registry s categories task) = .ok next) :
    ∃ next', tabled.add (work registry s categories task.inCell) = .ok next' ∧
      GoesAlong sources (omitted + [task].countP fun task => Frame.omits task.markup)
        next next' := by
  cases homits : Frame.omits task.markup with
  | true =>
    rw [work_of_omits homits] at hadd
    rw [work_inCell_of_omits homits]
    simpa [homits] using h.addOmitted (hsource.2 homits) hadd
  | false =>
    rw [inCell_of_not_omits homits]
    have hother : task.source ∉ sources := by simp [hsource, homits]
    simpa [homits] using h.addSame
      (fun source message hfailed => source_of_work_eq_failed hfailed ▸ hother) hadd

theorem addAll (h : GoesAlong sources omitted given tabled) {tasks : List Task}
    (hsources : ∀ task ∈ tasks, task.source ∈ sources ↔ Frame.omits task.markup = true)
    (hadd : given.addAll (tasks.map (work registry s categories)) = (final, none)) :
    ∃ final', tabled.addAll ((tasks.map Task.inCell).map (work registry s categories)) =
        (final', none) ∧
      GoesAlong sources (omitted + tasks.countP fun task => Frame.omits task.markup)
        final final' := by
  -- Each batch takes its own delivery for a task, and these two keep them along.
  induction tasks generalizing given tabled omitted with
  | nil =>
    cases hadd
    exact ⟨tabled, rfl, h⟩
  | cons task rest ih =>
    rcases List.forall_mem_cons.1 hsources with ⟨htask, hrest⟩
    rw [List.map_cons, Progress.addAll] at hadd
    cases hnext : given.add (work registry s categories task) with
    | error fault =>
      rw [hnext] at hadd
      cases hadd
    | ok next =>
      rw [hnext] at hadd
      rcases h.add htask hnext with ⟨next', hnext', hkept⟩
      rcases ih hkept hrest hadd with ⟨final', hfinal', halong⟩
      refine ⟨final', ?_, ?_⟩
      · simp only [List.map_cons, Progress.addAll, hnext', hfinal']
      · rwa [← List.singleton_append, List.countP_append, ← Nat.add_assoc]

end GoesAlong

/-! ## The three forms -/

namespace Auditor

variable {registry : Registry} {s : Settings} {auditor : Auditor} {workers : Value}
  {paired tabled : Sources} {tasks : List Task}

/-- Documents are told by their tasks. -/
theorem run_eq_of_tasks_eq (h : tabled.tasks = paired.tasks) :
    auditor.run registry s tabled workers = auditor.run registry s paired workers := by
  simp only [run, prepare, h]

/-- Tasks in cells come to the fault that the tasks come to, or the one batch goes along with the
other. -/
theorem run_inCell {sources : List String}
    (hsources : ∀ task ∈ tasks, task.source ∈ sources ↔ Frame.omits task.markup = true)
    (hpaired : paired.tasks = .ok tasks) (htabled : tabled.tasks = .ok (tasks.map Task.inCell)) :
    (∃ fault, (auditor.run registry s paired workers).2 = .error fault ∧
      auditor.run registry s tabled workers = auditor.run registry s paired workers) ∨
    ∃ final final',
      auditor.run registry s paired workers =
        ({ auditor with findings := final.findings }, .ok (final.totals tasks.length)) ∧
      auditor.run registry s tabled workers =
        ({ auditor with findings := final'.findings }, .ok (final'.totals tasks.length)) ∧
      GoesAlong sources (tasks.countP fun task => Frame.omits task.markup) final final' := by
  cases hworkers : workerCount s workers with
  | error fault =>
    have hgiven := Auditor.prepare_of_workers_fault hpaired hworkers
    have htable := Auditor.prepare_of_workers_fault htabled hworkers
    have hgiven' := @run_of_unprepared registry s auditor _ _ _ hgiven
    have htable' := @run_of_unprepared registry s auditor _ _ _ htable
    exact .inl ⟨fault, by rw [hgiven'], htable'.trans hgiven'.symm⟩
  | ok count =>
    have hgiven := Auditor.prepare_of_ok hpaired hworkers
    have htable := Auditor.prepare_of_ok htabled hworkers
    by_cases hfew : count < 1
    · have hgiven' := @run_of_no_workers registry s auditor _ _ _ _ hgiven hfew
      have htable' := @run_of_no_workers registry s auditor _ _ _ _ htable hfew
      exact .inl ⟨.noWorkers, by rw [hgiven'], htable'.trans hgiven'.symm⟩
    · rcases exists_addAll_work registry s auditor.categories tasks .start with ⟨final, hfinal⟩
      rcases (GoesAlong.start sources).addAll hsources hfinal with ⟨final', hfinal', halong⟩
      have htable' := run_of_progress htable hfew hfinal'
      rw [List.length_map] at htable'
      rw [Nat.zero_add] at halong
      exact .inr ⟨final, final', run_of_progress hgiven hfew hfinal, htable', halong⟩

end Auditor

section

variable {documents : List (String × Value)} {frame : Frame}

theorem tasks_ofList (hdistinct : (documents.map Prod.fst).Nodup) :
    (Sources.mapping (.ofList documents)).tasks = (Sources.ofPairs documents).tasks := by
  rw [tasks_mapping, tasks_pairs, Keyed.ofList, Keyed.foldl_set .empty hdistinct]
  rfl

theorem tasks_table (hframe : frame.Lists documents) :
    (Sources.table frame).tasks =
      .ok ((documents.map fun document => Task.mk document.1 document.2).map Task.inCell) := by
  rw [List.map_map]
  exact Frame.tasks_of_lists hframe

/-- Documents with texts or nothing for markup are the same tasks in cells. -/
theorem tasks_table_of_texts (hframe : frame.Lists documents)
    (htexts : ∀ document ∈ documents, document.2.kind = .str ∨ document.2.kind = .null) :
    (Sources.table frame).tasks = (Sources.ofPairs documents).tasks := by
  rw [tasks_table hframe, tasks_pairs, List.map_map]
  refine congrArg Except.ok (List.map_congr_left fun document hdocument => inCell_of_not_omits ?_)
  rcases htexts document hdocument with hkind | hkind <;> simp [Frame.omits, hkind]

/-- As no source is repeated, sources tell which documents count as missing in a cell. -/
theorem source_mem_omitted_iff (hdistinct : (documents.map Prod.fst).Nodup) :
    ∀ document ∈ documents, (document.1 ∈ (Frame.omitted documents).map Prod.fst ↔
      Frame.omits document.2 = true) := by
  intro document hdocument
  rw [List.mem_map]
  constructor
  · rintro ⟨other, hother, hsource⟩
    rcases List.mem_filter.1 hother with ⟨hmem, homits⟩
    rwa [List.inj_on_of_nodup_map hdistinct hmem hdocument hsource] at homits
  · intro homits
    exact ⟨document, List.mem_filter.2 ⟨hdocument, homits⟩, rfl⟩

/-- A table comes to the fault that pairs come to, or its batch goes along with theirs. -/
theorem Auditor.run_table {registry : Registry} {s : Settings} {auditor : Auditor}
    {workers : Value} (hdistinct : (documents.map Prod.fst).Nodup)
    (hframe : frame.Lists documents) :
    (∃ fault, (auditor.run registry s (.ofPairs documents) workers).2 = .error fault ∧
      auditor.run registry s (.table frame) workers =
        auditor.run registry s (.ofPairs documents) workers) ∨
    ∃ final final',
      auditor.run registry s (.ofPairs documents) workers =
        ({ auditor with findings := final.findings }, .ok (final.totals documents.length)) ∧
      auditor.run registry s (.table frame) workers =
        ({ auditor with findings := final'.findings }, .ok (final'.totals documents.length)) ∧
      GoesAlong ((Frame.omitted documents).map Prod.fst) (Frame.omitted documents).length
        final final' := by
  have hsources : ∀ task ∈ documents.map fun document => Task.mk document.1 document.2,
      task.source ∈ (Frame.omitted documents).map Prod.fst ↔ Frame.omits task.markup = true := by
    intro task htask
    rcases List.mem_map.1 htask with ⟨document, hdocument, rfl⟩
    exact source_mem_omitted_iff hdistinct document hdocument
  have hruns := @run_inCell registry s auditor workers _ _ _ _ hsources (tasks_pairs documents)
    (tasks_table hframe)
  rwa [List.length_map, List.countP_map, List.countP_eq_length_filter] at hruns

end

/-- Documents of distinct sources may be given as pairs, by source, or as the rows of a table. Pairs
and documents by source come to the same in everything. A table comes to the same reports, rows,
tally and issues, and to a fault where pairs do; it skips the documents whose markup is neither a
text nor missing, each of which is a failure of the pairs, and has the other failures in common with
them. With no such document all three come to the same. -/
theorem forms_of_documents_agree (registry : Registry) (s : Settings) (auditor : Auditor)
    (workers : Value) {documents : List (String × Value)}
    (hdistinct : (documents.map Prod.fst).Nodup) {frame : Frame} (hframe : frame.Lists documents) :
    let paired := auditor.run registry s (.ofPairs documents) workers
    let tabled := auditor.run registry s (.table frame) workers
    let omitted := Frame.omitted documents
    auditor.run registry s (.mapping (.ofList documents)) workers = paired ∧
      (∀ fault, paired.2 = .error fault → tabled = paired) ∧
      (∀ totals, paired.2 = .ok totals →
        tabled.1 =
          { paired.1 with
            findings :=
              { paired.1.findings with
                failures := paired.1.findings.failures.filter fun failed =>
                  failed.source ∉ omitted.map Prod.fst } } ∧
        ∃ totals', tabled.2 = .ok totals' ∧
          totals'.documents = totals.documents ∧
          totals'.documentsWithIssues = totals.documentsWithIssues ∧
          totals'.issues = totals.issues ∧
          totals'.skipped = totals.skipped + omitted.length ∧
          totals.failed = totals'.failed + omitted.length) ∧
      ((∀ document ∈ documents, document.2.kind = .str ∨ document.2.kind = .null) →
        tabled = paired) := by
  intro paired tabled omitted
  have hruns := @Auditor.run_table documents frame registry s auditor workers hdistinct hframe
  refine ⟨Auditor.run_eq_of_tasks_eq (tasks_ofList hdistinct), ?_, ?_,
    fun htexts => Auditor.run_eq_of_tasks_eq (tasks_table_of_texts hframe htexts)⟩
  · intro fault hfault
    rcases hruns with ⟨-, -, hsame⟩ | ⟨final, final', hgiven, -, -⟩
    · exact hsame
    · have hpaired : paired = _ := hgiven
      rw [hpaired] at hfault
      cases hfault
  · intro totals htotals
    rcases hruns with ⟨fault, hfault, -⟩ | ⟨final, final', hgiven, htable, halong⟩
    · cases hfault.symm.trans htotals
    · have hpaired : paired = _ := hgiven
      have htabled : tabled = _ := htable
      rw [hpaired] at htotals ⊢
      rw [htabled]
      cases htotals
      refine ⟨?_, _, rfl, rfl, ?_, ?_, ?_, halong.length_failures⟩ <;> rw [halong.same] <;> rfl

/-- Of three documents one is a text, one has no markup and one is a number, which is skipped when
it stands in a cell and fails otherwise. -/
theorem forms_of_documents_agree_number :
    let auditor : Auditor := ⟨[.obsoletes], .empty⟩
    let documents : List (String × Value) :=
      [("one", .str "<marquee>news"), ("two", .null), ("three", .int 7)]
    let frame : Frame := ⟨["content", "source"],
      [(.int 0, [.str "<marquee>news", .str "one"]), (.int 1, [.null, .str "two"]),
        (.int 2, [.int 7, .str "three"])]⟩
    ∃ after totals after' totals',
      auditor.run Catalogue.registry .packaged (.ofPairs documents) .null = (after, .ok totals) ∧
      auditor.run Catalogue.registry .packaged (.mapping (.ofList documents)) .null =
        (after, .ok totals) ∧
      auditor.run Catalogue.registry .packaged (.table frame) .null = (after', .ok totals') ∧
      after'.findings.reports = after.findings.reports ∧
      totals'.skipped = totals.skipped + 1 ∧ totals.failed = totals'.failed + 1 := by
  intro auditor documents frame
  have hdistinct : (documents.map Prod.fst).Nodup := by decide
  have hframe : frame.Lists documents := ⟨by decide, by decide, rfl⟩
  have hprepare : (⟨.packaged, .ofPairs documents, .null⟩ : Call).prepare =
      .ok ([⟨"one", .str "<marquee>news"⟩, ⟨"two", .null⟩, ⟨"three", .int 7⟩], 4) := rfl
  rcases @Auditor.exists_totals_answer Catalogue.registry auditor _ _ _ hprepare (by decide) with
    ⟨totals, htotals⟩
  rw [Auditor.answer] at htotals
  rcases forms_of_documents_agree Catalogue.registry .packaged auditor .null hdistinct hframe with
    ⟨hmapping, -, hok, -⟩
  rcases hpaired : auditor.run Catalogue.registry .packaged (.ofPairs documents) .null with
    ⟨after, outcome⟩
  rcases htabled : auditor.run Catalogue.registry .packaged (.table frame) .null with
    ⟨after', outcome'⟩
  rw [hpaired] at hmapping hok htotals
  rw [htabled] at hok
  cases htotals
  rcases hok totals rfl with ⟨hafter, totals', houtcome, -, -, -, hskipped, hfailed⟩
  cases hafter
  cases houtcome
  exact ⟨after, totals, _, totals', rfl, hmapping, rfl, rfl, hskipped, hfailed⟩

end MarkupAudit.Batch
