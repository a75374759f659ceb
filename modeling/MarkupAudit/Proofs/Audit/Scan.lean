import MarkupAudit.Audit.Assertion
import MarkupAudit.Proofs.Faults.Success
import MarkupAudit.Proofs.Rule.Registry

/-!
# Scans, single checks and assertions

A scan runs the rules of some categories and keeps the results of those that are violated, an
assertion stops at the first rule that is, and a check runs a single rule, which is looked up by its
name. All three show the same results: rules have names of their own, so nothing that a scan keeps
is overwritten, and the rule under a name is the one that the scan ran.

Main statements: what a scan that gives a report has run (`exists_of_scan_eq_ok`), what the report
keeps (`entries_report`), where an assertion stops (`demandAll_eq_of_runAll`) and
`scan_agrees_with_checks`.
-/

namespace MarkupAudit

namespace Audit

variable {registry : Registry} {s : Settings} {d : Document} {input : Input} {rules : List Rule}
  {results : List RuleResult}

/-! ## Results and their rules -/

theorem map_rule_of_runAll (h : runAll s d rules = .ok results) :
    results.map RuleResult.rule = rules.map Rule.name := by
  refine map_eq_map_of_mapM ?_ h
  intro rule result hrun
  rcases Rule.exists_of_run_eq_ok hrun with ⟨-, -, -, hname, -⟩
  exact hname

/-- The rules of some of the categories give the results of these categories. -/
theorem runAll_filter_category (keep : Category → Bool) (h : runAll s d rules = .ok results) :
    runAll s d (rules.filter fun rule => keep rule.category) =
      .ok (results.filter fun result => keep result.category) := by
  refine mapM_filter ?_ h
  intro rule result hrun
  rcases Rule.exists_of_run_eq_ok hrun with ⟨-, -, -, -, hcategory, -⟩
  simp [hcategory]

/-! ## Rules by name -/

theorem ruleNames_name (registry : Registry) (category : Category) :
    ruleNames registry (some category.name) =
      .ok ((registry.ofCategory category).map Rule.name) := by
  have hresolve : Category.resolve category.name = .ok category := by
    cases category <;> decide +kernel
  simp [ruleNames, hresolve, bind, Except.bind, pure, Except.pure]

theorem check_of_mem {rule : Rule} (hrule : rule ∈ registry.rules) (hread : input.read s = .ok d) :
    check registry s rule.name input = rule.run s d := by
  have hget : registry.get rule.name = .ok rule := by
    simp [Registry.get, Registry.find?_of_mem hrule]
  simp [check, hget, hread, bind, Except.bind]

/-- Rules of the registry give under their names what they give together. -/
theorem mapM_check_of_runAll (hrules : ∀ rule ∈ rules, rule ∈ registry.rules)
    (hread : input.read s = .ok d) (h : runAll s d rules = .ok results) :
    (rules.map Rule.name).mapM (fun name => check registry s name input) = .ok results := by
  have hresults : (rules.map fun rule => rule.run s d) = results.map .ok := mapM_eq_ok_iff.1 h
  refine mapM_eq_ok_iff.2 ?_
  calc
    (rules.map Rule.name).map (fun name => check registry s name input)
      = rules.map fun rule => check registry s rule.name input := List.map_map
    _ = rules.map fun rule => rule.run s d :=
        List.map_congr_left fun rule hrule => check_of_mem (hrules rule hrule) hread
    _ = results.map .ok := hresults

/-! ## Reports -/

/-- A scan that gives a report has read the document, found out the categories and run the rules of
these. -/
theorem exists_of_scan_eq_ok {choices : Except Fault (List Choice)} {report : ScanReport}
    (h : scan registry s input choices = .ok report) :
    ∃ d wanted results, input.read s = .ok d ∧ choices = .ok wanted ∧
      Choice.select wanted = .ok report.categories ∧
      runAll s d (registry.ofCategories report.categories) = .ok results ∧
      report = Audit.report d.source report.categories results := by
  rcases exists_of_bind_eq_ok h with ⟨d, hread, h⟩
  rcases exists_of_bind_eq_ok h with ⟨wanted, hwanted, h⟩
  rcases exists_of_bind_eq_ok h with ⟨categories, hselect, h⟩
  rcases exists_of_bind_eq_ok h with ⟨results, hrun, h⟩
  cases h
  exact ⟨d, wanted, results, hread, hwanted, hselect, hrun, rfl⟩

/-- Where the rules have names of their own, the report keeps every violated one, in the order in
which they were run. -/
theorem entries_report (source : String) (categories : List Category)
    (hnodup : (results.map RuleResult.rule).Nodup) :
    (report source categories results).results.entries =
      (results.filter fun result => !result.passed).map fun result => (result.rule, result) := by
  have hkeys : (((results.filter fun result => !result.passed).map fun result =>
      (result.rule, result)).map Prod.fst).Nodup := by
    rw [List.map_map]
    exact hnodup.sublist (List.filter_sublist.map RuleResult.rule)
  exact Keyed.foldl_set Keyed.empty hkeys

/-- The report of a scan keeps the violated ones of the results. -/
theorem entries_of_scan {wanted : List Choice} {categories : List Category} (source : String)
    (hselect : Choice.select wanted = .ok categories)
    (h : runAll s d (registry.ofCategories categories) = .ok results) :
    (report source categories results).results.entries =
      (results.filter fun result => !result.passed).map fun result => (result.rule, result) := by
  have hcategories : categories.Nodup :=
    (by decide : Category.all.Nodup).sublist (Choice.sublist_of_select hselect)
  have hnames := registry.nodup_names_ofCategories hcategories
  exact entries_report source categories (map_rule_of_runAll h ▸ hnames)

/-- A result that a report keeps is one of a rule that was run, and has violations. -/
theorem exists_rule_of_mem_values {choices : Except Fault (List Choice)} {report : ScanReport}
    (h : scan registry s input choices = .ok report) {result : RuleResult}
    (hresult : result ∈ report.results.values) :
    ∃ rule ∈ registry.ofCategories report.categories, ∃ d, rule.run s d = .ok result ∧
      result.passed = false := by
  rcases exists_of_scan_eq_ok h with ⟨d, wanted, results, -, -, hselect, hrun, hreport⟩
  have hentries := entries_of_scan d.source hselect hrun
  rw [← hreport] at hentries
  rw [Keyed.values, hentries, List.map_map] at hresult
  rcases List.mem_map.1 hresult with ⟨kept, hkept, rfl⟩
  rcases List.mem_filter.1 hkept with ⟨hfound, hviolated⟩
  have hmem : Except.ok kept ∈ results.map (Except.ok (ε := Fault)) := List.mem_map_of_mem hfound
  rw [← mapM_eq_ok_iff.1 hrun] at hmem
  rcases List.mem_map.1 hmem with ⟨rule, hrule, hresult⟩
  exact ⟨rule, hrule, d, hresult, by simpa using hviolated⟩

/-! ## Assertions -/

/-- An assertion stops at the first violated rule, if the rules all give results. -/
theorem demandAll_eq_of_runAll (h : runAll s d rules = .ok results) :
    demandAll s d rules =
      match results.find? fun result => !result.passed with
      | some result => .error (.violated result)
      | none => .ok () := by
  have hresults : (rules.map fun rule => rule.run s d) = results.map .ok := mapM_eq_ok_iff.1 h
  clear h
  induction rules generalizing results with
  | nil =>
    have hnone : results = [] := by simpa using hresults.symm
    simp [demandAll, hnone]
  | cons rule rest ih =>
    rcases List.map_eq_cons_iff.1 hresults.symm with ⟨result, others, rfl, hfirst, hrest⟩
    -- A satisfied rule is gone past on both sides, a violated one is where both stop.
    cases hpassed : result.passed with
    | true => simp [demandAll, ← hfirst, demand, hpassed, ih hrest.symm]
    | false => simp [demandAll, ← hfirst, demand, hpassed]

theorem demand_eq_violated_iff {x : Except Fault RuleResult} {result : RuleResult} :
    demand x = .error (.violated result) ↔ x = .ok result ∧ result.passed = false := by
  cases x with
  | error fault => simp [demand]
  | ok found =>
    cases hpassed : found.passed <;> simp only [demand, hpassed]
    · constructor
      · intro h
        cases h
        exact ⟨rfl, hpassed⟩
      · rintro ⟨hfound, -⟩
        cases hfound
        rfl
    · simp only [if_true, reduceCtorEq, Except.ok.injEq, false_iff]
      rintro ⟨rfl, hfailed⟩
      simp [hpassed] at hfailed

theorem select_exact {categories : List Category} (h : categories ∈ assertedSelections) :
    Choice.select (categories.map .exact) = .ok categories := by
  revert categories
  decide

/-! ## Agreement -/

section

variable {choices : Except Fault (List Choice)} {report : ScanReport}

/-- A scan shows what the rules listed for its categories show one by one. -/
theorem exists_checks_of_scan (h : scan registry s input choices = .ok report) :
    ∃ names results,
      report.categories.mapM (fun category => ruleNames registry (some category.name)) =
        .ok names ∧
      names.flatten.mapM (fun name => check registry s name input) = .ok results ∧
      report.results.entries =
        (names.flatten.zip results).filter (fun entry => !entry.2.passed) ∧
      report.rulesRun = names.flatten.length := by
  rcases exists_of_scan_eq_ok h with ⟨d, wanted, results, hread, -, hselect, hrun, hreport⟩
  let names := report.categories.map fun category => (registry.ofCategory category).map Rule.name
  have hlisted : report.categories.mapM (fun category => ruleNames registry (some category.name)) =
      .ok names := by
    refine mapM_eq_ok_iff.2 ?_
    simp [names, ruleNames_name]
  have hflatten : names.flatten = (registry.ofCategories report.categories).map Rule.name := by
    simp [names, Registry.ofCategories, List.flatMap, Function.comp_def]
  have hmem : ∀ rule ∈ registry.ofCategories report.categories, rule ∈ registry.rules :=
    fun rule hrule => (Registry.mem_ofCategories.1 hrule).1
  have hchecks : names.flatten.mapM (fun name => check registry s name input) = .ok results := by
    rw [hflatten]
    exact mapM_check_of_runAll hmem hread hrun
  have hrules : names.flatten = results.map RuleResult.rule := by
    rw [hflatten, map_rule_of_runAll hrun]
  have hzip : names.flatten.zip results = results.map fun result => (result.rule, result) := by
    simpa [hrules] using List.zip_map' (f := RuleResult.rule) (g := id) (l := results)
  refine ⟨names, results, hlisted, hchecks, ?_, ?_⟩
  · have hentries := entries_of_scan d.source hselect hrun
    rw [← hreport] at hentries
    simpa [hzip, List.filter_map, Function.comp_def] using hentries
  · have hcount : report.rulesRun = results.length := by
      rw [hreport]
      rfl
    simpa [hrules] using hcount

/-- A scan keeps of the full scan the results of its categories. -/
theorem entries_eq_filter_of_scan {everything : List Choice} {full : ScanReport}
    (h : scan registry s input choices = .ok report)
    (heverything : Choice.select everything = .ok Category.all)
    (hfull : scan registry s input (.ok everything) = .ok full) :
    report.results.entries =
      full.results.entries.filter fun entry => report.categories.contains entry.2.category := by
  rcases exists_of_scan_eq_ok h with ⟨d, wanted, results, hread, -, hselect, hrun, hreport⟩
  rcases exists_of_scan_eq_ok hfull with
    ⟨d', wanted', results', hread', hwanted', hselect', hrun', hreport'⟩
  -- Both scans read one document, and the full one runs all rules.
  have hd : d' = d := Except.ok.inj (hread'.symm.trans hread)
  have hw : wanted' = everything := (Except.ok.inj hwanted').symm
  subst hd hw
  have hcategories : full.categories = Category.all :=
    Except.ok.inj (hselect'.symm.trans heverything)
  rcases Choice.exists_filter_of_select hselect with ⟨keep, hkeep⟩
  have hmem : ∀ category, category ∈ report.categories ↔ keep category = true := by
    intro category
    simp [hkeep, Category.mem_all]
  have hrules : registry.ofCategories report.categories =
      (registry.ofCategories full.categories).filter fun rule => keep rule.category := by
    rw [hkeep, hcategories, Registry.ofCategories_filter]
  -- So the results of the scan are those of the full one that its categories keep.
  have hresults : results = results'.filter fun result => keep result.category := by
    have hkept := runAll_filter_category keep hrun'
    rw [← hrules, hrun] at hkept
    exact Except.ok.inj hkept
  have hentries := entries_of_scan d'.source hselect hrun
  have hentries' := entries_of_scan d'.source hselect' hrun'
  rw [← hreport, hresults] at hentries
  rw [← hreport'] at hentries'
  simp [hentries, hentries', hmem, List.filter_map, List.filter_filter, Function.comp_def,
    Bool.and_comm]

/-- An assertion of categories fails with the first result that a scan of them keeps. -/
theorem assertCategories_of_scan {categories : List Category}
    (hcategories : categories ∈ assertedSelections)
    (h : scan registry s input (.ok (categories.map .exact)) = .ok report) :
    assertCategories registry s categories input =
      match report.results.values.head? with
      | some result => .error (.violated result)
      | none => .ok () := by
  rcases exists_of_scan_eq_ok h with ⟨d, wanted, results, hread, hwanted, hselect, hrun, hreport⟩
  have hw : wanted = categories.map .exact := (Except.ok.inj hwanted).symm
  subst hw
  have heq : report.categories = categories :=
    Except.ok.inj (hselect.symm.trans (select_exact hcategories))
  have hentries := entries_of_scan d.source hselect hrun
  rw [← hreport] at hentries
  have hvalues : report.results.values = results.filter fun result => !result.passed := by
    simp [Keyed.values, hentries, Function.comp_def]
  rw [heq] at hrun
  have hstops := demandAll_eq_of_runAll hrun
  simpa [assertCategories, hread, hvalues, List.head?_filter] using hstops

end

end Audit

/-- A scan keeps, category by category in their order, the results that single checks of the listed
rules give, those that are not passed, and counts all of them. It keeps of a full scan the results
of its categories. An assertion of categories fails just if a scan of them is not passed, with the
first result that the scan keeps, and that of a single rule just if its check is not passed. -/
theorem scan_agrees_with_checks {registry : Registry} {s : Settings} {input : Audit.Input}
    {choices : Except Fault (List Choice)} {report : ScanReport}
    (h : Audit.scan registry s input choices = .ok report) :
    (∃ wanted, choices = .ok wanted ∧ Choice.select wanted = .ok report.categories ∧
        report.categories.Sublist Category.all) ∧
      (∃ names results,
        report.categories.mapM
            (fun category => Audit.ruleNames registry (some category.name)) = .ok names ∧
          names.flatten.mapM (fun name => Audit.check registry s name input) = .ok results ∧
          report.results.entries =
            (names.flatten.zip results).filter (fun entry => !entry.2.passed) ∧
          report.rulesRun = names.flatten.length) ∧
      (∀ everything full, Choice.select everything = .ok Category.all →
        Audit.scan registry s input (.ok everything) = .ok full →
          report.results.entries = full.results.entries.filter fun entry =>
            report.categories.contains entry.2.category) ∧
      (∀ categories ∈ Audit.assertedSelections, choices = .ok (categories.map .exact) →
        (Audit.assertCategories registry s categories input = .ok () ↔ report.passed = true) ∧
          ∀ failure, Audit.assertCategories registry s categories input = .error failure ↔
            ∃ result, report.results.values.head? = some result ∧ failure = .violated result ∧
              failure.message = result.message) ∧
      ∀ name result, Audit.assert registry s name input = .error (.violated result) ↔
        Audit.check registry s name input = .ok result ∧ result.passed = false := by
  refine ⟨?_, Audit.exists_checks_of_scan h, ?_, ?_, ?_⟩
  · rcases Audit.exists_of_scan_eq_ok h with ⟨-, wanted, -, -, hwanted, hselect, -⟩
    exact ⟨wanted, hwanted, hselect, Choice.sublist_of_select hselect⟩
  · intro everything full heverything hfull
    exact Audit.entries_eq_filter_of_scan h heverything hfull
  · intro categories hcategories hchoices
    have hassert := Audit.assertCategories_of_scan hcategories (hchoices ▸ h)
    have hpassed : report.passed = true ↔ report.results.values.head? = none := by
      simp [ScanReport.passed, Keyed.values]
    cases hfirst : report.results.values.head? with
    | none => simp [hassert, hpassed, hfirst]
    | some first =>
      refine ⟨by simp [hassert, hpassed, hfirst], ?_⟩
      intro failure
      simp only [hassert, hfirst, Except.error.injEq, Option.some.injEq]
      constructor
      · rintro rfl
        exact ⟨first, rfl, rfl, rfl⟩
      · rintro ⟨result, rfl, rfl, -⟩
        rfl
  · intro name result
    exact Audit.demand_eq_violated_iff

/-- A scrolling text is all that a scan for obsolete markup keeps here, so it is what the assertion
against obsolete markup fails with. -/
theorem scan_agrees_with_checks_marquee :
    let input : Audit.Input := .document (.ofNodes "" [.element "marquee" .empty [.text "news"]])
    ∃ report result,
      Audit.scan Catalogue.registry .packaged input (.ok [.exact .obsoletes]) = .ok report ∧
        report.results.values.map RuleResult.message =
          ["<marquee> is an obsolete HTML tag and should not be used"] ∧
        report.results.values.head? = some result ∧
        Audit.assertCategories Catalogue.registry .packaged [.obsoletes] input =
          .error (.violated result) := by
  intro input
  have hmessages : (Audit.scan Catalogue.registry .packaged input
      (.ok [.exact .obsoletes])).toOption.map
        (fun report => report.results.values.map RuleResult.message) =
      some ["<marquee> is an obsolete HTML tag and should not be used"] := by
    decide +kernel
  rcases Option.map_eq_some_iff.1 hmessages with ⟨report, hreport, hmessage⟩
  have hscan : Audit.scan Catalogue.registry .packaged input (.ok [.exact .obsoletes]) =
      .ok report := by
    cases hrun : Audit.scan Catalogue.registry .packaged input (.ok [.exact .obsoletes]) with
    | error fault => simp [hrun, Except.toOption] at hreport
    | ok found => simpa [hrun, Except.toOption] using hreport
  rcases scan_agrees_with_checks hscan with ⟨-, -, -, hassert, -⟩
  rcases hassert [.obsoletes] (by decide) rfl with ⟨-, hfailure⟩
  rcases List.map_eq_singleton_iff.1 hmessage with ⟨result, hvalues, -⟩
  have hfirst : report.results.values.head? = some result := by simp [hvalues]
  exact ⟨report, result, hscan, hmessage, hfirst, (hfailure _).2 ⟨result, hfirst, rfl, rfl⟩⟩

end MarkupAudit
