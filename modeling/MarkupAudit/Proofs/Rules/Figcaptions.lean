import MarkupAudit.Proofs.Document.Neighbours
import MarkupAudit.Proofs.Faults.Checks
import MarkupAudit.Proofs.Rule.Order

/-!
# Captions of figures

The rule that a parent has one caption at most goes back from each caption to the nearest earlier
one among its siblings, so it tells of all captions of a parent but the first. Together with the
rule about the places of captions it asks for one thing of every parent: there is at most one
caption, and this is its first or its last child.

Main statement: `figcaption_rules_follow_siblings`.
-/

namespace MarkupAudit

/-- Of those that pass a test, the ones that have another one before them are all but the first. -/
theorem filter_preceded {α : Type} {test told : α → Bool} {as : List α}
    (h : ∀ front a back, as = front ++ a :: back → test a = true → told a = front.any test) :
    (as.filter test).filter told = (as.filter test).drop 1 := by
  -- The induction is from the end, where an item is added without a change to what is before the
  -- others.
  induction as using List.reverseRecOn with
  | nil => rfl
  | append_singleton as a ih =>
    have hbefore := ih fun front b back has => h front b (back ++ [a]) (by simp [has])
    rw [List.filter_append, List.filter_append, hbefore]
    cases ha : test a with
    | false => simp [ha]
    | true =>
      have hlast : told a = as.any test := h as a [] rfl ha
      cases hpassing : as.filter test with
      | nil =>
        have hfirst : as.any test = false := by simpa using hpassing
        simp [ha, hlast, hfirst]
      | cons b others =>
        have hb : b ∈ as.filter test := by simp [hpassing]
        have hfurther : as.any test = true := List.any_eq_true.2 ⟨b, List.mem_filter.1 hb⟩
        simp [ha, hlast, hfurther]

namespace Rules

variable {d : Document} {parent p : Place} {front back : List Place}

/-- The captions among the children. -/
def figcaptionsIn (parent : Place) : List Place :=
  parent.children.filter isFigcaption

theorem placesOf_figcaption (d : Document) :
    d.placesOf ["figcaption"] = d.places.filter isFigcaption := by
  refine List.filter_congr fun p _ => ?_
  simp [isFigcaption, beq_eq_decide]

/-! ## Further captions -/

/-- A caption is told of if there is one before it. -/
theorem isSome_of_judgeFurtherFigcaption {verdict : Option String}
    (hchildren : parent.children = front ++ p :: back)
    (hverdict : judgeFurtherFigcaption p = .ok verdict) :
    verdict.isSome = front.any isFigcaption := by
  have hp : p ∈ parent.children := by simp [hchildren]
  rw [judgeFurtherFigcaption, Place.searchBack_of_children _ hchildren,
    Place.parentFor_of_mem_children hp] at hverdict
  rw [← List.any_reverse, ← List.isSome_find?]
  cases hother : front.reverse.find? isFigcaption with
  | none =>
    rw [hother] at hverdict
    cases hverdict
    rfl
  | some other =>
    rw [hother] at hverdict
    cases hverdict
    rfl

theorem exists_run_onlyOneFigcaption (s : Settings) (d : Document) :
    ∃ result, onlyOneFigcaption.run s d = .ok result ∧ result.places ⊆ d.places ∧
      result.violations.map (·.subject) = result.places.map some ∧
      ∀ parent ∈ d.parents,
        result.places.filter parent.hasChild = (figcaptionsIn parent).drop 1 := by
  rcases succeeds_onlyOneFigcaption (d := d) s with ⟨findings, hcheck⟩
  have hplain : onlyOneFigcaption.HasPlainHeader :=
    Rule.hasPlainHeader_of_ofList rfl (by decide +kernel)
  rcases Rule.exists_run hplain hcheck with ⟨result, hrun, -, hviolations⟩
  have hjudged : Finding.judgeOrFail judgeFurtherFigcaption (d.placesOf ["figcaption"]) =
      .ok findings := hcheck
  rw [placesOf_figcaption] at hjudged
  rcases Finding.exists_judge_of_judgeOrFail hjudged with ⟨verdict, hverdict, rfl⟩
  have hplaces : result.places =
      (d.places.filter isFigcaption).filter fun p => (verdict p).isSome := by
    rw [RuleResult.places_eq hviolations, Finding.places_judge]
  refine ⟨result, hrun, ?_, ?_, ?_⟩
  · rw [hplaces]
    exact (List.filter_sublist.trans List.filter_sublist).subset
  · rw [hplaces, ← Finding.subjects_judge, hviolations, List.map_map]
    rfl
  · intro parent hparent
    -- What is told of the children of one parent is found among these alone.
    rw [hplaces, List.filter_comm, List.filter_comm parent.hasChild,
      Document.filter_hasChild hparent]
    refine filter_preceded fun front p back hchildren hfigcaption => ?_
    have hplace : p ∈ d.places := Document.children_subset hparent (by simp [hchildren])
    exact isSome_of_judgeFurtherFigcaption hchildren
      (hverdict p (List.mem_filter.2 ⟨hplace, hfigcaption⟩))

/-- Nothing is told exactly if nothing is told of the children of any parent. -/
theorem passed_iff_of_filter_hasChild {result : RuleResult} (hsubset : result.places ⊆ d.places)
    (hsubjects : result.violations.map (·.subject) = result.places.map some)
    (htold : ∀ parent ∈ d.parents,
      result.places.filter parent.hasChild = (figcaptionsIn parent).drop 1) :
    result.passed = true ↔ ∀ parent ∈ d.parents, (figcaptionsIn parent).length ≤ 1 := by
  have hpassed : result.passed = true ↔ result.places = [] := by
    rw [RuleResult.passed, List.isEmpty_iff, ← List.map_eq_nil_iff, hsubjects, List.map_eq_nil_iff]
  rw [hpassed]
  constructor
  · intro hnothing parent hparent
    have hrest := htold parent hparent
    rw [hnothing, List.filter_nil] at hrest
    exact List.drop_eq_nil_iff.1 hrest.symm
  · intro hone
    refine List.eq_nil_iff_forall_not_mem.2 fun p hp => ?_
    rcases Document.exists_mem_parents (hsubset hp) with ⟨parent, hparent, hchild⟩
    have hnone : result.places.filter parent.hasChild = [] := by
      rw [htold parent hparent, List.drop_eq_nil_iff.2 (hone parent hparent)]
    exact List.filter_eq_nil_iff.1 hnone p hp (Place.hasChild_of_mem hchild)

/-! ## The places of captions -/

theorem isOutermostChildOf_iff (hp : p ∈ parent.children) :
    isOutermostChildOf p parent = true ↔
      parent.firstChild? = some p ∨ parent.lastChild? = some p := by
  have hfirst : parent.firstChild?.any p.same = true ↔ parent.firstChild? = some p :=
    Place.any_same_iff hp fun _ => Place.mem_children_of_firstChild?
  have hlast : parent.lastChild?.any p.same = true ↔ parent.lastChild? = some p :=
    Place.any_same_iff hp fun _ => List.mem_of_getLast?
  rw [isOutermostChildOf, Bool.or_eq_true, hfirst, hlast]

theorem judgeFigcaptionPlace_eq_none_iff (hp : p ∈ parent.children) :
    judgeFigcaptionPlace p = .ok none ↔
      parent.firstChild? = some p ∨ parent.lastChild? = some p := by
  rw [← isOutermostChildOf_iff hp, judgeFigcaptionPlace, Place.parentFor_of_mem_children hp]
  cases houtermost : isOutermostChildOf p parent with
  | true => simp [bind, Except.bind, pure, Except.pure, houtermost]
  | false => simp [bind, Except.bind, pure, Except.pure, houtermost]

theorem exists_run_figcaptionIsFirstOrLastChild (s : Settings) (d : Document) :
    ∃ result, figcaptionIsFirstOrLastChild.run s d = .ok result ∧
      (result.passed = true ↔ ∀ parent ∈ d.parents, ∀ p ∈ figcaptionsIn parent,
        parent.firstChild? = some p ∨ parent.lastChild? = some p) := by
  rcases succeeds_figcaptionIsFirstOrLastChild (d := d) s with ⟨findings, hcheck⟩
  have hplain : figcaptionIsFirstOrLastChild.HasPlainHeader :=
    Rule.hasPlainHeader_of_ofList rfl (by decide +kernel)
  rcases Rule.exists_run_passed_iff hplain hcheck with ⟨result, hrun, hpassed⟩
  refine ⟨result, hrun, ?_⟩
  have hjudged : Finding.judgeOrFail judgeFigcaptionPlace (d.placesOf ["figcaption"]) =
      .ok findings := hcheck
  have hnothing : findings = [] ↔
      ∀ p ∈ d.placesOf ["figcaption"], judgeFigcaptionPlace p = .ok none := by
    rw [← Finding.judgeOrFail_eq_nil_iff, hjudged, Except.ok.injEq]
  rw [hpassed, hnothing, placesOf_figcaption]
  constructor
  · intro hall parent hparent p hp
    rcases List.mem_filter.1 hp with ⟨hchild, hfigcaption⟩
    have hplace : p ∈ d.places := Document.children_subset hparent hchild
    exact (judgeFigcaptionPlace_eq_none_iff hchild).1
      (hall p (List.mem_filter.2 ⟨hplace, hfigcaption⟩))
  · intro hall p hp
    rcases List.mem_filter.1 hp with ⟨hplace, hfigcaption⟩
    rcases Document.exists_mem_parents hplace with ⟨parent, hparent, hchild⟩
    exact (judgeFigcaptionPlace_eq_none_iff hchild).2
      (hall parent hparent p (List.mem_filter.2 ⟨hchild, hfigcaption⟩))

end Rules

open Rules

/-- For the children of a parent, a step on and a step back undo each other, going on from the first
child passes the children and nothing else, and going back from a child passes those before it and
comes to an end, so that the nearest caption among these is found. The two rules about the captions
of figures always give results. The one that goes back tells of elements only, and of the captions
of a parent it tells of all but the first. Both are satisfied exactly if every parent has at most
one caption, which is its first or its last child. -/
theorem figcaption_rules_follow_siblings (s : Settings) (d : Document) :
    (∀ parent ∈ d.parents,
      (∀ p ∈ parent.children, ∀ q,
        (p.next = .ok (some q) ↔ q ∈ parent.children ∧ q.previous = .ok (some p)) ∧
        (p.previous = .ok (some q) ↔ q ∈ parent.children ∧ q.next = .ok (some p))) ∧
      (∀ ps, Walk Place.next parent.firstChild? ps ↔ ps = parent.children) ∧
      ∀ front p back, parent.children = front ++ p :: back →
        Walk Place.previous (some p) (p :: front.reverse) ∧
          p.searchBack isFigcaption = .ok (front.reverse.find? isFigcaption)) ∧
    ∃ further misplaced, onlyOneFigcaption.run s d = .ok further ∧
      figcaptionIsFirstOrLastChild.run s d = .ok misplaced ∧
      further.violations.map (·.subject) = further.places.map some ∧
      (∀ parent ∈ d.parents,
        further.places.filter parent.hasChild = (figcaptionsIn parent).drop 1 ∧
          (further.places.filter parent.hasChild).length = (figcaptionsIn parent).length - 1) ∧
      (further.passed = true ∧ misplaced.passed = true ↔
        ∀ parent ∈ d.parents, (figcaptionsIn parent).length ≤ 1 ∧
          ∀ p ∈ figcaptionsIn parent,
            parent.firstChild? = some p ∨ parent.lastChild? = some p) := by
  constructor
  · intro parent _
    refine ⟨fun p hp q => ⟨Place.next_eq_some_iff hp, Place.previous_eq_some_iff hp⟩,
      fun ps => parent.walk_next_iff, fun front p back hchildren => ⟨?_, ?_⟩⟩
    · exact .go (Place.previous_of_children hchildren) (Place.walk_previous hchildren)
    · exact Place.searchBack_of_children isFigcaption hchildren
  · rcases exists_run_onlyOneFigcaption s d with ⟨further, hfurther, hsubset, hsubjects, htold⟩
    rcases exists_run_figcaptionIsFirstOrLastChild s d with ⟨misplaced, hmisplaced, hplaced⟩
    refine ⟨further, misplaced, hfurther, hmisplaced, hsubjects, fun parent hparent => ?_, ?_⟩
    · rw [htold parent hparent]
      exact ⟨rfl, List.length_drop⟩
    · rw [passed_iff_of_filter_hasChild hsubset hsubjects htold, hplaced, ← forall₂_and]

/-- A figure with three captions, the second of them between a text and the third. -/
theorem figcaption_rules_follow_siblings_three :
    ∃ (d : Document) (further misplaced : RuleResult),
      onlyOneFigcaption.run .packaged d = .ok further ∧
      figcaptionIsFirstOrLastChild.run .packaged d = .ok misplaced ∧
      further.positions = [4, 5] ∧ misplaced.positions = [4] ∧
      ∀ parent ∈ d.parents,
        (further.places.filter parent.hasChild).length = (figcaptionsIn parent).length - 1 := by
  let d : Document :=
    .ofNodes "" [.element "figure" .empty
      [.element "figcaption" .empty [.text "One"], .element "img" .empty [], .text " and ",
        .element "figcaption" .empty [.text "Two"], .element "figcaption" .empty []]]
  rcases figcaption_rules_follow_siblings .packaged d with
    ⟨-, further, misplaced, hfurther, hmisplaced, -, htold, -⟩
  refine ⟨d, further, misplaced, hfurther, hmisplaced, ?_, ?_,
    fun parent hparent => (htold parent hparent).2⟩
  · exact eq_of_map_eq_ok hfurther (by decide +kernel)
  · exact eq_of_map_eq_ok hmisplaced (by decide +kernel)

end MarkupAudit
