import MarkupAudit.Proofs.Document.Ancestry
import MarkupAudit.Proofs.Faults.Checks
import MarkupAudit.Proofs.Rule.Subjects

/-!
# Interactive elements inside others

The rule goes up from each element and asks its ancestors; seen from above, an element is objected
to if it is inside one that it clashes with. The container that is named is found by a second way
up, which asks for less and so never comes to the end without one.

Main statement: `clashing_elements_are_told_once`.
-/

namespace MarkupAudit

namespace Rules

/-- The elements that may not hold some others. -/
def containerTags : List String := activators ++ sameTagNesting

/-- Nothing interactive may be inside a link or a button, and no form, label, meter or progress bar
inside one of its own kind. -/
def Clashes (container e : Element) : Prop :=
  (container.tag ∈ activators ∧ isInteractive e = true) ∨
    (container.tag ∈ sameTagNesting ∧ e.tag = container.tag)

variable {d : Document} {p : Place}

/-- The rule looks up from the element and finds what is seen looking down from the containers. -/
theorem isMisnested_iff (hp : p ∈ d.places) :
    isMisnested p = true ↔ ∃ a ∈ d.places, p ∈ a.descendants ∧ Clashes a.element p.element := by
  have hclashes : ∀ e : Located,
      ((isInteractive p.element && activators.contains e.element.tag) ||
        (sameTagNesting.contains p.element.tag && e.element.tag == p.element.tag)) = true ↔
        Clashes e.element p.element := by
    intro e
    simp only [Clashes, Bool.or_eq_true, Bool.and_eq_true, List.contains_iff_mem, beq_iff_eq]
    refine or_congr and_comm ⟨?_, ?_⟩
    · rintro ⟨htag, heq⟩
      exact ⟨heq ▸ htag, heq.symm⟩
    · rintro ⟨htag, heq⟩
      exact ⟨heq ▸ htag, heq.symm⟩
  rw [isMisnested, List.any_eq_true]
  constructor
  · rintro ⟨e, he, hforbidden⟩
    rcases (Document.mem_ancestors_iff hp).1 he with ⟨a, ha, rfl, hinside⟩
    exact ⟨a, ha, hinside, (hclashes a.located).1 hforbidden⟩
  · rintro ⟨a, ha, hinside, hclash⟩
    exact ⟨a.located, (Document.mem_ancestors_iff hp).2 ⟨a, ha, rfl, hinside⟩,
      (hclashes a.located).2 hclash⟩

/-! ## What is said -/

def nestingSentence (p : Place) (container : Located) : String :=
  s!"<{p.element.upperTag}{p.element.filledId}> nested inside " ++
    s!"<{container.element.upperTag}{container.element.filledId}>"

def nestingVerdict (p : Place) : Option String :=
  if isMisnested p then (p.ancestorOf? containerTags).map (nestingSentence p) else none

/-- The ancestor that makes the element misnested is one that the second search accepts. -/
theorem exists_container (h : isMisnested p = true) :
    ∃ container, p.ancestorOf? containerTags = some container := by
  rcases succeeds_interactiveContainer p with ⟨container?, hfound⟩
  rw [interactiveContainer, if_pos h] at hfound
  cases hcontainer : p.ancestorOf? (activators ++ sameTagNesting) with
  | none => simp [hcontainer] at hfound
  | some container => exact ⟨container, hcontainer⟩

theorem judgeNestedInteractive_eq (p : Place) :
    judgeNestedInteractive p = .ok (nestingVerdict p) := by
  rw [judgeNestedInteractive, interactiveContainer, nestingVerdict]
  cases hmisnested : isMisnested p with
  | false => rfl
  | true =>
    rcases exists_container hmisnested with ⟨container, hcontainer⟩
    rw [containerTags] at hcontainer ⊢
    simp [hcontainer, Except.map, nestingSentence]

theorem isSome_nestingVerdict (p : Place) : (nestingVerdict p).isSome = isMisnested p := by
  cases hmisnested : isMisnested p with
  | false => simp [nestingVerdict, hmisnested]
  | true =>
    rcases exists_container hmisnested with ⟨container, hcontainer⟩
    simp [nestingVerdict, hmisnested, hcontainer]

theorem exists_nearest_of_nestingVerdict {message : String}
    (h : nestingVerdict p = some message) :
    ∃ container, p.Nearest containerTags container ∧ message = nestingSentence p container := by
  rw [nestingVerdict] at h
  split at h
  · rcases Option.map_eq_some_iff.1 h with ⟨container, hcontainer, rfl⟩
    exact ⟨container, Place.nearest_of_ancestorOf? hcontainer, rfl⟩
  · cases h

end Rules

open Rules

/-- The rule about nested interactive elements always gives a result. It is satisfied exactly if no
element is inside one that it clashes with. The violations refer to the elements of which this is
not so, each of them once and in document order, and each names the nearest ancestor that is a link,
a button, a form, a label, a meter or a progress bar. -/
theorem clashing_elements_are_told_once (s : Settings) (d : Document) :
    ∃ result, noNestedInteractiveElements.run s d = .ok result ∧
      (result.passed = true ↔
        ∀ a ∈ d.places, ∀ p ∈ a.descendants, ¬ Clashes a.element p.element) ∧
      result.positions.Pairwise (· < ·) ∧
      (∀ p ∈ d.places, p.position ∈ result.positions ↔
        ∃ a ∈ d.places, p ∈ a.descendants ∧ Clashes a.element p.element) ∧
      ∀ v ∈ result.violations, ∃ p ∈ d.places, ∃ container, v.subject = some p ∧
        p.Nearest containerTags container ∧ v.message = nestingSentence p container := by
  have hcheck : noNestedInteractiveElements.check s d =
      .ok (Finding.judge nestingVerdict d.places) :=
    Finding.judgeOrFail_eq_judge fun p _ => judgeNestedInteractive_eq p
  have hplain : noNestedInteractiveElements.HasPlainHeader :=
    Rule.hasPlainHeader_of_ofList rfl (by decide +kernel)
  rcases Rule.exists_run hplain hcheck with ⟨result, hrun, -, hviolations⟩
  have hpositions : result.positions = (d.places.filter isMisnested).map (·.position) := by
    refine RuleResult.positions_eq hviolations ?_
    simp only [Finding.subjects_judge, isSome_nestingVerdict]
  have hreported : ∀ p ∈ d.places, p.position ∈ result.positions ↔
      ∃ a ∈ d.places, p ∈ a.descendants ∧ Clashes a.element p.element := by
    intro p hp
    rw [hpositions, Document.position_mem_map_iff (List.filter_subset_self _) hp, List.mem_filter,
      isMisnested_iff hp, and_iff_right hp]
  refine ⟨result, hrun, ?_, ?_, hreported, ?_⟩
  · rw [RuleResult.passed_iff hviolations, Finding.judge_eq_nil_iff]
    constructor
    · intro hsilent a ha p hp hclash
      have hplace : p ∈ d.places := Document.mem_places_of_mem_descendants ha hp
      have hmisnested : isMisnested p = true := (isMisnested_iff hplace).2 ⟨a, ha, hp, hclash⟩
      simp [← isSome_nestingVerdict, hsilent p hplace] at hmisnested
    · intro hapart p hp
      rw [← Option.not_isSome_iff_eq_none, isSome_nestingVerdict, isMisnested_iff hp]
      rintro ⟨a, ha, hinside, hclash⟩
      exact hapart a ha p hinside hclash
  · rw [hpositions]
    exact List.pairwise_map.2 ((Document.pairwise_places d).filter _)
  · intro v hv
    rcases List.mem_map.1 (hviolations ▸ hv) with ⟨f, hf, rfl⟩
    rcases List.mem_filterMap.1 hf with ⟨p, hp, hsaid⟩
    rcases Option.map_eq_some_iff.1 hsaid with ⟨message, hmessage, rfl⟩
    rcases exists_nearest_of_nestingVerdict hmessage with ⟨container, hnearest, rfl⟩
    exact ⟨p, hp, container, rfl, hnearest, rfl⟩

end MarkupAudit
