import MarkupAudit.Proofs.Rule.Subjects
import MarkupAudit.Proofs.Document.Siblings
import MarkupAudit.Rules.Tables
import Mathlib.Logic.Basic

/-!
# What elements open with

A field set opens with its legend, a disclosure with its summary and a table of data with its
caption. Each rule goes twice through the elements that it is about: once to object to a first child
with another tag, and once to object to children that have the tag but are not the first. The two
together ask for one thing, which can be read off the tags of the children: if there are any, the
expected one is the first and occurs once.

Main statement: `first_child_rules_share_one_law`.
-/

namespace MarkupAudit

/-! ## The tags of the children -/

namespace Element

/-- The tags of the element children, in order. Texts between them do not count. -/
def childTags (e : Element) : List String :=
  e.children.filterMap fun node => node.element?.map (·.tag)

/-- The element has no element children, or exactly one with the tag, which is the first of all. -/
def OpensWith (tag : String) (e : Element) : Prop :=
  e.childTags = [] ∨ e.childTags.count tag = 1 ∧ e.childTags.head? = some tag

instance (tag : String) (e : Element) : Decidable (e.OpensWith tag) :=
  inferInstanceAs (Decidable (_ ∨ _ ∧ _))

-- A text in front of the legend does not count.
example : OpensWith "legend" ⟨"fieldset", .empty,
    [.text "Colour", .element "legend" .empty [], .element "p" .empty []]⟩ := by
  decide

end Element

theorem Node.map_tag_topPlaces (enclosing : List Located) (position : Nat) (nodes : List Node) :
    (topPlaces enclosing position nodes).map (·.element.tag) =
      nodes.filterMap fun node => node.element?.map (·.tag) := by
  induction nodes generalizing position with
  | nil => rfl
  | cons node rest ih =>
    cases node with
    | text content => exact ih position
    | element tag attributes children => exact congrArg (tag :: ·) (ih _)

theorem Place.map_tag_children (p : Place) :
    p.children.map (·.element.tag) = p.element.childTags :=
  Node.map_tag_topPlaces _ _ _

namespace Rules

variable {tag : String} {parent : Place}

/-! ## The two passes -/

/-- The first element child, if there is one, has the tag. -/
def StartsWith (tag : String) (parent : Place) : Prop :=
  ∀ first, parent.firstChild? = some first → first.element.tag = tag

/-- The children with the tag that are told to be misplaced. -/
def misplacedWith (tag : String) (parent : Place) : List Place :=
  parent.children.filter fun child => child.element.tag == tag && !isFirstChildOf child parent

theorem isFirstChildOf_head {first : Place} {rest : List Place}
    (hchildren : parent.children = first :: rest) : isFirstChildOf first parent = true := by
  simp [isFirstChildOf, Place.firstChild?, hchildren, Place.same]

theorem not_isFirstChildOf_tail {first child : Place} {rest : List Place}
    (hchildren : parent.children = first :: rest) (hchild : child ∈ rest) :
    isFirstChildOf child parent = false := by
  have hordered := parent.pairwise_children
  rw [hchildren] at hordered
  have hbehind : first.position < child.position := List.rel_of_pairwise_cons hordered hchild
  have hne : child.position ≠ first.position := Nat.ne_of_gt hbehind
  simpa [isFirstChildOf, Place.firstChild?, hchildren, Place.same] using hne

/-- The children that are misplaced are those with the tag behind the first child. -/
theorem misplacedWith_eq (tag : String) (parent : Place) :
    misplacedWith tag parent =
      parent.children.tail.filter fun child => child.element.tag == tag := by
  rw [misplacedWith]
  cases hchildren : parent.children with
  | nil => rfl
  | cons first rest =>
    rw [List.filter_cons_of_neg (by simp [isFirstChildOf_head hchildren]), List.tail_cons]
    refine List.filter_congr fun child hchild => ?_
    simp [not_isFirstChildOf_tail hchildren hchild]

/-- What the two passes ask for together. -/
theorem opensWith_iff (tag : String) (parent : Place) :
    parent.element.OpensWith tag ↔ StartsWith tag parent ∧ misplacedWith tag parent = [] := by
  rw [misplacedWith_eq, Element.OpensWith, ← Place.map_tag_children, StartsWith, Place.firstChild?]
  cases parent.children with
  | nil => simp
  | cons first rest =>
    have hcount : (rest.map (·.element.tag)).count tag = 0 ↔
        (rest.filter fun child => child.element.tag == tag) = [] := by
      rw [List.count_eq_zero, List.filter_eq_nil_iff]
      simp
    -- The count of the tag among all children is one more than that behind the first, or it does
    -- not matter because the first child is another one.
    by_cases hfirst : first.element.tag = tag
    · simp [hfirst, hcount]
    · simp [hfirst]

/-- Two passes over some elements find nothing exactly if all of them open as expected. -/
theorem passes_eq_nil_iff {missing? : Place → Option Finding} {misplaced : Place → List Finding}
    (hmissing : ∀ p, missing? p = none ↔ StartsWith tag p)
    (hmisplaced : ∀ p, misplaced p = [] ↔ misplacedWith tag p = []) (ps : List Place) :
    ps.filterMap missing? = [] ∧ ps.flatMap misplaced = [] ↔
      ∀ p ∈ ps, p.element.OpensWith tag := by
  simp only [List.filterMap_eq_nil_iff, List.flatMap_eq_nil_iff, hmissing, hmisplaced,
    opensWith_iff, forall₂_and]

/-! ## The rules -/

theorem otherFirstChild?_eq_none_iff (container expected : String) (parent : Place) :
    otherFirstChild? container expected parent = none ↔ StartsWith expected parent := by
  rw [otherFirstChild?, StartsWith]
  cases parent.firstChild? with
  | none => simp
  | some first => simp

theorem misplacedChildren_eq_nil_iff (container expected : String) (parent : Place) :
    misplacedChildren container expected parent = [] ↔ misplacedWith expected parent = [] :=
  List.map_eq_nil_iff

theorem firstChildFindings_eq_nil_iff (container expected : String) (d : Document) :
    firstChildFindings container expected d = [] ↔
      ∀ p ∈ d.places, p.element.tag = container → p.element.OpensWith expected := by
  rw [firstChildFindings, List.append_eq_nil_iff,
    passes_eq_nil_iff (otherFirstChild?_eq_none_iff container expected)
      (misplacedChildren_eq_nil_iff container expected)]
  simp [Document.placesOf]

theorem missingCaption?_eq_none_iff (table : Place) :
    missingCaption? table = none ↔ StartsWith "caption" table := by
  rw [missingCaption?, StartsWith]
  cases table.firstChild? with
  | none => simp
  | some first => simp

theorem misplacedCaptions_eq_nil_iff (table : Place) :
    misplacedCaptions table = [] ↔ misplacedWith "caption" table = [] :=
  List.map_eq_nil_iff

theorem isPresentation_iff (e : Element) :
    e.isPresentation = true ↔ e.normalizedAttr "role" = "presentation" := by
  have hname : Text.lower "role" = "role" := by decide
  have hvalue : Text.lower "presentation" = "presentation" := by decide
  rw [Element.isPresentation, Element.attrIs, Element.get?, hname, Element.normalizedAttr]
  cases e.attr? "role" with
  | none =>
    have hnothing : Element.normalized "" ≠ "presentation" := by decide
    simp [hnothing]
  | some role => simp [hvalue]

theorem mem_dataTables_iff (d : Document) (p : Place) :
    p ∈ dataTables d ↔ p ∈ d.places ∧ p.element.tag = "table" ∧
      p.element.normalizedAttr "role" ≠ "presentation" := by
  simp only [dataTables, Document.placesOf, List.mem_filter, Bool.not_eq_true', ne_eq,
    ← isPresentation_iff, Bool.not_eq_true]
  simp [and_assoc]

theorem captionFindings_eq_nil_iff (d : Document) :
    (dataTables d).flatMap misplacedCaptions ++ (dataTables d).filterMap missingCaption? = [] ↔
      ∀ p ∈ d.places, p.element.tag = "table" →
        p.element.normalizedAttr "role" ≠ "presentation" → p.element.OpensWith "caption" := by
  rw [List.append_eq_nil_iff, and_comm,
    passes_eq_nil_iff missingCaption?_eq_none_iff misplacedCaptions_eq_nil_iff]
  simp only [mem_dataTables_iff, and_imp]

end Rules

open Rules

/-- The rules about the first children of field sets, disclosures and tables always give a result,
and each is satisfied exactly if all elements that it is about open as expected: those without
element children, and those that have exactly one legend, summary or caption, as their first element
child. The tables that it is about are those whose role is not that of a presentation. -/
theorem first_child_rules_share_one_law (s : Settings) (d : Document) :
    (∃ result, legendIsFirstChild.run s d = .ok result ∧
      (result.passed = true ↔
        ∀ p ∈ d.places, p.element.tag = "fieldset" → p.element.OpensWith "legend")) ∧
    (∃ result, summaryIsFirstChild.run s d = .ok result ∧
      (result.passed = true ↔
        ∀ p ∈ d.places, p.element.tag = "details" → p.element.OpensWith "summary")) ∧
    ∃ result, tablesHaveCaption.run s d = .ok result ∧
      (result.passed = true ↔
        ∀ p ∈ d.places, p.element.tag = "table" →
          p.element.normalizedAttr "role" ≠ "presentation" → p.element.OpensWith "caption") := by
  refine ⟨?_, ?_, ?_⟩
  · rw [← firstChildFindings_eq_nil_iff "fieldset" "legend" d]
    exact Rule.exists_run_passed_iff (Rule.hasPlainHeader_of_ofList rfl (by decide +kernel)) rfl
  · rw [← firstChildFindings_eq_nil_iff "details" "summary" d]
    exact Rule.exists_run_passed_iff (Rule.hasPlainHeader_of_ofList rfl (by decide +kernel)) rfl
  · rw [← captionFindings_eq_nil_iff d]
    exact Rule.exists_run_passed_iff (Rule.hasPlainHeader_of_none rfl) rfl

end MarkupAudit
