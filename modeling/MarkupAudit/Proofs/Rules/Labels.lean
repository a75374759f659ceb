import MarkupAudit.Proofs.Rule.Order
import MarkupAudit.Rules.Fields

/-!
# Placeholders and labels

One rule objects to fields that show a placeholder for want of a label, another one to fields
without a label. The first lets a blank name and a label for a blank target pass, the second does
not, and the second knows inputs that need no label. Apart from these inputs it therefore objects to
all that the first one objects to, and what it finds beyond that is due to blank texts.

Main statement: `label_rules_agree`.
-/

namespace MarkupAudit

namespace Element

variable {e : Element} {name : String}

theorem hasAttr_iff : e.hasAttr name = true ↔ ∃ value, e.attr? name = some value :=
  Option.isSome_iff_exists

theorem hasAttr_eq_false_iff : e.hasAttr name = false ↔ e.attr? name = none :=
  Option.isSome_eq_false_iff.trans Option.isNone_iff_eq_none

theorem hasAccessibleName_eq_false_iff :
    e.hasAccessibleName = false ↔
      ∀ name ∈ namingAttributes, ∀ value, e.attr? name = some value →
        Text.isBlankText value = true := by
  rw [hasAccessibleName, List.any_eq_false]
  refine forall₂_congr fun name _ => ?_
  cases e.attr? name <;> simp [isBlankValue]

end Element

namespace Rules

variable {d : Document} {p : Place}

/-! ## Targets of labels -/

/-- The targets that the rule about missing labels goes by. -/
def filledTargets (d : Document) : List String :=
  (labelTargets d).filter fun target => !Text.isBlankText target

theorem mem_labelTargets_iff {target : String} :
    target ∈ labelTargets d ↔
      ∃ label ∈ d.places, label.element.tag = "label" ∧
        label.element.attr? "for" = some target := by
  simp [labelTargets, Document.placesOf, and_assoc]

theorem isLabelled_iff {targets : List String} :
    isLabelled targets p = true ↔
      (∃ id ∈ targets, id ≠ "" ∧ p.element.attr? "id" = some id) ∨
        p.isInside ["label"] = true := by
  rw [isLabelled, Bool.or_eq_true]
  refine or_congr_left ?_
  cases p.element.attr? "id" with
  | none => simp
  | some id =>
    simp only [Bool.and_eq_true, bne_iff_ne, List.contains_iff_mem, Option.some.injEq]
    constructor
    · rintro ⟨hfilled, htarget⟩
      exact ⟨id, htarget, hfilled, rfl⟩
    · rintro ⟨_, htarget, hfilled, rfl⟩
      exact ⟨hfilled, htarget⟩

/-- More targets label more places. -/
theorem isLabelled_mono {targets more : List String} (hmore : targets ⊆ more)
    (h : isLabelled targets p = true) : isLabelled more p = true := by
  refine isLabelled_iff.2 ((isLabelled_iff.1 h).imp_left ?_)
  rintro ⟨id, htarget, hid⟩
  exact ⟨id, hmore htarget, hid⟩

/-- A label names the place by an identifier that is blank but not empty. -/
def IsNamedByBlank (d : Document) (p : Place) : Prop :=
  ∃ id, p.element.attr? "id" = some id ∧ id ≠ "" ∧ Text.isBlankText id = true ∧
    ∃ label ∈ d.places, label.element.tag = "label" ∧ label.element.attr? "for" = some id

/-- What all targets label and those that are not blank do not is labelled by a blank one. -/
theorem isNamedByBlank_iff (hfilled : isLabelled (filledTargets d) p = false) :
    isLabelled (labelTargets d) p = true ↔ IsNamedByBlank d p := by
  have hnot : ¬ isLabelled (filledTargets d) p = true := by simp [hfilled]
  rw [isLabelled_iff, not_or] at hnot
  rcases hnot with ⟨hnone, houtside⟩
  constructor
  · intro hlabelled
    rcases isLabelled_iff.1 hlabelled with ⟨id, htarget, hne, hid⟩ | hinside
    · -- A target that is not blank would have labelled the place already.
      have hblank : Text.isBlankText id = true := by
        by_contra hword
        exact hnone ⟨id, List.mem_filter.2 ⟨htarget, by simpa using hword⟩, hne, hid⟩
      exact ⟨id, hid, hne, hblank, mem_labelTargets_iff.1 htarget⟩
    · exact absurd hinside houtside
  · rintro ⟨id, hid, hne, -, hlabel⟩
    exact isLabelled_iff.2 (Or.inl ⟨id, mem_labelTargets_iff.2 hlabel, hne, hid⟩)

/-! ## What the rules object to -/

/-- An input of a type that needs no label. -/
def IsExempt (p : Place) : Prop :=
  p.element.tag = "input" ∧ p.element.inputType ∈ unlabelledTypes

/-- The field shows a placeholder and has nothing that may be taken for a label. -/
@[mk_iff]
structure RestsOnPlaceholder (d : Document) (p : Place) : Prop where
  field : p.element.tag ∈ ["input", "textarea"]
  shown : p.element.hasAttr "placeholder" = true
  unnamed : ∀ name ∈ Element.namingAttributes, p.element.hasAttr name = false
  unlabelled : isLabelled (labelTargets d) p = false

/-- The field needs a label and has none, blank ones apart. -/
@[mk_iff]
structure LacksLabel (d : Document) (p : Place) : Prop where
  field : p.element.tag ∈ labelableFields
  needed : ¬ IsExempt p
  unnamed : p.element.hasAccessibleName = false
  unlabelled : isLabelled (filledTargets d) p = false

theorem RestsOnPlaceholder.lacksLabel_iff_not_isExempt (h : RestsOnPlaceholder d p) :
    LacksLabel d p ↔ ¬ IsExempt p := by
  have hfields : ["input", "textarea"] ⊆ labelableFields := by decide
  -- Attributes that are absent have no blank values either.
  have hunnamed : p.element.hasAccessibleName = false := by
    refine Element.hasAccessibleName_eq_false_iff.2 fun name hname value hvalue => ?_
    have habsent := Element.hasAttr_eq_false_iff.1 (h.unnamed name hname)
    exact absurd (habsent.symm.trans hvalue) nofun
  have hunlabelled : isLabelled (filledTargets d) p = false := by
    by_contra hlabelled
    have hmore : isLabelled (labelTargets d) p = true :=
      isLabelled_mono (List.filter_subset_self _) (Bool.eq_true_of_not_eq_false hlabelled)
    simp [h.unlabelled] at hmore
  exact ⟨LacksLabel.needed, fun hneeded => ⟨hfields h.field, hneeded, hunnamed, hunlabelled⟩⟩

theorem LacksLabel.restsOnPlaceholder_iff_not_named (h : LacksLabel d p)
    (hfield : p.element.tag ∈ ["input", "textarea"])
    (hshown : p.element.hasAttr "placeholder" = true) :
    RestsOnPlaceholder d p ↔
      ¬ ((∃ name ∈ Element.namingAttributes, p.element.hasAttr name = true) ∨
        IsNamedByBlank d p) := by
  rw [← isNamedByBlank_iff h.unlabelled, not_or]
  constructor
  · intro hrests
    refine ⟨?_, by simp [hrests.unlabelled]⟩
    rintro ⟨name, hname, hpresent⟩
    simp [hrests.unnamed name hname] at hpresent
  · rintro ⟨hunnamed, hunlabelled⟩
    refine ⟨hfield, hshown, fun name hname => ?_, by simpa using hunlabelled⟩
    by_contra hpresent
    exact hunnamed ⟨name, hname, by simpa using hpresent⟩

/-! ## The rules -/

theorem exists_run_noPlaceholderAsLabel (s : Settings) (d : Document) :
    ∃ result, noPlaceholderAsLabel.run s d = .ok result ∧
      ∀ p, p ∈ result.places ↔ p ∈ d.places ∧ RestsOnPlaceholder d p := by
  rcases Rule.exists_run_onTags (Rule.hasPlainHeader_of_ofList rfl (by decide +kernel))
    (rfl : noPlaceholderAsLabel.check s d = .ok (Rule.onTags _ _ d)) with ⟨result, hrun, hplaces⟩
  refine ⟨result, hrun, fun p => (hplaces p).trans (and_congr_right fun _ => ?_)⟩
  rw [restsOnPlaceholder_iff, Element.hasAttr_iff]
  refine and_congr_right fun _ => ?_
  cases p.element.attr? "placeholder" with
  | none => simp
  | some placeholder => simp

theorem exists_run_formFieldsHaveLabel (s : Settings) (d : Document) :
    ∃ result, formFieldsHaveLabel.run s d = .ok result ∧
      ∀ p, p ∈ result.places ↔ p ∈ d.places ∧ LacksLabel d p := by
  rcases Rule.exists_run_onTags (Rule.hasPlainHeader_of_ofList rfl (by decide +kernel))
    (rfl : formFieldsHaveLabel.check s d = .ok (Rule.onTags _ _ d)) with ⟨result, hrun, hplaces⟩
  refine ⟨result, hrun, fun p => (hplaces p).trans (and_congr_right fun _ => ?_)⟩
  rw [lacksLabel_iff]
  refine and_congr_right fun _ => ?_
  simp [IsExempt, filledTargets, and_assoc]

end Rules

open Rules

/-- The rules about placeholders and about missing labels always give results. What the first one
tells of the second one tells of too, unless it is an input of a type that needs no label. Of the
inputs and text areas with a placeholder that the second one tells of, none has a naming attribute
that is not blank, and those that the first one does not tell of are those that have a naming
attribute at all or that a label names by a blank identifier. -/
theorem label_rules_agree (s : Settings) (d : Document) :
    ∃ byPlaceholder byLabel, noPlaceholderAsLabel.run s d = .ok byPlaceholder ∧
      formFieldsHaveLabel.run s d = .ok byLabel ∧
      (∀ p ∈ byPlaceholder.places, p ∈ byLabel.places ↔ ¬ IsExempt p) ∧
      ∀ p ∈ byLabel.places, p.element.tag ∈ ["input", "textarea"] →
        p.element.hasAttr "placeholder" = true →
          (∀ name ∈ Element.namingAttributes, ∀ value, p.element.attr? name = some value →
            Text.isBlankText value = true) ∧
          (p ∉ byPlaceholder.places ↔
            (∃ name ∈ Element.namingAttributes, p.element.hasAttr name = true) ∨
              IsNamedByBlank d p) := by
  rcases exists_run_noPlaceholderAsLabel s d with ⟨byPlaceholder, hplaceholders, htold⟩
  rcases exists_run_formFieldsHaveLabel s d with ⟨byLabel, hlabels, htold'⟩
  refine ⟨byPlaceholder, byLabel, hplaceholders, hlabels, ?_, ?_⟩
  · intro p hp
    rcases (htold p).1 hp with ⟨hplace, hrests⟩
    rw [htold', and_iff_right hplace, hrests.lacksLabel_iff_not_isExempt]
  · intro p hp hfield hshown
    rcases (htold' p).1 hp with ⟨hplace, hlacks⟩
    refine ⟨Element.hasAccessibleName_eq_false_iff.1 hlacks.unnamed, ?_⟩
    rw [htold, and_iff_right hplace, hlacks.restsOnPlaceholder_iff_not_named hfield hshown,
      not_not]

/-- An input without anything else, one that needs no label, one with a blank title and one that a
label names by a blank. -/
theorem label_rules_agree_form :
    ∃ (d : Document) (byPlaceholder byLabel : RuleResult),
      noPlaceholderAsLabel.run .packaged d = .ok byPlaceholder ∧
      formFieldsHaveLabel.run .packaged d = .ok byLabel ∧
      byPlaceholder.positions = [1, 2] ∧ byLabel.positions = [1, 3, 4] ∧
      (∀ p ∈ byPlaceholder.places, p ∈ byLabel.places ↔ ¬ IsExempt p) := by
  let d : Document :=
    .ofNodes "" [.element "input" (.ofList [("placeholder", "Name")]) [],
      .element "input" (.ofList [("type", " Button"), ("placeholder", "Go")]) [],
      .element "textarea" (.ofList [("placeholder", "Text"), ("title", " ")]) [],
      .element "input" (.ofList [("id", " "), ("placeholder", "Place")]) [],
      .element "label" (.ofList [("for", " ")]) []]
  rcases label_rules_agree .packaged d with ⟨byPlaceholder, byLabel, hplaceholders, hlabels, h, -⟩
  refine ⟨d, byPlaceholder, byLabel, hplaceholders, hlabels, ?_, ?_, h⟩
  · exact eq_of_map_eq_ok hplaceholders (by decide +kernel)
  · exact eq_of_map_eq_ok hlabels (by decide +kernel)

end MarkupAudit
