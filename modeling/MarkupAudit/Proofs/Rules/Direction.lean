import MarkupAudit.Proofs.Document.Ancestry
import MarkupAudit.Proofs.Rule.Subjects
import MarkupAudit.Rules.Languages

/-!
# Writing directions and languages

The rule asks three questions of single elements: whether one in a language written from right to
left says so itself, whether one in a language of its own inside such content gives any direction,
and whether one that runs from right to left is in such a language, its own or the nearest further
out. When nothing is found the answers fit together along the ancestors: every element with a
language has the direction that belongs to it.

Main statement: `direction_agrees_with_language`.
-/

namespace MarkupAudit

/-- The value that the element itself has for an attribute, or else the nearest ancestor with it. -/
def Place.nearestAttr? (p : Place) (name : String) : Option String :=
  (p.element.attr? name).or (p.ancestors.findSome? fun q => q.element.attr? name)

namespace Rules

/-- The value says that the text runs from right to left. -/
def SaysRightToLeft (dir : String) : Prop :=
  Element.normalized dir = "rtl"

variable {s : Settings} {d : Document} {p : Place}

/-! ## What the judgements say when they object to nothing -/

theorem runsRightToLeft_iff (e : Element) :
    runsRightToLeft e = true ↔ ∃ dir, e.attr? "dir" = some dir ∧ SaysRightToLeft dir := by
  have hname : Text.lower "dir" = "dir" := by decide
  have hvalue : Text.lower "rtl" = "rtl" := by decide
  rw [runsRightToLeft, Element.attrIs, Element.get?, hname]
  cases e.attr? "dir" with
  | none => simp
  | some dir => simp [hvalue, SaysRightToLeft]

/-- A language written from right to left is that of an element that runs so. -/
theorem exists_of_judgeOwnDirection (h : judgeOwnDirection s p = .ok none) :
    ∃ rightToLeft, Language.isRightToLeft s (p.element.attr? "lang") = .ok rightToLeft ∧
      (rightToLeft = true → runsRightToLeft p.element = true) := by
  rcases exists_of_map_eq_ok h with ⟨rightToLeft, hlanguage, hverdict⟩
  refine ⟨rightToLeft, hlanguage, ?_⟩
  rintro rfl
  simpa using hverdict

theorem isRightToLeft_of_someRightToLeft {enclosing : List Located}
    (h : someRightToLeft s enclosing = .ok false) :
    ∀ q ∈ enclosing, Language.isRightToLeft s (q.element.attr? "lang") = .ok false := by
  induction enclosing with
  | nil => simp
  | cons q outer ih =>
    rcases exists_of_bind_eq_ok h with ⟨found, hfound, hrest⟩
    cases found with
    | true => simp [pure, Except.pure] at hrest
    | false => exact List.forall_mem_cons.2 ⟨hfound, ih hrest⟩

/-- An element with a language but without a direction has no language written from right to left
around it. -/
theorem isRightToLeft_of_judgeChangedLanguage {lang : String}
    (hlang : p.element.attr? "lang" = some lang) (hdir : p.element.attr? "dir" = none)
    (h : judgeChangedLanguage s p = .ok none) :
    ∀ q ∈ p.ancestors, Language.isRightToLeft s (q.element.attr? "lang") = .ok false := by
  have hnone : p.element.hasAttr "dir" = false := by
    rw [Element.hasAttr, Keyed.contains, Option.isSome_eq_false_iff, Option.isNone_iff_eq_none]
    exact hdir
  simp only [judgeChangedLanguage, hlang, hnone] at h
  rcases exists_of_map_eq_ok h with ⟨inside, hinside, hverdict⟩
  have hfalse : inside = false := by simpa using hverdict
  exact isRightToLeft_of_someRightToLeft (hfalse ▸ hinside)

/-- What runs from right to left is in a language written so. -/
theorem isRightToLeft_of_judgeDirection (hruns : runsRightToLeft p.element = true)
    (h : judgeDirection s p = .ok none) :
    Language.isRightToLeft s (p.nearestAttr? "lang") = .ok true := by
  rw [judgeDirection, if_pos hruns] at h
  rcases exists_of_map_eq_ok h with ⟨rightToLeft, hlanguage, hverdict⟩
  cases rightToLeft with
  | true => exact hlanguage
  | false => simp at hverdict

/-- Where the rule finds nothing, none of the judgements objects to an element. -/
theorem judgements_of_directionFindings (h : directionFindings s d = .ok []) (hp : p ∈ d.places) :
    judgeOwnDirection s p = .ok none ∧ judgeChangedLanguage s p = .ok none ∧
      judgeDirection s p = .ok none := by
  rcases exists_of_bind_eq_ok h with ⟨own, hown, hrest⟩
  rcases exists_of_bind_eq_ok hrest with ⟨changed, hchanged, hrest⟩
  rcases exists_of_bind_eq_ok hrest with ⟨running, hrunning, hfindings⟩
  have hnothing : own = [] ∧ changed = [] ∧ running = [] := by
    simpa [pure, Except.pure, and_assoc] using hfindings
  rcases hnothing with ⟨rfl, rfl, rfl⟩
  exact ⟨Finding.judgeOrFail_eq_nil_iff.1 hown p hp,
    Finding.judgeOrFail_eq_nil_iff.1 hchanged p hp, Finding.judgeOrFail_eq_nil_iff.1 hrunning p hp⟩

/-! ## Along the ancestors -/

/-- What an element does not say itself it takes from an ancestor, which is an element of the
document with all that is further out around it. -/
theorem exists_of_nearestAttr? {name value : String} (hp : p ∈ d.places)
    (h : p.nearestAttr? name = some value) (hown : p.element.attr? name = none) :
    ∃ a ∈ d.places, a.located :: a.ancestors ⊆ p.ancestors ∧
      a.element.attr? name = some value := by
  rw [Place.nearestAttr?, hown, Option.none_or] at h
  rcases List.findSome?_eq_some_iff.1 h with ⟨inner, e, outer, hancestors, hvalue, -⟩
  rcases Document.exists_of_ancestors_eq hp hancestors with ⟨a, ha, rfl, rfl, -⟩
  exact ⟨a, ha, hancestors ▸ List.subset_append_right _ _, hvalue⟩

/-- A language written from right to left that an element is in is that of the element or of an
ancestor. -/
theorem exists_of_isRightToLeft (h : Language.isRightToLeft s (p.nearestAttr? "lang") = .ok true) :
    ∃ q ∈ p.located :: p.ancestors,
      Language.isRightToLeft s (q.element.attr? "lang") = .ok true := by
  rw [Place.nearestAttr?] at h
  cases hown : p.element.attr? "lang" with
  | some lang =>
    rw [hown, Option.some_or] at h
    exact ⟨p.located, List.mem_cons_self, hown.symm ▸ h⟩
  | none =>
    rw [hown, Option.none_or] at h
    cases hlang : p.ancestors.findSome? fun q => q.element.attr? "lang" with
    | none => simp [hlang, Language.isRightToLeft] at h
    | some lang =>
      rcases List.exists_of_findSome?_eq_some hlang with ⟨q, hq, hvalue⟩
      rw [hlang] at h
      exact ⟨q, List.mem_cons_of_mem _ hq, hvalue.symm ▸ h⟩

end Rules

open Rules

/-- Where the rule about directions and languages finds nothing, the two agree at every element that
has a language: the nearest direction, given by the element itself or by an ancestor, is there and
says from right to left exactly if the language is written so. -/
theorem direction_agrees_with_language {s : Settings} {d : Document}
    (hsilent : dirMatchesLang.check s d = .ok []) :
    ∀ p ∈ d.places, ∀ lang, p.element.attr? "lang" = some lang →
      ∃ rightToLeft, Language.isRightToLeft s (some lang) = .ok rightToLeft ∧
        (rightToLeft = true ↔
          ∃ dir, p.nearestAttr? "dir" = some dir ∧ SaysRightToLeft dir) := by
  intro p hp lang hlang
  rcases judgements_of_directionFindings hsilent hp with ⟨hown, hchanged, hrunning⟩
  rcases exists_of_judgeOwnDirection hown with ⟨rightToLeft, hlanguage, hruns⟩
  rw [hlang] at hlanguage
  refine ⟨rightToLeft, hlanguage, ?_, ?_⟩
  · intro htrue
    rcases (runsRightToLeft_iff _).1 (hruns htrue) with ⟨dir, hdir, hsays⟩
    exact ⟨dir, by rw [Place.nearestAttr?, hdir, Option.some_or], hsays⟩
  · rintro ⟨dir, hnearest, hsays⟩
    cases hdir : p.element.attr? "dir" with
    | some own =>
      -- The direction is the element's own, and then so is the language that it is compared with.
      have heq : own = dir := by simpa [Place.nearestAttr?, hdir] using hnearest
      have hruns' : runsRightToLeft p.element = true :=
        (runsRightToLeft_iff _).2 ⟨own, hdir, heq ▸ hsays⟩
      have htrue := isRightToLeft_of_judgeDirection hruns' hrunning
      rw [Place.nearestAttr?, hlang, Option.some_or] at htrue
      exact Except.ok.inj (hlanguage.symm.trans htrue)
    | none =>
      -- The direction is that of an ancestor. It is in a language written from right to left, which
      -- is around the element too, where its own judgement excludes it.
      rcases exists_of_nearestAttr? hp hnearest hdir with ⟨a, ha, haround, hvalue⟩
      rcases judgements_of_directionFindings hsilent ha with ⟨-, -, hrunning'⟩
      have hruns' : runsRightToLeft a.element = true :=
        (runsRightToLeft_iff _).2 ⟨dir, hvalue, hsays⟩
      rcases exists_of_isRightToLeft (isRightToLeft_of_judgeDirection hruns' hrunning') with
        ⟨q, hq, htrue⟩
      have hfalse := isRightToLeft_of_judgeChangedLanguage hlang hdir hchanged q (haround hq)
      rw [hfalse] at htrue
      cases htrue

/-- An Arabic letter with a French name in a remark below it, which takes its direction from the
remark. -/
theorem direction_agrees_with_language_letter :
    let name : Node := .element "i" (.ofList [("lang", "fr")]) [.text "Amira"]
    let letter : Node := .element "div" (.ofList [("lang", "AR_eg"), ("dir", " RTL")]) []
    let d : Document := .ofNodes "" [letter, .element "p" (.ofList [("dir", "auto")]) [name]]
    dirMatchesLang.check .packaged d = .ok [] ∧
      (∃ p ∈ d.places, p.element.attr? "lang" = some "AR_eg" ∧
        ∃ dir, p.nearestAttr? "dir" = some dir ∧ SaysRightToLeft dir) ∧
      ∃ p ∈ d.places, p.element.attr? "lang" = some "fr" ∧ p.nearestAttr? "dir" = some "auto" ∧
        Language.isRightToLeft .packaged (some "fr") = .ok false := by
  intro name letter d
  have hlength : ((dirMatchesLang.check .packaged d).map List.length).toOption = some 0 := by
    decide +kernel
  have hsilent : dirMatchesLang.check .packaged d = .ok [] := by
    cases hcheck : dirMatchesLang.check .packaged d with
    | error fault => simp [hcheck, Except.map, Except.toOption] at hlength
    | ok findings => simpa [hcheck, Except.map, Except.toOption] using hlength
  have hagrees := direction_agrees_with_language hsilent
  refine ⟨hsilent, ?_, ?_⟩
  · have harabic : Language.isRightToLeft .packaged (some "AR_eg") = .ok true := by decide +kernel
    refine ⟨_, List.mem_cons_self, rfl, ?_⟩
    rcases hagrees _ List.mem_cons_self "AR_eg" rfl with ⟨rightToLeft, hlanguage, hdirection⟩
    exact hdirection.1 (Except.ok.inj (hlanguage.symm.trans harabic))
  · have hmem : _ ∈ d.places := List.mem_cons_of_mem _ (List.mem_cons_of_mem _ List.mem_cons_self)
    refine ⟨_, hmem, rfl, rfl, ?_⟩
    rcases hagrees _ hmem "fr" rfl with ⟨rightToLeft, hlanguage, hdirection⟩
    cases rightToLeft with
    | false => exact hlanguage
    | true =>
      rcases hdirection.1 rfl with ⟨dir, hnearest, hsays⟩
      cases hnearest
      have hauto : ¬ SaysRightToLeft "auto" := by
        rw [SaysRightToLeft]
        decide +kernel
      exact absurd hsays hauto

end MarkupAudit
