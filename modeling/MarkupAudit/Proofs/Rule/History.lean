import MarkupAudit.Rule.Registry
import Mathlib.Data.List.Nodup

/-!
# What a registry keeps of all that was registered

Rules that were registered one after another, group after group, are a history. Whatever it is, the
registry keeps of each name the first rule that has it, and keeps these rules in the order of the
history. One rule is one step of the history; opening a category is none.

Main statements: `Registry.rules_ofGroups`, and `Registry.keeps_first_of_each_name`, which says what
can be read off a registry.
-/

namespace MarkupAudit

/-! ## The first rule of each name -/

namespace Rule

/-- The rules whose names do not occur before them, in order. -/
def firstNamed : List Rule → List Rule
  | [] => []
  | rule :: rest => rule :: (firstNamed rest).filter fun other => other.name != rule.name

theorem firstNamed_eq_self {rules : List Rule} (hdistinct : (rules.map Rule.name).Nodup) :
    firstNamed rules = rules := by
  induction rules with
  | nil => rfl
  | cons rule rest ih =>
    rcases List.nodup_cons.1 hdistinct with ⟨hfresh, hrest⟩
    have hall : ∀ other ∈ rest, (other.name != rule.name) = true := by
      intro other hother
      simpa using fun heq : other.name = rule.name => hfresh (heq ▸ List.mem_map_of_mem hother)
    rw [firstNamed, ih hrest, List.filter_eq_self.2 hall]

/-- Under each name, the first rule is found. -/
theorem find?_firstNamed (name : String) (rules : List Rule) :
    ((firstNamed rules).find? fun rule => rule.name == name) =
      rules.find? fun rule => rule.name == name := by
  induction rules with
  | nil => rfl
  | cons rule rest ih =>
    by_cases hname : rule.name = name
    · simp [firstNamed, hname]
    · have hfirst : (rule.name == name) = false := by simpa using hname
      -- What is left out has the name of the first rule, so it is not what is looked for.
      have hpass : ∀ other : Rule, decide ((other.name != rule.name) = true ∧
          (other.name == name) = true) = (other.name == name) := by
        intro other
        by_cases hother : other.name = name
        · simp [hother, Ne.symm hname]
        · simp [hother]
      rw [firstNamed, List.find?_cons, List.find?_cons, hfirst, List.find?_filter]
      simp only [hpass, ih]

theorem mem_names_firstNamed {name : String} {rules : List Rule} :
    name ∈ (firstNamed rules).map Rule.name ↔ name ∈ rules.map Rule.name := by
  have hfound : ∀ list : List Rule,
      name ∈ list.map Rule.name ↔ (list.find? fun rule => rule.name == name).isSome = true := by
    intro list
    rw [List.find?_isSome, List.mem_map]
    simp
  rw [hfound, hfound, find?_firstNamed]

/-- One more rule is kept unless its name occurs before it. -/
theorem firstNamed_append_singleton (rules : List Rule) (rule : Rule) :
    firstNamed (rules ++ [rule]) =
      if rule.name ∈ rules.map Rule.name then firstNamed rules else firstNamed rules ++ [rule] := by
  induction rules with
  | nil => simp [firstNamed]
  | cons first rest ih =>
    rw [List.cons_append, firstNamed, ih, firstNamed]
    by_cases hfirst : rule.name = first.name
    · split_ifs <;> simp_all
    · by_cases hrest : rule.name ∈ rest.map Rule.name
      · simp only [hrest, if_true, List.map_cons, List.mem_cons, or_true]
      · simp [hrest, hfirst]

end Rule

namespace Registry

open Rule

/-! ## One step -/

section

variable {registry : Registry} {history : List Rule}

theorem byName_openCategory (registry : Registry) (category : Category) :
    (registry.openCategory category).byName = registry.byName := by
  unfold openCategory
  split <;> rfl

theorem register_of_known {rule : Rule} (hknown : registry.knows rule.name = true) :
    registry.register rule = registry :=
  dif_pos hknown

theorem register_of_fresh {rule : Rule} (hfresh : ¬ registry.knows rule.name = true) :
    registry.register rule = registry.add rule hfresh :=
  dif_neg hfresh

theorem rules_register (registry : Registry) (rule : Rule) :
    (registry.register rule).rules =
      if registry.knows rule.name then registry.rules else registry.rules ++ [rule] := by
  by_cases hknown : registry.knows rule.name = true
  · rw [register_of_known hknown, if_pos hknown]
  · rw [register_of_fresh hknown, if_neg hknown, rules, rules, Keyed.values, add,
      Keyed.entries_set_of_absent rule hknown, Keyed.values, List.map_append]
    rfl

/-- A registry that keeps of a history the first rule of each name does so when one more rule is
registered. -/
theorem rules_register_of_eq (h : registry.rules = firstNamed history) (rule : Rule) :
    (registry.register rule).rules = firstNamed (history ++ [rule]) := by
  have hknown : registry.knows rule.name = true ↔ rule.name ∈ history.map Rule.name := by
    rw [knows_iff, h, mem_names_firstNamed]
  rw [rules_register, firstNamed_append_singleton, h]
  exact if_congr hknown rfl rfl

end

/-! ## Whole histories -/

theorem rules_foldl_register {registry : Registry} {history : List Rule}
    (h : registry.rules = firstNamed history) (rules : List Rule) :
    (rules.foldl register registry).rules = firstNamed (history ++ rules) := by
  induction rules generalizing registry history with
  | nil => simpa using h
  | cons rule rest ih => simpa using ih (rules_register_of_eq h rule)

theorem rules_registerGroup {registry : Registry} {history : List Rule}
    (h : registry.rules = firstNamed history) (group : RuleGroup) :
    (registry.registerGroup group).rules = firstNamed (history ++ group.rules) := by
  refine rules_foldl_register ?_ group.rules
  rw [rules, byName_openCategory]
  exact h

theorem rules_foldl_registerGroup {registry : Registry} {history : List Rule}
    (h : registry.rules = firstNamed history) (groups : List RuleGroup) :
    (groups.foldl registerGroup registry).rules =
      firstNamed (history ++ groups.flatMap RuleGroup.rules) := by
  induction groups generalizing registry history with
  | nil => simpa using h
  | cons group rest ih => simpa using ih (rules_registerGroup h group)

/-- A registry made of groups keeps of all their rules the first of each name. -/
theorem rules_ofGroups (groups : List RuleGroup) :
    (ofGroups groups).rules = firstNamed (groups.flatMap RuleGroup.rules) := by
  have hempty : empty.rules = firstNamed [] := rfl
  exact rules_foldl_registerGroup hempty groups

/-! ## Registering a group again -/

/-- Nothing of the group is new to the registry. -/
structure Includes (registry : Registry) (group : RuleGroup) : Prop where
  category : registry.byCategory.contains group.category = true
  names : ∀ rule ∈ group.rules, registry.knows rule.name = true

/-- What is known to one registry is known to the other. -/
structure Extends (registry' registry : Registry) : Prop where
  categories : ∀ category, registry.byCategory.contains category = true →
    registry'.byCategory.contains category = true
  names : ∀ name, registry.knows name = true → registry'.knows name = true

section

variable {registry registry' registry'' : Registry}

theorem Extends.refl (registry : Registry) : registry.Extends registry :=
  ⟨fun _ h => h, fun _ h => h⟩

theorem Extends.trans (h : registry''.Extends registry') (h' : registry'.Extends registry) :
    registry''.Extends registry :=
  ⟨fun category hc => h.categories category (h'.categories category hc),
    fun name hn => h.names name (h'.names name hn)⟩

theorem Includes.mono {group : RuleGroup} (h : registry.Includes group)
    (hextends : registry'.Extends registry) : registry'.Includes group :=
  ⟨hextends.categories _ h.category, fun rule hrule => hextends.names _ (h.names rule hrule)⟩

theorem extends_openCategory (registry : Registry) (category : Category) :
    (registry.openCategory category).Extends registry ∧
      (registry.openCategory category).byCategory.contains category = true := by
  unfold openCategory
  split
  · next hknown => exact ⟨.refl registry, hknown⟩
  · exact ⟨⟨fun _ hc => Keyed.contains_set_of_contains hc, fun _ hn => hn⟩,
      Keyed.contains_set_self _ _ _⟩

theorem extends_register (registry : Registry) (rule : Rule) :
    (registry.register rule).Extends registry ∧
      (registry.register rule).knows rule.name = true := by
  by_cases hknown : registry.knows rule.name = true
  · rw [register_of_known hknown]
    exact ⟨.refl registry, hknown⟩
  · rw [register_of_fresh hknown]
    exact ⟨⟨fun _ hc => Keyed.contains_set_of_contains hc,
      fun _ hn => Keyed.contains_set_of_contains hn⟩, Keyed.contains_set_self _ _ _⟩

theorem extends_foldl_register (registry : Registry) (rules : List Rule) :
    (rules.foldl register registry).Extends registry ∧
      ∀ rule ∈ rules, (rules.foldl register registry).knows rule.name = true := by
  induction rules generalizing registry with
  | nil => exact ⟨.refl registry, by simp⟩
  | cons rule rest ih =>
    rcases extends_register registry rule with ⟨hstep, hrule⟩
    rcases ih (registry.register rule) with ⟨hextends, hrest⟩
    exact ⟨hextends.trans hstep, List.forall_mem_cons.2 ⟨hextends.names _ hrule, hrest⟩⟩

theorem extends_registerGroup (registry : Registry) (group : RuleGroup) :
    (registry.registerGroup group).Extends registry ∧
      (registry.registerGroup group).Includes group := by
  rcases extends_openCategory registry group.category with ⟨hopen, hcategory⟩
  rcases extends_foldl_register (registry.openCategory group.category) group.rules with
    ⟨hextends, hnames⟩
  exact ⟨hextends.trans hopen, hextends.categories _ hcategory, hnames⟩

/-- Every group that was registered is included from then on. -/
theorem includes_foldl_registerGroup (registry : Registry) (groups : List RuleGroup) :
    (groups.foldl registerGroup registry).Extends registry ∧
      ∀ group ∈ groups, (groups.foldl registerGroup registry).Includes group := by
  induction groups generalizing registry with
  | nil => exact ⟨.refl registry, by simp⟩
  | cons group rest ih =>
    rcases extends_registerGroup registry group with ⟨hstep, hgroup⟩
    rcases ih (registry.registerGroup group) with ⟨hextends, hrest⟩
    exact ⟨hextends.trans hstep, List.forall_mem_cons.2 ⟨hgroup.mono hextends, hrest⟩⟩

theorem foldl_register_of_known {rules : List Rule}
    (hknown : ∀ rule ∈ rules, registry.knows rule.name = true) :
    rules.foldl register registry = registry := by
  induction rules with
  | nil => rfl
  | cons rule rest ih =>
    rcases List.forall_mem_cons.1 hknown with ⟨hrule, hrest⟩
    rw [List.foldl_cons, register_of_known hrule, ih hrest]

theorem registerGroup_of_includes {group : RuleGroup} (h : registry.Includes group) :
    registry.registerGroup group = registry := by
  have hopen : registry.openCategory group.category = registry := dif_pos h.category
  rw [registerGroup, hopen, foldl_register_of_known h.names]

end

/-! ## What can be read off a registry -/

theorem find?_eq_find?_rules (registry : Registry) (name : String) :
    registry.find? name = registry.rules.find? fun rule => rule.name == name := by
  cases hfound : registry.rules.find? fun rule => rule.name == name with
  | none =>
    have habsent : registry.knows name = false := by
      rw [Bool.eq_false_iff, ne_eq, knows_iff, List.mem_map]
      rintro ⟨rule, hrule, hname⟩
      exact List.find?_eq_none.1 hfound rule hrule (by simpa using hname)
    simpa [knows, Keyed.contains, find?] using habsent
  | some rule =>
    have hname : rule.name = name := by simpa using List.find?_some hfound
    exact hname ▸ find?_of_mem (List.mem_of_find?_eq_some hfound)

theorem find?_ofGroups (groups : List RuleGroup) (name : String) :
    (ofGroups groups).find? name =
      (groups.flatMap RuleGroup.rules).find? fun rule => rule.name == name := by
  rw [find?_eq_find?_rules, rules_ofGroups, find?_firstNamed]

/-- Names tell the rules of a registry apart. -/
theorem eq_of_name_eq {registry : Registry} {a b : Rule} (ha : a ∈ registry.rules)
    (hb : b ∈ registry.rules) (hname : a.name = b.name) : a = b := by
  have hfirst : registry.find? a.name = some a := find?_of_mem ha
  have hsecond : registry.find? b.name = some b := find?_of_mem hb
  rw [hname, hsecond] at hfirst
  exact (Option.some.inj hfirst).symm

theorem mem_ofCategories {registry : Registry} {rule : Rule} {categories : List Category} :
    rule ∈ registry.ofCategories categories ↔
      rule ∈ registry.rules ∧ rule.category ∈ categories := by
  simp only [ofCategories, ofCategory_eq_filter, List.mem_flatMap, List.mem_filter, beq_iff_eq]
  constructor
  · rintro ⟨category, hcategory, hrule, rfl⟩
    exact ⟨hrule, hcategory⟩
  · rintro ⟨hrule, hcategory⟩
    exact ⟨rule.category, hcategory, hrule, rfl⟩

theorem ofCategories_filter (registry : Registry) (keep : Category → Bool)
    (categories : List Category) :
    registry.ofCategories (categories.filter keep) =
      (registry.ofCategories categories).filter fun rule => keep rule.category := by
  have hone : ∀ category, (registry.ofCategory category).filter (fun rule => keep rule.category) =
      if keep category then registry.ofCategory category else [] := by
    intro category
    have hsame : ∀ rule ∈ registry.ofCategory category, keep rule.category = keep category := by
      intro rule hrule
      rw [ofCategory_eq_filter] at hrule
      rw [eq_of_beq (List.mem_filter.1 hrule).2]
    rw [List.filter_congr hsame]
    cases keep category <;> simp
  induction categories with
  | nil => rfl
  | cons category rest ih =>
    simp only [ofCategories, List.flatMap_cons, List.filter_append, List.filter_cons] at ih ⊢
    rw [hone, ← ih]
    cases keep category <;> simp

/-- Rules taken by category have distinct names when no category is taken twice. -/
theorem nodup_names_ofCategories (registry : Registry) {categories : List Category}
    (hnodup : categories.Nodup) : ((registry.ofCategories categories).map Rule.name).Nodup := by
  rw [ofCategories, List.map_flatMap, List.nodup_flatMap]
  constructor
  · intro category _
    rw [ofCategory_eq_filter]
    exact registry.distinct.sublist (List.filter_sublist.map _)
  · refine hnodup.imp ?_
    intro a b hne name ha hb
    rcases List.mem_map.1 ha with ⟨rule, hrule, rfl⟩
    rcases List.mem_map.1 hb with ⟨other, hother, hname⟩
    rw [ofCategory_eq_filter] at hrule hother
    rcases List.mem_filter.1 hrule with ⟨hrule, hcategory⟩
    rcases List.mem_filter.1 hother with ⟨hother, hcategory'⟩
    -- Rules of one name are one rule, which has one category.
    have heq : other = rule := eq_of_name_eq hother hrule hname
    exact hne ((eq_of_beq hcategory).symm.trans (heq ▸ eq_of_beq hcategory'))

theorem mem_names {registry : Registry} {name : String} :
    name ∈ registry.names ↔ registry.knows name = true := by
  rw [knows_iff, names, List.mem_map, List.mem_map]
  simp [mem_ofCategories, Category.mem_all]

/-- A registry made of groups knows exactly the names that occur in them, and has under each the
first rule with that name. These rules stand under their categories in the order in which they were
registered, each once, and the names are listed category by category. Registering one of the groups
again changes nothing. -/
theorem keeps_first_of_each_name (groups : List RuleGroup) :
    let registry := ofGroups groups
    let history := groups.flatMap RuleGroup.rules
    (∀ name, registry.knows name = true ↔ name ∈ history.map Rule.name) ∧
      (∀ name, registry.get name = match history.find? fun rule => rule.name == name with
        | some rule => .ok rule
        | none => .error (.unknownName name)) ∧
      (∀ category, registry.ofCategory category =
        (firstNamed history).filter fun rule => rule.category == category) ∧
      (∀ rule, rule ∈ registry.ofCategories Category.all ↔ registry.get rule.name = .ok rule) ∧
      (registry.names.Nodup ∧ (∀ name, name ∈ registry.names ↔ registry.knows name = true) ∧
        registry.names =
          Category.all.flatMap fun category => (registry.ofCategory category).map Rule.name) ∧
      ∀ group ∈ groups, registry.registerGroup group = registry := by
  intro registry history
  refine ⟨?_, ?_, ?_, ?_, ⟨?_, fun name => mem_names, ?_⟩, ?_⟩
  · intro name
    rw [knows_iff, rules_ofGroups, mem_names_firstNamed]
  · intro name
    have hfound : registry.find? name = history.find? fun rule => rule.name == name :=
      find?_ofGroups groups name
    exact hfound ▸ rfl
  · intro category
    rw [ofCategory_eq_filter, rules_ofGroups]
  · intro rule
    have hfound : registry.get rule.name = .ok rule ↔ registry.find? rule.name = some rule := by
      rw [get]
      cases registry.find? rule.name <;> simp
    rw [hfound, mem_ofCategories]
    constructor
    · rintro ⟨hrule, -⟩
      exact find?_of_mem hrule
    · intro hrule
      rw [find?_eq_find?_rules] at hrule
      exact ⟨List.mem_of_find?_eq_some hrule, Category.mem_all _⟩
  · exact nodup_names_ofCategories registry (by decide)
  · rw [names, ofCategories, List.map_flatMap]
  · intro group hgroup
    exact registerGroup_of_includes ((includes_foldl_registerGroup empty groups).2 group hgroup)

/-- A name that one group has twice and another one too belongs to the first rule that has it. -/
theorem keeps_first_of_each_name_link :
    let rule := fun name summary => Rule.listing name .errors summary fun _ => []
    let first := RuleGroup.ofRules .warnings [rule "link" "one", rule "image" "two"]
    let second := RuleGroup.ofRules .advice [rule "link" "three", rule "field" "four",
      rule "field" "five"]
    let registry := ofGroups [first, second]
    second ∈ [first, second] ∧ registry.names = ["field", "link", "image"] ∧
      (registry.get "link").map Rule.summary = .ok (some "one") ∧
      registry.get "title" = .error (.unknownName "title") ∧
      registry.registerGroup second = registry := by
  intro rule first second registry
  have hmember : second ∈ [first, second] := List.mem_cons_of_mem _ List.mem_cons_self
  rcases keeps_first_of_each_name [first, second] with ⟨-, hget, -, -, ⟨-, -, hnames⟩, hagain⟩
  refine ⟨hmember, hnames.trans ?_, ?_, hget "title", hagain second hmember⟩
  · decide
  · rw [hget "link"]
    rfl

end Registry

end MarkupAudit
