import MarkupAudit.Rule.Basic

/-!
# Registries

Rules are registered in groups, one category to a group. A registry keeps the rules twice: by
category, in the order in which they are run, and by name. Of several rules with one name only the
first is kept, whatever their categories.

Main statements: both tables hold the same rules (`ofCategory_eq_filter`); no two rules of a
registry share a name (`distinct`), and a rule is found under its name (`find?_of_mem`).
-/

namespace MarkupAudit

/-- Rules of one category in the order in which they are run. -/
structure RuleGroup where
  category : Category
  rules : List Rule
  uniform : ∀ rule ∈ rules, rule.category = category

namespace RuleGroup

def ofRules (category : Category) (rules : List Rule) : RuleGroup where
  category := category
  rules := rules.map fun rule => { rule with category := category }
  uniform := by simp +contextual

def names (group : RuleGroup) : List String :=
  group.rules.map Rule.name

def label (group : RuleGroup) : String :=
  group.category.name ++ " (" ++ toString group.rules.length ++ " rules)"

end RuleGroup

def Rule.description (rule : Rule) : String :=
  "RuleSpec(" ++ rule.category.name ++ "." ++ rule.name ++ ")"

/-- Rules by category and by name. The table of names remembers the order in which the rules were
registered. -/
structure Registry where
  byCategory : Keyed Category (List Rule)
  byName : Keyed String Rule
  named : ∀ entry ∈ byName.entries, entry.2.name = entry.1
  /-- The tables hold the same rules. -/
  inStep : ∀ category, (byCategory.get? category).getD [] =
    byName.values.filter fun rule => rule.category == category

namespace Registry

def empty : Registry where
  byCategory := .empty
  byName := .empty
  named := by simp [Keyed.empty]
  inStep := by simp [Keyed.empty, Keyed.get?, Keyed.values]

/-- All rules in the order in which they were registered. -/
def rules (registry : Registry) : List Rule :=
  registry.byName.values

def find? (registry : Registry) (name : String) : Option Rule :=
  registry.byName.get? name

def knows (registry : Registry) (name : String) : Bool :=
  registry.byName.contains name

def get (registry : Registry) (name : String) : Except Fault Rule :=
  match registry.find? name with
  | some rule => .ok rule
  | none => .error (.unknownName name)

def ofCategory (registry : Registry) (category : Category) : List Rule :=
  (registry.byCategory.get? category).getD []

def ofCategories (registry : Registry) (categories : List Category) : List Rule :=
  categories.flatMap registry.ofCategory

def names (registry : Registry) : List String :=
  (registry.ofCategories Category.all).map Rule.name

/-! ## What the tables hold -/

theorem ofCategory_eq_filter (registry : Registry) (category : Category) :
    registry.ofCategory category = registry.rules.filter fun rule => rule.category == category :=
  registry.inStep category

theorem names_rules (registry : Registry) :
    registry.rules.map Rule.name = registry.byName.keys := by
  rw [rules, Keyed.values, Keyed.keys, List.map_map]
  exact List.map_congr_left registry.named

theorem distinct (registry : Registry) : (registry.rules.map Rule.name).Nodup := by
  rw [names_rules]
  exact registry.byName.distinct

theorem knows_iff {registry : Registry} {name : String} :
    registry.knows name = true ↔ name ∈ registry.rules.map Rule.name := by
  rw [names_rules]
  exact Keyed.contains_iff

/-- The only rule with its name is found under it. -/
theorem find?_of_mem {registry : Registry} {rule : Rule} (h : rule ∈ registry.rules) :
    registry.find? rule.name = some rule := by
  rcases List.mem_map.1 h with ⟨entry, hentry, rfl⟩
  rw [registry.named entry hentry]
  exact Entries.lookup_of_mem registry.byName.distinct hentry

/-! ## Registering -/

/-- The registry with a place for the rules of a category. -/
def openCategory (registry : Registry) (category : Category) : Registry :=
  if hknown : registry.byCategory.contains category then registry
  else
    { registry with
      byCategory := registry.byCategory.set category []
      inStep := by
        intro other
        rw [← registry.inStep other]
        by_cases hother : other = category
        · have habsent : registry.byCategory.get? category = none := by
            simpa [Keyed.contains] using hknown
          rw [hother, Keyed.get?_set_self, habsent]
          rfl
        · rw [Keyed.get?_set_of_ne _ hother] }

/-- The registry with a rule whose name is new to it. -/
def add (registry : Registry) (rule : Rule) (hfresh : ¬ registry.knows rule.name = true) :
    Registry where
  byCategory := registry.byCategory.set rule.category (registry.ofCategory rule.category ++ [rule])
  byName := registry.byName.set rule.name rule
  named := by
    intro entry hentry
    rw [Keyed.entries_set_of_absent rule hfresh] at hentry
    rcases List.mem_append.1 hentry with hold | hnew
    · exact registry.named entry hold
    · rw [List.mem_singleton.1 hnew]
  inStep := by
    intro category
    rw [Keyed.values, Keyed.entries_set_of_absent rule hfresh, List.map_append, List.filter_append]
    by_cases hcategory : category = rule.category
    · rw [hcategory, Keyed.get?_set_self, Option.getD_some, ofCategory_eq_filter]
      simp [rules, Keyed.values]
    · rw [Keyed.get?_set_of_ne _ hcategory, registry.inStep category]
      simp [Keyed.values, Ne.symm hcategory]

/-- The registry after a rule, which is passed over if its name is taken. -/
def register (registry : Registry) (rule : Rule) : Registry :=
  if htaken : registry.knows rule.name then registry else registry.add rule htaken

def registerGroup (registry : Registry) (group : RuleGroup) : Registry :=
  group.rules.foldl register (registry.openCategory group.category)

/-- The registry of the groups, registered one after another. -/
def ofGroups (groups : List RuleGroup) : Registry :=
  groups.foldl registerGroup empty

end Registry

end MarkupAudit
