import MarkupAudit.Catalogue
import MarkupAudit.Proofs.Rule.History

/-!
# The rules of the catalogue

No name occurs twice in the groups of the catalogue, so its registry keeps all their rules, in
order.

Main statements: `Catalogue.rules_registry` and `Catalogue.mem_rules_registry_iff`.
-/

namespace MarkupAudit

namespace Catalogue

theorem rules_registry : registry.rules =
    [advice, errors, obsoletes, warnings].flatMap RuleGroup.rules := by
  have hdistinct : (([advice, errors, obsoletes, warnings].flatMap RuleGroup.rules).map
      Rule.name).Nodup := by decide +kernel
  exact (Registry.rules_ofGroups _).trans (Rule.firstNamed_eq_self hdistinct)

theorem mem_rules_registry_iff {rule : Rule} :
    rule ∈ registry.rules ↔
      rule ∈ advice.rules ∨ rule ∈ errors.rules ∨ rule ∈ obsoletes.rules ∨
        rule ∈ warnings.rules := by
  simp [rules_registry, List.flatMap_cons]

theorem length_rules_registry : registry.rules.length = 81 := by
  rw [rules_registry]
  rfl

end Catalogue

end MarkupAudit
