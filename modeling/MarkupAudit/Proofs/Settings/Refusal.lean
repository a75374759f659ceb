import MarkupAudit.Settings.Update

/-!
# What a refused update leaves

An attempt to store a value makes the objects that are missing on its way before it is known how the
attempt ends. It leaves no trace all the same when it fails. Behind an object that had to be made
nothing can be in the way, and there is no old value to whose kind the new one is converted. So an
attempt that fails has made nothing, and what it writes back on its way is what was there.

Main statements: an attempt leaves what the update gives, or what was there (`storeAt_eq`,
`Settings.set_eq_store`); an update is refused where something other than an object is in the way
(`setAt_eq_none_iff`); an attempt that fails leaves no trace (`Settings.store_leaves_no_trace`).
-/

namespace MarkupAudit

namespace Value

variable {v : Value} {key next : String} {rest ks : List String}
  {fields inner : List (String × Value)}

/-! ## One step of an attempt -/

theorem storeAt_of_absent (h : field? key fields = none) :
    v.storeAt (key :: next :: rest) fields =
      (Entries.set key (.object (v.storeAt (next :: rest) []).1) fields,
        (v.storeAt (next :: rest) []).2) := by
  have hmade : Entries.setDefault key (.object []) fields =
      Entries.set key (.object []) fields := Entries.setDefault_of_absent h
  have hfound : field? key (Entries.set key (.object []) fields) = some (.object []) :=
    Entries.lookup_set_self key _ fields
  simp only [storeAt, hmade, hfound, Entries.set_set]

theorem storeAt_of_object (h : field? key fields = some (.object inner)) :
    v.storeAt (key :: next :: rest) fields =
      (Entries.set key (.object (v.storeAt (next :: rest) inner).1) fields,
        (v.storeAt (next :: rest) inner).2) := by
  have hthere : Entries.setDefault key (.object []) fields = fields :=
    Entries.setDefault_of_lookup h
  simp only [storeAt, hthere, h]

theorem storeAt_of_not_object {found : Value} (h : field? key fields = some found)
    (hother : found.isObject = false) :
    v.storeAt (key :: next :: rest) fields = (fields, .ok false) := by
  have hthere : Entries.setDefault key (.object []) fields = fields :=
    Entries.setDefault_of_lookup h
  rw [storeAt, hthere, h]
  cases found with
  | object inner => cases hother
  | _ => rfl

/-! ## One step of an update -/

/-- In an empty object nothing is in the way, and there is nothing to convert to. -/
theorem exists_setAt_empty (v : Value) (key : String) (rest : List String) :
    ∃ left, v.setAt (key :: rest) [] = .ok (some left) := by
  induction rest generalizing key with
  | nil => exact ⟨_, rfl⟩
  | cons next rest ih =>
    rcases ih next with ⟨left, hleft⟩
    have habsent : field? key ([] : List (String × Value)) = none := rfl
    exact ⟨Entries.set key (.object left) [], by simp only [setAt, habsent, hleft]⟩

theorem exists_setAt_of_absent (v : Value) (next : String) (rest : List String)
    (h : field? key fields = none) :
    ∃ left, v.setAt (next :: rest) [] = .ok (some left) ∧
      v.setAt (key :: next :: rest) fields =
        .ok (some (Entries.set key (.object left) fields)) := by
  rcases exists_setAt_empty v next rest with ⟨left, hleft⟩
  exact ⟨left, hleft, by simp only [setAt, h, hleft]⟩

theorem setAt_of_object (h : field? key fields = some (.object inner)) :
    v.setAt (key :: next :: rest) fields =
      (v.setAt (next :: rest) inner).map
        (Option.map fun left => Entries.set key (.object left) fields) := by
  simp only [setAt, h]
  cases v.setAt (next :: rest) inner with
  | error fault => rfl
  | ok left => cases left <;> rfl

theorem setAt_of_not_object {found : Value} (h : field? key fields = some found)
    (hother : found.isObject = false) : v.setAt (key :: next :: rest) fields = .ok none := by
  rw [setAt, h]
  cases found with
  | object inner => cases hother
  | _ => rfl

/-! ## Attempts and updates -/

/-- An attempt that succeeds leaves the updated fields, and any other one leaves the fields as they
were. -/
theorem storeAt_eq (v : Value) (ks : List String) (fields : List (String × Value)) :
    v.storeAt ks fields = match v.setAt ks fields with
      | .ok (some left) => (left, .ok true)
      | .ok none => (fields, .ok false)
      | .error fault => (fields, .error fault) := by
  -- Both walk along the keys. What is left is compared at each object on the way back.
  induction ks generalizing fields with
  | nil => rfl
  | cons key rest ih =>
    cases rest with
    | nil =>
      simp only [storeAt, setAt]
      cases v.convertLike (field? key fields) <;> rfl
    | cons next rest =>
      cases hfield : field? key fields with
      | none =>
        -- An object is made, and the attempt is bound to succeed.
        rcases exists_setAt_of_absent v next rest hfield with ⟨left, hleft, hset⟩
        rw [storeAt_of_absent hfield, ih, hleft, hset]
      | some found =>
        cases found with
        | object inner =>
          have hsame : Entries.set key (.object inner) fields = fields :=
            Entries.set_of_lookup hfield
          rw [storeAt_of_object hfield, setAt_of_object hfield, ih]
          -- What is left inside is either updated or what was there, and so are the fields.
          cases v.setAt (next :: rest) inner with
          | error fault => simp only [hsame, Except.map]
          | ok left =>
            cases left with
            | none => simp only [hsame, Except.map, Option.map]
            | some left => rfl
        | _ => rw [storeAt_of_not_object hfield rfl, setAt_of_not_object hfield rfl]

/-! ## What is in the way -/

/-- Something other than an object stands where the keys lead through. -/
def Obstructed (v : Value) (ks : List String) : Prop :=
  ∃ before found, before <+: ks ∧ before ≠ ks ∧ v.at? before = some found ∧
    found.isObject = false

theorem not_obstructed_nil (v : Value) : ¬ v.Obstructed [] := by
  rintro ⟨before, found, hprefix, hne, -⟩
  exact hne (List.prefix_nil.1 hprefix)

theorem obstructed_of_not_object {found : Value} (h : found.isObject = false) :
    found.Obstructed (key :: rest) :=
  ⟨[], found, List.nil_prefix, by simp, at?_nil found, h⟩

/-- What is in the way of keys that lead into an object is in the way behind the first key. -/
theorem obstructed_cons_iff :
    (Value.object fields).Obstructed (key :: rest) ↔
      ∃ found, field? key fields = some found ∧ found.Obstructed rest := by
  constructor
  · rintro ⟨before, stop, hprefix, hne, hstop, hother⟩
    cases before with
    | nil =>
      -- Before the first key there is the object itself.
      rw [at?_nil] at hstop
      cases hstop
      cases hother
    | cons first before =>
      rcases List.cons_prefix_cons.1 hprefix with ⟨rfl, hbefore⟩
      rw [at?_cons] at hstop
      rcases Option.bind_eq_some_iff.1 hstop with ⟨found, hfound, hstop⟩
      exact ⟨found, hfound, before, stop, hbefore, fun h => hne (h ▸ rfl), hstop, hother⟩
  · rintro ⟨found, hfound, before, stop, hprefix, hne, hstop, hother⟩
    refine ⟨key :: before, stop, List.cons_prefix_cons.2 ⟨rfl, hprefix⟩, ?_, ?_, hother⟩
    · simpa using hne
    · rw [at?_cons, hfound, Option.bind_some, hstop]

/-- An update is refused where something other than an object is in the way. -/
theorem setAt_eq_none_iff :
    v.setAt ks fields = .ok none ↔ (Value.object fields).Obstructed ks := by
  induction ks generalizing fields with
  | nil => simp [setAt, not_obstructed_nil]
  | cons key rest ih =>
    rw [obstructed_cons_iff]
    cases rest with
    | nil =>
      simp only [not_obstructed_nil, and_false, exists_false, iff_false, setAt]
      cases v.convertLike (field? key fields) <;> simp
    | cons next rest =>
      cases hfield : field? key fields with
      | none =>
        rcases exists_setAt_of_absent v next rest hfield with ⟨left, -, hset⟩
        simp [hset]
      | some found =>
        cases found with
        | object inner =>
          rw [setAt_of_object hfield]
          simp only [Option.some.injEq, exists_eq_left', ← ih]
          cases v.setAt (next :: rest) inner with
          | error fault => simp [Except.map]
          | ok left => cases left <;> simp [Except.map]
        | _ =>
          rw [setAt_of_not_object hfield rfl]
          simp only [Option.some.injEq, exists_eq_left', true_iff]
          exact obstructed_of_not_object rfl

/-! ## Faults -/

theorem isOverflow_of_orAsGiven {α : Type} {wrap : α → Value} {given : Value}
    {converted : Except Fault α} {fault : Fault}
    (h : orAsGiven wrap given converted = .error fault) : isOverflow fault = true := by
  cases converted with
  | ok a => cases h
  | error cause =>
    by_cases hoverflow : isOverflow cause = true
    · have heq : cause = fault := by simpa [orAsGiven, hoverflow] using h
      exact heq ▸ hoverflow
    · simp [orAsGiven, hoverflow] at h

/-- Only a number that is too large keeps a value from being stored in one form or the other. -/
theorem isOverflow_of_convertLike {old : Option Value} {fault : Fault}
    (h : v.convertLike old = .error fault) : isOverflow fault = true := by
  cases old with
  | none => cases h
  | some old =>
    cases old with
    | bool _ => cases v <;> cases h
    | int _ | float _ | str _ => exact isOverflow_of_orAsGiven h
    | null | list _ | object _ => cases h

theorem isOverflow_of_setAt {fault : Fault} (h : v.setAt ks fields = .error fault) :
    isOverflow fault = true := by
  induction ks generalizing fields with
  | nil => cases h
  | cons key rest ih =>
    cases rest with
    | nil =>
      -- Only here is anything converted.
      rw [setAt] at h
      cases hconvert : v.convertLike (field? key fields) with
      | ok stored => simp [hconvert] at h
      | error cause =>
        have heq : cause = fault := by simpa [hconvert] using h
        exact heq ▸ isOverflow_of_convertLike hconvert
    | cons next rest =>
      cases hfield : field? key fields with
      | none =>
        rcases exists_setAt_of_absent v next rest hfield with ⟨left, -, hset⟩
        rw [hset] at h
        cases h
      | some found =>
        cases found with
        | object inner =>
          rw [setAt_of_object hfield] at h
          cases hinner : v.setAt (next :: rest) inner with
          | ok left => simp [hinner, Except.map] at h
          | error cause =>
            have heq : cause = fault := by simpa [hinner, Except.map] using h
            exact ih (heq ▸ hinner)
        | _ =>
          rw [setAt_of_not_object hfield rfl] at h
          cases h

end Value

namespace Settings

theorem store_eq (s : Settings) (path : String) (v : Value) :
    s.store path v = match v.setAt (keys path) s.fields with
      | .ok (some left) => (⟨left⟩, .ok true)
      | .ok none => (s, .ok false)
      | .error fault => (s, .error fault) := by
  simp only [store, Value.storeAt_eq]
  cases v.setAt (keys path) s.fields with
  | error fault => rfl
  | ok left => cases left <;> rfl

/-- An update is an attempt of which the outcome is kept, and the settings only if it succeeds. -/
theorem set_eq_store (s : Settings) (path : String) (v : Value) :
    s.set path v = match s.store path v with
      | (left, .ok true) => .ok (.changed left)
      | (_, .ok false) => .ok .refused
      | (_, .error fault) => .error fault := by
  rw [store_eq, set]
  cases v.setAt (keys path) s.fields with
  | error fault => rfl
  | ok left => cases left <;> rfl

/-- An attempt to change a setting is refused just when something other than an object, null
included, stands at some of the first keys of its path. An attempt that is refused leaves the
settings as they were, and so does one in which a number turns out to be too large, which is the
only fault there can be. -/
theorem store_leaves_no_trace (s : Settings) (path : String) (v : Value) :
    ((s.store path v).2 = .ok false ↔
      ∃ before found, before ≠ [] ∧ before <+: keys path ∧ before ≠ keys path ∧
        s.value.at? before = some found ∧ found.isObject = false) ∧
    ((s.store path v).2 = .ok false → (s.store path v).1 = s) ∧
    ∀ fault, (s.store path v).2 = .error fault →
      Value.isOverflow fault = true ∧ (s.store path v).1 = s := by
  have hobstructed : s.value.Obstructed (keys path) ↔
      ∃ before found, before ≠ [] ∧ before <+: keys path ∧ before ≠ keys path ∧
        s.value.at? before = some found ∧ found.isObject = false := by
    constructor
    · rintro ⟨before, found, hprefix, hne, hfound, hother⟩
      refine ⟨before, found, ?_, hprefix, hne, hfound, hother⟩
      -- The settings themselves are an object, so it takes a key to meet anything else.
      rintro rfl
      rw [Value.at?_nil] at hfound
      cases hfound
      cases hother
    · rintro ⟨before, found, -, hrest⟩
      exact ⟨before, found, hrest⟩
  rw [store_eq, ← hobstructed, value, ← Value.setAt_eq_none_iff (v := v)]
  cases hset : v.setAt (keys path) s.fields with
  | error fault =>
    refine ⟨by simp, by simp, ?_⟩
    intro cause hcause
    cases hcause
    exact ⟨Value.isOverflow_of_setAt hset, rfl⟩
  | ok left => cases left <;> simp

/-- Neither a path behind a number nor a number beyond all integers changes the packaged
settings. -/
theorem store_leaves_no_trace_workers :
    packaged.store "audit.workers.extra" (.int 8) = (packaged, .ok false) ∧
      packaged.store "audit.workers" (.float (1 / 0)) =
        (packaged, .error (.number .infiniteInteger)) := by
  constructor
  · rcases store_leaves_no_trace packaged "audit.workers.extra" (.int 8) with
      ⟨hrefused, htrace, -⟩
    have houtcome := hrefused.2 ⟨["audit", "workers"], .int 4, by decide, by decide, by decide, rfl,
      rfl⟩
    exact Prod.ext (htrace houtcome) houtcome
  · rcases store_leaves_no_trace packaged "audit.workers" (.float (1 / 0)) with ⟨-, -, hfault⟩
    have houtcome : (packaged.store "audit.workers" (.float (1 / 0))).2 =
        .error (.number .infiniteInteger) := by rfl
    exact Prod.ext (hfault _ houtcome).2 houtcome

end Settings

end MarkupAudit
