import MarkupAudit.Settings.Update
import Mathlib.Data.List.Infix

/-!
# What an update changes

An update puts one value at a list of keys and makes the objects that lead there. What is read
afterwards depends on how the keys that are read meet the keys that were set. Keys that go on behind
them lead into the value; keys that lead up to them find an object; keys that part from them find
what they found before.

Each step of an update goes into one object, so the proofs go along the keys: behind the first key,
reading and setting both go on inside the object there, or inside an empty one if there is none.

Main statement: `Settings.set_laws`.
-/

namespace MarkupAudit

namespace Value

/-- The fields of the object at a key; none if there is no object. -/
def innerFields (key : String) (fields : List (String × Value)) : List (String × Value) :=
  match field? key fields with
  | some (.object inner) => inner
  | _ => []

/-- What is set at a list of keys inside a value; null counts as not set. -/
def inside? (v : Value) (ks : List String) : Option Value :=
  (v.at? ks).filter fun found => !found.isNull

theorem inside?_of_at? {v stored : Value} {ks : List String} (h : v.at? ks = some stored)
    (default : Value) :
    (v.inside? ks).getD default = if stored.isNull then default else stored := by
  rw [inside?, h, Option.filter_some]
  cases stored.isNull <;> rfl

/-! ## One step -/

section

variable {v : Value} {key next : String} {rest : List String}
  {fields fields' : List (String × Value)}

/-- Reading goes on inside the object at the first key. -/
theorem at?_cons_cons :
    at? (key :: next :: rest) (.object fields) =
      at? (next :: rest) (.object (innerFields key fields)) := by
  rw [at?_cons, innerFields]
  cases hfield : field? key fields with
  | none => rfl
  | some found => cases found <;> rfl

theorem at?_set_self (stored : Value) (more : List String) :
    at? (key :: more) (.object (Entries.set key stored fields)) = at? more stored := by
  rw [at?_cons, field?, Entries.lookup_set_self, Option.bind_some]

theorem at?_set_of_ne {other : String} (hne : other ≠ key) (stored : Value)
    (more : List String) :
    at? (other :: more) (.object (Entries.set key stored fields)) =
      at? (other :: more) (.object fields) := by
  rw [at?_cons, at?_cons, field?, field?, Entries.lookup_set_of_ne hne]

/-- A value is stored at a single key in the kind of what was there. -/
theorem exists_of_setAt_singleton (h : v.setAt [key] fields = .ok (some fields')) :
    ∃ stored, v.convertLike (at? [key] (.object fields)) = .ok stored ∧
      fields' = Entries.set key stored fields := by
  have hfield : at? [key] (.object fields) = field? key fields := by
    rw [at?_cons]
    cases field? key fields with
    | none => rfl
    | some found => exact at?_nil found
  rw [setAt] at h
  cases hconvert : v.convertLike (field? key fields) with
  | error fault => simp [hconvert] at h
  | ok stored =>
    have hset : Entries.set key stored fields = fields' := by simpa [hconvert] using h
    exact ⟨stored, hfield ▸ hconvert, hset.symm⟩

/-- Setting goes on inside the object at the first key, which is made if it is missing. -/
theorem exists_of_setAt_cons_cons (h : v.setAt (key :: next :: rest) fields = .ok (some fields')) :
    ∃ inner, v.setAt (next :: rest) (innerFields key fields) = .ok (some inner) ∧
      fields' = Entries.set key (.object inner) fields := by
  rw [setAt] at h
  split at h
  -- There is no object at the key, and an empty one is made.
  · next hfield =>
    split at h
    · next inner hset =>
      have heq : Entries.set key (.object inner) fields = fields' := by simpa using h
      exact ⟨inner, by simpa only [innerFields, hfield] using hset, heq.symm⟩
    · cases h
    · cases h
  · next old hfield =>
    split at h
    · next inner hset =>
      have heq : Entries.set key (.object inner) fields = fields' := by simpa using h
      exact ⟨inner, by simpa only [innerFields, hfield] using hset, heq.symm⟩
    · cases h
    · cases h
  · cases h

end

/-! ## All steps -/

section

variable {v : Value}

/-- Behind the keys that were set, reading goes on inside the stored value. -/
theorem exists_stored_of_setAt {key : String} {rest : List String}
    {fields fields' : List (String × Value)}
    (h : v.setAt (key :: rest) fields = .ok (some fields')) :
    ∃ stored, v.convertLike (at? (key :: rest) (.object fields)) = .ok stored ∧
      ∀ more, at? (key :: rest ++ more) (.object fields') = at? more stored := by
  induction rest generalizing key fields fields' with
  | nil =>
    rcases exists_of_setAt_singleton h with ⟨stored, hconvert, rfl⟩
    exact ⟨stored, hconvert, fun more => at?_set_self stored more⟩
  | cons next rest ih =>
    rcases exists_of_setAt_cons_cons h with ⟨inner, hset, rfl⟩
    rcases ih hset with ⟨stored, hconvert, hread⟩
    refine ⟨stored, at?_cons_cons ▸ hconvert, ?_⟩
    intro more
    calc
      at? (key :: next :: rest ++ more) (.object (Entries.set key (.object inner) fields))
          = at? (next :: rest ++ more) (.object inner) := at?_set_self _ _
      _ = at? more stored := hread more

/-- Keys that lead up to those that were set find an object. -/
theorem exists_object_of_setAt {before : List String} {key : String} {rest : List String}
    {fields fields' : List (String × Value)}
    (h : v.setAt (before ++ key :: rest) fields = .ok (some fields')) :
    ∃ inner, at? before (.object fields') = some (.object inner) := by
  induction before generalizing fields fields' with
  | nil => exact ⟨fields', at?_nil _⟩
  | cons first before ih =>
    rcases List.exists_cons_of_ne_nil (show before ++ key :: rest ≠ [] by simp) with
      ⟨next, more, hmore⟩
    have hcons : v.setAt (first :: next :: more) fields = .ok (some fields') := by
      simpa only [List.cons_append, hmore] using h
    rcases exists_of_setAt_cons_cons hcons with ⟨inner, hset, rfl⟩
    rcases ih (hmore ▸ hset) with ⟨found, hfound⟩
    exact ⟨found, (at?_set_self _ before).trans hfound⟩

/-- Keys that part from those that were set find what they found before. -/
theorem at?_setAt_of_apart {key : String} {rest other : List String}
    {fields fields' : List (String × Value)}
    (h : v.setAt (key :: rest) fields = .ok (some fields')) (hother : ¬ other <+: key :: rest)
    (hset : ¬ key :: rest <+: other) :
    at? other (.object fields') = at? other (.object fields) := by
  induction rest generalizing key other fields fields' with
  | nil =>
    rcases exists_of_setAt_singleton h with ⟨stored, -, rfl⟩
    cases other with
    | nil => exact absurd (List.nil_prefix) hother
    | cons first more =>
      have hne : first ≠ key := by
        rintro rfl
        exact hset ⟨more, rfl⟩
      exact at?_set_of_ne hne stored more
  | cons next rest ih =>
    rcases exists_of_setAt_cons_cons h with ⟨inner, hinner, rfl⟩
    cases other with
    | nil => exact absurd (List.nil_prefix) hother
    | cons first more =>
      by_cases hfirst : first = key
      · subst hfirst
        -- The keys part behind the first one, so there is another one to read.
        have hmore : ¬ more <+: next :: rest := fun hprefix =>
          hother (List.cons_prefix_cons.2 ⟨rfl, hprefix⟩)
        have hrest : ¬ next :: rest <+: more := fun hprefix =>
          hset (List.cons_prefix_cons.2 ⟨rfl, hprefix⟩)
        cases more with
        | nil => exact absurd (List.nil_prefix) hmore
        | cons second more =>
          calc
            at? (first :: second :: more) (.object (Entries.set first (.object inner) fields))
                = at? (second :: more) (.object inner) := at?_set_self _ _
            _ = at? (second :: more) (.object (innerFields first fields)) :=
                ih hinner hmore hrest
            _ = at? (first :: second :: more) (.object fields) := at?_cons_cons.symm
      · exact at?_set_of_ne hfirst _ more

end

end Value

namespace Settings

theorem keys_ne_nil (path : String) : keys path ≠ [] := by
  have hpieces := Chars.splitOn_ne_nil '.' path.toList
  simpa [keys, Text.splitOn] using hpieces

theorem get_eq (s : Settings) (path : String) (default : Value) :
    s.get path default = (s.value.inside? (keys path)).getD default := by
  rw [get, get?, atKeys?]
  cases hfound : s.value.at? (keys path) with
  | none => simp only [Value.inside?, hfound, Option.filter_none]
  | some found =>
    rw [Value.inside?_of_at? hfound]
    cases hnull : found.isNull <;> simp [hnull]

/-- An update that succeeds has set the fields at the keys of its path. -/
theorem setAt_of_set {s s' : Settings} {path : String} {v : Value}
    (h : s.set path v = .ok (.changed s')) :
    v.setAt (keys path) s.fields = .ok (some s'.fields) := by
  rw [set] at h
  split at h
  · next fields hset =>
    cases h
    exact hset
  · cases h
  · cases h

/-- After an update that succeeds, the path holds the value, in the kind of the old one where it can
be converted; null counts as not set. Paths that part from it hold what they held, paths that go on
behind it lead into the value, and paths that lead up to it hold objects. -/
theorem set_laws {s s' : Settings} {path : String} {v : Value}
    (h : s.set path v = .ok (.changed s')) :
    ∃ stored, v.convertLike (s.value.at? (keys path)) = .ok stored ∧
      (∀ default, s'.get path default = if stored.isNull then default else stored) ∧
      (∀ other default, ¬ keys other <+: keys path → ¬ keys path <+: keys other →
        s'.get other default = s.get other default) ∧
      (∀ other rest default, keys other = keys path ++ rest →
        s'.get other default = (stored.inside? rest).getD default) ∧
      ∀ other, keys other <+: keys path → keys other ≠ keys path →
        ∃ fields, s'.get other .null = .object fields := by
  have hset := setAt_of_set h
  rcases List.exists_cons_of_ne_nil (keys_ne_nil path) with ⟨key, rest, hkeys⟩
  rw [hkeys] at hset ⊢
  rcases Value.exists_stored_of_setAt hset with ⟨stored, hconvert, hread⟩
  refine ⟨stored, hconvert, ?_, ?_, ?_, ?_⟩
  · intro default
    have hself : s'.value.at? (keys path) = some stored := by
      have hnil := hread []
      rwa [List.append_nil, ← hkeys, Value.at?_nil] at hnil
    rw [get_eq, Value.inside?_of_at? hself]
  · intro other default hother hprefix
    have hsame := Value.at?_setAt_of_apart hset hother hprefix
    rw [get_eq, get_eq, Value.inside?, Value.inside?, value, value, hsame]
  · intro other more default hother
    rw [get_eq, hother, Value.inside?, value, hread more, Value.inside?]
  · intro other hprefix hne
    rcases hprefix with ⟨left, hsplit⟩
    cases left with
    | nil => exact absurd (by simpa using hsplit) hne
    | cons first left =>
      rcases Value.exists_object_of_setAt (hsplit ▸ hset) with ⟨inner, hinner⟩
      exact ⟨inner, by rw [get_eq, Value.inside?, value, hinner]; rfl⟩

/-- A text that is set where an integer was is read as one, and what stands beside it stays. -/
theorem set_laws_scale :
    ∃ s', set .packaged "viewport.min_maximum_scale" (.str " 3 ") = .ok (.changed s') ∧
      s'.get "viewport.min_maximum_scale" .null = .int 3 ∧
      s'.get "viewport.max_minimum_scale" .null = .int 1 ∧
      s'.get "viewport.min_maximum_scale.x" (.bool true) = .bool true ∧
      ∃ fields, s'.get "viewport" .null = .object fields := by
  have hset : ∃ s', set .packaged "viewport.min_maximum_scale" (.str " 3 ") =
      .ok (.changed s') := ⟨_, rfl⟩
  rcases hset with ⟨s', hset⟩
  rcases set_laws hset with ⟨stored, hconvert, hself, hother, hbehind, hbefore⟩
  have hstored : stored = .int 3 := by
    have hthree : (Value.str " 3 ").convertLike (packaged.value.at?
        (keys "viewport.min_maximum_scale")) = .ok (.int 3) := rfl
    exact Except.ok.inj (hconvert.symm.trans hthree)
  subst hstored
  refine ⟨s', hset, hself .null, ?_, ?_, hbefore "viewport" (by decide) (by decide)⟩
  · rw [hother "viewport.max_minimum_scale" .null (by decide) (by decide)]
    rfl
  · exact hbehind "viewport.min_maximum_scale.x" ["x"] (.bool true) (by decide)

end Settings

end MarkupAudit
