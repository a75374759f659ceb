import MarkupAudit.Proofs.Faults.Success
import MarkupAudit.Proofs.Number.Digits
import MarkupAudit.Proofs.Settings.Refusal
import MarkupAudit.Proofs.Settings.Update

/-!
# Updating again

In which form a value is stored depends on the old value only through its kind. What is stored
either has that kind, and then a repeated update makes the same conversion, or it is the value as it
was given, and then the repeated update converts it to its own kind, which changes nothing. So an
update that is repeated finds what it would store.

A boolean is the one kind to which every value is converted, so no update of a boolean setting
changes its kind.

Main statements: how a value is stored (`convertLike_some`); storing it again changes nothing
(`convertLike_again`, `setAt_again`); an attempt keeps a boolean setting boolean
(`Settings.exists_bool_of_store`), and so do many (`exists_bool_of_storeAll`);
`Settings.updating_again_changes_nothing`.
-/

namespace MarkupAudit

namespace Value

/-! ## Kinds and conversions -/

/-- A value of this kind has new values converted to its kind. -/
def Kind.isConvertedTo : Kind → Bool
  | .bool | .int | .float | .str => true
  | .null | .list | .object => false

/-- A value read as one of a kind. Where a null, a list or an object was, anything is taken as it
is. -/
def readAs (v : Value) : Kind → Except Fault Value
  | .bool => .ok (.bool (match v with | .str s => affirms s | v => v.truthy))
  | .int => v.toInteger.map .int
  | .float => v.toFloating.map .float
  | .str => v.toText.map .str
  | .null | .list | .object => .ok v

variable {v cast stored : Value} {old : Option Value}

theorem kind_of_readAs {kind : Kind} (hkind : kind.isConvertedTo = true)
    (h : v.readAs kind = .ok cast) : cast.kind = kind := by
  cases kind with
  | bool =>
    cases h
    rfl
  | int =>
    rcases exists_of_map_eq_ok h with ⟨n, -, rfl⟩
    rfl
  | float =>
    rcases exists_of_map_eq_ok h with ⟨f, -, rfl⟩
    rfl
  | str =>
    rcases exists_of_map_eq_ok h with ⟨s, -, rfl⟩
    rfl
  | null | list | object => cases hkind

/-- A value is stored as it can be read, or as it is given if it cannot be read, unless it is a
number that is too large. -/
theorem convertLike_some (v old : Value) :
    v.convertLike (some old) = match v.readAs old.kind with
      | .ok cast => .ok cast
      | .error fault => if isOverflow fault then .error fault else .ok v := by
  cases old with
  | bool _ => cases v <;> rfl
  | int _ =>
    simp only [convertLike, readAs, kind]
    cases v.toInteger <;> rfl
  | float _ =>
    simp only [convertLike, readAs, kind]
    cases v.toFloating <;> rfl
  | str _ =>
    simp only [convertLike, readAs, kind]
    cases v.toText <;> rfl
  | _ => rfl

/-- What is stored has the kind of the old value or is the value as it was given. -/
theorem eq_or_kind_eq_of_convertLike (h : v.convertLike old = .ok stored) :
    stored = v ∨ ∃ was, old = some was ∧ stored.kind = was.kind := by
  cases old with
  | none =>
    cases h
    exact .inl rfl
  | some was =>
    rw [convertLike_some] at h
    cases hkind : was.kind.isConvertedTo with
    | true =>
      cases hread : v.readAs was.kind with
      | ok cast =>
        rw [hread] at h
        cases h
        exact .inr ⟨was, rfl, kind_of_readAs hkind hread⟩
      | error fault =>
        rw [hread] at h
        dsimp only at h
        split at h
        · cases h
        · cases h
          exact .inl rfl
    | false =>
      have hread : v.readAs was.kind = .ok v := by
        cases was with
        | null | list | object => rfl
        | bool | int | float | str => cases hkind
      rw [hread] at h
      cases h
      exact .inl rfl

theorem convertLike_self (v : Value) : v.convertLike (some v) = .ok v := by
  cases v <;> rfl

/-- A value that is stored over what it was stored as is stored as the same. -/
theorem convertLike_again (h : v.convertLike old = .ok stored) :
    v.convertLike (some stored) = .ok stored := by
  rcases eq_or_kind_eq_of_convertLike h with rfl | ⟨was, rfl, hkind⟩
  · exact convertLike_self stored
  · rw [convertLike_some, hkind, ← convertLike_some, h]

/-- An integer of too many digits has no text, so it is stored as it is given where a text was. -/
theorem readAs_str_of_not_writable {n : Int} (h : ¬ Number.IsWritable n) :
    (Value.int n).readAs .str = .error (.number .tooLongToWrite) := by
  have hwritten : (Value.int n).text = .error .tooLongToWrite := if_neg h
  rw [readAs, toText, hwritten]
  rfl

theorem exists_bool_of_convertLike (v : Value) (b : Bool) :
    ∃ stored, v.convertLike (some (.bool b)) = .ok (.bool stored) := by
  cases v <;> exact ⟨_, rfl⟩

/-! ## Updates -/

/-- An update of something that is there succeeds if the new value can be stored over it. -/
theorem exists_setAt_of_at? {key : String} {rest : List String} {fields : List (String × Value)}
    {was : Value} (h : at? (key :: rest) (.object fields) = some was)
    (hconvert : v.convertLike (some was) = .ok stored) :
    ∃ fields', v.setAt (key :: rest) fields = .ok (some fields') := by
  induction rest generalizing key fields with
  | nil =>
    have hfound : field? key fields = some was := by
      rw [at?_cons] at h
      rcases Option.bind_eq_some_iff.1 h with ⟨found, hfound, heq⟩
      rw [at?_nil] at heq
      rw [hfound, heq]
    exact ⟨Entries.set key stored fields, by simp only [setAt, hfound, hconvert]⟩
  | cons next rest ih =>
    rw [at?_cons] at h
    rcases Option.bind_eq_some_iff.1 h with ⟨found, hfound, hbehind⟩
    cases found with
    | object inner =>
      rcases ih hbehind with ⟨left, hleft⟩
      exact ⟨Entries.set key (.object left) fields, by rw [setAt_of_object hfound, hleft]; rfl⟩
    | _ => cases hbehind

/-- An update that is made again finds what it has set. -/
theorem setAt_again {key : String} {rest : List String} {fields fields' : List (String × Value)}
    (h : v.setAt (key :: rest) fields = .ok (some fields')) :
    v.setAt (key :: rest) fields' = .ok (some fields') := by
  -- Along the keys, each object is written back as it is found.
  induction rest generalizing key fields fields' with
  | nil =>
    rcases exists_of_setAt_singleton h with ⟨stored, hconvert, rfl⟩
    have hfound : field? key (Entries.set key stored fields) = some stored :=
      Entries.lookup_set_self key stored fields
    simp only [setAt, hfound, convertLike_again hconvert, Entries.set_set]
  | cons next rest ih =>
    rcases exists_of_setAt_cons_cons h with ⟨inner, hinner, rfl⟩
    have hfound : field? key (Entries.set key (.object inner) fields) = some (.object inner) :=
      Entries.lookup_set_self key _ fields
    rw [setAt_of_object hfound, ih hinner]
    simp only [Except.map, Option.map, Entries.set_set]

end Value

namespace Settings

/-- The settings after some attempts to change them, whatever becomes of each. -/
def storeAll (s : Settings) (attempts : List (String × Value)) : Settings :=
  attempts.foldl (fun s attempt => (s.store attempt.1 attempt.2).1) s

/-- The keys of a path lead up to those of another one and end before it. -/
def LeadsUpTo (path other : String) : Prop :=
  keys path <+: keys other ∧ keys path ≠ keys other

variable {s s' : Settings} {path : String} {v : Value}

theorem setAt_of_store (h : s.store path v = (s', .ok true)) :
    v.setAt (keys path) s.fields = .ok (some s'.fields) := by
  rw [store_eq] at h
  split at h <;> cases h
  assumption

theorem store_of_setAt (h : v.setAt (keys path) s.fields = .ok (some s'.fields)) :
    s.store path v = (s', .ok true) := by
  rw [store_eq, h]

/-- After an attempt that succeeds its path leads to what the old value makes of the new one. -/
theorem exists_stored_of_store (h : s.store path v = (s', .ok true)) :
    ∃ stored, v.convertLike (s.value.at? (keys path)) = .ok stored ∧
      s'.value.at? (keys path) = some stored := by
  have hset := setAt_of_store h
  rcases List.exists_cons_of_ne_nil (keys_ne_nil path) with ⟨key, rest, hkeys⟩
  rw [hkeys] at hset ⊢
  rcases Value.exists_stored_of_setAt hset with ⟨stored, hconvert, hread⟩
  refine ⟨stored, hconvert, ?_⟩
  have hself := hread []
  rwa [List.append_nil, Value.at?_nil] at hself

theorem store_again (h : s.store path v = (s', .ok true)) :
    s'.store path v = (s', .ok true) := by
  have hset := setAt_of_store h
  rcases List.exists_cons_of_ne_nil (keys_ne_nil path) with ⟨key, rest, hkeys⟩
  rw [hkeys] at hset
  exact store_of_setAt (hkeys ▸ Value.setAt_again hset)

/-- An attempt succeeds where the new value can be stored over the old one. -/
theorem exists_store_of_at? {was stored : Value} (h : s.value.at? (keys path) = some was)
    (hconvert : v.convertLike (some was) = .ok stored) : ∃ s', s.store path v = (s', .ok true) := by
  rcases List.exists_cons_of_ne_nil (keys_ne_nil path) with ⟨key, rest, hkeys⟩
  rw [hkeys] at h
  rcases Value.exists_setAt_of_at? h hconvert with ⟨fields, hset⟩
  exact ⟨⟨fields⟩, store_of_setAt (hkeys ▸ hset)⟩

/-! ## Boolean settings -/

section

variable {b : Bool} (h : s.value.at? (keys path) = some (.bool b))
include h

/-- An attempt at a boolean setting succeeds and leaves a boolean. -/
theorem exists_store_of_bool (v : Value) :
    ∃ s' b', s.store path v = (s', .ok true) ∧ s'.value.at? (keys path) = some (.bool b') := by
  rcases Value.exists_bool_of_convertLike v b with ⟨b', hconvert⟩
  rcases exists_store_of_at? h hconvert with ⟨s', hstore⟩
  rcases exists_stored_of_store hstore with ⟨stored, hstored, hread⟩
  rw [h, hconvert] at hstored
  cases hstored
  exact ⟨s', b', hstore, hread⟩

/-- No attempt at a path that does not lead up to it takes a boolean setting from its kind. -/
theorem exists_bool_of_store {other : String} (hother : ¬ LeadsUpTo other path) (v : Value) :
    ∃ b', (s.store other v).1.value.at? (keys path) = some (.bool b') := by
  by_cases hsame : keys other = keys path
  · -- The attempt is at the setting itself, by this path or by one with the same keys.
    have hstore : s.store other v = s.store path v := by rw [store_eq, store_eq, hsame]
    rcases exists_store_of_bool h v with ⟨s', b', hstored, hread⟩
    exact ⟨b', by rw [hstore, hstored]; exact hread⟩
  · have hbefore : ¬ keys other <+: keys path := fun hleads => hother ⟨hleads, hsame⟩
    rw [store_eq]
    cases hset : v.setAt (keys other) s.fields with
    | error fault => exact ⟨b, h⟩
    | ok left =>
      cases left with
      | none => exact ⟨b, h⟩
      | some left =>
        have hbehind : ¬ keys path <+: keys other := by
          intro hleads
          -- Behind the boolean the attempt would have been refused.
          have hobstructed : s.value.Obstructed (keys other) :=
            ⟨keys path, .bool b, hleads, fun heq => hsame heq.symm, h, rfl⟩
          rw [value, ← Value.setAt_eq_none_iff (v := v), hset] at hobstructed
          cases hobstructed
        rcases List.exists_cons_of_ne_nil (keys_ne_nil other) with ⟨key, rest, hkeys⟩
        rw [hkeys] at hset hbefore hbehind
        exact ⟨b, (Value.at?_setAt_of_apart hset hbehind hbefore).trans h⟩

/-- A boolean setting is a boolean after any attempts that do not lead up to it. -/
theorem exists_bool_of_storeAll {attempts : List (String × Value)}
    (hattempts : ∀ attempt ∈ attempts, ¬ LeadsUpTo attempt.1 path) :
    ∃ b', (s.storeAll attempts).value.at? (keys path) = some (.bool b') := by
  induction attempts generalizing s b with
  | nil => exact ⟨b, h⟩
  | cons attempt rest ih =>
    rcases List.forall_mem_cons.1 hattempts with ⟨hfirst, hrest⟩
    rcases exists_bool_of_store h hfirst attempt.2 with ⟨b', hnext⟩
    exact ih hnext hrest

end

/-! ## Repetition -/

/-- An update that succeeds and is made again succeeds again and leaves the settings as they are.
Where a value was, the path then leads to the new value read as one of the old value's kind, or to
the new value as it was given if it cannot be read so; booleans, numbers and texts keep their kind
when it can. A boolean setting takes every value and stays a boolean, whatever else is attempted, as
long as no path that leads up to it is. -/
theorem updating_again_changes_nothing (s : Settings) (path : String) (v : Value) :
    (∀ s', s.store path v = (s', .ok true) →
      s'.store path v = (s', .ok true) ∧
      ∀ old, s.value.at? (keys path) = some old →
        ∃ stored, s'.value.at? (keys path) = some stored ∧
          (∀ cast, v.readAs old.kind = .ok cast → stored = cast ∧
            (old.kind.isConvertedTo = true → stored.kind = old.kind)) ∧
          ∀ fault, v.readAs old.kind = .error fault → stored = v) ∧
    ∀ b, s.value.at? (keys path) = some (.bool b) →
      (∃ s' b', s.store path v = (s', .ok true) ∧
        s'.value.at? (keys path) = some (.bool b')) ∧
      ∀ attempts : List (String × Value), (∀ attempt ∈ attempts, ¬ LeadsUpTo attempt.1 path) →
        ∃ b', (s.storeAll attempts).value.at? (keys path) = some (.bool b') := by
  refine ⟨?_, ?_⟩
  · intro s' hstore
    refine ⟨store_again hstore, ?_⟩
    intro old hold
    rcases exists_stored_of_store hstore with ⟨stored, hconvert, hread⟩
    rw [hold, Value.convertLike_some] at hconvert
    refine ⟨stored, hread, ?_, ?_⟩
    · intro cast hcast
      rw [hcast] at hconvert
      cases hconvert
      exact ⟨rfl, fun hkind => Value.kind_of_readAs hkind hcast⟩
    · intro fault hfault
      rw [hfault] at hconvert
      dsimp only at hconvert
      split at hconvert <;> cases hconvert
      rfl
  · intro b hb
    exact ⟨exists_store_of_bool hb v,
      fun attempts hattempts => exists_bool_of_storeAll hb hattempts⟩

/-- A scale that is no number replaces the number as a text, and does so again. An integer that is
too long to be written replaces a text as an integer. A switch is not turned into a text by a text,
nor by what is attempted behind it. -/
theorem updating_again_changes_nothing_scale :
    (∃ s', packaged.store "viewport.min_maximum_scale" (.str "wide") = (s', .ok true) ∧
      s'.store "viewport.min_maximum_scale" (.str "wide") = (s', .ok true) ∧
      s'.value.at? ["viewport", "min_maximum_scale"] = some (.str "wide")) ∧
    (∃ s', packaged.store "logging.level" (.int (Nat.pow 10 Number.digitLimit)) = (s', .ok true) ∧
      s'.store "logging.level" (.int (Nat.pow 10 Number.digitLimit)) = (s', .ok true) ∧
      s'.value.at? ["logging", "level"] = some (.int (Nat.pow 10 Number.digitLimit))) ∧
    ∃ b, (packaged.storeAll [("audit.show_progress", .str " Yes "),
      ("audit.show_progress.x", .int 1), ("audit.workers", .null)]).value.at?
        ["audit", "show_progress"] = some (.bool b) := by
  have hscale : keys "viewport.min_maximum_scale" = ["viewport", "min_maximum_scale"] := by decide
  have hlevel : keys "logging.level" = ["logging", "level"] := by decide
  have hswitch : keys "audit.show_progress" = ["audit", "show_progress"] := by decide
  refine ⟨?_, ?_, ?_⟩
  · have hstore : ∃ s', packaged.store "viewport.min_maximum_scale" (.str "wide") =
        (s', .ok true) := ⟨_, rfl⟩
    rcases hstore with ⟨s', hstore⟩
    rcases updating_again_changes_nothing packaged "viewport.min_maximum_scale" (.str "wide") with
      ⟨hagain, -⟩
    rcases hagain s' hstore with ⟨hsame, hold⟩
    rcases hold (.int 2) (by rw [hscale]; rfl) with ⟨stored, hread, -, hgiven⟩
    have hunread : (Value.str "wide").readAs .int =
        .error (.number (.malformedInteger "wide")) := rfl
    exact ⟨s', hstore, hsame, by rw [← hscale, hread, hgiven _ hunread]⟩
  · have hlong : ¬ Number.IsWritable (Nat.pow 10 Number.digitLimit) := by
      rw [Number.isWritable_iff, Int.natAbs_natCast]
      exact Nat.lt_irrefl _
    -- From here on it matters only that the integer is too long.
    generalize ((Nat.pow 10 Number.digitLimit : Nat) : Int) = n at hlong ⊢
    have hunread : (Value.int n).readAs .str = .error (.number .tooLongToWrite) :=
      Value.readAs_str_of_not_writable hlong
    have hwas : packaged.value.at? (keys "logging.level") = some (.str "WARNING") := by
      rw [hlevel]
      rfl
    have hconvert : (Value.int n).convertLike (some (.str "WARNING")) = .ok (.int n) := by
      rw [Value.convertLike_some, Value.kind, hunread]
      rfl
    rcases exists_store_of_at? hwas hconvert with ⟨s', hstore⟩
    rcases updating_again_changes_nothing packaged "logging.level" (.int n) with ⟨hagain, -⟩
    rcases hagain s' hstore with ⟨hsame, hold⟩
    rcases hold _ hwas with ⟨stored, hread, -, hgiven⟩
    exact ⟨s', hstore, hsame, by rw [← hlevel, hread, hgiven _ hunread]⟩
  · rcases updating_again_changes_nothing packaged "audit.show_progress" .null with ⟨-, hbool⟩
    rcases hbool true (by rw [hswitch]; rfl) with ⟨-, hattempts⟩
    rw [← hswitch]
    exact hattempts _ (by simp only [LeadsUpTo]; decide)

end Settings

end MarkupAudit
