import MarkupAudit.Rule.Basic

/-!
# Computations that succeed, and computations that refuse a numeral

A computation that may fail succeeds when all its steps do, and a run over a list when it succeeds
on every item. A run over a list that fails does so with the fault of one of the items, so when each
item is refused under a condition of its own, the run is refused if one of these conditions holds.

Main statements: `mapM_eq_ok_iff`, `succeeds_mapM_iff`, `RefusesIf.mapM` and, for judgements on
places, `succeeds_judgeOrFail_iff` and `refusesIf_judgeOrFail`.
-/

namespace MarkupAudit

section

variable {ε α β : Type}

def Succeeds (x : Except ε α) : Prop :=
  ∃ a, x = .ok a

theorem succeeds_ok (a : α) : Succeeds (.ok a : Except ε α) :=
  ⟨a, rfl⟩

theorem not_succeeds_error (e : ε) : ¬ Succeeds (.error e : Except ε α) := by
  rintro ⟨a, ha⟩
  cases ha

theorem not_succeeds_iff {x : Except ε α} : ¬ Succeeds x ↔ ∃ e, x = .error e := by
  cases x with
  | ok a => exact iff_of_false (not_not_intro (succeeds_ok a)) (by rintro ⟨e, ⟨⟩⟩)
  | error e => exact iff_of_true (not_succeeds_error e) ⟨e, rfl⟩

theorem succeeds_map_iff (f : α → β) {x : Except ε α} : Succeeds (x.map f) ↔ Succeeds x := by
  cases x with
  | ok a => exact iff_of_true (succeeds_ok _) (succeeds_ok a)
  | error e => exact iff_of_false (not_succeeds_error e) (not_succeeds_error e)

theorem Succeeds.bind {x : Except ε α} {f : α → Except ε β} (h : Succeeds x)
    (hf : ∀ a, x = .ok a → Succeeds (f a)) : Succeeds (x >>= f) := by
  rcases h with ⟨a, rfl⟩
  exact hf a rfl

theorem succeeds_bind_iff {x : Except ε α} {f : α → Except ε β} :
    Succeeds (x >>= f) ↔ ∃ a, x = .ok a ∧ Succeeds (f a) := by
  constructor
  · rintro ⟨b, hb⟩
    rcases exists_of_bind_eq_ok hb with ⟨a, ha, hb⟩
    exact ⟨a, ha, b, hb⟩
  · rintro ⟨a, rfl, h⟩
    exact h

/-- Steps that fail do so in the first or in those that follow it. -/
theorem of_bind_eq_error {x : Except ε α} {f : α → Except ε β} {e : ε} (h : x >>= f = .error e) :
    x = .error e ∨ ∃ a, x = .ok a ∧ f a = .error e := by
  cases x with
  | ok a => exact .inr ⟨a, rfl, h⟩
  | error e' => exact .inl (congrArg _ (Except.error.inj h))

/-- Steps that end in a step which never gives a result never give it. -/
theorem bind_ne_ok {x : Except ε α} {f : α → Except ε β} {b : β} (h : ∀ a, f a ≠ .ok b) :
    (x >>= f) ≠ .ok b := by
  intro hbind
  rcases exists_of_bind_eq_ok hbind with ⟨a, -, ha⟩
  exact h a ha

theorem exists_of_map_eq_ok {x : Except ε α} {f : α → β} {b : β} (h : x.map f = .ok b) :
    ∃ a, x = .ok a ∧ f a = b := by
  cases x with
  | ok a => exact ⟨a, rfl, Except.ok.inj h⟩
  | error e => cases h

theorem eq_of_map_eq_ok {x : Except ε α} {f : α → β} {a : α} {b : β} (hx : x = .ok a)
    (h : x.map f = .ok b) : f a = b := by
  rcases exists_of_map_eq_ok h with ⟨a', ha', rfl⟩
  rw [Except.ok.inj (hx.symm.trans ha')]

/-- What is seen of a result is seen of one that is there. -/
theorem exists_of_toOption_map {x : Except ε α} {f : α → β} {b : β}
    (h : (x.map f).toOption = some b) : ∃ a, x = .ok a ∧ f a = b := by
  cases x with
  | ok a => exact ⟨a, rfl, Option.some.inj h⟩
  | error e => cases h

theorem eq_error_of_map {x : Except ε α} {f : α → β} {e : ε} (h : x.map f = .error e) :
    x = .error e := by
  cases x with
  | ok a => cases h
  | error e' => exact congrArg _ (Except.error.inj h)

theorem map_ne_ok {x : Except ε α} {f : α → β} {b : β} (h : ∀ a, f a ≠ b) :
    x.map f ≠ .ok b := by
  intro hmap
  rcases exists_of_map_eq_ok hmap with ⟨a, -, ha⟩
  exact h a ha

variable {f : α → Except ε β} {as : List α}

/-- A run over a list fails with the fault of one of the items. -/
theorem exists_of_mapM_eq_error {e : ε} (h : as.mapM f = .error e) : ∃ a ∈ as, f a = .error e := by
  -- The items before the one that fails give results, so the fault is that of the first or of a run
  -- over the rest.
  induction as with
  | nil => simp [pure, Except.pure] at h
  | cons a rest ih =>
    rw [List.mapM_cons] at h
    cases hfirst : f a with
    | error e' =>
      have heq : e' = e := by simpa [hfirst, bind, Except.bind] using h
      exact ⟨a, List.mem_cons_self, heq ▸ hfirst⟩
    | ok b =>
      cases hrest : rest.mapM f with
      | error e' =>
        have heq : e' = e := by simpa [hfirst, hrest, bind, Except.bind] using h
        rcases ih (heq ▸ hrest) with ⟨c, hc, hfault⟩
        exact ⟨c, List.mem_cons_of_mem _ hc, hfault⟩
      | ok bs => simp [hfirst, hrest, bind, Except.bind, pure, Except.pure] at h

theorem succeeds_mapM_iff : Succeeds (as.mapM f) ↔ ∀ a ∈ as, Succeeds (f a) := by
  constructor
  · intro h
    induction as with
    | nil => simp
    | cons a rest ih =>
      rcases h with ⟨bs, hbs⟩
      rw [List.mapM_cons] at hbs
      cases hfirst : f a with
      | error e => simp [hfirst, bind, Except.bind] at hbs
      | ok b =>
        cases hrest : rest.mapM f with
        | error e => simp [hfirst, hrest, bind, Except.bind] at hbs
        | ok bs =>
          intro c hc
          rcases List.mem_cons.1 hc with rfl | hc
          · exact ⟨b, hfirst⟩
          · exact ih ⟨bs, hrest⟩ c hc
  · intro h
    cases hrun : as.mapM f with
    | ok bs => exact succeeds_ok bs
    | error e =>
      rcases exists_of_mapM_eq_error hrun with ⟨a, ha, hfault⟩
      exact absurd (hfault ▸ h a ha) (not_succeeds_error e)

/-- A run over a list succeeds with the results of the items, in order. -/
theorem mapM_eq_ok_iff {bs : List β} : as.mapM f = .ok bs ↔ as.map f = bs.map .ok := by
  induction as generalizing bs with
  | nil => cases bs <;> simp [pure, Except.pure]
  | cons a rest ih =>
    rw [List.mapM_cons, List.map_cons]
    constructor
    · intro h
      rcases exists_of_bind_eq_ok h with ⟨b, hfirst, h⟩
      rcases exists_of_bind_eq_ok h with ⟨others, hrest, h⟩
      cases h
      rw [hfirst, ih.1 hrest, List.map_cons]
    · intro h
      rcases List.map_eq_cons_iff.1 h.symm with ⟨b, others, rfl, hfirst, hrest⟩
      rw [← hfirst, ih.2 hrest.symm]
      rfl

/-- Steps that all succeed give the results of steps that cannot fail. -/
theorem mapM_eq_ok_map {g : α → β} (h : ∀ a ∈ as, f a = .ok (g a)) :
    as.mapM f = .ok (as.map g) := by
  refine mapM_eq_ok_iff.2 ?_
  rw [List.map_map]
  exact List.map_congr_left h

/-- Each result of a run is that of an item. -/
theorem exists_of_mem_mapM {b : β} {bs : List β} (h : as.mapM f = .ok bs) (hb : b ∈ bs) :
    ∃ a ∈ as, f a = .ok b := by
  have hresult : .ok b ∈ as.map f := mapM_eq_ok_iff.1 h ▸ List.mem_map_of_mem hb
  exact List.mem_map.1 hresult

/-- What each result shares with its item the results share with the items. -/
theorem map_eq_map_of_mapM {γ : Type} {g : α → γ} {k : β → γ} {bs : List β}
    (hshared : ∀ a b, f a = .ok b → k b = g a) (h : as.mapM f = .ok bs) : bs.map k = as.map g := by
  have hresults : as.map f = bs.map .ok := mapM_eq_ok_iff.1 h
  clear h
  induction as generalizing bs with
  | nil => simpa using hresults.symm
  | cons a rest ih =>
    rcases List.map_eq_cons_iff.1 hresults.symm with ⟨b, others, rfl, hfirst, hrest⟩
    simp [hshared a b hfirst.symm, ih hrest.symm]

/-- A run whose steps give what those of another run give, changed in one way, gives the results of
the other run, changed in that way. -/
theorem mapM_eq_map {γ : Type} {f' : α → Except ε γ} {k : β → γ}
    (h : ∀ a ∈ as, f' a = (f a).map k) : as.mapM f' = (as.mapM f).map (List.map k) := by
  induction as with
  | nil => rfl
  | cons a rest ih =>
    rw [List.mapM_cons, List.mapM_cons, h a List.mem_cons_self,
      ih fun b hb => h b (List.mem_cons_of_mem a hb)]
    cases f a with
    | error e => rfl
    | ok b => cases rest.mapM f <;> rfl

/-- A run over some of the items gives the results of these, if the results tell which they are. -/
theorem mapM_filter {keep : α → Bool} {kept : β → Bool} {bs : List β}
    (hshared : ∀ a b, f a = .ok b → kept b = keep a) (h : as.mapM f = .ok bs) :
    (as.filter keep).mapM f = .ok (bs.filter kept) := by
  have hresults : as.map f = bs.map .ok := mapM_eq_ok_iff.1 h
  refine mapM_eq_ok_iff.2 ?_
  clear h
  induction as generalizing bs with
  | nil =>
    have hnone : bs = [] := by simpa using hresults.symm
    simp [hnone]
  | cons a rest ih =>
    rcases List.map_eq_cons_iff.1 hresults.symm with ⟨b, others, rfl, hfirst, hrest⟩
    have hkept : kept b = keep a := hshared a b hfirst.symm
    have hothers := ih hrest.symm
    cases hkeep : keep a <;> simp [hkept, hkeep, hfirst.symm, hothers]

end

/-! ## Refusals -/

/-- The computation fails at a numeral that gives no number if the condition holds, and succeeds if
it does not. -/
structure RefusesIf {α : Type} (condition : Prop) (x : Except Fault α) : Prop where
  refuses : condition → ∃ cause, x = .error (.number cause) ∧ cause.isOverflow = false
  succeeds : ¬ condition → Succeeds x

section

variable {α β : Type} {x : Except Fault α} {condition : Prop}

theorem Succeeds.refusesIf (h : Succeeds x) (hfalse : ¬ condition) : RefusesIf condition x :=
  ⟨fun hcondition => absurd hcondition hfalse, fun _ => h⟩

namespace RefusesIf

theorem congr {other : Prop} (h : RefusesIf condition x) (hiff : condition ↔ other) :
    RefusesIf other x where
  refuses hother := h.refuses (hiff.2 hother)
  succeeds hfalse := h.succeeds fun hcondition => hfalse (hiff.1 hcondition)

theorem map (h : RefusesIf condition x) (f : α → β) : RefusesIf condition (x.map f) where
  refuses hcondition := by
    rcases h.refuses hcondition with ⟨cause, rfl, hcause⟩
    exact ⟨cause, rfl, hcause⟩
  succeeds hfalse := (succeeds_map_iff f).2 (h.succeeds hfalse)

/-- A step that is refused is followed by nothing; what follows a step that succeeds succeeds. -/
theorem bind {f : α → Except Fault β} (h : RefusesIf condition x) (hf : ∀ a, Succeeds (f a)) :
    RefusesIf condition (x >>= f) where
  refuses hcondition := by
    rcases h.refuses hcondition with ⟨cause, rfl, hcause⟩
    exact ⟨cause, rfl, hcause⟩
  succeeds hfalse := (h.succeeds hfalse).bind fun a _ => hf a

/-- A run over a list is refused if one of the items is. -/
theorem mapM {f : α → Except Fault β} {conditions : α → Prop} {as : List α}
    (h : ∀ a ∈ as, RefusesIf (conditions a) (f a)) :
    RefusesIf (∃ a ∈ as, conditions a) (as.mapM f) where
  refuses := by
    rintro ⟨a, ha, hcondition⟩
    cases hrun : as.mapM f with
    | ok bs =>
      rcases (h a ha).refuses hcondition with ⟨cause, hcause, -⟩
      have hsucceeds : Succeeds (f a) := succeeds_mapM_iff.1 ⟨bs, hrun⟩ a ha
      exact absurd (hcause ▸ hsucceeds) (not_succeeds_error _)
    | error e =>
      -- The run may have stopped at another item than the given one, which was refused as well.
      rcases exists_of_mapM_eq_error hrun with ⟨b, hb, hfault⟩
      have hother : conditions b := Classical.byContradiction fun hfalse =>
        not_succeeds_error e (hfault ▸ (h b hb).succeeds hfalse)
      rcases (h b hb).refuses hother with ⟨cause, hcause, hoverflow⟩
      have heq : e = .number cause := Except.error.inj (hfault.symm.trans hcause)
      exact ⟨cause, by rw [heq], hoverflow⟩
  succeeds hnone :=
    succeeds_mapM_iff.2 fun a ha => (h a ha).succeeds fun hcondition => hnone ⟨a, ha, hcondition⟩

end RefusesIf

end

/-! ## Judgements -/

namespace Finding

/-- A judgement on places is a run over them. -/
theorem judgeOrFail_eq (judgement : Place → Except Fault (Option String)) (ps : List Place) :
    judgeOrFail judgement ps =
      (ps.mapM fun p => (judgement p).map fun verdict => verdict.map (about p)).map
        fun found => found.filterMap id := by
  induction ps with
  | nil => rfl
  | cons p rest ih =>
    -- A fault at the place comes before one further on, on both sides.
    rw [judgeOrFail, List.mapM_cons, ih]
    cases judgement p with
    | error e => rfl
    | ok verdict =>
      cases rest.mapM fun p => (judgement p).map fun verdict => verdict.map (about p) with
      | error e => rfl
      | ok found => cases verdict <;> rfl

variable {judgement : Place → Except Fault (Option String)} {ps : List Place}

/-- Each finding is what the judgement says of one of the places. -/
theorem exists_of_mem_judgeOrFail {f : Finding} {found : List Finding}
    (h : judgeOrFail judgement ps = .ok found) (hf : f ∈ found) :
    ∃ p ∈ ps, ∃ message, judgement p = .ok (some message) ∧ f = about p message := by
  induction ps generalizing found with
  | nil =>
    cases h
    cases hf
  | cons p rest ih =>
    rcases exists_of_bind_eq_ok h with ⟨verdict, hverdict, hrest⟩
    rcases exists_of_bind_eq_ok hrest with ⟨others, hothers, hfound⟩
    cases hfound
    have hlater (hmem : f ∈ others) :
        ∃ q ∈ p :: rest, ∃ message, judgement q = .ok (some message) ∧ f = about q message := by
      rcases ih hothers hmem with ⟨q, hq, hsaid⟩
      exact ⟨q, List.mem_cons_of_mem p hq, hsaid⟩
    cases verdict with
    | none => exact hlater hf
    | some message =>
      rcases List.mem_cons.1 hf with rfl | hmem
      · exact ⟨p, List.mem_cons_self, message, hverdict, rfl⟩
      · exact hlater hmem

theorem succeeds_judgeOrFail_iff :
    Succeeds (judgeOrFail judgement ps) ↔ ∀ p ∈ ps, Succeeds (judgement p) := by
  rw [judgeOrFail_eq, succeeds_map_iff, succeeds_mapM_iff]
  simp only [succeeds_map_iff]

theorem refusesIf_judgeOrFail {conditions : Place → Prop}
    (h : ∀ p, RefusesIf (conditions p) (judgement p)) :
    RefusesIf (∃ p ∈ ps, conditions p) (judgeOrFail judgement ps) := by
  rw [judgeOrFail_eq]
  exact (RefusesIf.mapM fun p _ => (h p).map _).map _

end Finding

end MarkupAudit
