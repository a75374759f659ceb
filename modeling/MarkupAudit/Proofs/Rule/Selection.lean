import MarkupAudit.Rule.Selection

/-!
# Which categories are chosen

The wishes are gone through until one of them asks for all categories. Up to there each has to name
a category, and the first one that names none is what the choice fails with; what stands behind the
wish for all categories is never looked at. Where there is no such wish, exactly the named
categories are chosen, and an empty choice chooses all. So where every wish names a category, only
these categories matter.

Main statements: wishes that name categories are gathered (`exists_gather_append`); wishes are all
named, or there is a first one that names nothing (`named_or_exists_unnamed`); a name may be spelled
in letters of either case with blanks around it (`lower_trim_of_spells`); `Choice.selection_laws`.
-/

namespace MarkupAudit

namespace Text

theorem visible_of_toLower {c : Char} (h : 97 ≤ c.toLower.toNat ∧ c.toLower.toNat ≤ 122) :
    33 ≤ c.toNat ∧ c.toNat ≤ 126 := by
  unfold Char.toLower at h
  split at h
  · next hupper =>
    simp only [ge_iff_le, UInt32.le_iff_toNat_le] at hupper
    change 65 ≤ c.toNat ∧ c.toNat ≤ 90 at hupper
    omega
  · omega

end Text

namespace Category

/-- A text spells a name: in letters of either case, with blanks around it. -/
def Spells (text name : String) : Prop :=
  ∃ front word back : String, text = front ++ word ++ back ∧ Text.isBlankText front = true ∧
    Text.isBlankText back = true ∧ word.toList.map Char.toLower = name.toList

theorem letters_of_name (category : Category) :
    category.name.toList.all fun c => decide (97 ≤ c.toNat) && decide (c.toNat ≤ 122) := by
  cases category <;> decide

/-- A spelling of the name of a category is the name, apart from case and the blanks around it. -/
theorem lower_trim_of_spells {text : String} {category : Category}
    (h : Spells text category.name) : Text.lower (Text.trim text) = category.name := by
  rcases h with ⟨front, word, back, rfl, hfront, hback, hword⟩
  have hvisible : ∀ c ∈ word.toList, 33 ≤ c.toNat ∧ c.toNat ≤ 126 := by
    intro c hc
    have hmem : c.toLower ∈ category.name.toList := hword ▸ List.mem_map_of_mem hc
    have hletter := List.all_eq_true.1 (letters_of_name category) _ hmem
    exact Text.visible_of_toLower (by simpa using hletter)
  have hblank : ∀ c ∈ word.toList, Text.isBlank c = false :=
    fun c hc => Text.not_isBlank_of_visible (hvisible c hc)
  have htrim : Chars.trim (front ++ word ++ back).toList = word.toList := by
    rw [String.toList_append, String.toList_append, Chars.trim_append_append hfront hback]
    exact Chars.trim_eq_self (fun c hc => hblank c (List.mem_of_head? hc))
      (fun c hc => hblank c (List.mem_of_getLast? hc))
  have hascii : ∀ c ∈ word.toList, c.toNat < 0x80 :=
    fun c hc => Nat.lt_of_le_of_lt (hvisible c hc).2 (by decide)
  have hlower := Text.lowerFrom_append hascii [] []
  rw [List.append_nil, Text.lowerFrom, List.append_nil, hword] at hlower
  rw [Text.trim, htrim, Text.lower, String.toList_ofList, Chars.lower, hlower, String.ofList_toList]

theorem ofName?_eq_some_iff {name : String} {category : Category} :
    ofName? name = some category ↔ name = category.name := by
  constructor
  · intro h
    exact (by simpa using List.find?_some h : category.name = name).symm
  · rintro rfl
    exact ofName?_name category

end Category

namespace Choice

/-- The category that a wish names, regardless of case and surrounding blanks. -/
def Names : Choice → Category → Prop
  | .exact wanted, category => wanted = category
  | .named text, category => Text.lower (Text.trim text) = category.name

instance : (choice : Choice) → (category : Category) → Decidable (choice.Names category)
  | .exact wanted, category => inferInstanceAs (Decidable (wanted = category))
  | .named text, category =>
    inferInstanceAs (Decidable (Text.lower (Text.trim text) = category.name))

variable {choice : Choice} {category : Category} {choices front : List Choice}

/-! ## One wish -/

theorem resolve_eq_ok_iff : choice.resolve = .ok category ↔ choice.Names category := by
  cases choice with
  | exact wanted => simp [resolve, Names]
  | named text =>
    have hnamed := @Category.ofName?_eq_some_iff (Element.normalized text) category
    simp only [resolve, Category.resolve, Names]
    rw [Element.normalized] at hnamed ⊢
    rw [← hnamed]
    cases Category.ofName? (Text.lower (Text.trim text)) <;> simp

/-- A wish names one category at most. -/
theorem names_iff (h : choice.Names category) (other : Category) :
    choice.Names other ↔ other = category := by
  rw [← resolve_eq_ok_iff, resolve_eq_ok_iff.2 h, Except.ok.injEq, eq_comm]

theorem resolve_of_unnamed {text : String} (h : ∀ category, ¬ (named text).Names category) :
    (named text).resolve = .error (.unknownName text) := by
  cases hresolve : (named text).resolve with
  | ok category => exact absurd (resolve_eq_ok_iff.1 hresolve) (h category)
  | error fault =>
    rw [resolve, Category.resolve] at hresolve
    split at hresolve <;> cases hresolve
    rfl

/-- No category is called `all`. -/
theorem isAll_of_names (h : choice.Names category) : choice.isAll = false := by
  cases choice with
  | exact wanted => rfl
  | named text =>
    have hname : Element.normalized text = category.name := h
    rw [isAll, hname]
    cases category <;> decide

theorem exists_text_of_unnamed (h : ∀ category, ¬ choice.Names category) :
    ∃ text, choice = .named text := by
  cases choice with
  | exact wanted => exact absurd rfl (h wanted)
  | named text => exact ⟨text, rfl⟩

/-! ## Many wishes -/

/-- Wishes that name categories are gathered, and then the ones behind them. -/
theorem exists_gather_append (h : ∀ choice ∈ front, ∃ category, choice.Names category)
    (rest : List Choice) :
    ∃ wanted, (∀ category, category ∈ wanted ↔ ∃ choice ∈ front, choice.Names category) ∧
      gather (front ++ rest) =
        (gather rest).map fun behind => (wanted ++ behind.1, behind.2) := by
  induction front with
  | nil =>
    refine ⟨[], by simp, ?_⟩
    cases hrest : gather rest <;> simp [hrest, Except.map]
  | cons choice front ih =>
    rcases List.forall_mem_cons.1 h with ⟨⟨category, hcategory⟩, hfront⟩
    rcases ih hfront with ⟨wanted, hwanted, hgather⟩
    have hresolve : choice.resolve = .ok category := resolve_eq_ok_iff.2 hcategory
    refine ⟨category :: wanted, ?_, ?_⟩
    · intro other
      simp [names_iff hcategory, hwanted]
    · rw [List.cons_append, gather, isAll_of_names hcategory, hresolve, hgather]
      cases gather rest <;> rfl

/-- Wishes all name categories, or there is a first one that names none. -/
theorem named_or_exists_unnamed (choices : List Choice) :
    (∀ choice ∈ choices, ∃ category, choice.Names category) ∨
      ∃ front text back, choices = front ++ .named text :: back ∧
        (∀ choice ∈ front, ∃ category, choice.Names category) ∧
        ∀ category, ¬ (named text).Names category := by
  induction choices with
  | nil => exact .inl (by simp)
  | cons choice rest ih =>
    by_cases hnamed : ∃ category, choice.Names category
    · rcases ih with hrest | ⟨front, text, back, rfl, hfront, htext⟩
      · exact .inl (List.forall_mem_cons.2 ⟨hnamed, hrest⟩)
      · exact .inr ⟨choice :: front, text, back, rfl,
          List.forall_mem_cons.2 ⟨hnamed, hfront⟩, htext⟩
    · have hunnamed : ∀ category, ¬ choice.Names category := not_exists.1 hnamed
      rcases exists_text_of_unnamed hunnamed with ⟨text, rfl⟩
      exact .inr ⟨[], text, rest, rfl, by simp, hunnamed⟩

/-- The wishes in front of the first one for all categories. -/
def beforeAll (choices : List Choice) : List Choice :=
  choices.take (choices.findIdx isAll)

theorem beforeAll_eq_self (h : choices.length ≤ choices.findIdx isAll) :
    beforeAll choices = choices :=
  List.take_of_length_le h

theorem isAll_of_mem_beforeAll (h : choice ∈ beforeAll choices) : choice.isAll = false := by
  rw [beforeAll, List.mem_take_iff_getElem] at h
  rcases h with ⟨i, hi, rfl⟩
  simpa using List.not_of_lt_findIdx (Nat.lt_of_lt_of_le hi (Nat.min_le_left _ _))

theorem exists_eq_beforeAll_append (h : choices.findIdx isAll < choices.length) :
    ∃ choice back, choices = beforeAll choices ++ choice :: back ∧ choice.isAll = true := by
  refine ⟨choices[choices.findIdx isAll], choices.drop (choices.findIdx isAll + 1), ?_,
    List.findIdx_getElem⟩
  rw [beforeAll, List.getElem_cons_drop, List.take_append_drop]

theorem select_of_gather {wanted : List Category} {everything : Bool}
    (h : gather choices = .ok (wanted, everything)) :
    select choices = .ok (if everything || wanted.isEmpty then Category.all
      else Category.all.filter wanted.contains) := by
  rw [select, h]
  rfl

theorem select_of_fault {fault : Fault} (h : gather choices = .error fault) :
    select choices = .error fault := by
  rw [select, h]
  rfl

/-- A choice fails with the first wish that names nothing, whatever stands behind it. -/
theorem select_of_unnamed {text : String} {back : List Choice}
    (hsplit : beforeAll choices = front ++ .named text :: back)
    (hfront : ∀ choice ∈ front, ∃ category, choice.Names category)
    (htext : ∀ category, ¬ (named text).Names category) :
    select choices = .error (.unknownName text) := by
  have hmem : .named text ∈ beforeAll choices := by simp [hsplit]
  have hall : (named text).isAll = false := isAll_of_mem_beforeAll hmem
  have hstop : gather (.named text :: back ++ choices.drop (choices.findIdx isAll)) =
      .error (.unknownName text) := by
    rw [List.cons_append, gather, hall, resolve_of_unnamed htext]
    rfl
  rcases exists_gather_append hfront (.named text :: back ++
    choices.drop (choices.findIdx isAll)) with ⟨wanted, -, hgather⟩
  rw [hstop, ← List.append_assoc, ← hsplit, beforeAll, List.take_append_drop] at hgather
  exact select_of_fault hgather

/-- Where the wishes in front of the one for all categories name categories, all are chosen if there
is such a wish, or none at all, and else the ones that are named. -/
theorem select_of_named (h : ∀ choice ∈ beforeAll choices, ∃ category, choice.Names category) :
    select choices = .ok (if choices.findIdx isAll < choices.length ∨ choices = [] then Category.all
      else Category.all.filter fun category =>
        choices.any fun choice => decide (choice.Names category)) := by
  by_cases hall : choices.findIdx isAll < choices.length
  · rcases exists_eq_beforeAll_append hall with ⟨choice, back, hsplit, hchoice⟩
    rcases exists_gather_append h (choice :: back) with ⟨wanted, -, hgather⟩
    have hstop : gather (choice :: back) = .ok ([], true) := by rw [gather, if_pos hchoice]
    rw [← hsplit, hstop] at hgather
    have heverything : gather choices = .ok (wanted, true) := by
      simpa [Except.map] using hgather
    rw [select_of_gather heverything, if_pos (Or.inl hall), Bool.true_or, if_pos rfl]
  · rw [beforeAll_eq_self (Nat.le_of_not_lt hall)] at h
    rcases exists_gather_append h [] with ⟨wanted, hwanted, hgather⟩
    have hend : gather choices = .ok (wanted, false) := by simpa [gather, Except.map] using hgather
    rw [select_of_gather hend]
    cases choices with
    | nil =>
      have hnone : wanted = [] := List.eq_nil_iff_forall_not_mem.2 (by simpa using hwanted)
      simp [hnone]
    | cons choice rest =>
      rcases h choice List.mem_cons_self with ⟨category, hcategory⟩
      have hsome : category ∈ wanted := (hwanted category).2 ⟨choice, List.mem_cons_self, hcategory⟩
      have hempty : wanted.isEmpty = false := by
        simpa using List.ne_nil_of_mem hsome
      have hcontains : ∀ category, wanted.contains category =
          (choice :: rest).any fun choice => decide (choice.Names category) := by
        intro category
        rw [Bool.eq_iff_iff, List.contains_iff_mem, hwanted, List.any_eq_true]
        simp
      have hnot : ¬ ((choice :: rest).findIdx isAll < (choice :: rest).length ∨
          choice :: rest = []) := by
        rintro (hless | hnil)
        · exact hall hless
        · cases hnil
      rw [hempty, if_neg (by decide), if_neg hnot]
      exact congrArg Except.ok (List.filter_congr fun category _ => hcontains category)

/-- No wish that names a category is one for all of them. -/
theorem select_of_all_named (h : ∀ choice ∈ choices, ∃ category, choice.Names category) :
    select choices = .ok (if choices = [] then Category.all
      else Category.all.filter fun category =>
        choices.any fun choice => decide (choice.Names category)) := by
  have hnone : choices.findIdx isAll = choices.length := by
    refine List.findIdx_eq_length.2 fun choice hchoice => ?_
    rcases h choice hchoice with ⟨category, hcategory⟩
    exact isAll_of_names hcategory
  have hbefore : beforeAll choices = choices := beforeAll_eq_self (Nat.le_of_eq hnone.symm)
  have hselect := select_of_named (hbefore.symm ▸ h)
  simpa [hnone] using hselect

theorem eq_nil_iff_of_named (h : ∀ choice ∈ choices, ∃ category, choice.Names category) :
    choices = [] ↔ ∀ category, ¬ ∃ choice ∈ choices, choice.Names category := by
  constructor
  · rintro rfl category ⟨choice, hchoice, -⟩
    cases hchoice
  · intro hnone
    refine List.eq_nil_iff_forall_not_mem.2 fun choice hchoice => ?_
    rcases h choice hchoice with ⟨category, hcategory⟩
    exact hnone category ⟨choice, hchoice, hcategory⟩

/-- A choice fails with the first wish before the one for all categories that names no category.
Without such a wish all categories are chosen if all are wished for or nothing is, and else the
named ones. What is chosen is something, and each category once, in the order of categories. Wishes
that all name categories choose the same as others that name the same categories, and a name may be
spelled in either case with blanks around it. -/
theorem selection_laws (choices : List Choice) :
    (∀ fault, select choices = .error fault ↔
      ∃ front text back, beforeAll choices = front ++ .named text :: back ∧
        (∀ choice ∈ front, ∃ category, choice.Names category) ∧
        (∀ category, ¬ (named text).Names category) ∧ fault = .unknownName text) ∧
    ((∀ choice ∈ beforeAll choices, ∃ category, choice.Names category) →
      select choices =
        .ok (if choices.findIdx isAll < choices.length ∨ choices = [] then Category.all
          else Category.all.filter fun category =>
            choices.any fun choice => decide (choice.Names category))) ∧
    (∀ categories, select choices = .ok categories →
      categories ≠ [] ∧ categories.Nodup ∧ categories.Sublist Category.all) ∧
    (∀ others, (∀ choice ∈ choices ++ others, ∃ category, choice.Names category) →
      (∀ category, (∃ choice ∈ choices, choice.Names category) ↔
        ∃ choice ∈ others, choice.Names category) → select choices = select others) ∧
    ∀ text category, Category.Spells text category.name → (named text).Names category := by
  refine ⟨?_, select_of_named, ?_, ?_, fun text category => Category.lower_trim_of_spells⟩
  · intro fault
    constructor
    · intro hfault
      rcases named_or_exists_unnamed (beforeAll choices) with hnamed | hunnamed
      · rw [select_of_named hnamed] at hfault
        cases hfault
      · rcases hunnamed with ⟨front, text, back, hsplit, hfront, htext⟩
        rw [select_of_unnamed hsplit hfront htext] at hfault
        exact ⟨front, text, back, hsplit, hfront, htext, (Except.error.inj hfault).symm⟩
    · rintro ⟨front, text, back, hsplit, hfront, htext, rfl⟩
      exact select_of_unnamed hsplit hfront htext
  · intro categories hselect
    have hsublist := sublist_of_select hselect
    exact ⟨select_ne_nil hselect, (by decide : Category.all.Nodup).sublist hsublist, hsublist⟩
  · intro others hnamed hsame
    rcases List.forall_mem_append.1 hnamed with ⟨hchoices, hothers⟩
    rw [select_of_all_named hchoices, select_of_all_named hothers]
    have hnil : choices = [] ↔ others = [] := by
      rw [eq_nil_iff_of_named hchoices, eq_nil_iff_of_named hothers]
      exact forall_congr' fun category => not_congr (hsame category)
    have hany : ∀ category, (choices.any fun choice => decide (choice.Names category)) =
        others.any fun choice => decide (choice.Names category) := by
      intro category
      rw [Bool.eq_iff_iff, List.any_eq_true, List.any_eq_true]
      simpa using hsame category
    simp only [hnil, hany]

/-- Two spellings of one name choose what the category itself does. A name of nothing is told of
before a wish for all categories is reached. -/
theorem selection_laws_errors :
    select [.named " Errors", .exact .advice, .named "ERRORS\n"] =
        select [.exact .advice, .exact .errors] ∧
      select [.exact .advice, .named "bogus ", .named "all"] = .error (.unknownName "bogus ") := by
  constructor
  · rcases selection_laws [.named " Errors", .exact .advice, .named "ERRORS\n"] with
      ⟨-, -, -, hsame, hspelled⟩
    have hfirst : (named " Errors").Names .errors :=
      hspelled _ _ ⟨" ", "Errors", "", rfl, by decide, by decide, by decide⟩
    have hlast : (named "ERRORS\n").Names .errors :=
      hspelled _ _ ⟨"", "ERRORS", "\n", rfl, by decide, by decide, by decide⟩
    refine hsame [.exact .advice, .exact .errors] ?_ ?_
    · simp only [List.cons_append, List.nil_append, List.forall_mem_cons]
      exact ⟨⟨_, hfirst⟩, ⟨_, rfl⟩, ⟨_, hlast⟩, ⟨_, rfl⟩, ⟨_, rfl⟩, by simp⟩
    · have hadvice : (exact .advice).Names .advice := rfl
      have herrors : (exact .errors).Names .errors := rfl
      intro category
      simp only [List.mem_cons, List.not_mem_nil, or_false, exists_eq_or_imp, exists_eq_left,
        names_iff hfirst, names_iff hlast, names_iff hadvice, names_iff herrors]
      exact ⟨fun h => h.elim .inr id, .inr⟩
  · rcases selection_laws [.exact .advice, .named "bogus ", .named "all"] with ⟨hfault, -⟩
    have hunnamed : ∀ category, ¬ (named "bogus ").Names category := by
      intro category
      cases category <;> decide +kernel
    exact (hfault _).2 ⟨[.exact .advice], "bogus ", [], by decide +kernel, by simp [Names],
      hunnamed, rfl⟩

end Choice

end MarkupAudit
