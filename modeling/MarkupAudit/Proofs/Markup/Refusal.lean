import MarkupAudit.Markup.Scan
import MarkupAudit.Proofs.Markup.Numerals

/-!
# Where scanning is given up

There are three things that no walk over a markup text gets past: a marked section of no known kind,
a decimal reference with too many digits in running text, and a tag with such a reference in one of
its values. Anything else is taken, as whatever it may be. So a text is scanned unless a walk comes
to one of the three, outside the content that is taken as it is; and no walk does when the text has
neither the beginning of a marked section nor such a numeral anywhere.

Main statements: `rejectsIf_step`, `succeeds_walk_iff` and `succeeds_events_iff`.
-/

namespace MarkupAudit.Markup.Scan

open Text (isBlank)
open Reference (BeginsLong HasLong TooLong)

/-! ## What no step takes -/

/-- The characters of the keyword of a marked section. -/
def keyword (body : List Char) : List Char :=
  body.takeWhile fun d => d.isAlphanum || d = '-' || d = '_' || d = '.'

/-- The text begins with something that no step takes. -/
inductive Blocked : List Char → Prop where
  /-- A marked section whose keyword does not begin with a letter. -/
  | nameless {c : Char} {rest : List Char} (hsign : c.isAlpha = false) :
      Blocked ('<' :: '!' :: '[' :: c :: rest)
  /-- A marked section with an unknown keyword that does not go on to the end of the text. -/
  | unknown {c : Char} {rest : List Char} (hletter : c.isAlpha = true)
      (hends : ∃ d ∈ (c :: rest).drop (keyword (c :: rest)).length, isBlank d = false)
      (hkind : Text.lower (String.ofList (keyword (c :: rest))) ∉
        standardSections ++ conditionalSections) :
      Blocked ('<' :: '!' :: '[' :: c :: rest)
  /-- A decimal reference with too many digits and something behind it that is no digit at all. -/
  | numeral {rest behind : List Char} {c : Char} (hlong : BeginsLong rest)
      (hends : rest.dropWhile Char.isDigit = c :: behind) (hother : Json.hexValue? c = none) :
      Blocked ('&' :: '#' :: rest)
  /-- A tag, or something that breaks off like one, with a value that cannot be decoded. -/
  | tag {c : Char} {rest : List Char} {found : Tag.Written} (hletter : c.isAlpha = true)
      (hends : Tag.mayGoOn (Tag.ending (c :: rest)) = false)
      (hmem : found ∈ (Tag.attributesOf (c :: rest)).1) (hlong : HasLong found.2) :
      Blocked ('<' :: c :: rest)

/-- A step that is not given up. -/
def Takes (s : Step) : Prop :=
  ∀ fault, s ≠ .reject fault

/-- A numeral that a fault names is too long. -/
def Explained : Fault → Prop
  | .numeral cause => TooLong cause
  | _ => True

/-- The step is given up under the condition and only then. -/
structure RejectsIf (condition : Prop) (s : Step) : Prop where
  rejects : condition → ∃ fault, s = .reject fault ∧ Explained fault
  takes : ¬ condition → Takes s

variable {final : Bool} {raw : Option String} {c : Char} {rest body : List Char}

theorem Takes.rejectsIf {s : Step} {condition : Prop} (h : Takes s) (hfalse : ¬ condition) :
    RejectsIf condition s :=
  ⟨fun hcondition => absurd hcondition hfalse, fun _ => h⟩

theorem rejectsIf_reject {fault : Fault} {condition : Prop} (h : Explained fault)
    (hcondition : condition) : RejectsIf condition (.reject fault) :=
  ⟨fun _ => ⟨fault, rfl, h⟩, fun hfalse => absurd hcondition hfalse⟩

theorem RejectsIf.congr {s : Step} {condition other : Prop} (h : RejectsIf condition s)
    (hiff : condition ↔ other) : RejectsIf other s :=
  ⟨fun hother => h.rejects (hiff.2 hother), fun hfalse => h.takes (mt hiff.1 hfalse)⟩

@[simp] theorem takes_advance (events : List Event) (raw : Option String) (more : Nat) :
    Takes (.advance events raw more) := by
  rintro fault ⟨⟩

@[simp] theorem takes_stop (events : List Event) (taken : Nat) : Takes (.stop events taken) := by
  rintro fault ⟨⟩

/-! ## The steps one by one -/

@[simp] theorem takes_unfinished : Takes (unfinished final raw c rest) := by
  fun_cases unfinished final raw c rest <;> simp

@[simp] theorem takes_bracketedAside (kind : Aside) (opening : Nat) :
    Takes (bracketedAside final kind opening rest) := by
  fun_cases bracketedAside final kind opening rest <;> simp

@[simp] theorem takes_endTag : Takes (endTag final raw body) := by
  fun_cases endTag final raw body <;> simp

theorem letter_or_mark_of_blocked (h : Blocked ('<' :: c :: rest)) :
    c.isAlpha = true ∨ c = '!' := by
  cases h with
  | nameless => exact .inr rfl
  | unknown => exact .inr rfl
  | tag hletter => exact .inl hletter

theorem bracket_or_ampersand_of_blocked (h : Blocked (c :: rest)) : c = '<' ∨ c = '&' := by
  cases h with
  | nameless => exact .inl rfl
  | unknown => exact .inl rfl
  | numeral => exact .inr rfl
  | tag => exact .inl rfl

theorem blocked_tag_iff (hletter : c.isAlpha = true) :
    Blocked ('<' :: c :: rest) ↔ ∃ cause, Tag.recognise (c :: rest) = .undecodable cause := by
  rw [Tag.exists_undecodable_iff]
  constructor
  · intro h
    cases h with
    | nameless => exact absurd hletter (by decide)
    | unknown => exact absurd hletter (by decide)
    | tag _ hends hmem hlong => exact ⟨hends, _, hmem, hlong⟩
  · rintro ⟨hends, found, hmem, hlong⟩
    exact .tag hletter hends hmem hlong

theorem rejectsIf_startTag (hletter : c.isAlpha = true) :
    RejectsIf (Blocked ('<' :: c :: rest)) (startTag final (c :: rest)) := by
  refine RejectsIf.congr ?_ (blocked_tag_iff hletter).symm
  fun_cases startTag final (c :: rest) with
  | case1 _ _ _ _ htag => exact (takes_advance _ _ _).rejectsIf (by simp [htag])
  | case2 _ hbroken => exact (takes_advance _ _ _).rejectsIf (by simp [hbroken])
  | case3 hunfinished => exact takes_unfinished.rejectsIf (by simp [hunfinished])
  | case4 cause hcause => exact rejectsIf_reject (Tag.tooLong_of_undecodable hcause) ⟨cause, hcause⟩

theorem blocked_section_iff (hletter : c.isAlpha = true) :
    Blocked ('<' :: '!' :: '[' :: c :: rest) ↔
      (∃ d ∈ (c :: rest).drop (keyword (c :: rest)).length, isBlank d = false) ∧
        Text.lower (String.ofList (keyword (c :: rest))) ∉
          standardSections ++ conditionalSections := by
  constructor
  · intro h
    cases h with
    | nameless hsign => exact absurd hletter (ne_true_of_eq_false hsign)
    | unknown _ hends hkind => exact ⟨hends, hkind⟩
    | tag hletter => exact absurd hletter (by decide)
  · rintro ⟨hends, hkind⟩
    exact .unknown hletter hends hkind

theorem keyword_cons (hletter : c.isAlpha = true) : keyword (c :: rest) =
    c :: rest.takeWhile fun d => d.isAlphanum || d = '-' || d = '_' || d = '.' := by
  rw [keyword, List.takeWhile_cons_of_pos (by simp [Char.isAlphanum, hletter])]

/-- The keyword of a marked section goes on to the end of the text, but for blanks. -/
theorem not_ends_iff : (¬ ∃ d ∈ body.drop (keyword body).length, isBlank d = false) ↔
    (keyword body).length + ((body.drop (keyword body).length).takeWhile isBlank).length =
      body.length := by
  have hle : (keyword body).length ≤ body.length := (List.takeWhile_prefix _).length_le
  have hall : (¬ ∃ d ∈ body.drop (keyword body).length, isBlank d = false) ↔
      (body.drop (keyword body).length).takeWhile isBlank = body.drop (keyword body).length := by
    rw [List.takeWhile_eq_self_iff]
    simp
  have hlength : (body.drop (keyword body).length).takeWhile isBlank =
      body.drop (keyword body).length ↔
        ((body.drop (keyword body).length).takeWhile isBlank).length =
          (body.drop (keyword body).length).length :=
    ⟨congrArg _, List.IsPrefix.eq_of_length (List.takeWhile_prefix isBlank)⟩
  rw [hall, hlength, List.length_drop]
  omega

/-- How a section ends is known for the known kinds. -/
theorem signs_eq_none_iff (kind : String) :
    (if standardSections.contains kind then some [']', '>']
      else if conditionalSections.contains kind then some ['>'] else none) = none ↔
        kind ∉ standardSections ++ conditionalSections := by
  by_cases hstandard : kind ∈ standardSections
  · simp [hstandard]
  · by_cases hconditional : kind ∈ conditionalSections <;> simp [hstandard, hconditional]

theorem not_blocked_section_nil : ¬ Blocked ['<', '!', '['] := by
  intro h
  cases h with
  | tag hletter => exact absurd hletter (by decide)

theorem rejectsIf_markedSection :
    RejectsIf (Blocked ('<' :: '!' :: '[' :: body)) (markedSection final body) := by
  cases body with
  | nil =>
    rw [markedSection]
    exact takes_unfinished.rejectsIf not_blocked_section_nil
  | cons c rest =>
    by_cases hletter : c.isAlpha = true
    · refine RejectsIf.congr ?_ (blocked_section_iff hletter).symm
      simp only [markedSection, hletter, if_true, ← keyword_cons hletter]
      split
      case isTrue hgoes =>
        -- More of the keyword may follow, so nothing is said about it yet.
        exact takes_unfinished.rejectsIf fun h => not_ends_iff.2 hgoes h.1
      case isFalse hends =>
        have hends := not_not.1 (mt not_ends_iff.1 hends)
        split
        case h_1 hnone => exact rejectsIf_reject trivial ⟨hends, (signs_eq_none_iff _).1 hnone⟩
        case h_2 signs hsigns =>
          have hknown : ¬ Text.lower (String.ofList (keyword (c :: rest))) ∉
              standardSections ++ conditionalSections := by
            rw [← signs_eq_none_iff, hsigns]
            exact Option.some_ne_none signs
          refine Takes.rejectsIf ?_ fun h => hknown h.2
          split <;> simp
    · simp only [markedSection, hletter]
      exact rejectsIf_reject trivial (.nameless (Bool.not_eq_true _ ▸ hletter))

theorem numberedReference?_of_decimal (hdigits : (body.takeWhile Char.isDigit).isEmpty = false) :
    numberedReference? body = (body.dropWhile Char.isDigit).head?.bind fun c =>
      if (Json.hexValue? c).isSome then none
      else some ((Reference.decimalNumber (body.takeWhile Char.isDigit)).map Reference.charInText,
        (body.takeWhile Char.isDigit).length + if c = ';' then 1 else 0) := by
  have hlength : (body.takeWhile Char.isDigit).length ≠ 0 := by simpa using hdigits
  have hdrop : body.drop (body.takeWhile Char.isDigit).length = body.dropWhile Char.isDigit :=
    calc body.drop (body.takeWhile Char.isDigit).length
      _ = (body.takeWhile Char.isDigit ++ body.dropWhile Char.isDigit).drop
            (body.takeWhile Char.isDigit).length := by rw [List.takeWhile_append_dropWhile]
      _ = body.dropWhile Char.isDigit := List.drop_left
  simp only [numberedReference?, hdigits, Bool.false_eq_true, if_false, hlength, hdrop]
  cases body.dropWhile Char.isDigit <;> rfl

/-- A number in hexadecimal digits is always read. -/
theorem numberedReference?_ne_error (hempty : (body.takeWhile Char.isDigit).isEmpty = true)
    (cause : Number.Fault) (length : Nat) :
    numberedReference? body ≠ some (.error cause, length) := by
  simp only [numberedReference?, hempty, if_true]
  repeat' split
  all_goals simp [Except.map]

/-- A numbered reference that is not read has too many decimal digits. -/
theorem blocked_of_numberedReference? {cause : Number.Fault} {length : Nat}
    (h : numberedReference? body = some (.error cause, length)) :
    Blocked ('&' :: '#' :: body) ∧ TooLong cause := by
  cases hdigits : (body.takeWhile Char.isDigit).isEmpty with
  | true => exact absurd h (numberedReference?_ne_error hdigits cause length)
  | false =>
    rw [numberedReference?_of_decimal hdigits] at h
    rcases Option.bind_eq_some_iff.1 h with ⟨c, hends, h⟩
    rcases List.head?_eq_some_iff.1 hends with ⟨behind, hends⟩
    split at h
    case isTrue => cases h
    case isFalse hother =>
      have hfault := eq_error_of_map (congrArg Prod.fst (Option.some.inj h))
      exact ⟨.numeral (Reference.decimalNumber_eq_error_iff.1 hfault).1 hends
        (Option.not_isSome_iff_eq_none.1 hother), Reference.tooLong_of_decimalNumber hfault⟩

theorem exists_error_of_blocked (h : Blocked ('&' :: rest)) : ∃ body cause length,
    rest = '#' :: body ∧ numberedReference? body = some (.error cause, length) := by
  cases h with
  | @numeral body behind c hlong hends hother =>
    have hfault := Reference.decimalNumber_eq_error_iff.2 ⟨hlong, rfl⟩
    refine ⟨body, .tooManyDigits (body.takeWhile Char.isDigit).length,
      (body.takeWhile Char.isDigit).length + if c = ';' then 1 else 0, rfl, ?_⟩
    rw [numberedReference?_of_decimal hlong.isEmpty_eq_false, hends, hfault]
    simp [hother, Except.map]

theorem rejectsIf_ampersandStep :
    RejectsIf (Blocked ('&' :: rest)) (ampersandStep final raw rest) := by
  constructor
  · intro h
    rcases exists_error_of_blocked h with ⟨body, cause, length, rfl, herror⟩
    refine ⟨.numeral cause, ?_, (blocked_of_numberedReference? herror).2⟩
    simp [ampersandStep, herror]
  · intro hfalse
    unfold ampersandStep
    split
    case h_1 body =>
      split
      case h_1 => exact takes_advance _ _ _
      case h_2 cause length herror =>
        exact absurd (blocked_of_numberedReference? herror).1 hfalse
      case h_3 => split <;> simp
    case h_2 =>
      repeat' split
      all_goals simp

/-- Behind an exclamation mark only a marked section is not taken. -/
theorem exists_section_of_blocked (h : Blocked ('<' :: '!' :: body)) :
    ∃ rest, body = '[' :: rest := by
  cases h with
  | nameless => exact ⟨_, rfl⟩
  | unknown => exact ⟨_, rfl⟩
  | tag hletter => exact absurd hletter (by decide)

theorem rejectsIf_declaration :
    RejectsIf (Blocked ('<' :: '!' :: body)) (declaration final body) := by
  by_cases hsection : ∃ rest, body = '[' :: rest
  · rcases hsection with ⟨rest, rfl⟩
    exact rejectsIf_markedSection
  · refine Takes.rejectsIf ?_ (mt exists_section_of_blocked hsection)
    unfold declaration
    split
    case h_1 => split <;> simp
    case h_2 rest => exact absurd ⟨rest, rfl⟩ hsection
    case h_3 => split <;> simp

theorem rejectsIf_bracketStep :
    RejectsIf (Blocked ('<' :: rest)) (bracketStep final raw rest) := by
  unfold bracketStep
  split
  case h_1 => exact (takes_stop _ _).rejectsIf (by rintro ⟨⟩)
  case h_2 => exact takes_endTag.rejectsIf (mt letter_or_mark_of_blocked (by decide))
  case h_3 body => exact rejectsIf_declaration
  case h_4 =>
    exact (takes_bracketedAside _ _).rejectsIf (mt letter_or_mark_of_blocked (by decide))
  case h_5 c rest hslash hmark hquestion =>
    split
    case isTrue hletter => exact rejectsIf_startTag hletter
    case isFalse hother =>
      have hneither : ¬ (c.isAlpha = true ∨ c = '!') := not_or.2 ⟨hother, hmark⟩
      exact (takes_advance _ _ _).rejectsIf (mt letter_or_mark_of_blocked hneither)

theorem exists_slash_of_rawDistance? {name : String} (h : rawDistance? name (c :: rest) = some 0) :
    ∃ body, rest = '/' :: body := by
  rw [rawDistance?] at h
  split at h
  case isTrue hend =>
    unfold beginsRawEnd at hend
    split at hend
    case h_1 behind heq => exact ⟨behind, (List.cons.inj heq).2⟩
    case h_2 => cases hend
  case isFalse => simp at h

/-- A step is given up exactly where something stands that no step takes, and only outside content
that is taken as it is. -/
theorem rejectsIf_step :
    RejectsIf (raw = none ∧ Blocked (c :: rest)) (step final raw c rest) := by
  cases raw with
  | none =>
    refine RejectsIf.congr ?_ (and_iff_right rfl).symm
    unfold step
    simp only
    split
    case isTrue hbracket =>
      subst hbracket
      exact rejectsIf_bracketStep
    case isFalse hbracket =>
      split
      case isTrue hampersand =>
        subst hampersand
        exact rejectsIf_ampersandStep
      case isFalse hampersand =>
        have hneither : ¬ (c = '<' ∨ c = '&') := not_or.2 ⟨hbracket, hampersand⟩
        exact (takes_advance _ _ _).rejectsIf (mt bracket_or_ampersand_of_blocked hneither)
  | some name =>
    -- In such content a bracket is looked at only where the end tag of the element begins.
    refine Takes.rejectsIf ?_ (by simp)
    unfold step
    simp only
    split
    case h_1 => simp
    case h_2 hend =>
      rcases exists_slash_of_rawDistance? hend with ⟨body, rfl⟩
      exact takes_endTag
    case h_3 => simp

/-! ## Walks -/

/-- A walk comes from a place to another: `raw` and `raw'` name the elements whose content is taken
as it is there, `cs` and `cs'` are the texts that are left. -/
inductive Passes (final : Bool) :
    Option String → List Char → Option String → List Char → Prop where
  | here (raw : Option String) (cs : List Char) : Passes final raw cs raw cs
  | on {raw next last : Option String} {c : Char} {rest cs : List Char} {events : List Event}
      {more : Nat} (hstep : step final raw c rest = .advance events next more)
      (hpasses : Passes final next (rest.drop more) last cs) : Passes final raw (c :: rest) last cs

variable {cs cs' : List Char} {raw' : Option String}

theorem drop_suffix_cons (more : Nat) (c : Char) (rest : List Char) :
    rest.drop more <:+ c :: rest :=
  (List.drop_suffix more rest).trans (List.suffix_cons c rest)

theorem Passes.suffix (h : Passes final raw cs raw' cs') : cs' <:+ cs := by
  induction h with
  | here => exact List.suffix_refl _
  | @on _ _ _ c rest _ _ more _ _ ih =>
    exact ih.trans (drop_suffix_cons more c rest)

theorem not_blocked_of_takes (h : Takes (step final none c rest)) : ¬ Blocked (c :: rest) := by
  intro hblocked
  rcases rejectsIf_step.rejects ⟨rfl, hblocked⟩ with ⟨fault, hfault, -⟩
  exact h fault hfault

theorem blocked_of_reject {fault : Fault} (h : step final raw c rest = .reject fault) :
    (raw = none ∧ Blocked (c :: rest)) ∧ Explained fault := by
  have hblocked : raw = none ∧ Blocked (c :: rest) := by
    by_contra hfalse
    exact rejectsIf_step.takes hfalse fault h
  rcases rejectsIf_step.rejects hblocked with ⟨other, hother, hexplained⟩
  rw [h] at hother
  cases hother
  exact ⟨hblocked, hexplained⟩

/-- A walk is given up exactly when it comes to something that no step takes. -/
theorem succeeds_walk_iff :
    Succeeds (walk final raw cs) ↔ ∀ cs', Passes final raw cs none cs' → ¬ Blocked cs' := by
  -- The places of a walk are the first one and those of the walk behind its first step.
  fun_induction walk final raw cs with
  | case1 raw =>
    refine iff_of_true (succeeds_ok _) ?_
    intro cs' hpasses
    cases hpasses
    rintro ⟨⟩
  | case2 raw c rest fault hstep =>
    rcases (blocked_of_reject hstep).1 with ⟨rfl, hblocked⟩
    exact iff_of_false (not_succeeds_error fault) fun h => h _ (.here none _) hblocked
  | case3 raw c rest events taken hstep =>
    refine iff_of_true (succeeds_ok _) ?_
    intro cs' hpasses
    cases hpasses with
    | here => exact not_blocked_of_takes (hstep ▸ takes_stop events taken)
    | on hother =>
      rw [hstep] at hother
      cases hother
  | case4 raw c rest events next more hstep ih =>
    rw [succeeds_map_iff, ih]
    constructor
    · intro h cs' hpasses
      cases hpasses with
      | here => exact not_blocked_of_takes (hstep ▸ takes_advance events next more)
      | on hother hpasses =>
        rw [hstep] at hother
        cases hother
        exact h cs' hpasses
    · intro h cs' hpasses
      exact h cs' (.on hstep hpasses)

theorem explained_of_walk {fault : Fault} (h : walk final raw cs = .error fault) :
    Explained fault := by
  fun_induction walk final raw cs with
  | case1 => cases h
  | case2 raw c rest other hstep =>
    cases h
    exact (blocked_of_reject hstep).2
  | case3 => cases h
  | case4 raw c rest events next more hstep ih => exact ih (eq_error_of_map h)

theorem rest_suffix_of_walk {outcome : Outcome} (h : walk final raw cs = .ok outcome) :
    outcome.rest <:+ cs := by
  fun_induction walk final raw cs generalizing outcome with
  | case1 =>
    cases h
    exact List.suffix_refl []
  | case2 => cases h
  | case3 raw c rest events taken =>
    cases h
    exact List.drop_suffix taken (c :: rest)
  | case4 raw c rest events next more hstep ih =>
    rcases exists_of_map_eq_ok h with ⟨later, hlater, rfl⟩
    exact (ih hlater).trans (drop_suffix_cons more c rest)

/-- One of the two walks over a text comes to this place, outside content that is taken as it is. -/
def Comes (markup cs : List Char) : Prop :=
  Passes false none markup none cs ∨
    ∃ first, walk false none markup = .ok first ∧ Passes true first.raw first.rest none cs

theorem Comes.suffix {markup : List Char} (h : Comes markup cs) : cs <:+ markup := by
  rcases h with hfirst | ⟨first, hwalk, hfinal⟩
  · exact hfirst.suffix
  · exact hfinal.suffix.trans (rest_suffix_of_walk hwalk)

theorem succeeds_events_iff_walks {markup : List Char} : Succeeds (events markup) ↔
    ∃ first, walk false none markup = .ok first ∧ Succeeds (walk true first.raw first.rest) := by
  simp only [events, succeeds_bind_iff]
  constructor
  · rintro ⟨first, hfirst, last, hlast, -⟩
    exact ⟨first, hfirst, last, hlast⟩
  · rintro ⟨first, hfirst, last, hlast⟩
    exact ⟨first, hfirst, last, hlast, succeeds_ok _⟩

/-- A text is scanned unless one of the walks comes to something that no step takes. -/
theorem succeeds_events_iff {markup : List Char} :
    Succeeds (events markup) ↔ ∀ cs, Comes markup cs → ¬ Blocked cs := by
  rw [succeeds_events_iff_walks]
  constructor
  · rintro ⟨first, hwalk, hfinal⟩ cs (hpasses | ⟨other, hother, hpasses⟩)
    · exact succeeds_walk_iff.1 ⟨first, hwalk⟩ cs hpasses
    · rw [hwalk] at hother
      cases hother
      exact succeeds_walk_iff.1 hfinal cs hpasses
  · intro h
    rcases succeeds_walk_iff.2 fun cs hpasses => h cs (.inl hpasses) with ⟨first, hwalk⟩
    exact ⟨first, hwalk, succeeds_walk_iff.2 fun cs hpasses => h cs (.inr ⟨first, hwalk, hpasses⟩)⟩

theorem explained_of_events {markup : List Char} {fault : Fault}
    (h : events markup = .error fault) : Explained fault := by
  rcases of_bind_eq_error h with hfirst | ⟨first, -, h⟩
  · exact explained_of_walk hfirst
  · rcases of_bind_eq_error h with hlast | ⟨last, -, h⟩
    · exact explained_of_walk hlast
    · cases h

/-- What no step takes begins a marked section or has a numeral that is too long. -/
theorem Blocked.section_or_hasLong (h : Blocked cs) :
    ['<', '!', '['] <:+: cs ∨ HasLong cs := by
  cases h with
  | @nameless c rest _ => exact .inl ⟨[], c :: rest, rfl⟩
  | @unknown c rest _ _ _ => exact .inl ⟨[], c :: rest, rfl⟩
  | numeral hlong => exact .inr ⟨_, List.suffix_refl _, hlong⟩
  | @tag c rest found _ _ hmem hlong =>
    have hrest : HasLong (c :: rest) := Tag.hasLong_of_mem_attributesOf hmem hlong
    exact .inr (hrest.cons '<')

end MarkupAudit.Markup.Scan
