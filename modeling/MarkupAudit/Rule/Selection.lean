import MarkupAudit.Rule.Basic
import MarkupAudit.Settings.Convert

/-!
# Choosing categories

Categories are chosen by name, regardless of case and surrounding blanks. The name `all` chooses
every category, and so does an empty choice. What is chosen comes in the order in which categories
are gone through, each category once.

Main statements: what is chosen is a part of all categories (`exists_filter_of_select`), and at
least one category is chosen (`select_ne_nil`).
-/

namespace MarkupAudit

namespace Category

def resolve (text : String) : Except Fault Category :=
  match ofName? (Element.normalized text) with
  | some category => .ok category
  | none => .error (.unknownName text)

end Category

/-- A wish for a category: the category itself, or a text that should name one. -/
inductive Choice where
  | exact (category : Category)
  | named (text : String)
  deriving DecidableEq, Repr

namespace Choice

def isAll : Choice → Bool
  | .exact _ => false
  | .named text => Element.normalized text == "all"

def resolve : Choice → Except Fault Category
  | .exact category => .ok category
  | .named text => Category.resolve text

def gather : List Choice → Except Fault (List Category × Bool)
  | [] => .ok ([], false)
  | choice :: rest =>
    if choice.isAll then .ok ([], true)
    else do
      let category ← choice.resolve
      let (others, everything) ← gather rest
      return (category :: others, everything)

def select (choices : List Choice) : Except Fault (List Category) := do
  let (wanted, everything) ← gather choices
  return if everything || wanted.isEmpty then Category.all
    else Category.all.filter wanted.contains

/-- No wish behind this one is looked at: it is for all categories or names none. -/
def isLast (choice : Choice) : Bool :=
  choice.isAll || match choice.resolve with
    | .ok _ => false
    | .error _ => true

/-- The wishes that items state, each taken as a text. What cannot be written is a fault only where
it is looked at. -/
def ofItems : List Value → Except Fault (List Choice)
  | [] => .ok []
  | item :: rest => do
    let choice := named (← item.toText)
    if choice.isLast then return [choice]
    return choice :: (← ofItems rest)

/-- The wishes that a value states: nothing, a single text, or several items. -/
def ofValue : Value → Except Fault (List Choice)
  | .null => .ok []
  | .str text => .ok [.named text]
  | v => do ofItems (← v.items)

/-- What is chosen is a part of all categories, in their order. -/
theorem exists_filter_of_select {choices : List Choice} {categories : List Category}
    (h : select choices = .ok categories) :
    ∃ keep : Category → Bool, categories = Category.all.filter keep := by
  rcases exists_of_bind_eq_ok h with ⟨⟨wanted, everything⟩, -, hchosen⟩
  simp only [pure, Except.pure, Except.ok.injEq] at hchosen
  subst hchosen
  split
  · exact ⟨fun _ => true, rfl⟩
  · exact ⟨wanted.contains, rfl⟩

theorem sublist_of_select {choices : List Choice} {categories : List Category}
    (h : select choices = .ok categories) : categories.Sublist Category.all := by
  rcases exists_filter_of_select h with ⟨keep, rfl⟩
  exact List.filter_sublist

theorem select_ne_nil {choices : List Choice} {categories : List Category}
    (h : select choices = .ok categories) : categories ≠ [] := by
  rcases exists_of_bind_eq_ok h with ⟨⟨wanted, everything⟩, -, hchosen⟩
  simp only [pure, Except.pure, Except.ok.injEq] at hchosen
  subst hchosen
  split
  · decide
  · next hwanted =>
    cases wanted with
    | nil => simp at hwanted
    | cons category rest =>
      intro hnone
      have hunwanted := List.filter_eq_nil_iff.1 hnone category (Category.mem_all category)
      simp at hunwanted

end Choice

end MarkupAudit
