import MarkupAudit.Document.Markup
import MarkupAudit.Document.Query
import MarkupAudit.Settings.Basic

/-!
# Rules

A rule looks at a document and gives findings: a sentence about an element, or about the document as
a whole. It belongs to a category and says how its findings are reported.

Main statement: the findings of a judgement on single elements are about places in the order in
which these are judged (`subjects_judge`).
-/

namespace MarkupAudit

/-- What a rule's findings mean for the document. -/
inductive Category where
  | advice
  | errors
  | obsoletes
  | warnings
  deriving DecidableEq, Repr

namespace Category

def all : List Category := [.advice, .errors, .obsoletes, .warnings]

def name : Category → String
  | .advice => "advice"
  | .errors => "errors"
  | .obsoletes => "obsoletes"
  | .warnings => "warnings"

def ofName? (name : String) : Option Category :=
  all.find? fun category => category.name == name

theorem mem_all (category : Category) : category ∈ all := by
  cases category <;> decide

theorem ofName?_name (category : Category) : ofName? category.name = some category := by
  cases category <;> decide

end Category

/-- How the findings of a rule are reported. -/
inductive ReportStyle where
  /-- One finding stands for itself; several are listed under a header. -/
  | collect
  | firstMatch
  deriving DecidableEq, Repr

def ReportStyle.name : ReportStyle → String
  | .collect => "collect"
  | .firstMatch => "first_match"

/-- A sentence about an element, or about the document as a whole. -/
structure Finding where
  subject : Option Place
  message : String

/-- A rule. -/
structure Rule where
  name : String
  category : Category
  summary : Option String
  style : ReportStyle
  check : Settings → Document → Except Fault (List Finding)

/-! ## Making findings -/

namespace Finding

def about (p : Place) (message : String) : Finding :=
  ⟨some p, message⟩

/-- The findings of a judgement that gives at most one sentence about each place. -/
def judge (judgement : Place → Option String) (ps : List Place) : List Finding :=
  ps.filterMap fun p => (judgement p).map (about p)

/-- The findings of a judgement that may fail. -/
def judgeOrFail (judgement : Place → Except Fault (Option String)) :
    List Place → Except Fault (List Finding)
  | [] => .ok []
  | p :: rest => do
    let verdict ← judgement p
    let others ← judgeOrFail judgement rest
    return match verdict with
      | some message => about p message :: others
      | none => others

/-- The findings are about places in the order in which these are judged. -/
theorem subjects_judge (judgement : Place → Option String) (ps : List Place) :
    (judge judgement ps).map Finding.subject =
      (ps.filter fun p => (judgement p).isSome).map some := by
  induction ps with
  | nil => rfl
  | cons p rest ih =>
    cases h : judgement p <;> simp_all [judge, about]

end Finding

namespace Rule

def listing (name : String) (category : Category) (summary : String)
    (check : Document → List Finding) : Rule where
  name := name
  category := category
  summary := some summary
  style := .collect
  check := fun _ d => .ok (check d)

def listingOrFail (name : String) (category : Category) (summary : String)
    (check : Document → Except Fault (List Finding)) : Rule where
  name := name
  category := category
  summary := some summary
  style := .collect
  check := fun _ d => check d

def telling (name : String) (category : Category) (check : Document → List Finding) : Rule where
  name := name
  category := category
  summary := none
  style := .firstMatch
  check := fun _ d => .ok (check d)

def onEvery (judgement : Place → Option String) (d : Document) : List Finding :=
  Finding.judge judgement d.places

def onTags (tags : List String) (judgement : Place → Option String) (d : Document) :
    List Finding :=
  Finding.judge judgement (d.placesOf tags)

end Rule

/-! ## Parts of sentences -/

namespace Element

def upperTag (e : Element) : String :=
  Text.upper e.tag

def snippetLimit : Int := 200

def snippet (e : Element) : String :=
  truncate (Text.trim e.markup) snippetLimit

def textOrDots (e : Element) : String :=
  let s := Text.trim e.textContent
  if s = "" then "..." else s

def filledAttr (e : Element) (name opening closing : String) : String :=
  match e.attr? name with
  | some value => if value = "" then "" else opening ++ value ++ closing
  | none => ""

/-- The identifier as it stands in a tag, if it is not empty. -/
def filledId (e : Element) : String :=
  e.filledAttr "id" " id=\"" "\""

/-- The value of an attribute, or nothing. -/
def attrOr (e : Element) (name : String) : String :=
  (e.attr? name).getD ""

/-- The identifier, else the name, in round brackets. -/
def bracketedName (e : Element) : String :=
  let byId := e.filledAttr "id" " (id=\"" "\")"
  if byId = "" then e.filledAttr "name" " (name=\"" "\")" else byId

def inputType (e : Element) : String :=
  e.normalizedAttr "type"

end Element

end MarkupAudit
