import MarkupAudit.Document.Place

/-!
# Questions about elements

What the checks ask of an element: its attributes, its text, whether it is empty or hidden, whether
it has a name for assistive technology, and how it is called in a message.
-/

namespace MarkupAudit

/-! ## Texts that may be missing -/

/-- There is a text, and it is made of blanks only. -/
def isWhitespaceOnly : Option String → Bool
  | some s => s != "" && Text.isBlankText s
  | none => false

/-- There is no text, or nothing but blanks in it. -/
def isBlankValue : Option String → Bool
  | some s => Text.isBlankText s
  | none => true

/-- The text cut after a number of characters, with dots in place of the rest. A negative limit
counts from the end. -/
def truncate (s : String) (limit : Int) : String :=
  let cs := s.toList
  if (cs.length : Int) ≤ limit then s
  else
    let kept := if limit < 0 then cs.length - limit.natAbs else limit.toNat
    String.ofList (cs.take kept) ++ "..."

namespace Element

/-! ## Attributes -/

/-- The value of an attribute, its name given in lower case. -/
def attr? (e : Element) (name : String) : Option String :=
  e.attributes.get? name

/-- An attribute is present, its name given in lower case. -/
def hasAttr (e : Element) (name : String) : Bool :=
  e.attributes.contains name

/-- The value of an attribute, whatever the case of the given name. -/
def get? (e : Element) (name : String) : Option String :=
  e.attr? (Text.lower name)

/-- An attribute is present, whatever the case of the given name. -/
def has (e : Element) (name : String) : Bool :=
  e.hasAttr (Text.lower name)

/-- A value without surrounding blanks and regardless of case. -/
def normalized (s : String) : String :=
  Text.lower (Text.trim s)

/-- An attribute has one of the values, regardless of case and surrounding blanks. -/
def attrIs (e : Element) (name : String) (values : List String) : Bool :=
  match e.get? name with
  | some s => (values.map Text.lower).contains (normalized s)
  | none => false

/-- The normalized value of an attribute; nothing counts as empty. -/
def normalizedAttr (e : Element) (name : String) : String :=
  normalized ((e.attr? name).getD "")

/-! ## Content -/

def textContent (e : Element) : String :=
  Node.textContentAll e.children

/-- The element holds no element and no text but blanks. -/
def isEmpty (e : Element) : Bool :=
  e.children.all fun node =>
    match node with
    | .text content => Text.isBlankText content
    | .element _ _ _ => false

/-! ## Accessibility -/

def isHidden (e : Element) : Bool :=
  e.hasAttr "hidden" || e.attrIs "aria-hidden" ["true"]

def namingAttributes : List String := ["title", "aria-label", "aria-labelledby"]

def hasAccessibleName (e : Element) : Bool :=
  namingAttributes.any fun name => !isBlankValue (e.attr? name)

def hasRole (e : Element) (role : String) : Bool :=
  match e.attr? "role" with
  | some s => (Text.words (Text.lower s)).contains role
  | none => false

/-- The element is laid out as a presentation without meaning. -/
def isPresentation (e : Element) : Bool :=
  e.attrIs "role" ["presentation"]

/-! ## How an element is called -/

def attrText (name value : String) : String :=
  " " ++ name ++ "=\"" ++ value ++ "\""

/-- The identifier of the element, else its name, else nothing. -/
def identifier (e : Element) : String :=
  match e.attr? "id" with
  | some value => attrText "id" value
  | none =>
    match e.attr? "name" with
    | some value => attrText "name" value
    | none => ""

def listed (e : Element) (names : List String) : String :=
  String.join (names.filterMap fun name => (e.get? name).map (attrText name))

def openingTag (e : Element) (names : List String) (upper : Bool) : String :=
  "<" ++ (if upper then Text.upper e.tag else e.tag) ++ e.listed names ++ ">"

end Element

namespace Place

/-- The nearest ancestor with one of the tags. -/
def ancestorOf? (p : Place) (tags : List String) : Option Located :=
  p.ancestors.find? fun q => tags.contains q.element.tag

def isInside (p : Place) (tags : List String) : Bool :=
  (p.ancestorOf? tags).isSome

def parentName (p : Place) : String :=
  p.parentTag?.getD "unknown"

end Place

/-! ## Finding elements -/

/-- The places with one of the tags, whatever the case in which these are given. -/
def Place.tagged (tags : List String) (ps : List Place) : List Place :=
  ps.filter fun p => (tags.map Text.lower).contains p.element.tag

/-- The places that have an attribute, whatever the case of the given name. -/
def Place.carrying (name : String) (ps : List Place) : List Place :=
  ps.filter fun p => p.element.has name

/-- The first place with the identifier; without one, the first that has none. -/
def Place.identified? (id : Option String) (ps : List Place) : Option Place :=
  ps.find? fun p => p.element.attr? "id" == id

end MarkupAudit
