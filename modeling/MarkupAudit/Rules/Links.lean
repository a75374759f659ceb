import MarkupAudit.Format.Email
import MarkupAudit.Format.Mailto
import MarkupAudit.Format.Phone
import MarkupAudit.Rule.Basic

/-!
# Rules about links
-/

namespace MarkupAudit.Rules

open Rule

/-! ## Addresses and numbers -/

/-- The finding about an address of a mail link, if it is not valid. -/
def invalidAddress (p : Place) (href email : String) : Except Fault (Option Finding) :=
  (Email.isValid email).map fun valid =>
    if valid then none
    else some (.about p
      (s!"<{p.element.tag}{p.element.identifier} href=\"mailto:{Mailto.addressPart href}\"> " ++
        s!"contains invalid email address: \"{email}\""))

def mailtoFindings (p : Place) : Except Fault (List Finding) :=
  match p.element.attr? "href" with
  | none => .ok []
  | some href =>
    if Mailto.hasScheme href then
      ((Mailto.addresses href).mapM (invalidAddress p href)).map fun found => found.filterMap id
    else .ok []

def mailtoLinksAreValid : Rule :=
  listingOrFail "mailto_links_are_valid" .advice "Found mailto links with invalid email addresses:"
    fun d => (d.places.mapM mailtoFindings).map List.flatten

def judgeNumber (s : Settings) (scheme : String) (p : Place) : Except Fault (Option String) :=
  match p.element.attr? "href" with
  | none => .ok none
  | some href =>
    if Text.beginsWith (scheme ++ ":") (Text.lower href) then
      let number := Text.dropFirst (scheme.length + 1) href
      (Phone.isValid s number).map fun valid =>
        if valid then none
        else some
          (s!"<{p.element.tag}{p.element.identifier} " ++
            s!"href=\"{scheme}:{Phone.withoutParameters number}\"> contains invalid phone number")
    else .ok none

def numberLinks (name scheme summary : String) : Rule where
  name := name
  category := .advice
  summary := some summary
  style := .collect
  check := fun s d => Finding.judgeOrFail (judgeNumber s scheme) d.places

def telLinksAreValid : Rule :=
  numberLinks "tel_links_are_valid" "tel" "Found tel: links with invalid phone numbers:"

def faxLinksAreValid : Rule :=
  numberLinks "fax_links_are_valid" "fax" "Found fax: links with invalid phone numbers:"

def modemLinksAreValid : Rule :=
  numberLinks "modem_links_are_valid" "modem" "Found modem: links with invalid phone numbers:"

/-! ## Targets -/

/-- The first address of an element that is fetched without encryption, with its attribute. -/
def insecureAddress? (e : Element) : Option (String × String) :=
  ["href", "src"].findSome? fun name =>
    match e.attr? name with
    | some url =>
      if Text.beginsWith "http:" (Element.normalized url) then some (name, url) else none
    | none => none

/-- Nothing is fetched without encryption. -/
def noInsecureUrls : Rule :=
  listing "no_insecure_urls" .advice "Found elements with insecure HTTP URLs:" <|
    onEvery fun p =>
      (insecureAddress? p.element).map fun (name, url) =>
        (s!"<{p.element.tag}{p.element.identifier} {name}=\"{url}\"> " ++
          "uses insecure HTTP protocol - use HTTPS instead")

def hrefNotEmpty : Rule :=
  listing "href_not_empty" .errors "Found links with empty href attributes:" <|
    onTags ["a"] fun p =>
      match p.element.attr? "href" with
      | some href =>
        if Text.isBlankText href then
          some s!"<a href=\"{href}\">{p.element.textOrDots}</a> has an empty href attribute"
        else none
      | none => none

def linksHaveAccessibleName : Rule :=
  listing "links_have_accessible_name" .errors "Found empty links without proper labels:" <|
    onTags ["a"] fun p =>
      if p.element.isEmpty && !p.element.hasAccessibleName then
        let shown := p.element.listed ["id", "class"]
        let href := p.element.attrOr "href"
        some s!"<a{shown} href=\"{href}\"> is empty and has no accessible label"
      else none

/-! ## Links that act as buttons -/

def noButtonRoleOnLinks : Rule :=
  listing "no_button_role_on_links" .advice
      "Found links with role=\"button\" that should be <button> elements:" <|
    onTags ["a"] fun p =>
      if p.element.normalizedAttr "role" = "button" then
        some s!"<a{p.element.identifier} role=\"button\"> should be a <button> element"
      else none

def buttonAdvice : String :=
  "https://github.com/Heydon/REVENGE.CSS/blob/master/revenge.css#L165"

def javascriptLinksHaveButtonRole : Rule :=
  telling "javascript_links_have_button_role" .warnings <|
    onTags ["a"] fun p =>
      if Text.beginsWith "javascript" (p.element.normalizedAttr "href") &&
          !p.element.attrIs "role" ["button"] then
        some
          (s!"The <a{p.element.identifier}> element uses href=\"javascript:...\" without " ++
            "role=\"button\". Links with javascript: protocol should be replaced with <button> " ++
            s!"elements or have role=\"button\". See: {buttonAdvice}")
      else none

def hashLinksHaveButtonRole : Rule :=
  telling "hash_links_have_button_role" .warnings <|
    onTags ["a"] fun p =>
      if Text.trim (p.element.attrOr "href") = "#" && !p.element.attrIs "role" ["button"] then
        some
          (s!"The <a{p.element.identifier}> element uses href=\"#\" without role=\"button\". " ++
            "Links with href=\"#\" should be replaced with <button> elements or have " ++
            s!"role=\"button\". See: {buttonAdvice}")
      else none

end MarkupAudit.Rules
