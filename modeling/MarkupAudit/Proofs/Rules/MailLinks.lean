import MarkupAudit.Proofs.Document.Ancestry
import MarkupAudit.Proofs.Faults.Formats
import MarkupAudit.Proofs.Format.Mailto
import MarkupAudit.Proofs.Rule.Subjects
import MarkupAudit.Rules.Links

/-!
# Mail links

The rule about mail links reads the addresses of a link and tells each one that is refused. So for a
link that is written from a list of addresses it tells those of the list that are refused, in the
order of the list, and each as often as it is listed.

Main statement: `written_mail_links_are_read_back`.
-/

namespace MarkupAudit

namespace Email

/-- The text is not accepted as an address. -/
def refused (s : String) : Bool :=
  (isValid s).toOption == some false

theorem isValid_eq (s : String) : isValid s = .ok (!refused s) := by
  rcases succeeds_isValid s with ⟨accepted, haccepted⟩
  cases accepted <;> simp [refused, haccepted, Except.toOption]

end Email

namespace Finding

/-- Of what is told place by place, that which is told of one place is what this place gives. -/
theorem filter_flatMap_about {d : Document} {p : Place} {tell : Place → List Finding}
    (htell : ∀ q, ∀ f ∈ tell q, f.subject = some q) (hp : p ∈ d.places) :
    (d.places.flatMap tell).filter (fun f => f.subject.any p.same) = tell p := by
  have hown : (tell p).filter (fun f => f.subject.any p.same) = tell p := by
    refine List.filter_eq_self.2 fun f hf => ?_
    simp [htell p f hf, Place.same]
  have hother : ∀ ps : List Place, (∀ q ∈ ps, p.position ≠ q.position) →
      (ps.flatMap tell).filter (fun f => f.subject.any p.same) = [] := by
    intro ps hps
    refine List.filter_eq_nil_iff.2 fun f hf => ?_
    rcases List.mem_flatMap.1 hf with ⟨q, hq, hfound⟩
    simpa [htell q f hfound, Place.same] using hps q hq
  -- The place stands once in the document, between elements at other positions.
  rcases List.append_of_mem hp with ⟨front, back, hplaces⟩
  have hordered := Document.pairwise_places d
  rw [hplaces, List.pairwise_append, List.pairwise_cons] at hordered
  rcases hordered with ⟨-, ⟨hback, -⟩, hfront⟩
  rw [hplaces, List.flatMap_append, List.flatMap_cons, List.filter_append, List.filter_append, hown,
    hother front fun q hq => (Nat.ne_of_lt (hfront q hq p List.mem_cons_self)).symm,
    hother back fun q hq => Nat.ne_of_lt (hback q hq), List.nil_append, List.append_nil]

end Finding

namespace Rules

/-! ## What is told of a mail link -/

/-- What is told about an address of a mail link. -/
def addressComplaint (p : Place) (addressText email : String) : Finding :=
  .about p
    (s!"<{p.element.tag}{p.element.identifier} href=\"mailto:{addressText}\"> " ++
      s!"contains invalid email address: \"{email}\"")

/-- Everything that is told of a place: all refused addresses, if there is a mail link at it. -/
def mailComplaints (p : Place) : List Finding :=
  match p.element.attr? "href" with
  | none => []
  | some href =>
    if Mailto.hasScheme href then
      ((Mailto.addresses href).filter Email.refused).map
        (addressComplaint p (Mailto.addressPart href))
    else []

/-- What is told about an address: nothing if it is accepted. -/
def addressVerdict (p : Place) (href email : String) : Option Finding :=
  if Email.refused email then some (addressComplaint p (Mailto.addressPart href) email) else none

theorem invalidAddress_eq (p : Place) (href email : String) :
    invalidAddress p href email = .ok (addressVerdict p href email) := by
  rw [invalidAddress, Email.isValid_eq, addressVerdict]
  cases Email.refused email <;> rfl

theorem mailtoFindings_eq (p : Place) : mailtoFindings p = .ok (mailComplaints p) := by
  rw [mailtoFindings, mailComplaints]
  cases p.element.attr? "href" with
  | none => rfl
  | some href =>
    dsimp only
    split
    · have hread : (Mailto.addresses href).mapM (invalidAddress p href) =
          .ok ((Mailto.addresses href).map (addressVerdict p href)) :=
        mapM_eq_ok_map fun email _ => invalidAddress_eq p href email
      have hkept : ((Mailto.addresses href).map (addressVerdict p href)).filterMap id =
          ((Mailto.addresses href).filter Email.refused).map
            (addressComplaint p (Mailto.addressPart href)) := by
        rw [List.filterMap_map, ← List.filterMap_eq_map, List.filterMap_filter]
        rfl
      rw [hread]
      exact congrArg Except.ok hkept
    · rfl

theorem check_mailtoLinksAreValid (s : Settings) (d : Document) :
    mailtoLinksAreValid.check s d = .ok (d.places.flatMap mailComplaints) := by
  have hplaces : d.places.mapM mailtoFindings = .ok (d.places.map mailComplaints) :=
    mapM_eq_ok_map fun p _ => mailtoFindings_eq p
  have hcheck : mailtoLinksAreValid.check s d =
      (d.places.mapM mailtoFindings).map List.flatten := rfl
  rw [hcheck, hplaces, List.flatMap_def]
  rfl

theorem subject_of_mem_mailComplaints {p : Place} {f : Finding} (hf : f ∈ mailComplaints p) :
    f.subject = some p := by
  rw [mailComplaints] at hf
  split at hf
  · cases hf
  · split at hf
    · rcases List.mem_map.1 hf with ⟨email, -, rfl⟩
      rfl
    · cases hf

theorem mailComplaints_of_written {p : Place} {link : Mailto.WrittenLink}
    (hlink : p.element.attr? "href" = some link.href) :
    mailComplaints p =
      (link.addresses.filter Email.refused).map (addressComplaint p link.addressText) := by
  rw [mailComplaints, hlink]
  dsimp only
  rw [if_pos link.hasScheme_href, link.addresses_href, link.addressPart_href]

end Rules

open Rules

/-- The addresses that a mail link is written from are read back in their order, and the text around
them up to the question mark is kept. Where a document has an element with this link, the rule about
mail links gives a result, and tells of the element the addresses that are refused, one by one. -/
theorem written_mail_links_are_read_back (link : Mailto.WrittenLink) :
    Mailto.addressPart link.href = link.addressText ∧
      Mailto.addresses link.href = link.addresses ∧
      ∀ (s : Settings) (d : Document), ∀ p ∈ d.places,
        p.element.attr? "href" = some link.href →
          ∃ result, mailtoLinksAreValid.run s d = .ok result ∧
            (result.violations.filter fun v => v.subject.any p.same) =
              (link.addresses.filter Email.refused).map fun email =>
                .ofFinding "mailto_links_are_valid"
                  (addressComplaint p link.addressText email) := by
  refine ⟨link.addressPart_href, link.addresses_href, fun s d p hp hlink => ?_⟩
  have hplain : mailtoLinksAreValid.HasPlainHeader :=
    Rule.hasPlainHeader_of_ofList rfl (by decide +kernel)
  rcases Rule.exists_run hplain (check_mailtoLinksAreValid s d) with ⟨result, hrun, -, hviolations⟩
  refine ⟨result, hrun, ?_⟩
  have htold := Finding.filter_flatMap_about (fun _ _ => subject_of_mem_mailComplaints) hp
  rw [mailComplaints_of_written hlink] at htold
  rw [hviolations, List.filter_map]
  exact (congrArg (List.map (Violation.ofFinding _)) htold).trans List.map_map

/-- A link with an empty address and with commas behind its question mark. -/
theorem written_mail_links_are_read_back_padded :
    ∃ (link : Mailto.WrittenLink) (d : Document) (p : Place) (result : RuleResult),
      link.href = "MailTo: a@b\t,,c@d.org ?cc=x,y" ∧ link.addresses = ["a@b", "", "c@d.org"] ∧
      p ∈ d.places ∧ p.element.attr? "href" = some link.href ∧
      Mailto.addresses link.href = link.addresses ∧
      mailtoLinksAreValid.run .packaged d = .ok result ∧
      (result.violations.filter fun v => v.subject.any p.same).map (·.message) =
        ["<a href=\"mailto: a@b\t,,c@d.org \"> contains invalid email address: \"a@b\"",
          "<a href=\"mailto: a@b\t,,c@d.org \"> contains invalid email address: \"\""] := by
  let link : Mailto.WrittenLink :=
    { scheme := "MailTo:"
      first := ⟨" ", "a@b", "\t", by decide, by decide, by decide, by decide, by decide, by decide⟩
      others :=
        [⟨"", "", "", by decide, by decide, by decide, by decide, by decide, by decide⟩,
          ⟨"", "c@d.org", " ", by decide, by decide, by decide, by decide, by decide, by decide⟩]
      fields := some "cc=x,y"
      scheme_eq := by decide }
  let d : Document :=
    .ofNodes "" [.element "a" (.ofList [("href", link.href)]) [.text "Write to us"]]
  have hhref : link.href = "MailTo: a@b\t,,c@d.org ?cc=x,y" := by decide +kernel
  rcases written_mail_links_are_read_back link with ⟨-, haddresses, htold⟩
  rcases htold .packaged d _ List.mem_cons_self rfl with ⟨result, hrun, hviolations⟩
  refine ⟨link, d, _, result, hhref, rfl, List.mem_cons_self, rfl, haddresses, hrun, ?_⟩
  rw [hviolations]
  decide +kernel

end MarkupAudit
