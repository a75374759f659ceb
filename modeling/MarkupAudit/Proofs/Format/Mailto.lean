import MarkupAudit.Format.Mailto

/-!
# Mail links as they are written

A mail link is written from a list of addresses, with blanks around each of them, and perhaps the
fields of a message. Reading the link gives the addresses back.

Main statements: `WrittenLink.addressPart_href` and `WrittenLink.addresses_href`.
-/

namespace MarkupAudit.Mailto

/-! ## Writing -/

/-- An address as it stands in a mail link, perhaps with blanks around it. -/
structure WrittenAddress where
  front : String
  address : String
  back : String
  blank_front : Text.isBlankText front = true
  blank_back : Text.isBlankText back = true
  comma_not_mem : ',' ∉ address.toList
  mark_not_mem : '?' ∉ address.toList
  head_not_blank : address.toList.head?.any Text.isBlank = false
  last_not_blank : address.toList.getLast?.any Text.isBlank = false

def WrittenAddress.text (a : WrittenAddress) : String :=
  a.front ++ a.address ++ a.back

/-- What a mail link is written from: the scheme with letters in either case, one address or more,
and what stands behind the question mark if there is one. -/
structure WrittenLink where
  scheme : String
  first : WrittenAddress
  others : List WrittenAddress
  fields : Option String
  scheme_eq : scheme.toList.map Char.toLower = Mailto.scheme.toList

namespace WrittenLink

def written (link : WrittenLink) : List WrittenAddress :=
  link.first :: link.others

/-- The texts between the commas. -/
def texts (link : WrittenLink) : List String :=
  link.written.map WrittenAddress.text

def addressText (link : WrittenLink) : String :=
  Text.join "," link.texts

def fieldText (link : WrittenLink) : String :=
  match link.fields with
  | none => ""
  | some fields => "?" ++ fields

def href (link : WrittenLink) : String :=
  link.scheme ++ link.addressText ++ link.fieldText

/-- The addresses, without the blanks around them. -/
def addresses (link : WrittenLink) : List String :=
  link.written.map WrittenAddress.address

end WrittenLink

/-! ## Reading -/

namespace WrittenAddress

variable (a : WrittenAddress)

theorem not_mem_text {c : Char} (hblank : Text.isBlank c = false) (hc : c ∉ a.address.toList) :
    c ∉ a.text.toList := by
  have haround : ∀ s : String, Text.isBlankText s = true → c ∉ s.toList := by
    intro s hs hmem
    have hother : Text.isBlank c = true := List.all_eq_true.1 hs c hmem
    rw [hblank] at hother
    cases hother
  simp [text, haround a.front a.blank_front, haround a.back a.blank_back, hc]

theorem trim_text : Text.trim a.text = a.address := by
  have hchars : Chars.trim a.text.toList = a.address.toList := by
    rw [text, String.toList_append, String.toList_append,
      Chars.trim_append_append a.blank_front a.blank_back]
    exact Chars.trim_eq_self ((Option.any_eq_false _ _).1 a.head_not_blank)
      ((Option.any_eq_false _ _).1 a.last_not_blank)
  rw [Text.trim, hchars, String.ofList_toList]

end WrittenAddress

namespace WrittenLink

variable (link : WrittenLink)

theorem ascii_scheme : ∀ c ∈ link.scheme.toList, c.toNat < 0x80 := by
  intro c hc
  have hmem : c.toLower ∈ Mailto.scheme.toList := link.scheme_eq ▸ List.mem_map_of_mem hc
  have hascii : Mailto.scheme.toList.all fun c => decide (c.toNat < 0x80) := by decide
  exact Text.ascii_of_toLower (by simpa using List.all_eq_true.1 hascii _ hmem)

theorem length_scheme : link.scheme.toList.length = Mailto.scheme.toList.length := by
  rw [← link.scheme_eq, List.length_map]

theorem toList_href :
    link.href.toList = link.scheme.toList ++ (link.addressText ++ link.fieldText).toList := by
  simp [href]

/-- The scheme is known in either case. -/
theorem hasScheme_href : hasScheme link.href = true := by
  rw [hasScheme, Text.beginsWith, Text.lower, String.toList_ofList, Chars.lower, toList_href,
    Text.lowerFrom_append link.ascii_scheme, link.scheme_eq]
  exact List.isPrefixOf_iff_prefix.2 (List.prefix_append _ _)

/-- The texts that a link is written from stand between its commas. -/
theorem splitOn_addressText :
    Chars.splitOn ',' link.addressText.toList = link.texts.map String.toList := by
  have hcommas : ∀ piece ∈ link.texts.map String.toList, ',' ∉ piece := by
    simp only [texts, List.mem_map, forall_exists_index, and_imp, forall_apply_eq_imp_iff₂]
    exact fun a _ => a.not_mem_text (by decide) a.comma_not_mem
  rw [addressText, Text.join, String.toList_intercalate]
  exact Chars.splitOn_intercalate hcommas

theorem mark_not_mem_addressText : '?' ∉ link.addressText.toList := by
  intro hmem
  rcases Chars.eq_or_exists_mem_splitOn ',' hmem with hcomma | ⟨piece, hpiece, hmark⟩
  · cases hcomma
  · rw [splitOn_addressText, texts] at hpiece
    rcases List.mem_map.1 hpiece with ⟨text, htext, rfl⟩
    rcases List.mem_map.1 htext with ⟨a, -, rfl⟩
    exact a.not_mem_text (by decide) a.mark_not_mem hmark

theorem addressChars_href : addressChars link.href = link.addressText.toList := by
  have hdropped : link.href.toList.drop Mailto.scheme.length =
      (link.addressText ++ link.fieldText).toList := by
    rw [toList_href, ← String.length_toList, ← length_scheme, List.drop_left]
  rw [addressChars, if_pos link.hasScheme_href, hdropped, String.toList_append, fieldText]
  have hmark := link.mark_not_mem_addressText
  split
  · rw [String.toList_empty, List.append_nil, Chars.before_eq_self hmark]
  · rw [String.toList_append]
    exact (Chars.before_append_cons '?' _ _).trans (Chars.before_eq_self hmark)

/-- What stands before the question mark is read back. -/
theorem addressPart_href : addressPart link.href = link.addressText := by
  rw [addressPart, addressChars_href, String.ofList_toList]

/-- The addresses are read back, in order. -/
theorem addresses_href : Mailto.addresses link.href = link.addresses := by
  rw [Mailto.addresses, addressChars_href, splitOn_addressText, texts, addresses]
  simp only [List.map_map]
  exact List.map_congr_left fun a _ => a.trim_text

end WrittenLink

end MarkupAudit.Mailto
