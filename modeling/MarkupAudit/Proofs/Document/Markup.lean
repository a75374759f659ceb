import MarkupAudit.Proofs.Document.Joined
import MarkupAudit.Proofs.Text.Delimited

/-!
# Nodes told by their markup

The markup of a node is a text of pieces: letters, opening tags and closing tags. Every piece tells
where it ends, so the markup tells the pieces; and the pieces, gathered from the last one on, tell
the tree. What they do not tell is how a text is cut into adjacent texts, and what stands in a void
element, which is not written.

Main statements: `flatMap_escapedInText` and `flatMap_escapedInValue` (escaping is replacing one
character after another), `Piece.selfDelimiting_chars` (how pieces are written),
`Node.foldr_gather_pieces` (how trees are made of pieces) and `markup_tells_nodes_apart`.
-/

namespace MarkupAudit

/-! ## Escapes -/

namespace Chars

/-- The characters with each occurrence of one of them replaced. -/
def replaced (c : Char) (substitute cs : List Char) : List Char :=
  cs.flatMap fun d => if d = c then substitute else [d]

theorem replaced_singleton (c : Char) (substitute : List Char) (d : Char) :
    replaced c substitute [d] = if d = c then substitute else [d] :=
  List.append_nil _

theorem replaced_eq_flatMap (c : Char) (substitute cs : List Char) :
    replaced c substitute cs = cs.flatMap fun d => replaced c substitute [d] :=
  List.flatMap_congr fun d _ => (replaced_singleton c substitute d).symm

theorem replaced_flatMap (c : Char) (substitute : List Char) (f : Char → List Char)
    (cs : List Char) :
    replaced c substitute (cs.flatMap f) = cs.flatMap fun d => replaced c substitute (f d) :=
  List.flatMap_assoc

end Chars

open Chars

/-- Texts are escaped as if by replacing one character after another, the ampersand first: the later
ones occur in no escape that was put in before. -/
theorem flatMap_escapedInText (cs : List Char) :
    cs.flatMap escapedInText =
      replaced '>' "&gt;".toList (replaced '<' "&lt;".toList (replaced '&' "&amp;".toList cs)) := by
  rw [replaced_eq_flatMap '&', replaced_flatMap, replaced_flatMap]
  refine List.flatMap_congr fun c _ => ?_
  by_cases hand : c = '&'
  · subst hand
    rfl
  · by_cases hless : c = '<'
    · subst hless
      rfl
    · rw [escapedInText, if_neg hand, if_neg hless, replaced_singleton, if_neg hand,
        replaced_singleton, if_neg hless, replaced_singleton]

theorem flatMap_escapedInValue (cs : List Char) :
    cs.flatMap escapedInValue =
      replaced '"' "&quot;".toList (replaced '&' "&amp;".toList cs) := by
  rw [replaced_eq_flatMap '&', replaced_flatMap]
  refine List.flatMap_congr fun c _ => ?_
  by_cases hand : c = '&'
  · subst hand
    rfl
  · rw [escapedInValue, if_neg hand, replaced_singleton, if_neg hand, replaced_singleton]

/-- The letter that a text begins with, escaped or not, and what is behind it. -/
def readLetter : List Char → Option (Char × List Char)
  | '&' :: 'a' :: 'm' :: 'p' :: ';' :: rest => some ('&', rest)
  | '&' :: 'l' :: 't' :: ';' :: rest => some ('<', rest)
  | '&' :: 'g' :: 't' :: ';' :: rest => some ('>', rest)
  | '&' :: 'q' :: 'u' :: 'o' :: 't' :: ';' :: rest => some ('"', rest)
  | c :: rest => some (c, rest)
  | [] => none

theorem readLetter_of_ne {c : Char} (h : c ≠ '&') (rest : List Char) :
    readLetter (c :: rest) = some (c, rest) := by
  simp [readLetter, h]

theorem readLetter_escapedInText (c : Char) (rest : List Char) :
    readLetter (escapedInText c ++ rest) = some (c, rest) := by
  rw [escapedInText]
  split_ifs with hand hless hgreater
  · exact hand ▸ rfl
  · exact hless ▸ rfl
  · exact hgreater ▸ rfl
  · exact readLetter_of_ne hand rest

theorem readLetter_escapedInValue (c : Char) (rest : List Char) :
    readLetter (escapedInValue c ++ rest) = some (c, rest) := by
  rw [escapedInValue]
  split_ifs with hand hquote
  · exact hand ▸ rfl
  · exact hquote ▸ rfl
  · exact readLetter_of_ne hand rest

/-- No letter of a text is written with the sign that opens a tag. -/
theorem not_begins_escapedInText (c : Char) (rest : List Char) :
    ¬ Begins (· = '<') (escapedInText c ++ rest) := by
  rintro ⟨d, others, heq, rfl⟩
  rw [escapedInText] at heq
  split_ifs at heq with hand hless hgreater
  · simp at heq
  · simp at heq
  · simp at heq
  · exact hless (List.cons.inj heq).1

/-- No letter of a value is written with the sign that ends it. -/
theorem not_begins_escapedInValue (c : Char) (rest : List Char) :
    ¬ Begins (· = '"') (escapedInValue c ++ rest) := by
  rintro ⟨d, others, heq, rfl⟩
  rw [escapedInValue] at heq
  split_ifs at heq with hand hquote
  · simp at heq
  · simp at heq
  · exact hquote (List.cons.inj heq).1

/-! ## Attributes -/

/-- A name as one that is read from markup: not empty, without blanks and the signs that end a tag,
and without an equals sign unless it is the first sign. -/
structure IsAttributeName (name : String) : Prop where
  ne_empty : name ≠ ""
  no_blank : name.toList.any Text.isBlank = false
  no_slash : '/' ∉ name.toList
  no_bracket : '>' ∉ name.toList
  no_sign : '=' ∉ name.toList.tail

def attributeChars (entry : String × String) : List Char :=
  ' ' :: (entry.1.toList ++ '=' :: '"' :: (entry.2.toList.flatMap escapedInValue ++ ['"']))

theorem toList_writtenAttributes (attributes : Attributes) :
    (writtenAttributes attributes).toList = attributes.entries.flatMap attributeChars := by
  have hentry : ∀ entry : String × String,
      (" " ++ entry.1 ++ "=\"" ++ Text.expand escapedInValue entry.2 ++ "\"").toList =
        attributeChars entry := by
    intro entry
    simp [attributeChars, Text.expand]
  rw [writtenAttributes, String.toList_join, List.flatMap_map]
  exact List.flatMap_congr fun entry _ => hentry entry

/-- A name ends before the first equals sign behind its first sign. -/
theorem append_inj_of_names {name other : String} (hname : IsAttributeName name)
    (hother : IsAttributeName other) {x y : List Char}
    (heq : name.toList ++ '=' :: x = other.toList ++ '=' :: y) : name = other ∧ x = y := by
  rcases List.exists_cons_of_ne_nil (mt String.toList_eq_nil_iff.1 hname.ne_empty) with
    ⟨c, cs, hcs⟩
  rcases List.exists_cons_of_ne_nil (mt String.toList_eq_nil_iff.1 hother.ne_empty) with
    ⟨d, ds, hds⟩
  have hsign : ∀ e ∈ cs, ¬ e = '=' := by
    intro e he heq
    apply hname.no_sign
    rw [hcs]
    exact heq ▸ he
  have hsign' : ∀ e ∈ ds, ¬ e = '=' := by
    intro e he heq
    apply hother.no_sign
    rw [hds]
    exact heq ▸ he
  rw [hcs, hds] at heq
  rcases List.cons.inj heq with ⟨hfirst, hrest⟩
  rcases append_inj_of_begins hsign hsign' ⟨'=', x, rfl, rfl⟩ ⟨'=', y, rfl, rfl⟩ hrest with
    ⟨hothers, hbehind⟩
  have hnames : name.toList = other.toList := by rw [hcs, hds, hfirst, hothers]
  exact ⟨String.toList_inj.1 hnames, (List.cons.inj hbehind).2⟩

/-- A value ends before the quotation mark behind it. -/
theorem append_inj_of_values {v w x y : List Char}
    (heq : v.flatMap escapedInValue ++ '"' :: x = w.flatMap escapedInValue ++ '"' :: y) :
    v = w ∧ x = y := by
  have hletters : SelfDelimiting (fun _ => True) escapedInValue :=
    .of_read fun c _ => readLetter_escapedInValue c
  have htold : v = w ∧ '"' :: x = '"' :: y := by
    apply hletters.flatMap (Begins (· = '"')) _ _ _ _ _ heq
    · exact fun c _ => not_begins_escapedInValue c
    · exact fun _ _ => trivial
    · exact fun _ _ => trivial
    · exact ⟨'"', x, rfl, rfl⟩
    · exact ⟨'"', y, rfl, rfl⟩
  exact ⟨htold.1, (List.cons.inj htold.2).2⟩

theorem selfDelimiting_attributeChars :
    SelfDelimiting (fun entry => IsAttributeName entry.1) attributeChars := by
  rintro ⟨name, value⟩ ⟨other, value'⟩ hname hother x y heq
  have hsplit : name.toList ++ '=' :: ('"' :: (value.toList.flatMap escapedInValue ++ '"' :: x)) =
      other.toList ++ '=' :: ('"' :: (value'.toList.flatMap escapedInValue ++ '"' :: y)) := by
    simpa [attributeChars] using heq
  rcases append_inj_of_names hname hother hsplit with ⟨rfl, hvalues⟩
  rcases append_inj_of_values (List.cons.inj hvalues).2 with ⟨hvalue, hrest⟩
  exact ⟨congrArg (name, ·) (String.toList_inj.1 hvalue), hrest⟩

/-! ## Tags -/

/-- A tag as one that is read from markup: not empty, and without the signs that end it. -/
structure IsTagName (tag : String) : Prop where
  ne_empty : tag ≠ ""
  no_space : ' ' ∉ tag.toList
  no_slash : '/' ∉ tag.toList
  no_bracket : '>' ∉ tag.toList

def IsTagName.Ends (c : Char) : Prop := c = ' ' ∨ c = '>'

theorem IsTagName.not_ends {tag : String} (htag : IsTagName tag) :
    ∀ c ∈ tag.toList, ¬ IsTagName.Ends c := by
  rintro c hc (rfl | rfl)
  · exact htag.no_space hc
  · exact htag.no_bracket hc

/-- What a piece of markup is: a letter of a text, a tag with the attributes, or an end tag. -/
inductive Piece where
  | letter (c : Char)
  | opening (tag : String) (attributes : Attributes)
  | closing (tag : String)

namespace Piece

def chars : Piece → List Char
  | .letter c => escapedInText c
  | .opening tag attributes =>
    '<' :: (tag.toList ++ (attributes.entries.flatMap attributeChars ++ ['>']))
  | .closing tag => '<' :: '/' :: (tag.toList ++ ['>'])

/-- The names in the piece are as those that are read from markup. -/
def WellNamed : Piece → Prop
  | .letter _ => True
  | .opening tag attributes => IsTagName tag ∧ ∀ name ∈ attributes.keys, IsAttributeName name
  | .closing tag => IsTagName tag

/-- Attributes end before the bracket behind them, and the tag before the first of them. -/
theorem append_inj_of_openings {tag other : String} {attributes others : Attributes}
    (h : (opening tag attributes).WellNamed) (h' : (opening other others).WellNamed)
    {x y : List Char}
    (heq : tag.toList ++ (attributes.entries.flatMap attributeChars ++ '>' :: x) =
      other.toList ++ (others.entries.flatMap attributeChars ++ '>' :: y)) :
    tag = other ∧ attributes = others ∧ x = y := by
  have hends : ∀ (attributes : Attributes) (z : List Char),
      Begins IsTagName.Ends (attributes.entries.flatMap attributeChars ++ '>' :: z) := by
    intro attributes z
    cases attributes.entries with
    | nil => exact ⟨'>', z, rfl, .inr rfl⟩
    | cons entry rest => exact ⟨' ', _, rfl, .inl rfl⟩
  have hvalid : ∀ attributes : Attributes, (∀ name ∈ attributes.keys, IsAttributeName name) →
      ∀ entry ∈ attributes.entries, IsAttributeName entry.1 := by
    intro attributes hnames entry hentry
    exact hnames _ (List.mem_map_of_mem hentry)
  rcases append_inj_of_begins h.1.not_ends h'.1.not_ends (hends attributes x) (hends others y) heq
    with ⟨htag, hrest⟩
  have htold : attributes.entries = others.entries ∧ '>' :: x = '>' :: y := by
    apply selfDelimiting_attributeChars.flatMap (Begins (· = '>')) _ _ _ _ _ hrest
    · rintro entry - z ⟨c, rest, heq', rfl⟩
      cases heq'
    · exact hvalid attributes h.2
    · exact hvalid others h'.2
    · exact ⟨'>', x, rfl, rfl⟩
    · exact ⟨'>', y, rfl, rfl⟩
  exact ⟨String.toList_inj.1 htag, Keyed.ext htold.1, (List.cons.inj htold.2).2⟩

theorem append_inj_of_closings {tag other : String} (htag : IsTagName tag)
    (hother : IsTagName other) {x y : List Char}
    (heq : tag.toList ++ '>' :: x = other.toList ++ '>' :: y) : tag = other ∧ x = y := by
  rcases append_inj_of_begins htag.not_ends hother.not_ends ⟨'>', x, rfl, .inr rfl⟩
    ⟨'>', y, rfl, .inr rfl⟩ heq with ⟨htags, hrest⟩
  exact ⟨String.toList_inj.1 htags, (List.cons.inj hrest).2⟩

/-- An opening tag is no end tag: no tag begins with a slash. -/
theorem opening_ne_closing {tag : String} {x y : List Char} (htag : IsTagName tag) :
    tag.toList ++ x ≠ '/' :: y := by
  rcases List.exists_cons_of_ne_nil (mt String.toList_eq_nil_iff.1 htag.ne_empty) with
    ⟨c, cs, hcs⟩
  intro heq
  rw [hcs] at heq
  apply htag.no_slash
  rw [hcs, (List.cons.inj heq).1]
  exact List.mem_cons_self

/-- Every piece of markup tells where it ends. -/
theorem selfDelimiting_chars : SelfDelimiting WellNamed chars := by
  intro p q hp hq x y heq
  cases p with
  | letter c =>
    cases q with
    | letter d =>
      have hletters : SelfDelimiting (fun _ => True) escapedInText :=
        .of_read fun c _ => readLetter_escapedInText c
      rcases hletters c d trivial trivial x y heq with ⟨rfl, hrest⟩
      exact ⟨rfl, hrest⟩
    | opening tag attributes => exact absurd ⟨'<', _, heq, rfl⟩ (not_begins_escapedInText c x)
    | closing tag => exact absurd ⟨'<', _, heq, rfl⟩ (not_begins_escapedInText c x)
  | opening tag attributes =>
    cases q with
    | letter d => exact absurd ⟨'<', _, heq.symm, rfl⟩ (not_begins_escapedInText d y)
    | opening other others =>
      have htags : tag.toList ++ (attributes.entries.flatMap attributeChars ++ '>' :: x) =
          other.toList ++ (others.entries.flatMap attributeChars ++ '>' :: y) := by
        simpa [chars] using heq
      rcases append_inj_of_openings hp hq htags with ⟨rfl, rfl, hrest⟩
      exact ⟨rfl, hrest⟩
    | closing other =>
      have htags : tag.toList ++ (attributes.entries.flatMap attributeChars ++ '>' :: x) =
          '/' :: (other.toList ++ '>' :: y) := by
        simpa [chars] using heq
      exact absurd htags (opening_ne_closing hp.1)
  | closing tag =>
    cases q with
    | letter d => exact absurd ⟨'<', _, heq.symm, rfl⟩ (not_begins_escapedInText d y)
    | opening other others =>
      have htags : other.toList ++ (others.entries.flatMap attributeChars ++ '>' :: y) =
          '/' :: (tag.toList ++ '>' :: x) := by
        simpa [chars] using heq.symm
      exact absurd htags (opening_ne_closing hq.1)
    | closing other =>
      have htags : tag.toList ++ '>' :: x = other.toList ++ '>' :: y := by
        simpa [chars] using heq
      rcases append_inj_of_closings hp hq htags with ⟨rfl, hrest⟩
      exact ⟨rfl, hrest⟩

theorem chars_ne_nil (p : Piece) : p.chars ≠ [] := by
  cases p with
  | letter c =>
    intro hnil
    have hread := readLetter_escapedInText c []
    rw [chars] at hnil
    simp [hnil, readLetter] at hread
  | opening tag attributes => exact List.cons_ne_nil _ _
  | closing tag => exact List.cons_ne_nil _ _

/-- Pieces that are written one after another are told by what is written. -/
theorem flatMap_chars_inj {ps qs : List Piece} (hps : ∀ p ∈ ps, p.WellNamed)
    (hqs : ∀ q ∈ qs, q.WellNamed) (heq : ps.flatMap chars = qs.flatMap chars) : ps = qs := by
  have htold : ps = qs ∧ ([] : List Char) = [] := by
    apply selfDelimiting_chars.flatMap (· = []) _ hps hqs rfl rfl
    · simpa using heq
    · intro p _ x hnil
      exact chars_ne_nil p (List.append_eq_nil_iff.1 hnil).1
  exact htold.1

end Piece

/-! ## Nodes as pieces -/

namespace Node

mutual

/-- The node without what stands in void elements. -/
def bared : Node → Node
  | .text content => .text content
  | .element tag attributes children =>
    .element tag attributes (if Element.isVoidTag tag then [] else baredAll children)

def baredAll : List Node → List Node
  | [] => []
  | node :: rest => node.bared :: baredAll rest

end

mutual

/-- The tags and the names of attributes in the node are as those that are read from markup. -/
def WellNamed : Node → Prop
  | .text _ => True
  | .element tag attributes children =>
    IsTagName tag ∧ (∀ name ∈ attributes.keys, IsAttributeName name) ∧ AllWellNamed children

def AllWellNamed : List Node → Prop
  | [] => True
  | node :: rest => node.WellNamed ∧ AllWellNamed rest

end

mutual

def pieces : Node → List Piece
  | .text content => content.toList.map .letter
  | .element tag attributes children =>
    if Element.isVoidTag tag then [.opening tag attributes]
    else .opening tag attributes :: (piecesAll children ++ [.closing tag])

def piecesAll : List Node → List Piece
  | [] => []
  | node :: rest => node.pieces ++ piecesAll rest

end

mutual

theorem toList_markup (node : Node) : node.markup.toList = node.pieces.flatMap Piece.chars := by
  cases node with
  | text content => simp [markup, pieces, Text.expand, List.flatMap_map, Piece.chars]
  | element tag attributes children =>
    rw [markup, pieces]
    split
    · simp [Piece.chars, toList_writtenAttributes]
    · simp [Piece.chars, toList_writtenAttributes, toList_markupAll children]

/-- The markup of nodes is that of their pieces. -/
theorem toList_markupAll (nodes : List Node) :
    (markupAll nodes).toList = (piecesAll nodes).flatMap Piece.chars := by
  cases nodes with
  | nil => rfl
  | cons node rest => simp [markupAll, piecesAll, toList_markup node, toList_markupAll rest]

end

mutual

theorem wellNamed_of_mem_pieces (node : Node) (hnode : node.WellNamed) :
    ∀ p ∈ node.pieces, p.WellNamed := by
  cases node with
  | text content =>
    intro p hp
    rcases List.mem_map.1 hp with ⟨c, -, rfl⟩
    trivial
  | element tag attributes children =>
    rcases hnode with ⟨htag, hnames, hchildren⟩
    have hinner := wellNamed_of_mem_piecesAll children hchildren
    intro p hp
    rw [pieces] at hp
    split at hp
    · rcases List.mem_singleton.1 hp with rfl
      exact ⟨htag, hnames⟩
    · rcases List.mem_cons.1 hp with rfl | hp
      · exact ⟨htag, hnames⟩
      · rcases List.mem_append.1 hp with hp | hp
        · exact hinner p hp
        · rcases List.mem_singleton.1 hp with rfl
          exact htag

theorem wellNamed_of_mem_piecesAll (nodes : List Node) (hnodes : AllWellNamed nodes) :
    ∀ p ∈ piecesAll nodes, p.WellNamed := by
  cases nodes with
  | nil => exact fun p hp => absurd hp List.not_mem_nil
  | cons node rest =>
    have hfirst := wellNamed_of_mem_pieces node hnodes.1
    have hothers := wellNamed_of_mem_piecesAll rest hnodes.2
    intro p hp
    rcases List.mem_append.1 hp with hp | hp
    · exact hfirst p hp
    · exact hothers p hp

end

mutual

theorem markup_bared (node : Node) : node.bared.markup = node.markup := by
  cases node with
  | text content => rfl
  | element tag attributes children =>
    by_cases hvoid : Element.isVoidTag tag = true
    · simp [bared, markup, hvoid]
    · simp [bared, markup, hvoid, markupAll_baredAll children]

/-- What stands in void elements is not written. -/
theorem markupAll_baredAll (nodes : List Node) : markupAll (baredAll nodes) = markupAll nodes := by
  cases nodes with
  | nil => rfl
  | cons node rest =>
    simp only [baredAll, markupAll, markup_bared node, markupAll_baredAll rest]

end

/-! ## Nodes made of pieces -/

end Node

/-- What stands behind a piece: the siblings behind it, and the siblings behind each of the elements
around it, the innermost first. A piece comes before all this. An end tag leaves nothing behind it
in its element, and the opening tag makes an element of what is behind it. -/
def Piece.gather : Piece → List Node × List (List Node) → List Node × List (List Node)
  | .letter c, (siblings, outer) => (Node.joinTo (.text (String.singleton c)) siblings, outer)
  | .closing _, (siblings, outer) => ([], siblings :: outer)
  | .opening tag attributes, (siblings, outer) =>
    if Element.isVoidTag tag then (.element tag attributes [] :: siblings, outer)
    else (.element tag attributes siblings :: outer.headD [], outer.tail)

namespace Node

theorem foldr_gather_letters (cs : List Char) (siblings : List Node) (outer : List (List Node)) :
    (cs.map Piece.letter).foldr Piece.gather (siblings, outer) =
      (joinTo (.text (String.ofList cs)) siblings, outer) := by
  induction cs with
  | nil => exact congrArg (·, outer) (joinTo_empty siblings).symm
  | cons c cs ih =>
    have hsplit : String.ofList (c :: cs) = String.singleton c ++ String.ofList cs := by
      rw [← String.toList_inj]
      simp
    rw [List.map_cons, List.foldr_cons, ih, hsplit, joinTo_append, Piece.gather]

mutual

theorem foldr_gather_pieces (node : Node) (siblings : List Node) (outer : List (List Node)) :
    node.pieces.foldr Piece.gather (siblings, outer) =
      (joinTo node.bared.joined siblings, outer) := by
  cases node with
  | text content =>
    have hletters := foldr_gather_letters content.toList siblings outer
    rwa [String.ofList_toList] at hletters
  | element tag attributes children =>
    by_cases hvoid : Element.isVoidTag tag = true
    · simp [pieces, bared, joined, hvoid, Piece.gather, joinedAll, joinTo]
    · have hinner := foldr_gather_piecesAll children [] (siblings :: outer)
      have hjoined : (joinedAll (baredAll children)).foldr joinTo [] =
          joinedAll (baredAll children) := by
        have happend := joinedAll_append (baredAll children) []
        rw [List.append_nil] at happend
        exact happend.symm
      rw [hjoined] at hinner
      simp [pieces, bared, joined, hvoid, Piece.gather, hinner, joinTo]

/-- The pieces of nodes make the nodes in front of the siblings behind them, with their texts joined
and void elements without children. -/
theorem foldr_gather_piecesAll (nodes siblings : List Node) (outer : List (List Node)) :
    (piecesAll nodes).foldr Piece.gather (siblings, outer) =
      ((joinedAll (baredAll nodes)).foldr joinTo siblings, outer) := by
  cases nodes with
  | nil => rfl
  | cons node rest =>
    rw [piecesAll, List.foldr_append, foldr_gather_piecesAll rest, foldr_gather_pieces node,
      baredAll, joinedAll, foldr_joinTo]

end

theorem joinTo_nil_inj {a b : Node} (h : joinTo a [] = joinTo b []) : a = b := by
  cases a with
  | text content =>
    cases b with
    | text other =>
      by_cases hcontent : content = "" <;> by_cases hother : other = "" <;>
        simp_all [joinTo]
    | element tag attributes children =>
      by_cases hcontent : content = "" <;> simp [joinTo, hcontent] at h
  | element tag attributes children =>
    cases b with
    | text other => by_cases hother : other = "" <;> simp [joinTo, hother] at h
    | element _ _ _ => simpa [joinTo] using h

end Node

/-- Nodes with names as they are read from markup have the same markup exactly if they are the same
node when all that stands in void elements is left out, adjacent texts are made one and empty texts
are dropped. -/
theorem markup_tells_nodes_apart {a b : Node} (ha : a.WellNamed) (hb : b.WellNamed) :
    a.markup = b.markup ↔ a.bared.joined = b.bared.joined := by
  constructor
  · intro hmarkup
    have hpieces : a.pieces = b.pieces := by
      apply Piece.flatMap_chars_inj (Node.wellNamed_of_mem_pieces a ha)
        (Node.wellNamed_of_mem_pieces b hb)
      rw [← Node.toList_markup, ← Node.toList_markup, hmarkup]
    have hgathered := Node.foldr_gather_pieces a [] []
    rw [hpieces, Node.foldr_gather_pieces b [] []] at hgathered
    exact Node.joinTo_nil_inj (Prod.mk.inj hgathered).1.symm
  · intro hjoined
    calc
      a.markup = a.bared.joined.markup := by rw [Node.markup_joined, Node.markup_bared]
      _ = b.bared.joined.markup := by rw [hjoined]
      _ = b.markup := by rw [Node.markup_joined, Node.markup_bared]

/-- A value that looks like two attributes is told from these. -/
theorem markup_tells_nodes_apart_quoted :
    let quoted : Node := .element "p" (.ofList [("title", "a\" lang=\"b")])
      [.text "1 <", .text "2", .element "br" .empty [.text "x"], .text ""]
    let merged : Node := .element "p" (.ofList [("title", "a\" lang=\"b")])
      [.text "1 <2", .element "br" .empty []]
    let plain : Node := .element "p" (.ofList [("title", "a"), ("lang", "b")])
      [.text "1 <2", .element "br" .empty []]
    quoted.WellNamed ∧ merged.WellNamed ∧ plain.WellNamed ∧ quoted.markup = merged.markup ∧
      merged.markup ≠ plain.markup := by
  intro quoted merged plain
  have hp : IsTagName "p" := ⟨by decide, by decide, by decide, by decide⟩
  have hbr : IsTagName "br" := ⟨by decide, by decide, by decide, by decide⟩
  have htitle : IsAttributeName "title" := ⟨by decide, by decide, by decide, by decide, by decide⟩
  have hlang : IsAttributeName "lang" := ⟨by decide, by decide, by decide, by decide, by decide⟩
  have hnone : ∀ name ∈ (Keyed.empty : Attributes).keys, IsAttributeName name :=
    fun _ hname => absurd hname List.not_mem_nil
  have hone : ∀ name ∈ (Keyed.ofList [("title", "a\" lang=\"b")] : Attributes).keys,
      IsAttributeName name := by
    intro name hname
    rcases List.mem_singleton.1 hname with rfl
    exact htitle
  have htwo : ∀ name ∈ (Keyed.ofList [("title", "a"), ("lang", "b")] : Attributes).keys,
      IsAttributeName name := by
    intro name hname
    rcases List.mem_pair.1 hname with rfl | rfl
    · exact htitle
    · exact hlang
  have hquoted : quoted.WellNamed :=
    ⟨hp, hone, trivial, trivial, ⟨hbr, hnone, trivial, trivial⟩, trivial, trivial⟩
  have hmerged : merged.WellNamed := ⟨hp, hone, trivial, ⟨hbr, hnone, trivial⟩, trivial⟩
  have hplain : plain.WellNamed := ⟨hp, htwo, trivial, ⟨hbr, hnone, trivial⟩, trivial⟩
  refine ⟨hquoted, hmerged, hplain, ?_, ?_⟩
  · apply (markup_tells_nodes_apart hquoted hmerged).2
    rfl
  · intro hmarkup
    have hsame := (markup_tells_nodes_apart hmerged hplain).1 hmarkup
    injection hsame with _ hattributes _
    exact absurd hattributes (by decide)

end MarkupAudit
