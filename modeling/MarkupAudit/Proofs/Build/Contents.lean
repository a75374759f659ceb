import MarkupAudit.Document.Query
import MarkupAudit.Proofs.Build.Path

/-!
# A built document keeps the contents of its forest

Building closes and moves elements, but it neither loses nor repeats nor reorders anything: without
the implied table bodies, the document has the texts and elements of the forest in the same order.
Implied table bodies are told by having no origin, and each of them is as it should be.

Main statement: `contents_replay`.
-/

namespace MarkupAudit

open Build Markup Outline

/-! ## Implied table bodies -/

/-- The entry is what an implied table body should be: without attributes, in a table, and with a
row as its first child. -/
structure Outline.IsImpliedBody (outline : List Entry) (body : Entry) : Prop where
  content : body.content = .element "tbody" []
  parent : body.ancestors.head?.map (·.tag) = some "table"
  firstChild : ∃ row ∈ outline, row.content.tag? = some "tr" ∧
    row.position = body.position + 1 ∧
    row.ancestors = ⟨body.position, "tbody"⟩ :: body.ancestors

theorem Outline.IsImpliedBody.append {outline : List Entry} {body : Entry}
    (h : IsImpliedBody outline body) (more : List Entry) :
    IsImpliedBody (outline ++ more) body where
  content := h.content
  parent := h.parent
  firstChild := by
    rcases h.firstChild with ⟨row, hrow, hrest⟩
    exact ⟨row, List.mem_append_left more hrow, hrest⟩

namespace Trail

/-- The nodes without an origin are table bodies as implied ones should be, and there is a notice
for each of them. -/
structure BodiesImplied (origin : Nat → Option Nat) (t : Trail) : Prop where
  noticed : (t.outline.countP fun e => (origin e.position).isNone) =
    t.notices.count .impliedTableBody
  each : ∀ e ∈ t.outline, origin e.position = none → IsImpliedBody t.outline e

section

variable {origin : Nat → Option Nat} {t : Trail}

theorem BodiesImplied.of_eq {t' : Trail} (h : BodiesImplied origin t)
    (houtline : t'.outline = t.outline) (hnotices : t'.notices = t.notices) :
    BodiesImplied origin t' where
  noticed := by simpa only [houtline, hnotices] using h.noticed
  each := by simpa only [houtline] using h.each

theorem BodiesImplied.extend {t' : Trail} {added : List Entry} (h : BodiesImplied origin t)
    (houtline : t'.outline = t.outline ++ added)
    (hnoticed : t'.notices.count .impliedTableBody =
      t.notices.count .impliedTableBody + added.countP fun e => (origin e.position).isNone)
    (heach : ∀ e ∈ added, origin e.position = none → IsImpliedBody (t.outline ++ added) e) :
    BodiesImplied origin t' where
  noticed := by simp only [houtline, List.countP_append, h.noticed, hnoticed]
  each := by
    rw [houtline]
    intro e he horigin
    rcases List.mem_append.1 he with hold | hnew
    · exact (h.each e hold horigin).append added
    · exact heach e hnew horigin

theorem BodiesImplied.append_text (h : BodiesImplied origin t) (content : String) {first : Nat}
    (hmade : origin t.count = some first) : BodiesImplied origin (t.append (.text content)) := by
  refine h.extend (outline_append t _) (by simp [Node.outline, hmade]) ?_
  intro e he horigin
  have heq : e = ⟨t.count, .text content, t.marks⟩ := by simpa [Node.outline] using he
  simp [heq, hmade] at horigin

/-- A start tag implies a table body only together with its row. -/
theorem BodiesImplied.enter (h : BodiesImplied origin t) {first : Nat} {tag : String}
    (hagrees : Agrees origin t.count (t.startOrigins first tag)) (kept : Attributes)
    (isEmpty : Bool) : BodiesImplied origin (t.enter tag kept isEmpty) := by
  rcases agrees_startOrigins hagrees with ⟨himplied, hmade⟩
  have houtline := outline_enter t tag kept isEmpty
  have hnotices := count_notices_enter t tag kept isEmpty
  by_cases hlacks : t.LacksBody tag
  · have hnone := himplied hlacks
    simp only [ready_of_lacksBody hlacks, outline_openBody, marks_openBody, count_openBody,
      notices_openBody, outline_closeImplied, count_closeImplied, notices_closeImplied,
      List.append_assoc, List.singleton_append] at houtline hnotices hmade
    refine h.extend houtline (by simp [hnotices, hnone, hmade]) ?_
    intro e he horigin
    rcases List.mem_cons.1 he with rfl | hrow
    · -- The body that is new here stands in the current table, and its row comes next.
      have hparent : (t.closeImplied tag).marks.head?.map (·.tag) = some "table" := by
        simpa [currentTag?_eq, tags, marks] using hlacks.2
      refine ⟨rfl, hparent, ⟨t.count + 1, .element tag kept.entries, _⟩, by simp, ?_, rfl, rfl⟩
      simp [Content.tag?, hlacks.1]
    · have heq := List.mem_singleton.1 hrow
      simp [heq, hmade] at horigin
  · simp only [ready_of_not_lacksBody hlacks, outline_closeImplied, count_closeImplied,
      notices_closeImplied] at houtline hnotices hmade
    refine h.extend houtline (by simp [hnotices, hmade]) ?_
    intro e he horigin
    have heq := List.mem_singleton.1 he
    simp [heq, hmade] at horigin

end

section

variable {origin : Nat → Option Nat}

mutual

theorem BodiesImplied.replay {t : Trail} {first : Nat} (h : BodiesImplied origin t)
    (node : RawNode) (hagrees : Agrees origin t.count (t.origins first node)) :
    BodiesImplied origin (t.replay node) := by
  cases node with
  | text content =>
    have hmade : origin t.count = some first := by
      simpa [origins, Agrees] using hagrees
    simpa only [replay_text] using h.append_text content hmade
  | aside kind content => simpa only [replay_aside] using h
  | element name attributes children =>
    rw [origins] at hagrees
    rcases agrees_append.1 hagrees with ⟨hstart, hcontent⟩
    rw [← count_enter_eq t first (builtAttributes attributes) children.isEmpty] at hcontent
    have hentered := h.enter hstart (builtAttributes attributes) children.isEmpty
    have hinside := hentered.replayAll children hcontent
    by_cases hvoid : Element.isVoidTag (Text.lower name) = true
    · simpa only [replay_of_void t attributes children hvoid] using hinside
    · rw [replay_of_not_void t attributes children hvoid]
      exact hinside.of_eq (outline_finish _ _) (notices_finish _ _)

/-- Replaying a forest keeps implied table bodies as they should be. -/
theorem BodiesImplied.replayAll {t : Trail} {first : Nat} (h : BodiesImplied origin t)
    (forest : List RawNode) (hagrees : Agrees origin t.count (t.originsAll first forest)) :
    BodiesImplied origin (t.replayAll forest) := by
  cases forest with
  | nil => simpa only [replayAll_nil] using h
  | cons node rest =>
    rw [originsAll] at hagrees
    rcases agrees_append.1 hagrees with ⟨hnode, hrest⟩
    rw [← count_replay] at hrest
    simpa only [replayAll_cons] using (h.replay node hnode).replayAll rest hrest

end

end

theorem bodiesImplied_start (origin : Nat → Option Nat) : BodiesImplied origin start where
  noticed := rfl
  each := by simp

end Trail

/-! ## The contents of a document -/

theorem map_filterMap_traced (origin : Nat → Option Nat) (entries : List Entry) :
    (entries.filterMap (Entry.traced origin)).map (fun e => (some e.position, e.content)) =
      (entries.filter fun e => (origin e.position).isSome).map
        fun e => (origin e.position, e.content) := by
  induction entries with
  | nil => rfl
  | cons e rest ih =>
    cases h : origin e.position with
    | none => simpa [Entry.traced, h] using ih
    | some position => simpa [Entry.traced, h] using ih

namespace Build

section

variable (forest : List RawNode)

theorem bodiesImplied_outline :
    Trail.BodiesImplied (origin forest) (Trail.start.replayAll forest) :=
  (Trail.bodiesImplied_start _).replayAll forest (agrees_origin forest)

theorem isImpliedBody_of_origin_eq_none {e : Entry} (he : e ∈ outline forest)
    (horigin : origin forest e.position = none) : IsImpliedBody (outline forest) e := by
  have hmem : e ∈ (Trail.start.replayAll forest).outline := by
    simpa only [outline_eq] using he
  simpa only [outline_eq] using (bodiesImplied_outline forest).each e hmem horigin

theorem length_impliedBodies :
    ((outline forest).filter fun e => (origin forest e.position).isNone).length =
      (replay forest).2.count .impliedTableBody := by
  have hnoticed := (bodiesImplied_outline forest).noticed
  rw [← outline_eq, List.countP_eq_length_filter] at hnoticed
  exact hnoticed

theorem contents_kept :
    ((outline forest).filter fun e => (origin forest e.position).isSome).map
        (fun e => (origin forest e.position, e.content)) =
      (RawNode.outlineAll [] 0 forest).map fun e => (some e.position, e.content) := by
  have hmatch : List.Forall₂ (fun b w : Entry => (some b.position, b.content) =
      (some w.position, w.content)) (tracedOutline forest) (RawNode.outlineAll [] 0 forest) := by
    refine (standsFor_tracedOutline forest).imp ?_
    intro b w hstands
    simp only [hstands.position, hstands.content]
  have hmap : (tracedOutline forest).map (fun e => (some e.position, e.content)) =
      (RawNode.outlineAll [] 0 forest).map fun e => (some e.position, e.content) := by
    simpa only [← List.forall₂_eq_eq_eq, List.forall₂_map_left_iff, List.forall₂_map_right_iff]
      using hmatch
  exact (map_filterMap_traced (origin forest) (outline forest)).symm.trans hmap

/-- An implied table body is no text, so leaving it out changes no text. -/
theorem texts_outline :
    (outline forest).filterMap (·.content.text?) =
      (RawNode.outlineAll [] 0 forest).filterMap (·.content.text?) := by
  have hkept : (outline forest).filterMap (·.content.text?) =
      ((outline forest).filter fun e => (origin forest e.position).isSome).filterMap
        (·.content.text?) := by
    rw [List.filterMap_filter]
    refine List.filterMap_congr ?_
    intro e he
    cases horigin : origin forest e.position with
    | none =>
      have hbody := isImpliedBody_of_origin_eq_none forest he horigin
      simp [hbody.content, Content.text?]
    | some position => simp
  have hcontents : ((outline forest).filter fun e => (origin forest e.position).isSome).map
      (·.content) = (RawNode.outlineAll [] 0 forest).map (·.content) := by
    simpa [Function.comp_def] using congrArg (List.map Prod.snd) (contents_kept forest)
  have htexts := congrArg (List.filterMap Content.text?) hcontents
  simpa [hkept, List.filterMap_map, Function.comp_def] using htexts

end

end Build

/-- Without the implied table bodies, a document has the texts and elements of its forest in the
order of the forest, each once and with its content. So its text is that of the forest. There is a
notice for each implied table body, which stands in a table, has no attributes and begins with a
row. -/
theorem contents_replay (source : String) (noticed : List Notice) (forest : List RawNode) :
    let written := RawNode.outlineAll [] 0 forest
    let built := Build.outline forest
    let kept := built.filter fun e => (Build.origin forest e.position).isSome
    let implied := built.filter fun e => (Build.origin forest e.position).isNone
    kept.map (fun e => (Build.origin forest e.position, e.content)) =
        written.map (fun e => (some e.position, e.content)) ∧
      written.map (·.position) = List.range written.length ∧
      (Document.ofForest source noticed forest).root.textContent =
        String.join (written.filterMap (·.content.text?)) ∧
      implied.length = (Build.replay forest).2.count .impliedTableBody ∧
      ∀ body ∈ implied, IsImpliedBody built body := by
  intro written built kept implied
  have hpositions : written.map (·.position) = List.range (RawNode.sizeAll forest) := by
    rw [RawNode.positions_outlineAll, List.range_eq_range']
  have hlength : written.length = RawNode.sizeAll forest := by
    simpa using congrArg List.length hpositions
  have htext : (Document.ofForest source noticed forest).root.textContent =
      String.join (written.filterMap (·.content.text?)) := by
    calc
      (Document.ofForest source noticed forest).root.textContent
          = Node.textContentAll (Build.replay forest).1 := rfl
      _ = String.join (built.filterMap (·.content.text?)) :=
          (Node.join_texts_outlineAll [] 0 _).symm
      _ = String.join (written.filterMap (·.content.text?)) := by
          rw [Build.texts_outline]
  refine ⟨Build.contents_kept forest, ?_, htext, Build.length_impliedBodies forest, ?_⟩
  · simpa only [hlength] using hpositions
  · intro body hbody
    rcases List.mem_filter.1 hbody with ⟨hmem, horigin⟩
    exact Build.isImpliedBody_of_origin_eq_none forest hmem (Option.isNone_iff_eq_none.1 horigin)

/-- The row of a table without a body is given one. -/
theorem contents_replay_row :
    let forest : List RawNode := [.element "Table" [] [.element "tr" [] [.text "one"]]]
    (Build.replay forest).2.count .impliedTableBody = 1 ∧
      IsImpliedBody (Build.outline forest) ⟨1, .element "tbody" [], [⟨0, "table"⟩]⟩ := by
  intro forest
  rcases contents_replay "" [] forest with ⟨-, -, -, hlength, hbodies⟩
  exact ⟨hlength.symm.trans (by decide), hbodies _ (by decide)⟩

end MarkupAudit
