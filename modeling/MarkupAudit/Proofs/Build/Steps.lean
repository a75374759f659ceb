import MarkupAudit.Proofs.Build.Closing

/-!
# The steps of a replay

Replaying an element is a start tag, then its content, then an end tag. A start tag closes what it
implies the end of, gives a row its table body, and places the element. An end tag closes the
element if it is still open.

Main statements: a replay is made of these steps (`replay_of_void`, `replay_of_not_void`); what
every step keeps, the whole replay keeps (`replayAll_invariant`); the serials of open elements
decrease outwards in every trail that is replayed to (`ordered_replayAll`).
-/

namespace MarkupAudit

open Build Markup Outline

namespace Trail

/-! ## Start tags -/

/-- The trail in which an element with the tag is placed. -/
def ready (t : Trail) (tag : String) : Trail :=
  (t.closeImplied tag).impliedBody tag

/-- A row that is to be placed would stand directly in a table. -/
def LacksBody (t : Trail) (tag : String) : Prop :=
  tag = "tr" ∧ (t.closeImplied tag).currentTag? = some "table"

instance (t : Trail) (tag : String) : Decidable (t.LacksBody tag) :=
  inferInstanceAs (Decidable (_ ∧ _))

/-- The trail to which the content of an element is added. -/
def enter (t : Trail) (tag : String) (kept : Attributes) (isEmpty : Bool) : Trail :=
  if Element.isVoidTag tag then
    let placed := (t.ready tag).append (.element tag kept [])
    if isEmpty then placed else placed.note (.hoistedContent tag)
  else (t.ready tag).push tag kept

/-- The trail with a table body opened for a row. -/
def openBody (t : Trail) : Trail :=
  (t.push "tbody" .empty).note .impliedTableBody

section

variable (t : Trail)

theorem frames_openBody : t.openBody.frames = ⟨⟨t.count, "tbody"⟩, t.next⟩ :: t.frames := rfl

theorem outline_openBody :
    t.openBody.outline = t.outline ++ [⟨t.count, .element "tbody" [], t.marks⟩] := rfl

theorem marks_openBody : t.openBody.marks = ⟨t.count, "tbody"⟩ :: t.marks := rfl

theorem count_openBody : t.openBody.count = t.count + 1 := rfl

theorem notices_openBody : t.openBody.notices = t.notices ++ [.impliedTableBody] := rfl

end

theorem ready_of_lacksBody {t : Trail} {tag : String} (h : t.LacksBody tag) :
    t.ready tag = (t.closeImplied tag).openBody := by
  rw [ready, impliedBody, openBody]
  exact if_pos h

theorem ready_of_not_lacksBody {t : Trail} {tag : String} (h : ¬ t.LacksBody tag) :
    t.ready tag = t.closeImplied tag := by
  rw [ready, impliedBody]
  exact if_neg h

section

variable (t : Trail) (tag : String)

@[simp] theorem outline_closeImplied : (t.closeImplied tag).outline = t.outline := by
  rcases closeImplied_spares_tables t tag with ⟨n, hclose, -⟩
  simp [hclose]

@[simp] theorem count_closeImplied : (t.closeImplied tag).count = t.count := by
  rcases closeImplied_spares_tables t tag with ⟨n, hclose, -⟩
  simp [hclose]

@[simp] theorem notices_closeImplied : (t.closeImplied tag).notices = t.notices := by
  rcases closeImplied_spares_tables t tag with ⟨n, hclose, -⟩
  simp [hclose]

variable (kept : Attributes) (isEmpty : Bool)

/-- A start tag places its element last, void or not. -/
theorem outline_enter :
    (t.enter tag kept isEmpty).outline =
      (t.ready tag).outline ++
        [⟨(t.ready tag).count, .element tag kept.entries, (t.ready tag).marks⟩] := by
  unfold enter
  split_ifs <;> simp [outline_append, Node.outline, Node.outlineAll]

theorem count_enter : (t.enter tag kept isEmpty).count = (t.ready tag).count + 1 := by
  have hlength := congrArg List.length (outline_enter t tag kept isEmpty)
  simpa [length_outline] using hlength

theorem count_notices_enter :
    (t.enter tag kept isEmpty).notices.count .impliedTableBody =
      (t.ready tag).notices.count .impliedTableBody := by
  unfold enter
  split_ifs <;> simp [note]

variable {tag}

theorem frames_enter_of_void (hvoid : Element.isVoidTag tag = true) :
    (t.enter tag kept isEmpty).frames = (t.ready tag).frames := by
  unfold enter
  split_ifs <;> simp

theorem enter_of_not_void (hvoid : ¬ Element.isVoidTag tag = true) :
    t.enter tag kept isEmpty = (t.ready tag).push tag kept :=
  if_neg hvoid

end

/-! ## The equations of a replay -/

theorem replay_text (t : Trail) (content : String) :
    t.replay (.text content) = t.append (.text content) := by
  rw [replay]

theorem replay_aside (t : Trail) (kind : Aside) (content : String) :
    t.replay (.aside kind content) = t := by
  rw [replay]

section

variable (t : Trail) {name : String} (attributes : List (String × AttributeValue))
  (children : List RawNode)

/-- A void element ends with its start tag; its content follows it. -/
theorem replay_of_void (hvoid : Element.isVoidTag (Text.lower name) = true) :
    t.replay (.element name attributes children) =
      (t.enter (Text.lower name) (builtAttributes attributes) children.isEmpty).replayAll
        children := by
  rw [replay]
  simp [enter, ready, hvoid]

/-- Any other element is made of its start tag, its content and its end tag. -/
theorem replay_of_not_void (hvoid : ¬ Element.isVoidTag (Text.lower name) = true) :
    t.replay (.element name attributes children) =
      ((t.enter (Text.lower name) (builtAttributes attributes) children.isEmpty).replayAll
        children).finish (t.ready (Text.lower name)).next := by
  rw [replay]
  simp [enter, ready, hvoid]

end

theorem replayAll_nil (t : Trail) : t.replayAll [] = t := by
  rw [replayAll]

theorem replayAll_cons (t : Trail) (node : RawNode) (rest : List RawNode) :
    t.replayAll (node :: rest) = (t.replay node).replayAll rest := by
  rw [replayAll]

theorem replayAll_append (t : Trail) (a b : List RawNode) :
    t.replayAll (a ++ b) = (t.replayAll a).replayAll b := by
  induction a generalizing t with
  | nil => rw [List.nil_append, replayAll_nil]
  | cons node rest ih => rw [List.cons_append, replayAll_cons, replayAll_cons, ih]

/-! ## End tags -/

theorem depthOf?_eq_some {serial depth : Nat} {opened : List OpenElement}
    (h : depthOf? serial opened = some depth) :
    ∃ inner outer, opened.map (·.serial) = inner ++ serial :: outer ∧ inner.length = depth := by
  induction opened generalizing depth with
  | nil => simp [depthOf?] at h
  | cons e outer ih =>
    -- The depth grows by one for each element that is passed.
    unfold depthOf? at h
    split_ifs at h with hserial
    · cases h
      exact ⟨[], outer.map (·.serial), by simp [hserial], rfl⟩
    · rcases Option.map_eq_some_iff.1 h with ⟨d, hd, rfl⟩
      rcases ih hd with ⟨inner, rest, hsplit, hlength⟩
      exact ⟨e.serial :: inner, rest, by simp [hsplit], by simp [hlength]⟩

theorem depthOf?_eq_none {serial : Nat} {opened : List OpenElement}
    (h : depthOf? serial opened = none) : serial ∉ opened.map (·.serial) := by
  induction opened with
  | nil => simp
  | cons e outer ih =>
    unfold depthOf? at h
    split_ifs at h with hserial
    have houter : serial ∉ outer.map (·.serial) := ih (by simpa using h)
    intro hmem
    rcases List.mem_cons.1 hmem with rfl | hmem
    · exact hserial rfl
    · exact houter hmem

/-- The serials of the open elements, the innermost first. -/
def serials (t : Trail) : List Nat :=
  t.frames.map (·.serial)

theorem serials_eq (t : Trail) : t.serials = t.opened.map (·.serial) :=
  map_serial_framesOf t.top t.opened

/-- An end tag closes through the element with the serial, or nothing when it is not open. -/
theorem finish_cases (t : Trail) (serial : Nat) :
    (∃ inner outer, t.serials = inner ++ serial :: outer ∧
        t.finish serial = close (inner.length + 1) t) ∨
      (serial ∉ t.serials ∧ t.finish serial = t) := by
  cases h : depthOf? serial t.opened with
  | none =>
    right
    exact ⟨serials_eq t ▸ depthOf?_eq_none h, by simp [finish, h]⟩
  | some depth =>
    left
    rcases depthOf?_eq_some h with ⟨inner, outer, hsplit, rfl⟩
    exact ⟨inner, outer, (serials_eq t).trans hsplit, by simp [finish, h]⟩

theorem finish_eq_close (t : Trail) (serial : Nat) : ∃ n, t.finish serial = close n t := by
  rcases finish_cases t serial with ⟨inner, -, -, h⟩ | ⟨-, h⟩
  · exact ⟨inner.length + 1, h⟩
  · exact ⟨0, h⟩

section

variable (t : Trail) (serial : Nat)

@[simp] theorem outline_finish : (t.finish serial).outline = t.outline := by
  rcases finish_eq_close t serial with ⟨n, hclose⟩
  simp [hclose]

@[simp] theorem count_finish : (t.finish serial).count = t.count := by
  rcases finish_eq_close t serial with ⟨n, hclose⟩
  simp [hclose]

@[simp] theorem notices_finish : (t.finish serial).notices = t.notices := by
  rcases finish_eq_close t serial with ⟨n, hclose⟩
  simp [hclose]

end

/-! ## Invariants -/

section

variable {I : Trail → Prop}

/-- What the operations of a trail keep, every start tag keeps. -/
theorem enter_invariant (happend : ∀ t node, I t → I (t.append node))
    (hpush : ∀ t tag kept, I t → I (t.push tag kept))
    (hnote : ∀ t notice, I t → I (t.note notice)) (hclose : ∀ t n, I t → I (close n t)) (t : Trail)
    (tag : String) (kept : Attributes) (isEmpty : Bool) (h : I t) :
    I (t.enter tag kept isEmpty) := by
  have hready : I (t.ready tag) := by
    rcases closeImplied_spares_tables t tag with ⟨n, hclosed, -⟩
    rw [ready, hclosed, impliedBody]
    split_ifs
    · exact hnote _ _ (hpush _ _ _ (hclose t n h))
    · exact hclose t n h
  unfold enter
  split_ifs
  · exact happend _ _ hready
  · exact hnote _ _ (happend _ _ hready)
  · exact hpush _ _ _ hready

mutual

theorem replay_invariant (htext : ∀ t content, I t → I (t.append (.text content)))
    (henter : ∀ t tag kept isEmpty, I t → I (t.enter tag kept isEmpty))
    (hclose : ∀ t n, I t → I (close n t)) (t : Trail) (node : RawNode) (h : I t) :
    I (t.replay node) := by
  cases node with
  | text content => simpa only [replay_text] using htext t content h
  | aside kind content => simpa only [replay_aside] using h
  | element name attributes children =>
    have hentered := henter t (Text.lower name) (builtAttributes attributes) children.isEmpty h
    have hcontent := replayAll_invariant htext henter hclose _ children hentered
    by_cases hvoid : Element.isVoidTag (Text.lower name) = true
    · simpa only [replay_of_void t attributes children hvoid] using hcontent
    · -- An end tag is a closing too, whatever it closes.
      rcases finish_eq_close _ (t.ready (Text.lower name)).next with ⟨n, hfinish⟩
      rw [replay_of_not_void t attributes children hvoid, hfinish]
      exact hclose _ n hcontent

/-- What texts, start tags and closing keep, replaying a forest keeps. -/
theorem replayAll_invariant (htext : ∀ t content, I t → I (t.append (.text content)))
    (henter : ∀ t tag kept isEmpty, I t → I (t.enter tag kept isEmpty))
    (hclose : ∀ t n, I t → I (close n t)) (t : Trail) (forest : List RawNode) (h : I t) :
    I (t.replayAll forest) := by
  cases forest with
  | nil => simpa only [replayAll_nil] using h
  | cons node rest =>
    have hnode := replay_invariant htext henter hclose t node h
    simpa only [replayAll_cons] using replayAll_invariant htext henter hclose _ rest hnode

end

end

/-! ## Serials -/

/-- The serials of the open elements decrease outwards, and the next one is greater than all. -/
def Ordered (t : Trail) : Prop :=
  (t.next :: t.serials).Pairwise (· > ·)

theorem Ordered.close {t : Trail} (h : t.Ordered) (n : Nat) : (close n t).Ordered := by
  have hserials : (Trail.close n t).serials = t.serials.drop n := by
    simp [serials, List.map_drop]
  have hsub : (t.next :: t.serials.drop n).Sublist (t.next :: t.serials) :=
    (List.drop_sublist n t.serials).cons_cons t.next
  simpa [Ordered, hserials] using h.sublist hsub

theorem Ordered.push {t : Trail} (h : t.Ordered) (tag : String) (kept : Attributes) :
    (t.push tag kept).Ordered := by
  refine List.pairwise_cons.2 ⟨?_, h⟩
  intro serial hserial
  rcases List.mem_cons.1 hserial with rfl | hserial
  · exact Nat.lt_succ_self _
  · exact Nat.lt_succ_of_lt (List.rel_of_pairwise_cons h hserial)

theorem Ordered.append {t : Trail} (h : t.Ordered) (node : Node) : (t.append node).Ordered := by
  simpa [Ordered, serials] using h

theorem Ordered.closeImplied {t : Trail} (h : t.Ordered) (tag : String) :
    (t.closeImplied tag).Ordered := by
  rcases closeImplied_spares_tables t tag with ⟨n, hclose, -⟩
  simpa only [hclose] using h.close n

theorem Ordered.ready {t : Trail} (h : t.Ordered) (tag : String) : (t.ready tag).Ordered := by
  have hclosed := h.closeImplied tag
  by_cases hlacks : t.LacksBody tag
  · rw [ready_of_lacksBody hlacks]
    exact hclosed.push "tbody" .empty
  · simpa only [ready_of_not_lacksBody hlacks] using hclosed

theorem Ordered.enter {t : Trail} (h : t.Ordered) (tag : String) (kept : Attributes)
    (isEmpty : Bool) : (t.enter tag kept isEmpty).Ordered :=
  enter_invariant (fun _ node h => h.append node) (fun _ tag kept h => h.push tag kept)
    (fun _ _ h => h) (fun _ n h => h.close n) t tag kept isEmpty h

/-- An end tag leaves the element with its serial closed, and closes none that was opened before. -/
theorem Ordered.finish {t : Trail} (h : t.Ordered) (serial : Nat) :
    (t.finish serial).frames <:+ t.frames ∧ serial ∉ (t.finish serial).serials ∧
      ∀ f ∈ t.frames, f.serial < serial → f ∈ (t.finish serial).frames := by
  rcases finish_cases t serial with ⟨inner, outer, hsplit, hfinish⟩ | ⟨habsent, hfinish⟩
  · rcases List.map_eq_append_iff.1 hsplit with ⟨before, rest, hframes, rfl, hrest⟩
    rcases List.map_eq_cons_iff.1 hrest with ⟨g, after, rfl, rfl, rfl⟩
    have hleft : (t.finish g.serial).frames = after := by
      simp [hfinish, hframes, ← List.drop_drop]
    have hpairwise : t.serials.Pairwise (· > ·) := (List.pairwise_cons.1 h).2
    -- Serials before `g` are greater than its own, serials after it are smaller.
    rw [hsplit, List.pairwise_append, List.pairwise_cons] at hpairwise
    rcases hpairwise with ⟨-, ⟨hafter, -⟩, hbefore⟩
    refine ⟨⟨before ++ [g], by simp [hleft, hframes]⟩, ?_, ?_⟩
    · intro hmem
      have hmem' : g.serial ∈ after.map (·.serial) := by
        simpa only [serials, hleft] using hmem
      exact Nat.lt_irrefl _ (hafter _ hmem')
    · intro f hf hlt
      rw [hframes] at hf
      rw [hleft]
      rcases List.mem_append.1 hf with hf | hf
      · have hgt := hbefore f.serial (List.mem_map_of_mem hf) g.serial (by simp)
        exact absurd hlt (Nat.lt_asymm hgt)
      · rcases List.mem_cons.1 hf with rfl | hf
        · exact absurd hlt (Nat.lt_irrefl _)
        · exact hf
  · rw [hfinish]
    exact ⟨List.suffix_refl _, habsent, fun f hf _ => hf⟩

theorem ordered_start : start.Ordered := by
  simp [Ordered, serials]

theorem ordered_replay {t : Trail} (h : t.Ordered) (node : RawNode) : (t.replay node).Ordered :=
  replay_invariant (fun _ _ h => h.append _) (fun _ tag kept isEmpty h => h.enter tag kept isEmpty)
    (fun _ n h => h.close n) t node h

theorem ordered_replayAll {t : Trail} (h : t.Ordered) (forest : List RawNode) :
    (t.replayAll forest).Ordered :=
  replayAll_invariant (fun _ _ h => h.append _)
    (fun _ tag kept isEmpty h => h.enter tag kept isEmpty) (fun _ n h => h.close n) t forest h

end Trail

end MarkupAudit
