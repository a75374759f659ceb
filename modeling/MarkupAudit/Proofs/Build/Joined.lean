import MarkupAudit.Document.Parse
import MarkupAudit.Proofs.Build.Extent
import MarkupAudit.Proofs.Document.Joined

/-!
# What the chunking of texts does to a build

Comments and the like are no content, and a text means the same however it is cut into pieces. What
is built from forests that differ in no more than this differs only in the chunking of its texts:
where an element is placed is decided by the tags of the open elements, which no text changes.

Main statement: `RawNode.Alike.joined_ofForest`.
-/

namespace MarkupAudit

open Build Markup

namespace Markup

/-- The forests differ only in nodes that are no content and in how texts are cut into adjacent
pieces, empty ones included. -/
inductive RawNode.Alike : List RawNode → List RawNode → Prop where
  | refl (forest : List RawNode) : Alike forest forest
  | symm {a b : List RawNode} : Alike a b → Alike b a
  | trans {a b c : List RawNode} : Alike a b → Alike b c → Alike a c
  | aside (kind : Aside) (content : String) (rest : List RawNode) :
      Alike (.aside kind content :: rest) rest
  | drop (rest : List RawNode) : Alike (.text "" :: rest) rest
  | merge (content more : String) (rest : List RawNode) :
      Alike (.text content :: .text more :: rest) (.text (content ++ more) :: rest)
  | behind (node : RawNode) {a b : List RawNode} : Alike a b → Alike (node :: a) (node :: b)
  | inside (name : String) (attributes : List (String × AttributeValue)) (rest : List RawNode)
      {a b : List RawNode} :
      Alike a b → Alike (.element name attributes a :: rest) (.element name attributes b :: rest)

end Markup

def OpenElement.joined (e : OpenElement) : OpenElement :=
  { e with children := Node.joinedAll e.children }

namespace Trail

/-- The trail with the texts of its finished nodes joined, without its notices. -/
def joined (t : Trail) : Trail where
  opened := t.opened.map OpenElement.joined
  top := Node.joinedAll t.top
  next := t.next
  notices := []

/-- The trails differ only in the chunking of texts and in what was noticed. -/
def Alike (t u : Trail) : Prop :=
  t.joined = u.joined

/-! ## Steps -/

theorem joined_append (t : Trail) (node : Node) :
    (t.append node).joined = (t.joined.append node.joined).joined := by
  have hjoined : ∀ nodes, Node.joinedAll (nodes ++ [node]) =
      Node.joinedAll (Node.joinedAll nodes ++ [node.joined]) := by
    intro nodes
    refine Node.joinedAll_append_congr (Node.joinedAll_joinedAll nodes).symm ?_
    simp [Node.joinedAll, Node.joined_joined]
  rcases t with ⟨opened, top, next, notices⟩
  cases opened with
  | nil => simp [append, joined, hjoined]
  | cons e outer =>
    simp [append, joined, OpenElement.joined, hjoined, Node.joinedAll_joinedAll]

theorem joined_pop (t : Trail) : t.pop.joined = t.joined.pop.joined := by
  rcases t with ⟨opened, top, next, notices⟩
  cases opened with
  | nil => simp [pop, joined, Node.joinedAll_joinedAll]
  | cons e outer => exact joined_append ⟨outer, top, next, notices⟩ e.node

theorem tags_joined (t : Trail) : t.joined.tags = t.tags := by
  simp [tags_eq, joined, OpenElement.joined, Function.comp_def]

theorem depthOf?_joined (serial : Nat) (opened : List OpenElement) :
    depthOf? serial (opened.map OpenElement.joined) = depthOf? serial opened := by
  induction opened with
  | nil => rfl
  | cons e outer ih => simp [depthOf?, OpenElement.joined, ih]

namespace Alike

variable {t u : Trail}

theorem trans {v : Trail} (h : t.Alike u) (hnext : u.Alike v) : t.Alike v :=
  Eq.trans h hnext

theorem tags (h : t.Alike u) : t.tags = u.tags := by
  rw [← tags_joined t, h, tags_joined]

theorem next (h : t.Alike u) : t.next = u.next := by
  have hnext : t.joined.next = u.joined.next := congrArg Trail.next h
  exact hnext

theorem append (h : t.Alike u) {node node' : Node} (hnode : node.joined = node'.joined) :
    (t.append node).Alike (u.append node') := by
  have hjoined : t.joined = u.joined := h
  rw [Alike, joined_append, hjoined, hnode, ← joined_append]

theorem push (h : t.Alike u) (tag : String) (kept : Attributes) :
    (t.push tag kept).Alike (u.push tag kept) := by
  have hpush : ∀ t : Trail, (t.push tag kept).joined = t.joined.push tag kept := fun _ => rfl
  have hjoined : t.joined = u.joined := h
  rw [Alike, hpush, hpush, hjoined]

/-- Notices do not count. -/
theorem note (h : t.Alike u) (notice : Notice) : (t.note notice).Alike u := h

theorem close (h : t.Alike u) (n : Nat) : (Trail.close n t).Alike (Trail.close n u) := by
  induction n generalizing t u with
  | zero => exact h
  | succ n ih =>
    have hjoined : t.joined = u.joined := h
    have hpop : t.pop.Alike u.pop := by rw [Alike, joined_pop, hjoined, ← joined_pop]
    exact ih hpop

theorem ready (h : t.Alike u) (tag : String) : (t.ready tag).Alike (u.ready tag) := by
  have hclosed : (t.closeImplied tag).Alike (u.closeImplied tag) := by
    rw [closeImplied_eq_close, closeImplied_eq_close, h.tags]
    exact h.close _
  have hlacks : t.LacksBody tag ↔ u.LacksBody tag := by
    rw [lacksBody_iff, lacksBody_iff, h.tags]
  by_cases hbody : u.LacksBody tag
  · rw [ready_of_lacksBody hbody, ready_of_lacksBody (hlacks.2 hbody)]
    exact hclosed.push "tbody" .empty
  · rw [ready_of_not_lacksBody hbody, ready_of_not_lacksBody (mt hlacks.1 hbody)]
    exact hclosed

/-- A start tag does the same whether anything is written inside a void element or not. -/
theorem enter (h : t.Alike u) (tag : String) (kept : Attributes) (isEmpty isEmpty' : Bool) :
    (t.enter tag kept isEmpty).Alike (u.enter tag kept isEmpty') := by
  have hready := h.ready tag
  by_cases hvoid : Element.isVoidTag tag = true
  · have hnoted : ∀ (t : Trail) (isEmpty : Bool),
        (t.enter tag kept isEmpty).joined =
          ((t.ready tag).append (.element tag kept [])).joined := by
      intro t isEmpty
      rw [Trail.enter, if_pos hvoid]
      cases isEmpty <;> rfl
    rw [Alike, hnoted, hnoted]
    exact hready.append rfl
  · rw [enter_of_not_void t kept isEmpty hvoid, enter_of_not_void u kept isEmpty' hvoid]
    exact hready.push tag kept

theorem finish (h : t.Alike u) (serial : Nat) : (t.finish serial).Alike (u.finish serial) := by
  have hdepth : depthOf? serial t.opened = depthOf? serial u.opened := by
    have hopened : t.opened.map OpenElement.joined = u.opened.map OpenElement.joined :=
      congrArg Trail.opened h
    rw [← depthOf?_joined, hopened, depthOf?_joined]
  unfold Trail.finish
  rw [hdepth]
  cases depthOf? serial u.opened with
  | none => exact h
  | some depth => exact h.close (depth + 1)

mutual

theorem replay {t u : Trail} (h : t.Alike u) (node : RawNode) :
    (t.replay node).Alike (u.replay node) := by
  cases node with
  | text content =>
    rw [replay_text, replay_text]
    exact h.append rfl
  | aside kind content =>
    rw [replay_aside, replay_aside]
    exact h
  | element name attributes children =>
    have hcontent := (h.enter (Text.lower name) (builtAttributes attributes) children.isEmpty
      children.isEmpty).replayAll children
    by_cases hvoid : Element.isVoidTag (Text.lower name) = true
    · rw [replay_of_void _ _ _ hvoid, replay_of_void _ _ _ hvoid]
      exact hcontent
    · rw [replay_of_not_void _ _ _ hvoid, replay_of_not_void _ _ _ hvoid,
        (h.ready (Text.lower name)).next]
      exact hcontent.finish _

/-- What is alike stays alike when a forest is added. -/
theorem replayAll {t u : Trail} (h : t.Alike u) (forest : List RawNode) :
    (t.replayAll forest).Alike (u.replayAll forest) := by
  cases forest with
  | nil =>
    rw [replayAll_nil, replayAll_nil]
    exact h
  | cons node rest =>
    rw [replayAll_cons, replayAll_cons]
    exact (h.replay node).replayAll rest

end

theorem joinedAll_nodes (h : t.Alike u) : Node.joinedAll t.nodes = Node.joinedAll u.nodes := by
  have hlength : t.opened.length = u.opened.length := by
    have htags := congrArg List.length h.tags
    simpa [tags_eq] using htags
  have hclosed := h.close t.opened.length
  rw [Trail.nodes, Trail.nodes, ← hlength]
  exact congrArg Trail.top hclosed

end Alike

/-- Lists of nodes that are joined alike are added alike. -/
theorem alike_foldl_append (t : Trail) {a b : List Node}
    (h : Node.joinedAll a = Node.joinedAll b) : (a.foldl append t).Alike (b.foldl append t) := by
  have hjoined : ∀ nodes, Node.joinedAll (nodes ++ a) = Node.joinedAll (nodes ++ b) :=
    fun nodes => Node.joinedAll_append_congr rfl h
  rcases t with ⟨opened, top, next, notices⟩
  cases opened with
  | nil => simp [foldl_append_nil, Alike, joined, hjoined]
  | cons e outer => simp [foldl_append_cons, Alike, joined, OpenElement.joined, hjoined]

end Trail

/-! ## Forests -/

section

open Trail

/-- Forests that are alike do the same to a trail. -/
theorem Markup.RawNode.Alike.replayAll {a b : List RawNode} (h : RawNode.Alike a b) (t : Trail) :
    (t.replayAll a).Alike (t.replayAll b) := by
  induction h generalizing t with
  | refl forest => rfl
  | symm _ ih => exact (ih t).symm
  | trans _ _ ih ih' => exact (ih t).trans (ih' t)
  | aside kind content rest =>
    rw [replayAll_cons, replay_aside]
    rfl
  | drop rest =>
    have htext : (t.append (.text "")).Alike t :=
      alike_foldl_append t (show Node.joinedAll [.text ""] = Node.joinedAll [] from rfl)
    rw [replayAll_cons, replay_text]
    exact htext.replayAll rest
  | merge content more rest =>
    have hmerged : Node.joinedAll [.text content, .text more] =
        Node.joinedAll [.text (content ++ more)] :=
      (Node.joinTo_append content more []).symm
    simp only [replayAll_cons, replay_text]
    exact (alike_foldl_append t hmerged).replayAll rest
  | behind node _ ih =>
    rw [replayAll_cons, replayAll_cons]
    exact ih (t.replay node)
  | @inside name attributes rest a b _ ih =>
    -- The start tags may tell apart whether anything is written inside a void element, which does
    -- not count. What comes inside does the same to both trails, and so does what comes behind.
    have hentered : (t.enter (Text.lower name) (builtAttributes attributes) a.isEmpty).Alike
        (t.enter (Text.lower name) (builtAttributes attributes) b.isEmpty) :=
      Trail.Alike.enter rfl _ _ _ _
    have hcontent := (hentered.replayAll a).trans (ih _)
    rw [replayAll_cons, replayAll_cons]
    refine Trail.Alike.replayAll ?_ rest
    by_cases hvoid : Element.isVoidTag (Text.lower name) = true
    · rw [replay_of_void _ _ _ hvoid, replay_of_void _ _ _ hvoid]
      exact hcontent
    · rw [replay_of_not_void _ _ _ hvoid, replay_of_not_void _ _ _ hvoid]
      exact hcontent.finish _

end

/-- Forests that are alike give documents that are joined to one document. -/
theorem Markup.RawNode.Alike.joined_ofForest {a b : List RawNode} (h : RawNode.Alike a b)
    (source : String) (noticed noticed' : List Notice) :
    (Document.ofForest source noticed a).joined = (Document.ofForest source noticed' b).joined := by
  have hnodes : Node.joinedAll (Build.replay a).1 = Node.joinedAll (Build.replay b).1 :=
    (h.replayAll Trail.start).joinedAll_nodes
  exact congrArg (Document.ofNodes source) hnodes

end MarkupAudit
