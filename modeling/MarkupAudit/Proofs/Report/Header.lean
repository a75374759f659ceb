import MarkupAudit.Report.Wording

/-!
# What a header counts

Several findings stand under a header. A header in which the number of findings is the only field is
filled in with this number and else left as it is, whatever the number and however long the header.

Main statement: `Wording.tell_counted`.
-/

namespace MarkupAudit

namespace Text.Template

/-- No character is a brace. -/
def Unbraced (cs : List Char) : Prop :=
  ∀ c ∈ cs, c ≠ '\x7b' ∧ c ≠ '\x7d'

instance (cs : List Char) : Decidable (Unbraced cs) :=
  List.decidableBAll _ cs

/-- The characters, each a piece of its own. -/
def literals (cs : List Char) : List Piece :=
  cs.map fun c => .literal [c]

/-- The field for the number of findings. -/
def countField : Field := ⟨"count".toList, none, []⟩

/-- A header whose only field is the number of findings. -/
def counting (before after : List Char) : List Char :=
  before ++ ("\x7bcount\x7d".toList ++ after)

section

variable {cs before after : List Char}

theorem pieces_unbraced_append (hcs : Unbraced cs) (steps : Nat) (rest : List Char) :
    pieces (cs.length + steps) (cs ++ rest) =
      (literals cs ++ (pieces steps rest).1, (pieces steps rest).2) := by
  induction cs with
  | nil => simp [literals]
  | cons c cs ih =>
    rcases hcs c List.mem_cons_self with ⟨hopening, hclosing⟩
    have hrest := ih fun d hd => hcs d (List.mem_cons_of_mem _ hd)
    rw [List.length_cons, Nat.succ_add, List.cons_append, pieces.eq_def]
    simp only [if_neg hopening, if_neg hclosing, hrest]
    rfl

theorem pieces_unbraced (hcs : Unbraced cs) (steps : Nat) :
    pieces (cs.length + steps) cs = (literals cs, none) := by
  have hend : pieces steps [] = ([], none) := by
    cases steps <;> rfl
  simpa [hend] using pieces_unbraced_append hcs steps []

theorem pieces_counting (hbefore : Unbraced before) (hafter : Unbraced after) :
    pieces (counting before after).length (counting before after) =
      (literals before ++ .field countField :: literals after, none) := by
  have hfield : ∀ steps, pieces (steps + 1) ("\x7bcount\x7d".toList ++ after) =
      (.field countField :: (pieces steps after).1, (pieces steps after).2) :=
    fun _ => rfl
  -- The field is read in one step but has seven characters, so six steps are left over.
  have hlength : (counting before after).length = before.length + (after.length + 6 + 1) := by
    simp [counting]
  rw [hlength, counting, pieces_unbraced_append hbefore, hfield, pieces_unbraced hafter]

theorem fillPieces_literals_append (values : Values)
    (expand : List Char → Except Fault (List Char)) (cs : List Char) (rest : List Piece) :
    fillPieces values expand (literals cs ++ rest) =
      (fillPieces values expand rest).map (cs ++ ·) := by
  induction cs with
  | nil => cases h : fillPieces values expand rest <;> simp [literals, h, Except.map]
  | cons c cs ih =>
    rw [literals, List.map_cons, List.cons_append, fillPieces, ← literals, ih]
    cases fillPieces values expand rest <;> rfl

theorem fillPieces_literals (values : Values) (expand : List Char → Except Fault (List Char))
    (cs : List Char) : fillPieces values expand (literals cs) = .ok cs := by
  simpa [fillPieces, Except.map] using fillPieces_literals_append values expand cs []

theorem fillTemplate_counting (hbefore : Unbraced before) (hafter : Unbraced after) (count : Int)
    (values : Values) :
    fillTemplate (("count", .number count) :: values) (String.ofList (counting before after)) =
      .ok (String.ofList before ++ toString count ++ String.ofList after) := by
  have hfield : ∀ expand, fillField (("count", .number count) :: values) expand countField =
      .ok (toString count).toList :=
    fun _ => rfl
  have hfilled : ∀ expand, fillPieces (("count", .number count) :: values) expand
      (literals before ++ .field countField :: literals after) =
        .ok (before ++ ((toString count).toList ++ after)) := by
    intro expand
    rw [fillPieces_literals_append, fillPieces, hfield, fillPieces_literals]
    rfl
  rw [fillTemplate, String.toList_ofList, nesting, fill, pieces_counting hbefore hafter]
  simp only [hfilled, bind, Except.bind, pure, Except.pure, Except.map, String.ofList_append,
    String.ofList_toList, String.append_assoc]

end

end Text.Template

/-- Several findings stand under a header that tells how many they are. -/
theorem Wording.tell_counted {before after : List Char} (hbefore : Text.Template.Unbraced before)
    (hafter : Text.Template.Unbraced after) (rule : String) (messages : List String)
    (hseveral : 2 ≤ messages.length) :
    tell .collect (some (String.ofList (Text.Template.counting before after))) rule messages =
      .ok (Text.join "\n"
        ((String.ofList before ++ toString messages.length ++ String.ofList after) ::
          messages.map ("- " ++ ·))) := by
  -- A header that is empty would be replaced by the standard one.
  have hgiven : String.ofList (Text.Template.counting before after) ≠ "" := by
    intro hempty
    have hlist := congrArg String.toList hempty
    simp [Text.Template.counting] at hlist
  have htell : ∀ header, tell .collect header rule messages = list header rule messages := by
    match messages, hseveral with
    | _ :: _ :: _, _ => exact fun _ => rfl
  rw [htell, list, headerOf, if_neg hgiven, Text.Template.fillTemplate_counting hbefore hafter]
  rfl

end MarkupAudit
