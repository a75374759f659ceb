import Mathlib.Data.List.Basic

/-!
# Written forms that tell where they end

When the written form of an item tells the item, whatever is written behind it, then items that are
written one after another can be told too, as far as the text goes on as an item could begin. What
stands behind them has to begin as no item does.

Main statements: `SelfDelimiting.flatMap` for items in general and `append_inj_of_begins` for texts
up to a sign that does not occur in them.
-/

namespace MarkupAudit

variable {α β : Type}

/-- What a valid item is written as tells the item, whatever is written behind it. -/
def SelfDelimiting (valid : α → Prop) (write : α → List β) : Prop :=
  ∀ a b, valid a → valid b → ∀ x y, write a ++ x = write b ++ y → a = b ∧ x = y

namespace SelfDelimiting

variable {valid : α → Prop} {write : α → List β}

/-- An item that can be read from the beginning of a text tells where it ends. -/
theorem of_read {read : List β → Option (α × List β)}
    (h : ∀ a, valid a → ∀ x, read (write a ++ x) = some (a, x)) : SelfDelimiting valid write := by
  intro a b ha hb x y heq
  have hread : some (a, x) = some (b, y) := by
    rw [← h a ha x, heq, h b hb y]
  exact Prod.mk.inj (Option.some.inj hread)

theorem singleton {valid : β → Prop} : SelfDelimiting valid fun c : β => [c] := by
  intro a b _ _ x y heq
  exact List.cons.inj heq

/-- Items that are written one after another are told by what is written, and so is what stops
them. -/
theorem flatMap (h : SelfDelimiting valid write) (stops : List β → Prop)
    (hstops : ∀ a, valid a → ∀ x, ¬ stops (write a ++ x)) {as bs : List α} {x y : List β}
    (has : ∀ a ∈ as, valid a) (hbs : ∀ b ∈ bs, valid b) (hx : stops x) (hy : stops y)
    (heq : as.flatMap write ++ x = bs.flatMap write ++ y) : as = bs ∧ x = y := by
  induction as generalizing bs with
  | nil =>
    cases bs with
    | nil => exact ⟨rfl, heq⟩
    | cons b bs =>
      have hgoesOn : x = write b ++ (bs.flatMap write ++ y) := by simpa using heq
      exact absurd (hgoesOn ▸ hx) (hstops b (hbs b List.mem_cons_self) _)
  | cons a as ih =>
    cases bs with
    | nil =>
      have hgoesOn : y = write a ++ (as.flatMap write ++ x) := by simpa using heq.symm
      exact absurd (hgoesOn ▸ hy) (hstops a (has a List.mem_cons_self) _)
    | cons b bs =>
      have hwritten : write a ++ (as.flatMap write ++ x) = write b ++ (bs.flatMap write ++ y) := by
        simpa using heq
      rcases h a b (has a List.mem_cons_self) (hbs b List.mem_cons_self) _ _ hwritten with
        ⟨rfl, hrest⟩
      have hothers : as = bs ∧ x = y := by
        apply ih _ _ hrest
        · intro c hc
          exact has c (List.mem_cons_of_mem a hc)
        · intro c hc
          exact hbs c (List.mem_cons_of_mem a hc)
      exact ⟨congrArg (a :: ·) hothers.1, hothers.2⟩

end SelfDelimiting

/-- The text begins with a sign of a kind. -/
def Begins (sign : β → Prop) (x : List β) : Prop :=
  ∃ c rest, x = c :: rest ∧ sign c

/-- A text without signs of a kind ends before the first of them. -/
theorem append_inj_of_begins {sign : β → Prop} {a b x y : List β} (ha : ∀ c ∈ a, ¬ sign c)
    (hb : ∀ c ∈ b, ¬ sign c) (hx : Begins sign x) (hy : Begins sign y) (heq : a ++ x = b ++ y) :
    a = b ∧ x = y := by
  have hstops : ∀ c, ¬ sign c → ∀ rest, ¬ Begins sign ([c] ++ rest) := by
    rintro c hc rest ⟨c', rest', heq', hsign⟩
    cases heq'
    exact hc hsign
  apply SelfDelimiting.singleton.flatMap (Begins sign) hstops ha hb hx hy
  simpa only [List.flatMap_singleton'] using heq

end MarkupAudit
