import MarkupAudit.Data.Tally
import Mathlib.Algebra.BigOperators.Group.List.Lemmas
import Mathlib.Algebra.GroupWithZero.Nat

/-!
# The order of a tally

The keys of a tally stand in the order in which they first came up, whether they were counted one by
one, several at a time or in another tally before. Sorted from the largest count to the smallest,
entries keep this order where their counts are equal.

Main statements: items without repetition stand in the order of their first places
(`pairwise_idxOf_eraseDups`); items that are counted in groups come up with the groups
(`comesUpWith_foldl_add`), and what another tally has counted behind what is counted already
(`ComesUpWith.addAll`); the counts grow by what is counted, under each key
(`count_foldl_add_eq`) and in total (`sum_values_foldl_add`); items that are taken group by group
are all there (`flatMap_filter_perm`); sorting is stable (`pairwise_falling`), also group by group
(`pairwise_flatMap_falling`).
-/

namespace MarkupAudit.Tally

/-! ## Each item at its first place -/

section

variable {α : Type} [DecidableEq α] {items : List α}

theorem filter_eraseDups (keep : α → Bool) (items : List α) :
    items.eraseDups.filter keep = (items.filter keep).eraseDups := by
  induction hlength : items.length using Nat.strong_induction_on generalizing items with
  | _ n ih =>
    cases items with
    | nil => rfl
    | cons a rest =>
      have hshort : (rest.filter fun b => !b == a).length < n := by
        rw [← hlength, List.length_cons]
        exact Nat.lt_succ_of_le (List.length_filter_le _ rest)
      have hrest := ih _ hshort _ rfl
      rw [List.eraseDups_cons]
      cases hkeep : keep a with
      | true =>
        rw [List.filter_cons_of_pos hkeep, hrest, List.filter_cons_of_pos hkeep,
          List.eraseDups_cons, List.filter_filter, List.filter_filter]
        simp only [Bool.and_comm]
      | false =>
        -- What equals the item that is dropped is dropped with it.
        have hsame : (rest.filter fun b => !b == a).filter keep = rest.filter keep := by
          rw [List.filter_filter]
          refine List.filter_congr fun b _ => ?_
          by_cases hb : b = a <;> simp [hb, hkeep]
        rw [List.filter_cons_of_neg (by simp [hkeep]), hrest, hsame,
          List.filter_cons_of_neg (by simp [hkeep])]

theorem eraseDups_cons_eq (a : α) (rest : List α) :
    (a :: rest).eraseDups = a :: rest.eraseDups.filter fun b => !b == a := by
  rw [List.eraseDups_cons, filter_eraseDups]

/-- Items without repetition stand in the order of their first places. -/
theorem pairwise_idxOf_eraseDups (items : List α) :
    items.eraseDups.Pairwise fun a b => items.idxOf a < items.idxOf b := by
  induction items with
  | nil => exact List.Pairwise.nil
  | cons first rest ih =>
    have hplace : ∀ b, b ≠ first → (first :: rest).idxOf b = rest.idxOf b + 1 :=
      fun b hb => List.idxOf_cons_ne rest (Ne.symm hb)
    rw [eraseDups_cons_eq, List.pairwise_cons]
    constructor
    · intro b hb
      have hne : b ≠ first := by simpa using (List.mem_filter.1 hb).2
      rw [List.idxOf_cons_self, hplace b hne]
      exact Nat.succ_pos _
    · refine (ih.filter _).imp_of_mem ?_
      intro a b ha hb hlt
      have hane : a ≠ first := by simpa using (List.mem_filter.1 ha).2
      have hbne : b ≠ first := by simpa using (List.mem_filter.1 hb).2
      rw [hplace a hane, hplace b hbne]
      exact Nat.succ_lt_succ hlt

theorem nodup_eraseDups (items : List α) : items.eraseDups.Nodup :=
  (pairwise_idxOf_eraseDups items).imp fun hlt heq => absurd hlt (by simp [heq])

theorem eraseDups_of_nodup (h : items.Nodup) : items.eraseDups = items := by
  induction items with
  | nil => rfl
  | cons a rest ih =>
    rcases List.nodup_cons.1 h with ⟨ha, hrest⟩
    rw [eraseDups_cons_eq, ih hrest, List.filter_eq_self.2]
    intro b hb
    have hne : b ≠ a := fun heq => ha (heq ▸ hb)
    simpa using hne

theorem eraseDups_append_eraseDups (front back : List α) :
    front.eraseDups ++ (back.eraseDups.removeAll front.eraseDups).eraseDups =
      (front ++ back).eraseDups := by
  have hseen : back.eraseDups.removeAll front.eraseDups =
      (back.removeAll front).eraseDups := by
    rw [List.removeAll, List.removeAll, filter_eraseDups]
    refine congrArg List.eraseDups (List.filter_congr fun a _ => ?_)
    simp
  rw [hseen, eraseDups_of_nodup (nodup_eraseDups _), List.eraseDups_append]

/-- Groups of equal items come up in the order of the groups. -/
theorem eraseDups_flatMap {ι : Type} {groups : List ι} {members : ι → List α} {key : ι → α}
    (hsome : ∀ group ∈ groups, members group ≠ [])
    (hequal : ∀ group ∈ groups, ∀ a ∈ members group, a = key group) :
    (groups.flatMap members).eraseDups = (groups.map key).eraseDups := by
  induction groups with
  | nil => rfl
  | cons group rest ih =>
    rcases List.forall_mem_cons.1 hsome with ⟨hfirst, hsome⟩
    rcases List.forall_mem_cons.1 hequal with ⟨hkey, hequal⟩
    -- A group is its key, once or several times.
    have hmem : ∀ a, a ∈ members group ↔ a = key group := by
      intro a
      refine ⟨hkey a, ?_⟩
      rintro rfl
      rcases List.exists_mem_of_ne_nil _ hfirst with ⟨b, hb⟩
      exact hkey b hb ▸ hb
    have hgroup : (members group).eraseDups = [key group] := by
      rcases List.exists_cons_of_ne_nil hfirst with ⟨a, others, hmembers⟩
      rw [hmembers] at hkey ⊢
      rcases List.forall_mem_cons.1 hkey with ⟨ha, hothers⟩
      have hnone : (others.filter fun b => !b == a) = [] :=
        List.filter_eq_nil_iff.2 fun b hb => by simp [hothers b hb, ha]
      rw [List.eraseDups_cons, hnone, ha, List.eraseDups_nil]
    have hlater : (rest.flatMap members).removeAll (members group) =
        (rest.flatMap members).filter fun a => !a == key group := by
      refine List.filter_congr fun a _ => ?_
      rw [List.elem_eq_contains, Bool.eq_iff_iff]
      simp [hmem]
    rw [List.flatMap_cons, List.eraseDups_append, hgroup, hlater, ← filter_eraseDups,
      ih hsome hequal, List.map_cons, eraseDups_cons_eq, List.singleton_append]

/-- The counts of all items add up to their number. -/
theorem sum_count_eraseDups (items : List α) :
    (items.eraseDups.map fun a => items.count a).sum = items.length := by
  have hperm : items.eraseDups.Perm items.dedup :=
    (List.perm_ext_iff_of_nodup (nodup_eraseDups items) (List.nodup_dedup items)).2
      fun a => by rw [List.mem_eraseDups, List.mem_dedup]
  rw [(hperm.map _).sum_eq, List.sum_map_count_dedup_eq_length]

end

/-! ## Keys in the order in which they came up -/

section

variable {κ : Type} [DecidableEq κ] {tally other : Tally κ} {items others : List κ}

theorem mem_entries_iff {key : κ} {n : Nat} :
    (key, n) ∈ tally.entries ↔ key ∈ tally.keys ∧ n = Tally.count tally key := by
  have hcount : ∀ entry ∈ tally.entries, Tally.count tally entry.1 = entry.2 := by
    intro entry hentry
    rw [Tally.count, Keyed.get?, Entries.lookup_of_mem tally.distinct hentry]
    rfl
  constructor
  · intro hentry
    exact ⟨List.mem_map_of_mem hentry, (hcount _ hentry).symm⟩
  · rintro ⟨hkey, rfl⟩
    rcases List.mem_map.1 hkey with ⟨entry, hentry, rfl⟩
    rw [hcount entry hentry]
    exact hentry

/-- The keys of a tally are the items, each at its first place. -/
def ComesUpWith (tally : Tally κ) (items : List κ) : Prop :=
  tally.keys = items.eraseDups

theorem ComesUpWith.mem_keys_iff (h : ComesUpWith tally items) {key : κ} :
    key ∈ tally.keys ↔ key ∈ items := by
  rw [h, List.mem_eraseDups]

/-- The keys stand in the order of the first items that are equal to them. -/
theorem ComesUpWith.pairwise_keys (h : ComesUpWith tally items) :
    tally.keys.Pairwise fun a b =>
      (items.findIdx fun item => decide (item = a)) <
        items.findIdx fun item => decide (item = b) := by
  rw [h]
  exact pairwise_idxOf_eraseDups items

theorem keys_foldl_add {ι : Type} (key : ι → κ) (n : ι → Nat) (counted : List ι)
    (tally : Tally κ) :
    (counted.foldl (fun tally item => Tally.add tally (key item) (n item)) tally).keys =
      tally.keys ++ ((counted.map key).removeAll tally.keys).eraseDups :=
  Keyed.keys_foldl_set key (fun tally item => Tally.count tally (key item) + n item) counted tally

/-- Items counted in groups of equal ones come up with the groups. -/
theorem comesUpWith_foldl_add {ι : Type} {groups : List ι} {members : ι → List κ} {key : ι → κ}
    (n : ι → Nat) (hsome : ∀ group ∈ groups, members group ≠ [])
    (hequal : ∀ group ∈ groups, ∀ a ∈ members group, a = key group) :
    ComesUpWith (groups.foldl (fun tally group => Tally.add tally (key group) (n group)) .empty)
      (groups.flatMap members) := by
  have hkeys := keys_foldl_add key n groups Keyed.empty
  have hempty : (Keyed.empty : Tally κ).keys = [] := rfl
  rw [hempty, List.nil_append, List.removeAll_nil] at hkeys
  rw [ComesUpWith, eraseDups_flatMap hsome hequal]
  exact hkeys

/-- What another tally has counted comes up behind what is counted already. -/
theorem ComesUpWith.addAll (h : ComesUpWith tally items) (hother : ComesUpWith other others) :
    ComesUpWith (Tally.addAll tally other) (items ++ others) := by
  have hkeys := Keyed.keys_foldl_set Prod.fst
    (fun tally entry => Tally.count tally entry.1 + entry.2) other.entries tally
  have hentries : other.entries.map Prod.fst = others.eraseDups := hother
  rw [h, hentries, eraseDups_append_eraseDups] at hkeys
  exact hkeys

/-- Where every item is counted once, the entries are the items with their numbers. -/
theorem ComesUpWith.entries_eq (h : ComesUpWith tally items)
    (hcount : ∀ key, Tally.count tally key = items.countP fun item => decide (item = key)) :
    tally.entries = items.eraseDups.map fun key => (key, items.count key) := by
  rw [Keyed.entries_eq_map_keys tally 0, h]
  exact List.map_congr_left fun key _ => congrArg (Prod.mk key) (hcount key)

theorem ComesUpWith.sum_entries (h : ComesUpWith tally items)
    (hcount : ∀ key, Tally.count tally key = items.countP fun item => decide (item = key)) :
    (tally.entries.map Prod.snd).sum = items.length := by
  rw [h.entries_eq hcount, List.map_map]
  exact sum_count_eraseDups items

end

/-! ## Counts and their total -/

section

variable {κ : Type} [DecidableEq κ]

/-- An entry that is set brings its count and takes away the one that it replaces. -/
theorem sum_set (key : κ) (n : Nat) (entries : List (κ × Nat)) :
    ((Entries.set key n entries).map Prod.snd).sum + (entries.lookup key).getD 0 =
      (entries.map Prod.snd).sum + n := by
  induction entries with
  | nil => simp [Entries.set]
  | cons entry rest ih =>
    by_cases hkey : entry.1 = key
    · subst hkey
      simp only [Entries.set, if_true, List.map_cons, List.sum_cons, Entries.lookup_cons_fst,
        Option.getD_some]
      omega
    · rw [Entries.lookup_cons_of_ne (Ne.symm hkey)]
      simp only [Entries.set, if_neg hkey, List.map_cons, List.sum_cons]
      omega

theorem sum_values_add (tally : Tally κ) (key : κ) (n : Nat) :
    (Tally.add tally key n).values.sum = tally.values.sum + n := by
  have hset : (Tally.add tally key n).values.sum + Tally.count tally key =
      tally.values.sum + (Tally.count tally key + n) :=
    sum_set key (Tally.count tally key + n) tally.entries
  omega

section

variable {ι : Type} (key : ι → κ) (n : ι → Nat) (counted : List ι) (tally : Tally κ)

/-- The counts of a tally grow by all that is counted, under whichever keys. -/
theorem sum_values_foldl_add :
    (counted.foldl (fun tally item => Tally.add tally (key item) (n item)) tally).values.sum =
      tally.values.sum + (counted.map n).sum := by
  induction counted generalizing tally with
  | nil => simp
  | cons item rest ih =>
    rw [List.foldl_cons, ih, sum_values_add, List.map_cons, List.sum_cons, Nat.add_assoc]

/-- The count of a key grows by what is counted under it. -/
theorem count_foldl_add_eq (k : κ) :
    Tally.count
        (counted.foldl (fun tally item => Tally.add tally (key item) (n item)) tally) k =
      Tally.count tally k + ((counted.filter fun item => key item == k).map n).sum := by
  induction counted generalizing tally with
  | nil => simp
  | cons item rest ih =>
    rw [List.foldl_cons, ih]
    by_cases hitem : key item = k
    · subst hitem
      simp [count_add_self, Nat.add_assoc]
    · simp [count_add_of_ne tally (Ne.symm hitem), hitem]

end

theorem get?_eq_some_iff {tally : Tally κ} {key : κ} {n : Nat} :
    tally.get? key = some n ↔ key ∈ tally.keys ∧ n = Tally.count tally key := by
  rw [← Keyed.contains_iff, Keyed.contains, Tally.count, Option.isSome_iff_exists]
  constructor
  · intro hfound
    exact ⟨⟨n, hfound⟩, by rw [hfound]; rfl⟩
  · rintro ⟨⟨m, hfound⟩, rfl⟩
    rw [hfound]
    rfl

end

/-! ## Groups -/

section

variable {ι β : Type} [DecidableEq β]

/-- Items that are taken group by group are all there. -/
theorem flatMap_filter_perm (group : ι → β) {order : List β} {items : List ι}
    (horder : order.Nodup) (hcover : ∀ item ∈ items, group item ∈ order) :
    (order.flatMap fun g => items.filter fun item => group item == g).Perm items := by
  induction order generalizing items with
  | nil =>
    have hnone : items = [] := List.eq_nil_iff_forall_not_mem.2 fun item hitem => by
      simpa using hcover item hitem
    simp [hnone]
  | cons g rest ih =>
    rcases List.nodup_cons.1 horder with ⟨hg, hrest⟩
    -- The other groups are taken from what the first one leaves.
    have hothers : ∀ item ∈ items.filter fun item => !group item == g, group item ∈ rest := by
      intro item hitem
      rcases List.mem_filter.1 hitem with ⟨hmem, hne⟩
      exact (List.mem_cons.1 (hcover item hmem)).resolve_left (by simpa using hne)
    have hsame : (rest.flatMap fun g' => items.filter fun item => group item == g') =
        rest.flatMap fun g' =>
          (items.filter fun item => !group item == g).filter fun item => group item == g' := by
      refine List.flatMap_congr fun g' hg' => ?_
      have hne : g' ≠ g := fun heq => hg (heq ▸ hg')
      rw [List.filter_filter]
      refine List.filter_congr fun item _ => ?_
      by_cases hitem : group item = g' <;> simp [hitem, hne]
    rw [List.flatMap_cons, hsame]
    exact ((ih hrest hothers).append_left _).trans (List.filter_append_perm _ items)

end

/-! ## From the largest count to the smallest -/

section

variable {α : Type} {entries : List (α × Nat)}

theorem falling_perm (entries : List (α × Nat)) : (falling entries).Perm entries :=
  List.mergeSort_perm entries _

/-- Counts fall, and entries with equal counts keep their order. -/
theorem pairwise_falling {before : α × Nat → α × Nat → Prop} (h : entries.Pairwise before) :
    (falling entries).Pairwise fun a b => b.2 ≤ a.2 ∧ (a.2 = b.2 → before a b) := by
  let le : α × Nat → α × Nat → Bool := fun a b => b.2 ≤ a.2
  have htrans : ∀ a b c, le a b = true → le b c = true → le a c = true := by
    simp only [le, decide_eq_true_eq]
    omega
  have htotal : ∀ a b, (le a b || le b a) = true := by
    simp only [le, Bool.or_eq_true, decide_eq_true_eq]
    omega
  -- The sort is the same for entries that carry their places, and there it is strict.
  have hplaces : falling entries =
      (entries.zipIdx.mergeSort (List.zipIdxLE le)).map Prod.fst := List.mergeSort_zipIdx.symm
  have hsorted := List.pairwise_mergeSort (List.zipIdxLE_trans htrans) (List.zipIdxLE_total htotal)
    entries.zipIdx
  have hperm := List.mergeSort_perm entries.zipIdx (List.zipIdxLE le)
  have hdistinct : (entries.zipIdx.mergeSort (List.zipIdxLE le)).Pairwise fun a b => a.2 ≠ b.2 := by
    have hnodup : (entries.zipIdx.map Prod.snd).Nodup := by
      rw [List.zipIdx_map_snd]
      exact List.nodup_range'
    exact List.pairwise_map.1 ((hperm.map Prod.snd).nodup_iff.2 hnodup)
  rw [hplaces, List.pairwise_map]
  refine (hsorted.and hdistinct).imp_of_mem ?_
  intro a b ha hb hab
  rcases hab with ⟨hle, hne⟩
  have hfound : ∀ c ∈ entries.zipIdx.mergeSort (List.zipIdxLE le), entries[c.2]? = some c.1 :=
    fun c hc => List.mem_zipIdx_iff_getElem?.1 (hperm.mem_iff.1 hc)
  have hcount : b.1.2 ≤ a.1.2 := by
    by_contra hless
    simp [List.zipIdxLE, le, hless] at hle
  refine ⟨hcount, fun hequal => ?_⟩
  have hplace : a.2 < b.2 := by
    have hat : a.2 ≤ b.2 := by simpa [List.zipIdxLE, le, hequal] using hle
    omega
  rcases List.getElem?_eq_some_iff.1 (hfound a ha) with ⟨hi, ha⟩
  rcases List.getElem?_eq_some_iff.1 (hfound b hb) with ⟨hj, hb⟩
  rw [← ha, ← hb]
  exact List.pairwise_iff_getElem.1 h a.2 b.2 hi hj hplace

/-- Entries that are sorted group by group are all there. -/
theorem flatMap_falling_perm {β : Type} [DecidableEq β] (group : α → β) {order : List β}
    (horder : order.Nodup) (hcover : ∀ entry ∈ entries, group entry.1 ∈ order) :
    (order.flatMap fun g => falling (entries.filter fun entry => group entry.1 == g)).Perm
      entries := by
  have hsorted : (order.flatMap fun g =>
      falling (entries.filter fun entry => group entry.1 == g)).Perm
        (order.flatMap fun g => entries.filter fun entry => group entry.1 == g) :=
    List.Perm.flatMap_left order fun g _ => falling_perm _
  exact hsorted.trans (flatMap_filter_perm (fun entry : α × Nat => group entry.1) horder hcover)

/-- Groups keep their order, in a group counts fall, and equal counts keep their order. -/
theorem pairwise_flatMap_falling {β : Type} [DecidableEq β] (group : α → β) {order : List β}
    (horder : order.Nodup) {before : α × Nat → α × Nat → Prop} (h : entries.Pairwise before) :
    (order.flatMap fun g => falling (entries.filter fun entry => group entry.1 == g)).Pairwise
      fun a b => order.idxOf (group a.1) < order.idxOf (group b.1) ∨
        group a.1 = group b.1 ∧ b.2 ≤ a.2 ∧ (a.2 = b.2 → before a b) := by
  have hgroup : ∀ g, ∀ entry ∈ falling (entries.filter fun entry => group entry.1 == g),
      group entry.1 = g := by
    intro g entry hentry
    have hmem := (falling_perm _).mem_iff.1 hentry
    simpa using (List.mem_filter.1 hmem).2
  have hplaces := pairwise_idxOf_eraseDups order
  rw [eraseDups_of_nodup horder] at hplaces
  rw [List.pairwise_flatMap]
  constructor
  · intro g _
    refine (pairwise_falling (h.filter _)).imp_of_mem ?_
    intro a b ha hb hab
    exact .inr ⟨(hgroup g a ha).trans (hgroup g b hb).symm, hab⟩
  · refine hplaces.imp ?_
    intro g g' hlt a ha b hb
    rw [hgroup g a ha, hgroup g' b hb]
    exact .inl hlt

end

end MarkupAudit.Tally
