import MarketChat.Inbox.Seller
import Mathlib
/-!
# Unread totals of the seller's inbox

The inbox tells its seller how many messages wait unread in two places: the total of the
snapshot, which every refresh reports with the new snapshot and which `InboxState.unreadTotal`
answers, and the count of each listing's group view (`GroupView.unreadOf`). Both add the
conversations' counts in 32-bit arithmetic, so each is the true sum taken modulo `2^32`
(`InboxState.unreadTotal_eq_sum_mod`, `GroupView.unreadOf_eq_sum_mod`): a few large counts wrap
the total around to a small number. The group counts still add up to the total modulo
`2^32`, and below `2^32` every count is the true sum.

The badge hides a zero total, shows a total up to 99 in decimal and `99+` above it; the three
cases exclude each other, since a decimal numeral has no `+`.

Main statement: `InboxState.unreadTotals_wrap_at_word`.
-/

namespace MarketChat

/-- The unread messages of a snapshot, added as numbers. -/
def Groups.unreadSum (gs : Groups) : Nat :=
  (gs.map fun g => (g.2.map (·.unreadCount)).sum).sum

/-- The unread counts of a group's views, one per group. -/
def Groups.viewUnreads (gs : Groups) : List Nat :=
  gs.map fun g => GroupView.unreadOf g.2

/-! ## Sums as folds -/

theorem foldl_add_unreadCount (convs : List Summary) (acc : Nat) :
    convs.foldl (fun a c => a + c.unreadCount) acc = acc + (convs.map (·.unreadCount)).sum := by
  induction convs generalizing acc with
  | nil => simp
  | cons c rest ih => simp [ih]; omega

theorem foldl_add_groups (gs : Groups) (acc : Nat) :
    gs.foldl (fun acc g => g.2.foldl (fun a c => a + c.unreadCount) acc) acc =
      acc + gs.unreadSum := by
  induction gs generalizing acc with
  | nil => simp [Groups.unreadSum]
  | cons g rest ih =>
    rw [List.foldl_cons, foldl_add_unreadCount, ih]
    simp only [Groups.unreadSum, List.map_cons, List.sum_cons]
    omega

/-- The inbox's total is the snapshot's sum modulo `2^32`. -/
theorem InboxState.unreadTotal_eq_sum_mod (s : InboxState) :
    s.unreadTotal = s.groups.unreadSum % 2 ^ 32 := by
  simp [InboxState.unreadTotal, foldl_add_groups]

/-- A group's count is its conversations' sum modulo `2^32`. -/
theorem GroupView.unreadOf_eq_sum_mod (convs : List Summary) :
    GroupView.unreadOf convs = (convs.map (·.unreadCount)).sum % 2 ^ 32 := by
  simp [GroupView.unreadOf, foldl_add_unreadCount]

/-- The group counts add up to the total, modulo `2^32`. -/
theorem Groups.viewUnreads_sum_mod (gs : Groups) :
    gs.viewUnreads.sum % 2 ^ 32 = gs.unreadSum % 2 ^ 32 := by
  have hviews : gs.viewUnreads =
      (gs.map fun g => (g.2.map (·.unreadCount)).sum).map (· % 2 ^ 32) := by
    simp [Groups.viewUnreads, GroupView.unreadOf_eq_sum_mod]
  rw [hviews, ← List.sum_nat_mod, Groups.unreadSum]

/-- No group holds more than the snapshot. -/
theorem Groups.group_sum_le {gs : Groups} {g : Int × List Summary} (hg : g ∈ gs) :
    (g.2.map (·.unreadCount)).sum ≤ gs.unreadSum :=
  List.le_sum_of_mem (List.mem_map_of_mem hg)

/-- Below `2^32` the group counts are the groups' sums, and so add up to the snapshot's. -/
theorem Groups.viewUnreads_sum_of_lt {gs : Groups} (h : gs.unreadSum < 2 ^ 32) :
    gs.viewUnreads.sum = gs.unreadSum := by
  have hgroups : gs.viewUnreads = gs.map fun g => (g.2.map (·.unreadCount)).sum := by
    refine List.map_congr_left fun g hg => ?_
    rw [GroupView.unreadOf_eq_sum_mod,
      Nat.mod_eq_of_lt (lt_of_le_of_lt (Groups.group_sum_le hg) h)]
  rw [hgroups, Groups.unreadSum]

/-! ## The badge -/

/-- A decimal numeral is never the capped badge. -/
theorem repr_ne_capped (n : Nat) : Nat.repr n ≠ "99+" := by
  intro h
  have hplus : '+' ∈ (Nat.repr n).toList := by rw [h]; decide
  rw [Nat.toList_repr] at hplus
  exact absurd (Nat.isDigit_of_mem_toDigits (by decide) (by decide) hplus) (by decide)

theorem badgeLabel_eq_none_iff (n : Nat) : badgeLabel n = none ↔ n = 0 := by
  unfold badgeLabel
  split_ifs <;> simp_all

theorem badgeLabel_eq_repr_iff (n : Nat) :
    badgeLabel n = some (Nat.repr n) ↔ 1 ≤ n ∧ n ≤ 99 := by
  unfold badgeLabel
  split_ifs with h0 h99
  · simp [h0]
  · simp only [Option.some.injEq]
    exact ⟨fun h => absurd h.symm (repr_ne_capped n), fun h => by omega⟩
  · simp only [true_iff]
    omega

theorem badgeLabel_eq_capped_iff (n : Nat) : badgeLabel n = some "99+" ↔ 99 < n := by
  unfold badgeLabel
  split_ifs with h0 h99
  · simp [h0]
  · simp [h99]
  · simp only [Option.some.injEq]
    exact ⟨fun h => absurd h (repr_ne_capped n), fun _ => by omega⟩

/-! ## The totals together -/

/-- **The unread totals wrap at 32 bits.** For every snapshot of an inbox: the total it
reports and answers is the sum of all unread counts modulo `2^32`; each group view's count is
its group's sum modulo `2^32`, and the views' counts add up to the total modulo `2^32`; when
the sum is below `2^32`, the total and the views' counts add up to exactly the sum. The badge
of the total is hidden exactly at zero, the decimal total exactly from 1 to 99, and `99+`
exactly above 99. -/
theorem InboxState.unreadTotals_wrap_at_word (s : InboxState) :
    s.unreadTotal = s.groups.unreadSum % 2 ^ 32 ∧
      (∀ g ∈ s.groups, GroupView.unreadOf g.2 = (g.2.map (·.unreadCount)).sum % 2 ^ 32) ∧
      s.groups.viewUnreads.sum % 2 ^ 32 = s.unreadTotal ∧
      (s.groups.unreadSum < 2 ^ 32 →
        s.unreadTotal = s.groups.unreadSum ∧ s.groups.viewUnreads.sum = s.groups.unreadSum) ∧
      (badgeLabel s.unreadTotal = none ↔ s.unreadTotal = 0) ∧
      (badgeLabel s.unreadTotal = some (Nat.repr s.unreadTotal) ↔
        1 ≤ s.unreadTotal ∧ s.unreadTotal ≤ 99) ∧
      (badgeLabel s.unreadTotal = some "99+" ↔ 99 < s.unreadTotal) := by
  have htotal := s.unreadTotal_eq_sum_mod
  refine ⟨htotal, fun g _ => GroupView.unreadOf_eq_sum_mod g.2, ?_, fun hlt => ?_,
    badgeLabel_eq_none_iff _, badgeLabel_eq_repr_iff _, badgeLabel_eq_capped_iff _⟩
  · rw [htotal, Groups.viewUnreads_sum_mod]
  · exact ⟨htotal.trans (Nat.mod_eq_of_lt hlt), Groups.viewUnreads_sum_of_lt hlt⟩

/-- Two conversations of `2^32 - 1` and `1` unread messages wrap the total to zero, which
hides the badge. -/
example :
    let s : InboxState := { groups := [(7, [{ id := 1, buyerId := "15", unreadCount := 2 ^ 32 - 1 },
      { id := 2, buyerId := "16", unreadCount := 1 }])] }
    s.groups.unreadSum = 2 ^ 32 ∧ s.unreadTotal = 0 ∧ badgeLabel s.unreadTotal = none := by
  refine ⟨rfl, ?_, ?_⟩ <;> decide

end MarketChat
