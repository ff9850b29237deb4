import CaptureDesk.Proofs.Feed.Run
import Mathlib

/-!
# What the numbers account for

The numbers of a channel may come with gaps, twice, late, or negative.  `Account` says what its
account knows of them: the events and the greatest number, the *stale* ones, before which one at
least as great had come, and the numbers between the first and the greatest that were never reached
as a new maximum.  The last are the gaps; a number that is delivered late was counted among them and
stays counted.

The accounts are set up one number at a time: every notion here has a lemma for a list with one more
number at its end, and `Account.advance` puts them together.
-/

namespace CaptureDesk

/-! ## Stale numbers and new maxima -/

/-- The number at a place is stale: an earlier one is at least as great. -/
def IsStale (ns : List Int) (i : Nat) : Prop :=
  ∃ j < i, ns.getD i 0 ≤ ns.getD j 0

instance (ns : List Int) : DecidablePred (IsStale ns) := fun i =>
  inferInstanceAs (Decidable (∃ j < i, ns.getD i 0 ≤ ns.getD j 0))

/-- How many places hold a stale number. -/
def countStale (ns : List Int) : Nat :=
  Nat.count (IsStale ns) ns.length

/-- A number has arrived as a new maximum: at some place it was not stale. -/
def NewMaximum (ns : List Int) (x : Int) : Prop :=
  ∃ i < ns.length, ns.getD i 0 = x ∧ ¬ IsStale ns i

instance (ns : List Int) : DecidablePred (NewMaximum ns) := fun x =>
  inferInstanceAs (Decidable (∃ i < ns.length, ns.getD i 0 = x ∧ ¬ IsStale ns i))

section Concat

variable {ns : List Int} {n x : Int}

theorem getD_concat_length : (ns ++ [n]).getD ns.length 0 = n := by
  simp

theorem exists_getD_iff {p : Int → Prop} :
    (∃ j < ns.length, p (ns.getD j 0)) ↔ ∃ m ∈ ns, p m := by
  constructor
  · intro h
    obtain ⟨j, within, holds⟩ := h
    refine ⟨ns[j], List.getElem_mem within, ?_⟩
    rw [List.getD_eq_getElem _ _ within] at holds
    exact holds
  · intro h
    obtain ⟨m, member, holds⟩ := h
    rcases List.getElem_of_mem member with ⟨j, within, rfl⟩
    refine ⟨j, within, ?_⟩
    rw [List.getD_eq_getElem _ _ within]
    exact holds

/-- A number that follows makes no earlier one stale. -/
theorem isStale_concat_of_lt {i : Nat} (within : i < ns.length) :
    IsStale (ns ++ [n]) i ↔ IsStale ns i := by
  unfold IsStale
  rw [List.getD_append _ _ _ _ within]
  constructor
  · intro h
    obtain ⟨j, before, le⟩ := h
    rw [List.getD_append _ _ _ _ (before.trans within)] at le
    exact ⟨j, before, le⟩
  · intro h
    obtain ⟨j, before, le⟩ := h
    refine ⟨j, before, ?_⟩
    rw [List.getD_append _ _ _ _ (before.trans within)]
    exact le

/-- The last number is stale if one at least as great is among the others. -/
theorem isStale_concat_length : IsStale (ns ++ [n]) ns.length ↔ ∃ m ∈ ns, n ≤ m := by
  unfold IsStale
  rw [getD_concat_length, ← exists_getD_iff]
  constructor
  · intro h
    obtain ⟨j, before, le⟩ := h
    rw [List.getD_append _ _ _ _ before] at le
    exact ⟨j, before, le⟩
  · intro h
    obtain ⟨j, before, le⟩ := h
    refine ⟨j, before, ?_⟩
    rw [List.getD_append _ _ _ _ before]
    exact le

theorem countStale_concat :
    countStale (ns ++ [n]) = countStale ns + if ∃ m ∈ ns, n ≤ m then 1 else 0 := by
  unfold countStale
  rw [List.length_append, List.length_singleton, Nat.count_succ]
  have earlier : Nat.count (IsStale (ns ++ [n])) ns.length = Nat.count (IsStale ns) ns.length := by
    rw [Nat.count_eq_card_filter_range, Nat.count_eq_card_filter_range]
    congr 1
    refine Finset.filter_congr ?_
    intro i within
    exact isStale_concat_of_lt (Finset.mem_range.mp within)
  rw [earlier]
  simp only [isStale_concat_length]

theorem newMaximum_concat :
    NewMaximum (ns ++ [n]) x ↔ NewMaximum ns x ∨ (x = n ∧ ¬ ∃ m ∈ ns, n ≤ m) := by
  unfold NewMaximum
  rw [List.length_append, List.length_singleton]
  constructor
  · intro h
    obtain ⟨i, within, rfl, fresh⟩ := h
    rcases Nat.lt_succ_iff_lt_or_eq.mp within with before | rfl
    · rw [isStale_concat_of_lt before] at fresh
      exact Or.inl ⟨i, before, (List.getD_append _ _ _ _ before).symm, fresh⟩
    · rw [isStale_concat_length] at fresh
      exact Or.inr ⟨getD_concat_length, fresh⟩
  · intro h
    rcases h with ⟨i, before, rfl, fresh⟩ | ⟨rfl, fresh⟩
    · refine ⟨i, by omega, List.getD_append _ _ _ _ before, ?_⟩
      rw [isStale_concat_of_lt before]
      exact fresh
    · refine ⟨ns.length, by omega, getD_concat_length, ?_⟩
      rw [isStale_concat_length]
      exact fresh

theorem NewMaximum.mem (fresh : NewMaximum ns x) : x ∈ ns := by
  rcases fresh with ⟨i, within, rfl, _⟩
  rw [List.getD_eq_getElem _ _ within]
  exact List.getElem_mem within

end Concat

/-! ## Skipped numbers -/

/-- The numbers of a range that were never reached as a new maximum. -/
noncomputable def skipped (ns : List Int) (first last : Int) : Finset Int :=
  (Finset.Icc first last).filter fun x => ¬ NewMaximum ns x

/-- The numbers of a range that were never delivered. -/
noncomputable def undelivered (ns : List Int) (first last : Int) : Finset Int :=
  (Finset.Icc first last).filter fun x => x ∉ ns

section Skipped

variable {ns : List Int} {n first last : Int}

/-- A stale number is none that was skipped before, nor does it make one. -/
theorem skipped_concat_of_le (greatest : ns.max? = some last) (stale : n ≤ last) :
    skipped (ns ++ [n]) first last = skipped ns first last := by
  have member : last ∈ ns := (List.max?_eq_some_iff.mp greatest).1
  unfold skipped
  refine Finset.filter_congr ?_
  intro x _
  rw [newMaximum_concat]
  constructor
  · intro never fresh
    exact never (Or.inl fresh)
  · intro never h
    rcases h with fresh | ⟨_, fresh⟩
    · exact never fresh
    · exact fresh ⟨last, member, stale⟩

/-- A new maximum skips the numbers between the old one and itself. -/
theorem skipped_concat_of_lt (greatest : ns.max? = some last) (ordered : first ≤ last)
    (higher : last < n) :
    skipped (ns ++ [n]) first n = skipped ns first last ∪ Finset.Ioo last n := by
  have bounded : ∀ m ∈ ns, m ≤ last := (List.max?_eq_some_iff.mp greatest).2
  have fresh : ¬ ∃ m ∈ ns, n ≤ m := by
    intro h
    obtain ⟨m, member, le⟩ := h
    have := bounded m member
    omega
  ext x
  simp only [skipped, Finset.mem_union, Finset.mem_filter, Finset.mem_Icc, Finset.mem_Ioo,
    newMaximum_concat]
  constructor
  · intro h
    obtain ⟨⟨low, high⟩, never⟩ := h
    by_cases old : x ≤ last
    · exact Or.inl ⟨⟨low, old⟩, fun reached => never (Or.inl reached)⟩
    · have other : x ≠ n := fun same => never (Or.inr ⟨same, fresh⟩)
      exact Or.inr ⟨by omega, by omega⟩
  · intro h
    rcases h with ⟨⟨low, high⟩, never⟩ | ⟨low, high⟩
    · refine ⟨⟨low, by omega⟩, ?_⟩
      intro h
      rcases h with reached | ⟨same, _⟩
      · exact never reached
      · omega
    · refine ⟨⟨by omega, by omega⟩, ?_⟩
      intro h
      rcases h with reached | ⟨same, _⟩
      · have := bounded x reached.mem
        omega
      · omega

theorem card_skipped_concat_of_lt (greatest : ns.max? = some last) (ordered : first ≤ last)
    (higher : last < n) :
    ((skipped (ns ++ [n]) first n).card : Int) =
      (skipped ns first last).card + (n - last - 1) := by
  have apart : Disjoint (skipped ns first last) (Finset.Ioo last n) := by
    rw [Finset.disjoint_left]
    intro x old new
    have := (Finset.mem_Icc.mp (Finset.mem_filter.mp old).1).2
    have := (Finset.mem_Ioo.mp new).1
    omega
  rw [skipped_concat_of_lt greatest ordered higher, Finset.card_union_of_disjoint apart,
    Int.card_Ioo]
  omega

/-- A number that was never delivered was skipped. -/
theorem undelivered_subset_skipped (ns : List Int) (first last : Int) :
    undelivered ns first last ⊆ skipped ns first last := by
  intro x missing
  rcases Finset.mem_filter.mp missing with ⟨within, absent⟩
  exact Finset.mem_filter.mpr ⟨within, fun fresh => absent fresh.mem⟩

end Skipped

/-! ## The account of a channel -/

/-- The account `t` is right about the numbers `ns` that were accepted, in this order. -/
structure Account (ns : List Int) (t : Tally) : Prop where
  events : t.eventCount = ns.length
  last : t.lastSeq = ns.max?
  stale : t.staleCount = countStale ns
  conserved : ∀ first ∈ ns.head?, ∀ last ∈ t.lastSeq,
    t.gapCount + ((t.eventCount : Int) - t.staleCount) = last - first + 1
  gaps : ∀ first ∈ ns.head?, ∀ last ∈ t.lastSeq, t.gapCount = (skipped ns first last).card
  noGap : ns = [] → t.gapCount = 0

/-- The gaps of an account bound the numbers that were never delivered, and are their number just if
every one that was delivered arrived as a new maximum once. -/
def BoundsLoss (ns : List Int) (t : Tally) : Prop :=
  ∀ first ∈ ns.head?, ∀ last ∈ t.lastSeq,
    ((undelivered ns first last).card : Int) ≤ t.gapCount ∧
      ((undelivered ns first last).card = t.gapCount ↔
        ∀ x ∈ Finset.Icc first last, x ∈ ns → NewMaximum ns x)

section Account

variable {ns : List Int} {t : Tally} {n : Int}

theorem Account.empty : Account [] {} where
  events := rfl
  last := rfl
  stale := rfl
  conserved := by
    intro first none
    cases none
  gaps := by
    intro first none
    cases none
  noGap _ := rfl

/-- An envelope that is dropped is no event. -/
theorem Account.drop (account : Account ns t) : Account ns t.drop :=
  ⟨account.events, account.last, account.stale, account.conserved, account.gaps, account.noGap⟩

/-- The first event is neither stale nor does it skip anything. -/
theorem Account.first (account : Account [] t) (n : Int) : Account [n] (t.advance n) := by
  have lastSeq : t.lastSeq = none := account.last
  have events : t.eventCount = 0 := account.events
  have stale : t.staleCount = 0 := account.stale
  have gapCount : t.gapCount = 0 := account.noGap rfl
  have advanced : t.advance n = { t with lastSeq := some n, eventCount := t.eventCount + 1 } := by
    unfold Tally.advance
    rw [lastSeq]
  have reached : NewMaximum [n] n := by
    rw [← List.nil_append [n], newMaximum_concat]
    exact Or.inr ⟨rfl, by simp⟩
  rw [advanced]
  refine ⟨by simp [events], rfl, ?_, ?_, ?_, by simp⟩
  · show t.staleCount = countStale ([] ++ [n])
    rw [countStale_concat, stale]
    rfl
  · intro first isFirst last isLast
    cases isFirst
    cases isLast
    simp only [gapCount, events, stale]
    omega
  · intro first isFirst last isLast
    cases isFirst
    cases isLast
    have none : skipped [n] n n = ∅ := by
      unfold skipped
      rw [Finset.Icc_self, Finset.filter_singleton, if_neg (not_not_intro reached)]
    simp only [none, Finset.card_empty]
    exact gapCount

theorem max?_concat {last : Int} (greatest : ns.max? = some last) :
    (ns ++ [n]).max? = some (max last n) := by
  rcases List.max?_eq_some_iff.mp greatest with ⟨member, bounded⟩
  refine List.max?_eq_some_iff.mpr ⟨?_, ?_⟩
  · rcases le_total last n with le | le
    · rw [max_eq_right le]
      exact List.mem_append_right _ List.mem_cons_self
    · rw [max_eq_left le]
      exact List.mem_append_left _ member
  · intro m among
    rcases List.mem_append.mp among with old | new
    · exact (bounded m old).trans (le_max_left last n)
    · rw [List.mem_singleton.mp new]
      exact le_max_right last n

theorem exists_le_iff {last : Int} (greatest : ns.max? = some last) :
    (∃ m ∈ ns, n ≤ m) ↔ n ≤ last := by
  rcases List.max?_eq_some_iff.mp greatest with ⟨member, bounded⟩
  constructor
  · intro h
    obtain ⟨m, among, le⟩ := h
    exact le.trans (bounded m among)
  · intro le
    exact ⟨last, member, le⟩

theorem head?_concat_of_max? {last : Int} (greatest : ns.max? = some last) :
    (ns ++ [n]).head? = ns.head? := by
  refine List.head?_append_of_ne_nil _ ?_
  intro none
  rw [none] at greatest
  cases greatest

/-- A stale event is counted as such, and nothing else changes. -/
theorem Account.stale_next (account : Account ns t) {last : Int} (greatest : ns.max? = some last)
    (le : n ≤ last) : Account (ns ++ [n]) (t.advance n) := by
  have lastSeq : t.lastSeq = some last := account.last.trans greatest
  have head : (ns ++ [n]).head? = ns.head? := head?_concat_of_max? greatest
  have advanced : t.advance n =
      { t with staleCount := t.staleCount + 1, eventCount := t.eventCount + 1 } := by
    unfold Tally.advance
    rw [lastSeq]
    exact if_pos le
  rw [advanced]
  refine ⟨?_, ?_, ?_, ?_, ?_, by simp⟩
  · simp [account.events]
  · rw [max?_concat greatest, max_eq_left le]
    exact lastSeq
  · simp only [countStale_concat, account.stale, exists_le_iff greatest, if_pos le]
  · rw [head]
    intro first isFirst m isLast
    have before := account.conserved first isFirst m isLast
    simp only
    omega
  · rw [head]
    intro first isFirst m isLast
    have same : last = m := Option.some.inj (lastSeq.symm.trans isLast)
    subst same
    rw [skipped_concat_of_le greatest le]
    exact account.gaps first isFirst last isLast

/-- A new maximum skips the numbers between the old one and itself. -/
theorem Account.fresh_next (account : Account ns t) {last : Int} (greatest : ns.max? = some last)
    (higher : last < n) : Account (ns ++ [n]) (t.advance n) := by
  have lastSeq : t.lastSeq = some last := account.last.trans greatest
  have head : (ns ++ [n]).head? = ns.head? := head?_concat_of_max? greatest
  have new : ¬ n ≤ last := by omega
  have advanced : t.advance n =
      { t with
        lastSeq := some n
        gapCount := t.gapCount + (n - last - 1)
        eventCount := t.eventCount + 1 } := by
    unfold Tally.advance
    rw [lastSeq]
    exact if_neg new
  rw [advanced]
  refine ⟨?_, ?_, ?_, ?_, ?_, by simp⟩
  · simp [account.events]
  · rw [max?_concat greatest, max_eq_right higher.le]
  · simp only [countStale_concat, account.stale, exists_le_iff greatest, if_neg new, Nat.add_zero]
  · rw [head]
    intro first isFirst m isLast
    cases isLast
    have before := account.conserved first isFirst last lastSeq
    simp only
    omega
  · rw [head]
    intro first isFirst m isLast
    cases isLast
    have before := account.gaps first isFirst last lastSeq
    have ordered : first ≤ last :=
      (List.max?_eq_some_iff.mp greatest).2 first (List.mem_of_mem_head? isFirst)
    rw [card_skipped_concat_of_lt greatest ordered higher]
    simp only
    omega

/-- One more event keeps the account right. -/
theorem Account.advance (account : Account ns t) (n : Int) :
    Account (ns ++ [n]) (t.advance n) := by
  cases greatest : ns.max? with
  | none =>
      have begun := List.max?_eq_none_iff.mp greatest
      subst begun
      exact account.first n
  | some last =>
      by_cases le : n ≤ last
      · exact account.stale_next greatest le
      · exact account.fresh_next greatest (Int.not_le.mp le)

/-- What was never delivered is among the gaps, and is all of them just if nothing was delivered
only late. -/
theorem Account.bounds (account : Account ns t) : BoundsLoss ns t := by
  intro first isFirst last isLast
  have subset := undelivered_subset_skipped ns first last
  rw [account.gaps first isFirst last isLast]
  refine ⟨Int.ofNat_le.mpr (Finset.card_le_card subset), ?_⟩
  rw [Nat.cast_inj]
  constructor
  · intro same x within delivered
    have all := Finset.eq_of_subset_of_card_le subset same.ge
    by_contra late
    have missing : x ∈ undelivered ns first last := by
      rw [all]
      exact Finset.mem_filter.mpr ⟨within, late⟩
    exact (Finset.mem_filter.mp missing).2 delivered
  · intro inTime
    congr 1
    refine Finset.filter_congr ?_
    intro x within
    exact not_congr ⟨inTime x within, NewMaximum.mem⟩

end Account

/-! ## Whole runs -/

/-- One account has come after another: nothing in it has decreased. -/
structure Tally.Grows (before after : Tally) : Prop where
  last : ∀ n ∈ before.lastSeq, ∃ n' ∈ after.lastSeq, n ≤ n'
  gaps : before.gapCount ≤ after.gapCount
  events : before.eventCount ≤ after.eventCount
  stale : before.staleCount ≤ after.staleCount
  malformed : before.malformedCount ≤ after.malformedCount

theorem Tally.Grows.refl (t : Tally) : t.Grows t :=
  ⟨fun n last => ⟨n, last, le_rfl⟩, le_rfl, le_rfl, le_rfl, le_rfl⟩

theorem Tally.Grows.trans {t u v : Tally} (first : t.Grows u) (second : u.Grows v) :
    t.Grows v := by
  refine ⟨?_, first.gaps.trans second.gaps, first.events.trans second.events,
    first.stale.trans second.stale, first.malformed.trans second.malformed⟩
  intro n last
  rcases first.last n last with ⟨m, next, le⟩
  rcases second.last m next with ⟨k, final, le'⟩
  exact ⟨k, final, le.trans le'⟩

/-- The numbers of the envelopes that are accepted on a channel, in the order of their arrival. -/
def numbers (c : Channel) (inputs : List Input) : List Int :=
  (envelopes c inputs).map (·.seq)

end CaptureDesk
