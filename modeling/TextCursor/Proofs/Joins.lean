import Mathlib.Data.Set.Card
import Mathlib.Order.Bounds.Basic
import Mathlib.Order.Interval.Finset.Nat
import TextCursor.Proofs.Arithmetic

/-! Spans ordered by their bounds. Joining any number of spans gives the least span above all of them,
whatever their order, their grouping and their repetitions. Reversed spans have a place in this order like
all others, although no offset lies inside. -/
namespace TextCursor.Span
variable {s t u : Span}

/-- A span lies below another if neither of its bounds is beyond the other's. -/
instance : PartialOrder Span where
  le s t := t.start ≤ s.start ∧ s.stop ≤ t.stop
  le_refl _ := ⟨UInt64.le_refl _, UInt64.le_refl _⟩
  le_trans _ _ _ hst htu := ⟨UInt64.le_trans htu.1 hst.1, UInt64.le_trans hst.2 htu.2⟩
  le_antisymm s t hst hts := by
    have hstart : s.start = t.start := UInt64.le_antisymm hts.1 hst.1
    have hstop : s.stop = t.stop := UInt64.le_antisymm hst.2 hts.2
    cases s
    cases t
    exact congrArg₂ mk hstart hstop

theorem le_iff : s ≤ t ↔ t.start ≤ s.start ∧ s.stop ≤ t.stop := Iff.rfl

/-! ### Offsets inside -/

theorem mem_of_le (h : s ≤ t) {n : Offset} (hn : n ∈ s) : n ∈ t := by
  rw [mem_iff] at hn ⊢
  exact ⟨UInt64.le_trans h.1 hn.1, UInt64.lt_of_lt_of_le hn.2 h.2⟩

/-- The length counts the offsets inside. Between reversed bounds there are none. -/
theorem encard_offsets (s : Span) : {n : Offset | n ∈ s}.encard = s.length.toNat := by
  -- Every number between the bounds fits in a word and is met by one offset.
  have hnumbers : UInt64.toNat '' {n : Offset | n ∈ s} = Finset.Ico s.start.toNat s.stop.toNat := by
    ext k
    rw [Finset.coe_Ico, Set.mem_Ico]
    constructor
    · rintro ⟨n, hn, rfl⟩
      exact ⟨UInt64.le_iff_toNat_le.mp hn.1, UInt64.lt_iff_toNat_lt.mp hn.2⟩
    · rintro ⟨hstart, hstop⟩
      have hk : (UInt64.ofNat k).toNat = k :=
        UInt64.toNat_ofNat_of_lt (Nat.lt_trans hstop s.stop.toNat_lt)
      refine ⟨UInt64.ofNat k, ⟨?_, ?_⟩, hk⟩
      · rw [UInt64.le_iff_toNat_le, hk]
        exact hstart
      · rw [UInt64.lt_iff_toNat_lt, hk]
        exact hstop
  have hinjective : Function.Injective UInt64.toNat := fun _ _ => UInt64.toNat_inj.mp
  rw [← hinjective.encard_image, hnumbers, Set.encard_coe_eq_coe_finsetCard, Nat.card_Ico, length,
    Offset.toNat_subClamped]

theorem length_le_of_le (h : s ≤ t) : s.length ≤ t.length := by
  have hcount : {n : Offset | n ∈ s}.encard ≤ {n : Offset | n ∈ t}.encard :=
    Set.encard_le_encard fun _ hn => mem_of_le h hn
  rw [encard_offsets, encard_offsets, Nat.cast_le] at hcount
  exact UInt64.le_iff_toNat_le.mpr hcount

/-! ### Joins -/

theorem expand_le_iff : s.expand t ≤ u ↔ s ≤ u ∧ t ≤ u := by
  simp only [le_iff, expand, UInt64.le_iff_toNat_le, Offset.toNat_min, Offset.toNat_max, Nat.le_min,
    Nat.max_le]
  exact and_and_and_comm

private theorem foldl_expand_le_iff {first : Span} {rest : List Span} :
    rest.foldl expand first ≤ u ↔ ∀ s ∈ first :: rest, s ≤ u := by
  induction rest generalizing first with
  | nil => simp
  | cons second rest ih =>
    rw [List.foldl_cons, ih, List.forall_mem_cons, expand_le_iff, List.forall_mem_cons,
      List.forall_mem_cons, and_assoc]

theorem isLUB_foldl_expand (first : Span) (rest : List Span) :
    IsLUB {s | s ∈ first :: rest} (rest.foldl expand first) :=
  isLUB_iff_le_iff.mpr fun _ => foldl_expand_le_iff

/-- What has the same members has the same join, whatever their order and number. -/
private theorem eq_of_isLUB {l m : List Span} (hs : IsLUB {u | u ∈ l} s) (ht : IsLUB {u | u ∈ m} t)
    (hsame : ∀ u, u ∈ l ↔ u ∈ m) : s = t := by
  have hset : {u | u ∈ l} = {u | u ∈ m} := Set.ext hsame
  rw [hset] at hs
  exact hs.unique ht

private theorem min?_start_eq (first : Span) (rest : List Span) :
    ((first :: rest).map (·.start.toNat)).min? = some (rest.foldl expand first).start.toNat := by
  have hjoin : ∀ s t : Span, min s.start.toNat t.start.toNat = (s.expand t).start.toNat :=
    fun _ _ => (Offset.toNat_min ..).symm
  rw [List.map_cons, List.min?_cons', List.foldl_map]
  exact congrArg some (List.foldl_hom (fun s : Span => s.start.toNat) hjoin)

private theorem max?_stop_eq (first : Span) (rest : List Span) :
    ((first :: rest).map (·.stop.toNat)).max? = some (rest.foldl expand first).stop.toNat := by
  have hjoin : ∀ s t : Span, max s.stop.toNat t.stop.toNat = (s.expand t).stop.toNat :=
    fun _ _ => (Offset.toNat_max ..).symm
  rw [List.map_cons, List.max?_cons', List.foldl_map]
  exact congrArg some (List.foldl_hom (fun s : Span => s.stop.toNat) hjoin)

/-- A way to join spans two at a time. Every span keeps its place, also if it occurs again. -/
inductive Grouping where
  | single (s : Span)
  | join (a b : Grouping)
  deriving DecidableEq, Repr

namespace Grouping

def members : Grouping → List Span
  | single s => [s]
  | join a b => a.members ++ b.members

def span : Grouping → Span
  | single s => s
  | join a b => a.span.expand b.span

private theorem span_le_iff (g : Grouping) : g.span ≤ u ↔ ∀ s ∈ g.members, s ≤ u := by
  induction g with
  | single s => simp [span, members]
  | join a b iha ihb => rw [span, expand_le_iff, iha, ihb, members, List.forall_mem_append]

theorem isLUB_span (g : Grouping) : IsLUB {s | s ∈ g.members} g.span :=
  isLUB_iff_le_iff.mpr fun _ => g.span_le_iff

end Grouping

/-- Joining the spans of a list that is not empty gives the least span above all of them, from the least
start to the greatest stop. So neither their order matters nor how often they occur, nor how they are
grouped. What lies inside one of them lies inside the join, and none of them is longer. The length
of every span is the number of offsets inside, so a reversed one has none and may still widen a join. -/
theorem join_encloses_least (first : Span) (rest : List Span) :
    let whole := rest.foldl expand first
    (∀ other others, (∀ s, s ∈ other :: others ↔ s ∈ first :: rest) →
        others.foldl expand other = whole) ∧
      (∀ g : Grouping, (∀ s, s ∈ g.members ↔ s ∈ first :: rest) → g.span = whole) ∧
      ((first :: rest).map (·.start.toNat)).min? = some whole.start.toNat ∧
      ((first :: rest).map (·.stop.toNat)).max? = some whole.stop.toNat ∧
      IsLUB {s | s ∈ first :: rest} whole ∧
      (∀ s ∈ first :: rest, (∀ n ∈ s, n ∈ whole) ∧ s.length ≤ whole.length) ∧
      ∀ s : Span, {n : Offset | n ∈ s}.encard = s.length.toNat := by
  intro whole
  have hwhole : IsLUB {s | s ∈ first :: rest} whole := isLUB_foldl_expand first rest
  refine ⟨?_, ?_, min?_start_eq first rest, max?_stop_eq first rest, hwhole, ?_, encard_offsets⟩
  · intro other others hsame
    exact eq_of_isLUB (isLUB_foldl_expand other others) hwhole hsame
  · intro g hsame
    exact eq_of_isLUB g.isLUB_span hwhole hsame
  · intro s hs
    have hle : s ≤ whole := hwhole.1 hs
    exact ⟨fun _ => mem_of_le hle, length_le_of_le hle⟩

/-- A reversed span, an empty one and one with two offsets, in another order and with the last one twice. The
join stops with the last one and starts with the reversed one, in which no offset lies. -/
theorem join_encloses_least_reversed :
    let reversed : Span := ⟨2, 1⟩
    let empty : Span := ⟨4, 4⟩
    let last : Span := ⟨7, 9⟩
    let g : Grouping := .join (.single last) (.join (.single empty) (.join (.single reversed) (.single last)))
    (∀ s, s ∈ g.members ↔ s ∈ [reversed, empty, last]) ∧ g.span = ⟨2, 9⟩ ∧
      IsLUB {s | s ∈ [reversed, empty, last]} ⟨2, 9⟩ ∧ (8 : Offset) ∈ last ∧
      (8 : Offset) ∈ (⟨2, 9⟩ : Span) ∧ {n : Offset | n ∈ reversed}.encard = 0 := by
  intro reversed empty last g
  have hsame : ∀ s, s ∈ g.members ↔ s ∈ [reversed, empty, last] := by
    intro s
    simp only [g, Grouping.members, List.mem_append, List.mem_cons, List.not_mem_nil, or_false]
    grind
  have hinside : (8 : Offset) ∈ last := by decide
  obtain ⟨_, hgroup, _, _, hleast, hmembers, hcount⟩ := join_encloses_least reversed [empty, last]
  exact ⟨hsame, hgroup g hsame, hleast, hinside, (hmembers last (by simp)).1 8 hinside, hcount reversed⟩

end TextCursor.Span
