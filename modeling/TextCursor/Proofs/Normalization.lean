import Mathlib.Data.List.TakeWhile
import TextCursor.Settings

/-! What remains of a value when white space at its ends and the case of its ASCII letters do not count. -/
namespace TextCursor

namespace Text

def AllBlank (l : List Char) : Prop := ∀ c ∈ l, isBlank c = true

instance (l : List Char) : Decidable (AllBlank l) :=
  List.decidableBAll (fun c => isBlank c = true) l

private theorem trimBlank_append {before after : List Char} (l : List Char) (hbefore : AllBlank before)
    (hafter : AllBlank after) : trimBlank (before ++ l ++ after) = trimBlank l := by
  rw [trimBlank, List.append_assoc, List.dropWhile_append_of_pos hbefore, List.dropWhile_append]
  split
  · next hempty =>
    have hnil : after.dropWhile isBlank = [] := List.dropWhile_eq_nil_iff.mpr hafter
    rw [hnil, trimBlank, List.isEmpty_iff.mp hempty]
  · have hreverse : AllBlank after.reverse := fun c hc => hafter c (List.mem_reverse.mp hc)
    rw [List.reverse_append, List.dropWhile_append_of_pos hreverse, trimBlank]

private theorem exists_trimBlank (l : List Char) :
    ∃ before after, l = before ++ trimBlank l ++ after ∧ AllBlank before ∧ AllBlank after := by
  have hstart := List.takeWhile_append_dropWhile (p := isBlank) (l := l)
  have hend := List.takeWhile_append_dropWhile (p := isBlank) (l := (l.dropWhile isBlank).reverse)
  refine ⟨l.takeWhile isBlank, ((l.dropWhile isBlank).reverse.takeWhile isBlank).reverse, ?_, ?_, ?_⟩
  · rw [trimBlank, List.append_assoc, ← List.reverse_append, hend, List.reverse_reverse, hstart]
  · exact fun c hc => List.mem_takeWhile_imp hc
  · exact fun c hc => List.mem_takeWhile_imp (List.mem_reverse.mp hc)

private theorem covers_blankRanges_of_letter {n : Nat} (h : 65 ≤ n) (k : n ≤ 122) :
    CodeRange.covers blankRanges n = false := by
  simp [CodeRange.covers, blankRanges]
  omega

private theorem isBlank_toLower (c : Char) : isBlank c.toLower = isBlank c := by
  unfold Char.toLower
  split
  · next h =>
    have hlow : 65 ≤ c.toNat := UInt32.le_iff_toNat_le.mp h.1
    have hhigh : c.toNat ≤ 90 := UInt32.le_iff_toNat_le.mp h.2
    have hsum : (c.val + ('a'.val - 'A'.val)).toNat = c.toNat + 32 := by
      rw [UInt32.toNat_add]
      show (c.toNat + 32) % 2 ^ 32 = _
      omega
    show CodeRange.covers blankRanges (c.val + ('a'.val - 'A'.val)).toNat =
      CodeRange.covers blankRanges c.toNat
    rw [hsum, covers_blankRanges_of_letter (by omega) (by omega),
      covers_blankRanges_of_letter hlow (by omega)]
  · rfl

private theorem trimBlank_map_toLower (l : List Char) :
    trimBlank (l.map Char.toLower) = (trimBlank l).map Char.toLower := by
  have hblank : isBlank ∘ Char.toLower = isBlank := funext isBlank_toLower
  rw [trimBlank, trimBlank, List.dropWhile_map, hblank, ← List.map_reverse, List.dropWhile_map, hblank,
    List.map_reverse]

private theorem AllBlank.map_toLower {l : List Char} (h : AllBlank l) : AllBlank (l.map Char.toLower) := by
  intro c hc
  obtain ⟨d, hd, rfl⟩ := List.mem_map.mp hc
  rw [isBlank_toLower]
  exact h d hd

end Text

namespace Settings
open Text

def lowered (text : String) : String := String.ofList (text.toList.map Char.toLower)

def Pads (text value : String) : Prop :=
  ∃ before after : String, value = before ++ text ++ after ∧ AllBlank before.toList ∧
    AllBlank after.toList

/-- Case and padding can be taken away in either order. -/
theorem normalized_eq (value : String) :
    normalized value = String.ofList (trimBlank (lowered value).toList) := by
  rw [normalized, lowered, String.toList_ofList, trimBlank_map_toLower]

private theorem normalized_of_pads {text value : String} (h : Pads text value) :
    normalized value = String.ofList (trimBlank (lowered text).toList) := by
  obtain ⟨before, after, rfl, hbefore, hafter⟩ := h
  rw [normalized_eq, lowered, lowered, String.toList_ofList, String.toList_ofList, String.toList_append,
    String.toList_append, List.map_append, List.map_append,
    trimBlank_append _ hbefore.map_toLower hafter.map_toLower]

/-- Two values that differ only in padding and case say the same. -/
theorem normalized_congr {text text' value value' : String} (h : Pads text value)
    (h' : Pads text' value') (hlowered : lowered text = lowered text') :
    normalized value = normalized value' := by
  rw [normalized_of_pads h, normalized_of_pads h', hlowered]

theorem exists_pads_normalized (value : String) :
    ∃ text, Pads text value ∧ lowered text = normalized value := by
  obtain ⟨before, after, hsplit, hbefore, hafter⟩ := exists_trimBlank value.toList
  refine ⟨String.ofList (trimBlank value.toList),
    ⟨String.ofList before, String.ofList after, ?_, ?_, ?_⟩, ?_⟩
  · apply String.ext
    rw [String.toList_append, String.toList_append, String.toList_ofList, String.toList_ofList,
      String.toList_ofList]
    exact hsplit
  · rwa [String.toList_ofList]
  · rwa [String.toList_ofList]
  · rw [lowered, String.toList_ofList]
    rfl

/-- A value normalizes to a word exactly if it is that word up to padding and case. The word itself must
need no trimming. -/
theorem normalized_eq_iff {word value : String} (h : trimBlank word.toList = word.toList) :
    normalized value = word ↔ ∃ text, Pads text value ∧ lowered text = word := by
  constructor
  · rintro rfl
    exact exists_pads_normalized value
  · rintro ⟨text, hpads, rfl⟩
    rw [normalized_of_pads hpads, h, String.ofList_toList]

theorem trimBlank_word {word : String} (h : word ∈ strictWords ++ lenientWords) :
    trimBlank word.toList = word.toList := by
  revert word
  decide

end Settings

end TextCursor
