import TextCursor.Proofs.Normalization

/-! Loading the settings: which content makes them lenient, and which is reported. -/
namespace TextCursor

namespace Settings

/-- The content is one of these words in UTF-8, up to the case of ASCII letters and up to white space
around it. -/
def Says (words : List String) (content : Option ByteArray) : Prop :=
  ∃ text value : String, content = some value.toByteArray ∧ Pads text value ∧ lowered text ∈ words

/-- What is relied on: a variable that is not set gives the default, the reader of the flag decides on
every UTF-8 value, and other content is an error. -/
structure Loader.Conforms (loader : Loader) : Prop where
  unset : ∀ default read, loader default read none = ⟨.ok default, []⟩
  text : ∀ default read (value : String),
    loader default read (some value.toByteArray) = ⟨.ok (read value).value, (read value).events⟩
  other : ∀ default read (content : ByteArray), (∀ value : String, content ≠ value.toByteArray) →
    ∃ e, loader default read (some content) = ⟨.error e, []⟩

theorem Loader.standard_conforms : Loader.standard.Conforms where
  unset _ _ := rfl
  text default read value := by
    have hvalue : String.fromUTF8? value.toByteArray = some value := dif_pos value.isValidUTF8
    rw [standard, hvalue]
    exact congrArg (Traced.mk _) (List.append_nil _)
  other default read content h := by
    have hnone : String.fromUTF8? content = none :=
      dif_neg fun hvalid => h (String.fromUTF8 content hvalid) rfl
    rw [standard, hnone]
    exact ⟨.notUnicode, rfl⟩

/-! ### What is loaded -/

theorem says_iff {words : List String} (hwords : words ⊆ strictWords ++ lenientWords) (value : String) :
    Says words (some value.toByteArray) ↔ normalized value ∈ words := by
  constructor
  · rintro ⟨text, value', hsame, hpads, hmem⟩
    cases String.toByteArray_inj.mp (Option.some.inj hsame)
    rwa [(normalized_eq_iff (trimBlank_word (hwords hmem))).mpr ⟨text, hpads, rfl⟩]
  · intro hmem
    obtain ⟨text, hpads, hlowered⟩ := exists_pads_normalized value
    exact ⟨text, value, rfl, hpads, hlowered ▸ hmem⟩

private theorem not_says_of_ne {words : List String} {content : Option ByteArray}
    (h : ∀ value : String, content ≠ some value.toByteArray) : ¬ Says words content := by
  rintro ⟨_, value, hvalue, _⟩
  exact h value hvalue

/-- A value is read as lenient only if it says so, and it is reported only if it says nothing known. -/
theorem readStrictness_eq (value : String) :
    readStrictness value = ⟨decide (normalized value ∉ lenientWords),
      if normalized value ∈ strictWords ++ lenientWords then []
      else [.unrecognised (normalized value)]⟩ := by
  have hdisjoint : ∀ word ∈ strictWords, word ∉ lenientWords := by decide
  by_cases hstrict : normalized value ∈ strictWords
  · have hread : readStrictness value = ⟨true, []⟩ := by
      simp only [readStrictness, if_pos hstrict]
      rfl
    rw [hread, decide_eq_true (hdisjoint _ hstrict), if_pos (List.mem_append_left _ hstrict)]
  · by_cases hlenient : normalized value ∈ lenientWords
    · have hread : readStrictness value = ⟨false, []⟩ := by
        simp only [readStrictness, if_neg hstrict, if_pos hlenient]
        rfl
      rw [hread, decide_eq_false (not_not.mpr hlenient), if_pos (List.mem_append_right _ hlenient)]
    · have hread : readStrictness value = ⟨true, [.unrecognised (normalized value)]⟩ := by
        simp only [readStrictness, if_neg hstrict, if_neg hlenient]
        rfl
      have hneither : normalized value ∉ strictWords ++ lenientWords := fun h =>
        (List.mem_append.mp h).elim hstrict hlenient
      rw [hread, decide_eq_true hlenient, if_neg hneither]

section
variable {loader : Loader} (conforms : loader.Conforms)
include conforms

private theorem loadOrDefault_none : loadOrDefault none loader = ⟨{}, []⟩ := by
  rw [loadOrDefault, load, conforms.unset]
  rfl

theorem loadOrDefault_value (value : String) : loadOrDefault (some value.toByteArray) loader =
    ⟨{ strictPositions := (readStrictness value).value }, (readStrictness value).events⟩ := by
  rw [loadOrDefault, load, conforms.text]
  generalize readStrictness value = outcome
  refine congrArg (Traced.mk _) ?_
  exact (List.append_nil _).trans (List.append_nil _)

private theorem loadOrDefault_other {content : ByteArray}
    (h : ∀ value : String, content ≠ value.toByteArray) :
    ∃ reason, loadOrDefault (some content) loader = ⟨{}, [.fallback reason]⟩ := by
  obtain ⟨reason, hreason⟩ := conforms.other true readStrictness content h
  refine ⟨reason, ?_⟩
  rw [loadOrDefault, load, hreason]
  rfl

end

/-- The events of loading this content: none if it is absent or one of the known words, else exactly one,
which shows the value without padding and in lower case, or why there is no value. -/
structure Warnings (content : Option ByteArray) (events : List Event) : Prop where
  known : content = none ∨ Says (strictWords ++ lenientWords) content → events = []
  unknown : ∀ value : String, content = some value.toByteArray →
    ¬ Says (strictWords ++ lenientWords) content → events = [.unrecognised (normalized value)]
  unreadable : content ≠ none → (∀ value : String, content ≠ some value.toByteArray) →
    ∃ reason, events = [.fallback reason]

private theorem content_cases (content : Option ByteArray) : content = none ∨
    (∃ value : String, content = some value.toByteArray) ∨
      ∃ bytes, content = some bytes ∧ ∀ value : String, bytes ≠ value.toByteArray := by
  cases content with
  | none => exact .inl rfl
  | some bytes =>
    by_cases h : ∃ value : String, bytes = value.toByteArray
    · obtain ⟨value, rfl⟩ := h
      exact .inr (.inl ⟨value, rfl⟩)
    · exact .inr (.inr ⟨bytes, rfl, fun value hvalue => h ⟨value, hvalue⟩⟩)

theorem Warnings.level {content : Option ByteArray} {events : List Event} (h : Warnings content events) :
    ∀ event ∈ events, event.level = .warn := by
  by_cases hknown : content = none ∨ Says (strictWords ++ lenientWords) content
  · rw [h.known hknown]
    exact List.forall_mem_nil _
  · rw [not_or] at hknown
    rcases content_cases content with rfl | ⟨value, rfl⟩ | ⟨bytes, rfl, hother⟩
    · exact absurd rfl hknown.1
    · rw [h.unknown value rfl hknown.2]
      exact List.forall_mem_singleton.mpr rfl
    · obtain ⟨reason, hreason⟩ := h.unreadable nofun fun value hvalue =>
        hother value (Option.some.inj hvalue)
      rw [hreason]
      exact List.forall_mem_singleton.mpr rfl

theorem loadOrDefault_spec {loader : Loader} (conforms : loader.Conforms) (content : Option ByteArray) :
    ((loadOrDefault content loader).value.strictPositions = false ↔ Says lenientWords content) ∧
      Warnings content (loadOrDefault content loader).events := by
  rcases content_cases content with rfl | ⟨value, rfl⟩ | ⟨bytes, rfl, hother⟩
  · rw [loadOrDefault_none conforms]
    refine ⟨iff_of_false nofun (not_says_of_ne nofun), fun _ => rfl, nofun, ?_⟩
    exact fun h => absurd rfl h
  · rw [loadOrDefault_value conforms, readStrictness_eq,
      says_iff (List.subset_append_right strictWords lenientWords)]
    have hrecognised := says_iff (List.Subset.refl (strictWords ++ lenientWords)) value
    dsimp only
    refine ⟨?_, ?_, ?_, ?_⟩
    · rw [decide_eq_false_iff_not, not_not]
    · rintro (hnone | hknown)
      · cases hnone
      · rw [if_pos (hrecognised.mp hknown)]
    · intro value' hsame hunknown
      cases String.toByteArray_inj.mp (Option.some.inj hsame)
      rw [if_neg fun h => hunknown (hrecognised.mpr h)]
    · exact fun _ h => absurd rfl (h value)
  · obtain ⟨reason, hreason⟩ := loadOrDefault_other conforms hother
    have hnot : ∀ words, ¬ Says words (some bytes) := fun words =>
      not_says_of_ne fun value h => hother value (Option.some.inj h)
    rw [hreason]
    refine ⟨iff_of_false nofun (hnot _), ?_, ?_, fun _ _ => ⟨reason, rfl⟩⟩
    · rintro (hnone | hknown)
      · cases hnone
      · exact absurd hknown (hnot _)
    · exact fun value hvalue => absurd (Option.some.inj hvalue) (hother value)

end Settings

end TextCursor
