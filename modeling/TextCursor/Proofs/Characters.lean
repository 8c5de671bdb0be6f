import TextCursor.Source

/-! Characters in the bytes of a text. A character takes a single byte, or a lead byte with
continuation bytes behind it, so some cuts through the bytes cannot split one. -/
namespace TextCursor

def isContinuation (b : UInt8) : Bool := 0x80 ≤ b && b ≤ 0xBF

def isLead (b : UInt8) : Bool := 0xC2 ≤ b && b ≤ 0xF4

def encode (chars : List Char) : List UInt8 := chars.flatMap String.utf8EncodeChar

private theorem encode_cons (ch : Char) (chars : List Char) :
    encode (ch :: chars) = String.utf8EncodeChar ch ++ encode chars := List.flatMap_cons

private theorem utf8_eq_encode (text : String) : utf8 text = encode text.toList := by
  have h := congrArg ByteArray.data (String.toByteArray_ofList (l := text.toList))
  rw [String.ofList_toList, List.utf8Encode, List.data_toByteArray] at h
  rw [utf8, h]
  rfl

private theorem isContinuation_ofNat (n : Nat) : isContinuation (UInt8.ofNat (n % 0x40 + 0x80)) := by
  have hlt : n % 0x40 < 0x40 := Nat.mod_lt n (by decide)
  have hn : (UInt8.ofNat (n % 0x40 + 0x80)).toNat = n % 0x40 + 0x80 :=
    UInt8.toNat_ofNat_of_lt' (by rw [UInt8.size]; omega)
  rw [isContinuation, Bool.and_eq_true, decide_eq_true_eq, decide_eq_true_eq,
    UInt8.le_iff_toNat_le, UInt8.le_iff_toNat_le, hn]
  exact ⟨Nat.le_add_left .., Nat.le_of_lt_succ (Nat.add_lt_add_right hlt 0x80)⟩

private theorem isLead_ofNat {n : Nat} (h : 0xC2 ≤ n) (k : n ≤ 0xF4) : isLead (UInt8.ofNat n) := by
  have hn : (UInt8.ofNat n).toNat = n := UInt8.toNat_ofNat_of_lt' (by rw [UInt8.size]; omega)
  rw [isLead, Bool.and_eq_true, decide_eq_true_eq, decide_eq_true_eq,
    UInt8.le_iff_toNat_le, UInt8.le_iff_toNat_le, hn]
  exact ⟨h, k⟩

private theorem utf8EncodeChar_shape (ch : Char) :
    ∃ b rest, String.utf8EncodeChar ch = b :: rest ∧
      (rest = [] ∨ isLead b ∧ ∀ x ∈ rest, isContinuation x) := by
  have hmax : ch.val.toNat < 0x110000 := by
    rcases ch.valid with h | h
    · exact Nat.lt_trans h (by decide)
    · exact h.2
  unfold String.utf8EncodeChar
  dsimp only
  split
  · exact ⟨_, _, rfl, .inl rfl⟩
  · split
    · refine ⟨_, _, rfl, .inr ⟨isLead_ofNat (by omega) (by omega), ?_⟩⟩
      rw [List.forall_mem_singleton]
      exact isContinuation_ofNat _
    · split
      · refine ⟨_, _, rfl, .inr ⟨isLead_ofNat (by omega) (by omega), ?_⟩⟩
        rw [List.forall_mem_cons, List.forall_mem_singleton]
        exact ⟨isContinuation_ofNat _, isContinuation_ofNat _⟩
      · refine ⟨_, _, rfl, .inr ⟨isLead_ofNat (by omega) (by omega), ?_⟩⟩
        rw [List.forall_mem_cons, List.forall_mem_cons, List.forall_mem_singleton]
        exact ⟨isContinuation_ofNat _, isContinuation_ofNat _, isContinuation_ofNat _⟩

/-- Whether a cut between the two pieces is safe: what follows is no continuation byte, or nothing
before it is a lead byte. -/
def SafeCut (read rest : List UInt8) : Prop :=
  (∀ b ∈ rest.head?, isContinuation b = false) ∨ ∀ b ∈ read, isLead b = false

/-- A safe cut through the bytes of characters falls between two of them. -/
theorem encode_split {chars : List Char} {read rest : List UInt8} (h : encode chars = read ++ rest)
    (hcut : SafeCut read rest) :
    ∃ first others, chars = first ++ others ∧ read = encode first := by
  induction chars generalizing read with
  | nil =>
    obtain ⟨rfl, rfl⟩ := List.append_eq_nil_iff.mp h.symm
    exact ⟨[], [], rfl, rfl⟩
  | cons ch chars ih =>
    cases read with
    | nil => exact ⟨[], ch :: chars, rfl, rfl⟩
    | cons b read =>
      obtain ⟨lead, tail, hch, hshape⟩ := utf8EncodeChar_shape ch
      rw [encode_cons, hch, List.cons_append, List.cons_append] at h
      obtain ⟨rfl, htail⟩ := List.cons.inj h
      -- The cut cannot fall inside the character, so all of it was read.
      have hread : ∃ more, read = tail ++ more ∧ encode chars = more ++ rest := by
        rcases List.append_eq_append_iff.mp htail with ⟨more, hm, hc⟩ | ⟨missing, hm, hc⟩
        · exact ⟨more, hm, hc⟩
        · cases missing with
          | nil => exact ⟨[], by simp [hm], by simp [hc]⟩
          | cons x missing =>
            rcases hshape with rfl | ⟨hlead, hcont⟩
            · simp at hm
            · have hx : isContinuation x := hcont x (by simp [hm])
              rcases hcut with hnext | hread
              · simp [hc, hx] at hnext
              · simp [hlead] at hread
      obtain ⟨more, rfl, hmore⟩ := hread
      have hcut' : SafeCut more rest := by
        rcases hcut with hnext | hread
        · exact .inl hnext
        · exact .inr fun x hx => hread x (by simp [hx])
      obtain ⟨first, others, rfl, rfl⟩ := ih hmore hcut'
      exact ⟨ch :: first, others, rfl, by rw [encode_cons, hch]; rfl⟩

theorem utf8_append (a b : String) : utf8 (a ++ b) = utf8 a ++ utf8 b := by
  rw [utf8_eq_encode, String.toList_append, encode, List.flatMap_append, ← encode, ← encode,
    ← utf8_eq_encode, ← utf8_eq_encode]

/-- Reading on from a boundary up to a safe cut ends at a boundary. -/
theorem Source.IsBoundary.of_safeCut {s : Source} {p q : Offset} (hp : s.IsBoundary p)
    {read rest : List UInt8} (hbytes : s.bytes.drop p.toNat = read ++ rest)
    (hcut : SafeCut read rest) (hq : q.toNat = p.toNat + read.length) : s.IsBoundary q := by
  obtain ⟨before, behind, htext, hpos⟩ := String.Pos.Raw.isValid_iff_exists_append.mp hp
  have hlen : p.toNat = before.utf8ByteSize := congrArg String.Pos.Raw.byteIdx hpos
  have hbehind : s.bytes.drop p.toNat = encode behind.toList := by
    rw [Source.bytes, htext, utf8_append, hlen, ← length_utf8, List.drop_left, utf8_eq_encode]
  obtain ⟨first, others, hsplit, hread⟩ := encode_split (hbehind.symm.trans hbytes) hcut
  refine String.Pos.Raw.isValid_iff_exists_append.mpr
    ⟨before ++ String.ofList first, String.ofList others, ?_, ?_⟩
  · rw [htext, String.append_assoc, ← String.ofList_append, ← hsplit, String.ofList_toList]
  · have hfirst : read.length = (String.ofList first).utf8ByteSize := by
      rw [← length_utf8, utf8_eq_encode, String.toList_ofList, hread]
    apply String.Pos.Raw.ext
    rw [String.byteIdx_rawEndPos, String.utf8ByteSize_append, ← hfirst, ← hlen]
    exact hq

end TextCursor
