import SearchStore.Text.Percent

/-!
# Percent encoding can be undone

The bytes of an encoded text are those of the text (`percentBytes_percentEncode`), if a percent sign is always
escaped, so that decoding gives the text back (`percentDecode?_percentEncode`). What an encoded text consists of
is said by `mem_percentEncode`: characters of the text that are kept, percent signs and digits.
-/

namespace SearchStore.Text

/-! ### Escapes -/

theorem hexDigitValue?_upperHexDigit {n : Nat} (h : n < 16) : hexDigitValue? (upperHexDigit n) = some n := by
  have hall : ∀ n : Fin 16, hexDigitValue? (upperHexDigit n) = some n.val := by decide
  exact hall ⟨n, h⟩

/-- Whether a character is one of those that escapes are written with. -/
def isEscapeChar (c : Char) : Bool := c = '%' || c.isDigit || ('A' ≤ c && c ≤ 'F')

theorem isEscapeChar_upperHexDigit {n : Nat} (h : n < 16) : isEscapeChar (upperHexDigit n) = true := by
  have hall : ∀ n : Fin 16, isEscapeChar (upperHexDigit n) = true := by decide
  exact hall ⟨n, h⟩

theorem percentBytes_percentByte (b : UInt8) (rest : List Char) :
    percentBytes (percentByte b ++ rest) = b :: percentBytes rest := by
  have hb : b.toNat < 256 := b.toNat_lt
  have hhigh : b.toNat / 16 < 16 := by omega
  have hlow : b.toNat % 16 < 16 := by omega
  have hbyte : 16 * (b.toNat / 16) + b.toNat % 16 = b.toNat := by omega
  simp [percentByte, percentBytes, hexDigitValue?_upperHexDigit hhigh, hexDigitValue?_upperHexDigit hlow, hbyte]

theorem percentBytes_flatMap_percentByte (bytes : List UInt8) (rest : List Char) :
    percentBytes (bytes.flatMap percentByte ++ rest) = bytes ++ percentBytes rest := by
  induction bytes with
  | nil => rfl
  | cons b bytes ih =>
    rw [List.flatMap_cons, List.append_assoc, percentBytes_percentByte, ih, List.cons_append]

theorem percentBytes_cons_of_ne {c : Char} (h : c ≠ '%') (rest : List Char) :
    percentBytes (c :: rest) = String.utf8EncodeChar c ++ percentBytes rest := by
  rw [percentBytes]
  exact fun _ _ _ hc => absurd hc h

/-! ### Encoded texts -/

variable {keep : Char → Bool}

/-- The bytes of an encoded text are those of the text. -/
theorem percentBytes_percentEncode (hkeep : keep '%' = false) (s : String) :
    percentBytes (percentEncode keep s).toList = s.toList.flatMap String.utf8EncodeChar := by
  rw [percentEncode, String.toList_ofList]
  induction s.toList with
  | nil => rfl
  | cons c rest ih =>
    rw [List.flatMap_cons, List.flatMap_cons, ← ih]
    split
    · rename_i hc
      have hne : c ≠ '%' := fun heq => by simp [heq, hkeep] at hc
      exact percentBytes_cons_of_ne hne _
    · exact percentBytes_flatMap_percentByte _ _

theorem percentDecode?_percentEncode (hkeep : keep '%' = false) (s : String) :
    percentDecode? (percentEncode keep s).toList = some s.toList := by
  have hbytes : (⟨(percentBytes (percentEncode keep s).toList).toArray⟩ : ByteArray) = s.toByteArray := by
    rw [percentBytes_percentEncode hkeep, ← String.utf8Encode_toList, List.utf8Encode]
    exact ByteArray.ext List.data_toByteArray.symm
  rw [percentDecode?, hbytes, String.fromUTF8?, dif_pos s.isValidUTF8]
  rfl

theorem mem_percentEncode {s : String} {c : Char} (h : c ∈ (percentEncode keep s).toList) :
    keep c = true ∧ c ∈ s.toList ∨ isEscapeChar c = true := by
  rw [percentEncode, String.toList_ofList, List.mem_flatMap] at h
  obtain ⟨d, hd, hc⟩ := h
  split at hc
  · rename_i hkept
    obtain rfl := List.mem_singleton.mp hc
    exact .inl ⟨hkept, hd⟩
  · obtain ⟨b, -, hb⟩ := List.mem_flatMap.mp hc
    have hlt : b.toNat < 256 := b.toNat_lt
    simp only [percentByte, List.mem_cons, List.not_mem_nil, or_false] at hb
    obtain rfl | rfl | rfl := hb
    · exact .inr rfl
    · exact .inr (isEscapeChar_upperHexDigit (by omega))
    · exact .inr (isEscapeChar_upperHexDigit (by omega))

theorem mem_percentEncode_of_keep {s : String} {c : Char} (hkeep : keep c = true) (hc : c ∈ s.toList) :
    c ∈ (percentEncode keep s).toList := by
  rw [percentEncode, String.toList_ofList, List.mem_flatMap]
  exact ⟨c, hc, by simp [hkeep]⟩

theorem percentEncode_inj (hkeep : keep '%' = false) {s t : String} :
    percentEncode keep s = percentEncode keep t ↔ s = t := by
  refine ⟨fun h => ?_, fun h => by rw [h]⟩
  have hchars := percentDecode?_percentEncode hkeep s
  rw [h, percentDecode?_percentEncode hkeep t] at hchars
  exact (String.ext (Option.some.inj hchars)).symm

/-! ### Segments of a path -/

theorem percentDecode?_segment (s : String) : percentDecode? (segment s).toList = some s.toList :=
  percentDecode?_percentEncode (by decide) s

theorem eq_of_percentBytes_segment_eq {s t : String}
    (h : percentBytes (segment s).toList = percentBytes (segment t).toList) : s = t := by
  have hs := percentDecode?_segment s
  rw [percentDecode?, h, ← percentDecode?, percentDecode?_segment t] at hs
  exact (String.ext (Option.some.inj hs)).symm

theorem segment_inj {s t : String} : segment s = segment t ↔ s = t := percentEncode_inj (by decide)

theorem segment_eq_empty_iff {s : String} : segment s = "" ↔ s = "" := by
  have hinj : segment s = segment "" ↔ s = "" := segment_inj
  rwa [show segment "" = "" by decide] at hinj

/-- A character that may stand in a segment, and that no escape is written with, is in it only if it is in the text. -/
theorem mem_segment_iff {c : Char} (hkeep : isSegmentChar c = true) (hescape : isEscapeChar c = false) {s : String} :
    c ∈ (segment s).toList ↔ c ∈ s.toList := by
  constructor
  · intro hc
    obtain ⟨-, hkept⟩ | hwritten := mem_percentEncode hc
    · exact hkept
    · rw [hescape] at hwritten
      cases hwritten
  · exact mem_percentEncode_of_keep hkeep

theorem not_mem_segment {c : Char} (hkeep : isSegmentChar c = false) (hescape : isEscapeChar c = false)
    (s : String) : c ∉ (segment s).toList := by
  intro hc
  obtain ⟨hkept, -⟩ | hwritten := mem_percentEncode hc
  · rw [hkeep] at hkept
    cases hkept
  · rw [hescape] at hwritten
    cases hwritten

theorem slash_not_mem_segment (s : String) : '/' ∉ (segment s).toList :=
  not_mem_segment (by decide) (by decide) s

end SearchStore.Text
