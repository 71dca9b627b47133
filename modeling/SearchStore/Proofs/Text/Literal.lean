import Mathlib.Data.Bool.AllAny
import Mathlib.Data.List.TakeWhile
import SearchStore.Decimal.Literal
import SearchStore.Proofs.Text.Digits
import SearchStore.Text.List

/-!
# What is a number and what is not

A text that is a number has no blank characters, so there is nothing to trim in it (`trim_of_isNumber`). Digits with a
hyphen behind them are no number, whatever follows (`isNumber_hyphen`): that tells dates from numbers.
-/

namespace SearchStore

namespace Text

theorem trim_of_visible {s : String} (h : ∀ c ∈ s.toList, isBlankChar c = false) : trim s = s := by
  have hnone : ∀ cs : List Char, (∀ c ∈ cs, isBlankChar c = false) → trimLeft cs = cs := by
    intro cs hcs
    rw [trimLeft, List.dropWhile_eq_self_iff]
    intro hpos
    simp [hcs _ (List.getElem_mem hpos)]
  have hleft : trimLeft s.toList.reverse = s.toList.reverse :=
    hnone _ fun c hc => h c (List.mem_reverse.mp hc)
  have hright : trimRight s.toList = s.toList := by
    rw [trimRight, ← trimLeft, hleft, List.reverse_reverse]
  rw [trim, hnone _ h, hright, String.ofList_toList]

end Text

namespace Decimal

open Text (isBlankChar isBlankChar_of_isDigit)

/-! ### Characters of numbers -/

theorem isBlankChar_sign {c : Char} (h : c = '+' ∨ c = '-') : isBlankChar c = false := by
  obtain rfl | rfl := h <;> decide

theorem forall_mem_of_dropSign {P : Char → Prop} {cs : List Char} (hsign : ∀ c, c = '+' ∨ c = '-' → P c)
    (h : ∀ c ∈ dropSign cs, P c) : ∀ c ∈ cs, P c := by
  unfold dropSign at h
  split at h
  · exact List.forall_mem_cons.mpr ⟨hsign _ (.inl rfl), h⟩
  · exact List.forall_mem_cons.mpr ⟨hsign _ (.inr rfl), h⟩
  · exact h

theorem visible_of_isExponent {cs : List Char} (h : isExponent cs = true) : ∀ c ∈ cs, isBlankChar c = false := by
  cases cs with
  | nil => exact fun _ hc => nomatch hc
  | cons letter rest =>
    simp only [isExponent, Bool.and_eq_true, Bool.or_eq_true, beq_iff_eq, List.all_eq_true] at h
    obtain ⟨⟨hletter, -⟩, hdigits⟩ := h
    refine List.forall_mem_cons.mpr ⟨?_, ?_⟩
    · obtain rfl | rfl := hletter <;> decide
    · exact forall_mem_of_dropSign (fun _ => isBlankChar_sign) fun c hc => isBlankChar_of_isDigit (hdigits c hc)

theorem visible_of_dropWhile {cs : List Char} (h : ∀ c ∈ cs.dropWhile Char.isDigit, isBlankChar c = false) :
    ∀ c ∈ cs, isBlankChar c = false := by
  rw [← List.takeWhile_append_dropWhile (p := Char.isDigit) (l := cs)]
  intro c hc
  obtain hdigit | hrest := List.mem_append.mp hc
  · exact isBlankChar_of_isDigit (List.mem_takeWhile_imp hdigit)
  · exact h c hrest

theorem visible_of_isUnsignedDecimal {cs : List Char} (h : isUnsignedDecimal cs = true) :
    ∀ c ∈ cs, isBlankChar c = false := by
  apply visible_of_dropWhile
  unfold isUnsignedDecimal at h
  simp only at h
  split at h
  · rename_i rest hrest
    rw [hrest]
    obtain ⟨-, hexponent⟩ := Bool.and_eq_true_iff.mp h
    exact List.forall_mem_cons.mpr ⟨by decide, visible_of_dropWhile (visible_of_isExponent hexponent)⟩
  · exact visible_of_isExponent (Bool.and_eq_true_iff.mp h).2

theorem toLower_of_isBlankChar {c : Char} (h : isBlankChar c = true) : c.toLower = c := by
  delta Char.toLower
  rw [dif_neg]
  simp only [isBlankChar, Text.inRanges, Text.blankRanges, List.any_cons, List.any_nil, Bool.or_eq_true,
    Bool.and_eq_true, decide_eq_true_eq, Bool.or_false] at h
  have hcode : c.val.toNat = c.toNat := rfl
  simp only [ge_iff_le, UInt32.le_iff_toNat_le, hcode]
  simp only [Char.reduceVal, UInt32.reduceToNat]
  omega

theorem visible_of_word {cs : List Char} (h : numberWords.contains (String.ofList (cs.map Char.toLower)) = true) :
    ∀ c ∈ cs, isBlankChar c = false := by
  have hletters : ∀ word ∈ numberWords, (word.toList.all fun c => isBlankChar c = false) = true := by decide
  have hlower := List.all_iff_forall_prop.mp (hletters _ (List.contains_iff_mem.mp h))
  rw [String.toList_ofList, List.forall_mem_map] at hlower
  intro c hc
  by_contra hblank
  have hvisible := hlower c hc
  rw [toLower_of_isBlankChar (by simpa using hblank)] at hvisible
  exact hblank hvisible

theorem visible_of_isNumber {cs : List Char} (h : isNumber cs = true) : ∀ c ∈ cs, isBlankChar c = false := by
  apply forall_mem_of_dropSign fun _ => isBlankChar_sign
  obtain hdecimal | hword := Bool.or_eq_true_iff.mp h
  · exact visible_of_isUnsignedDecimal hdecimal
  · exact visible_of_word hword

theorem trim_of_isNumber {s : String} (h : isNumber s.toList = true) : Text.trim s = s :=
  Text.trim_of_visible (visible_of_isNumber h)

/-! ### Hyphens -/

theorem isNumber_hyphen {cs digits rest : List Char} (hcs : dropSign cs = digits ++ '-' :: rest)
    (hdigits : ∀ c ∈ digits, c.isDigit = true) : isNumber cs = false := by
  have hhyphen : Char.isDigit '-' = false := rfl
  obtain ⟨-, hdrop⟩ := Text.takeWhile_dropWhile_stop hdigits hhyphen rest
  have hdecimal : isUnsignedDecimal (digits ++ '-' :: rest) = false := by
    simp [isUnsignedDecimal, hdrop, isExponent]
  have hword : numberWords.contains (String.ofList ((digits ++ '-' :: rest).map Char.toLower)) = false := by
    have hletters : ∀ word ∈ numberWords, '-' ∉ word.toList := by decide
    rw [← Bool.not_eq_true, List.contains_iff_mem]
    intro hmem
    apply hletters _ hmem
    rw [String.toList_ofList]
    exact List.mem_map_of_mem (f := Char.toLower) (List.mem_append_right digits List.mem_cons_self)
  simp only [isNumber, hcs, hdecimal, hword, Bool.or_self]

end Decimal

end SearchStore
