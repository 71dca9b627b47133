import Mathlib.Data.List.Induction
import SearchStore.Clause.Leaf

/-!
# Bounds that are given again

The bounds of a range are written into one object, so of the comparisons with one comparator the last one stays
(`get?_limits_name`). The format of dates, which is written beside a date, stays with it or without it
(`get?_limits_format`): it is there as soon as any comparison is with a date. So a date that is overwritten leaves the
format behind, unless some other bound is a date. `leavesNoTrace_iff` says when overwritten comparisons leave nothing.
-/

namespace SearchStore

open Clause (boundValue? dateText? dateFormat addBound leafClause)

theorem Comparator.name_inj {operator other : Comparator} (h : operator.name = other.name) : operator = other := by
  cases operator <;> cases other <;> first | rfl | exact absurd h (by decide)

theorem Comparator.name_ne_format (operator : Comparator) : operator.name ≠ "format" := by
  cases operator <;> decide

/-! ### Comparands -/

/-- The value is a text that is read as a date. -/
def IsDated (value : Json) : Prop := (dateText? value).isSome = true

instance (value : Json) : Decidable (IsDated value) := inferInstanceAs (Decidable (_ = true))

/-- The value that is written for a comparand: the text in UTC of a date, and any other value as it is. -/
def settledBound (value : Json) : Json :=
  match dateText? value with
  | some text => .string text
  | none => value

/-- Some comparison is with a date. -/
def HasDate (bounds : List Comparison) : Prop := ∃ c ∈ bounds, ∃ value ∈ boundValue? c.comparand, IsDated value

instance (bounds : List Comparison) : Decidable (HasDate bounds) :=
  inferInstanceAs (Decidable (∃ c ∈ bounds, ∃ value ∈ boundValue? c.comparand, IsDated value))

/-- The comparand of a comparison, if the comparator is the given one. Shapes are none. -/
def comparandAt? (operator : Comparator) (c : Comparison) : Option Json :=
  if c.operator = operator then boundValue? c.comparand else none

/-- The comparand that stays at a comparator: the last one. -/
def lastComparand? (operator : Comparator) (bounds : List Comparison) : Option Json :=
  (bounds.filterMap (comparandAt? operator)).getLast?

/-- Some comparand that stays is a date. -/
def KeepsDate (bounds : List Comparison) : Prop :=
  ∃ operator value, lastComparand? operator bounds = some value ∧ IsDated value

theorem lastComparand?_append (operator : Comparator) (front rest : List Comparison) :
    lastComparand? operator (front ++ rest) = (lastComparand? operator rest).or (lastComparand? operator front) := by
  rw [lastComparand?, List.filterMap_append, List.getLast?_append, lastComparand?, lastComparand?]

theorem lastComparand?_singleton (operator : Comparator) (c : Comparison) :
    lastComparand? operator [c] = comparandAt? operator c := by
  rw [lastComparand?, List.filterMap_cons]
  cases comparandAt? operator c <;> rfl

theorem KeepsDate.hasDate {bounds : List Comparison} (h : KeepsDate bounds) : HasDate bounds := by
  obtain ⟨operator, value, hlast, hdated⟩ := h
  obtain ⟨c, hc, hvalue⟩ := List.mem_filterMap.mp (List.mem_of_getLast? hlast)
  rw [comparandAt?] at hvalue
  split at hvalue
  · exact ⟨c, hc, value, hvalue, hdated⟩
  · cases hvalue

theorem hasDate_append_iff {front rest : List Comparison} :
    HasDate (front ++ rest) ↔ HasDate front ∨ HasDate rest := by
  simp only [HasDate, List.mem_append, or_and_right, exists_or]

/-! ### The object of bounds -/

/-- The entries of the bounds of a range. -/
def limits (bounds : List Comparison) : Fields := bounds.foldl addBound []

theorem limits_concat (bounds : List Comparison) (c : Comparison) :
    limits (bounds ++ [c]) = addBound (limits bounds) c := by
  rw [limits, limits, List.foldl_append, List.foldl_cons, List.foldl_nil]

theorem addBound_of_shape {c : Comparison} (h : boundValue? c.comparand = none) (map : Fields) :
    addBound map c = map := by
  simp only [addBound, h]

/-- What one comparison writes: its value at its comparator, and the format if the value is a date. -/
theorem get?_addBound {c : Comparison} {value : Json} (h : boundValue? c.comparand = some value) (map : Fields)
    (key : String) :
    Assoc.get? key (addBound map c) =
      if key = c.operator.name then some (settledBound value)
      else if key = "format" ∧ IsDated value then some (.string dateFormat)
      else Assoc.get? key map := by
  cases htext : dateText? value with
  | none =>
    have hplain : ¬ IsDated value := by simp [IsDated, htext]
    simp only [addBound, h, htext, Assoc.get?_insert, settledBound, hplain, and_false, if_false]
  | some text =>
    have hdated : IsDated value := by simp [IsDated, htext]
    simp only [addBound, h, htext, Assoc.get?_insert, settledBound, hdated, and_true]

theorem get?_limits_name (operator : Comparator) (bounds : List Comparison) :
    Assoc.get? operator.name (limits bounds) = (lastComparand? operator bounds).map settledBound := by
  induction bounds using List.reverseRecOn with
  | nil => rfl
  | append_singleton bounds c ih =>
    rw [limits_concat, lastComparand?_append, lastComparand?_singleton, comparandAt?]
    cases hvalue : boundValue? c.comparand with
    | none => rw [addBound_of_shape hvalue, ih, ite_self, Option.none_or]
    | some value =>
      rw [get?_addBound hvalue]
      by_cases ho : c.operator = operator
      · simp [ho]
      · have hname : operator.name ≠ c.operator.name := fun heq => ho (Comparator.name_inj heq).symm
        simp [ho, hname, operator.name_ne_format, ih]

theorem get?_limits_format (bounds : List Comparison) :
    Assoc.get? "format" (limits bounds) = if HasDate bounds then some (.string dateFormat) else none := by
  induction bounds using List.reverseRecOn with
  | nil => simp [limits, Assoc.get?, HasDate]
  | append_singleton bounds c ih =>
    have hlast : HasDate [c] ↔ ∃ value ∈ boundValue? c.comparand, IsDated value := by simp [HasDate]
    rw [limits_concat]
    simp only [hasDate_append_iff, hlast]
    cases hvalue : boundValue? c.comparand with
    | none => simp [addBound_of_shape hvalue, ih]
    | some value =>
      have hname : "format" ≠ c.operator.name := c.operator.name_ne_format.symm
      by_cases hdated : IsDated value <;> simp [get?_addBound hvalue, hname, hdated, ih]

theorem get?_limits_of_ne {key : String} (hformat : key ≠ "format")
    (hname : ∀ operator : Comparator, key ≠ operator.name)
    (bounds : List Comparison) : Assoc.get? key (limits bounds) = none := by
  induction bounds using List.reverseRecOn with
  | nil => rfl
  | append_singleton bounds c ih =>
    rw [limits_concat]
    cases hvalue : boundValue? c.comparand with
    | none => rw [addBound_of_shape hvalue, ih]
    | some value =>
      rw [get?_addBound hvalue, if_neg (hname c.operator), if_neg (fun h => hformat h.1), ih]

theorem nodup_keys_limits (bounds : List Comparison) : (Assoc.keys (limits bounds)).Nodup := by
  induction bounds using List.reverseRecOn with
  | nil => exact List.nodup_nil
  | append_singleton bounds c ih =>
    rw [limits_concat, addBound]
    split
    · exact ih
    · split
      · exact Assoc.nodup_keys_insert _ _ (Assoc.nodup_keys_insert _ _ ih)
      · exact Assoc.nodup_keys_insert _ _ ih

/-! ### Overwritten comparisons -/

/-- Two ranges have the same value at every key. -/
def SameLimits (bounds others : List Comparison) : Prop :=
  ∀ key, Assoc.get? key (limits bounds) = Assoc.get? key (limits others)

/-- A comparison that is overwritten can as well be left out, and the format is there exactly if some comparand that
stays is a date. -/
structure LeavesNoTrace (bounds : List Comparison) : Prop where
  removed : ∀ front c middle d rest, bounds = front ++ c :: (middle ++ d :: rest) → c.operator = d.operator →
    (boundValue? c.comparand).isSome → (boundValue? d.comparand).isSome →
    SameLimits bounds (front ++ (middle ++ d :: rest))
  format_iff : (Assoc.get? "format" (limits bounds)).isSome ↔ KeepsDate bounds

theorem lastComparand?_removed {front middle rest : List Comparison} {c d : Comparison} (hsame : c.operator = d.operator)
    (hbound : (boundValue? d.comparand).isSome) (operator : Comparator) :
    lastComparand? operator (front ++ c :: (middle ++ d :: rest)) =
      lastComparand? operator (front ++ (middle ++ d :: rest)) := by
  rw [List.append_cons, List.append_cons middle]
  simp only [lastComparand?_append, lastComparand?_singleton]
  by_cases ho : d.operator = operator
  · obtain ⟨value, hvalue⟩ := Option.isSome_iff_exists.mp hbound
    have hlater : comparandAt? operator d = some value := by rw [comparandAt?, if_pos ho, hvalue]
    rw [hlater]
    cases lastComparand? operator rest <;> rfl
  · have hother : comparandAt? operator c = none := by rw [comparandAt?, if_neg (hsame ▸ ho)]
    rw [hother, Option.none_or]

theorem keepsDate_removed_iff {front middle rest : List Comparison} {c d : Comparison} (hsame : c.operator = d.operator)
    (hbound : (boundValue? d.comparand).isSome) :
    KeepsDate (front ++ c :: (middle ++ d :: rest)) ↔ KeepsDate (front ++ (middle ++ d :: rest)) := by
  simp only [KeepsDate, lastComparand?_removed hsame hbound]

/-- Ranges with the same comparands have the same entries, up to the format. -/
theorem sameLimits_of_lastComparand? {bounds others : List Comparison}
    (hlast : ∀ operator, lastComparand? operator bounds = lastComparand? operator others)
    (hdate : HasDate bounds ↔ HasDate others) : SameLimits bounds others := by
  intro key
  by_cases hformat : key = "format"
  · rw [hformat, get?_limits_format, get?_limits_format]
    simp only [hdate]
  · by_cases hname : ∃ operator : Comparator, key = operator.name
    · obtain ⟨operator, rfl⟩ := hname
      rw [get?_limits_name, get?_limits_name, hlast]
    · have hname := not_exists.mp hname
      rw [get?_limits_of_ne hformat hname, get?_limits_of_ne hformat hname]

/-- **When overwritten bounds leave no trace.** The clause of a range has one object of bounds, in which no key stands
twice and each comparator has its last comparand. Overwritten comparisons leave nothing behind exactly if no comparison
is with a date, or some comparand that stays is one. -/
theorem leavesNoTrace_iff (config : CriteriaConfig) (path : String) (bounds : List Comparison) :
    leafClause config (.range path bounds) = .ok (.object [("range", .object [(path, .object (limits bounds))])]) ∧
    (Assoc.keys (limits bounds)).Nodup ∧
    (∀ operator : Comparator,
      Assoc.get? operator.name (limits bounds) = (lastComparand? operator bounds).map settledBound) ∧
    (LeavesNoTrace bounds ↔ ¬ HasDate bounds ∨ KeepsDate bounds) := by
  refine ⟨rfl, nodup_keys_limits bounds, fun operator => get?_limits_name operator bounds, ?_, ?_⟩
  · intro htrace
    by_cases hdate : HasDate bounds
    · right
      rw [← htrace.format_iff, get?_limits_format, if_pos hdate, Option.isSome_some]
    · exact .inl hdate
  · intro hdates
    have hboth : HasDate bounds ↔ KeepsDate bounds :=
      ⟨fun h => hdates.resolve_left (not_not.mpr h), KeepsDate.hasDate⟩
    constructor
    · rintro front c middle d rest rfl hsame - hbound
      refine sameLimits_of_lastComparand? (lastComparand?_removed hsame hbound) ⟨?_, ?_⟩
      · intro h
        exact ((keepsDate_removed_iff hsame hbound).mp (hboth.mp h)).hasDate
      · intro h
        rw [hasDate_append_iff] at h
        rw [List.append_cons, hasDate_append_iff, hasDate_append_iff]
        exact h.imp_left .inl
    · rw [get?_limits_format, ← hboth]
      by_cases hdate : HasDate bounds <;> simp [hdate]

/-- A number overwrites a date, and a date is left at another comparator. -/
theorem leavesNoTrace_years :
    let first : Comparison := .scalar .greaterOrEqual (.string "2024-01-15")
    let second : Comparison := .scalar .greaterOrEqual (.natural 2024)
    let third : Comparison := .scalar .lessThan (.string "2024-02-01T12:30:00+02:00")
    KeepsDate [first, second, third] ∧ SameLimits [first, second, third] [second, third] ∧
      leafClause {} (.range "created_at" [second, third]) =
        .ok (.object [("range", .object [("created_at",
          .object [("gte", .natural 2024), ("format", .string dateFormat),
            ("lt", .string "2024-02-01T10:30:00+00:00")])])]) := by
  intro first second third
  have hkeeps : KeepsDate [first, second, third] :=
    ⟨.lessThan, .string "2024-02-01T12:30:00+02:00", rfl, by decide +kernel⟩
  have htrace := (leavesNoTrace_iff {} "created_at" [first, second, third]).2.2.2.mpr (.inr hkeeps)
  refine ⟨hkeeps, htrace.removed [] first [] second [third] rfl rfl rfl rfl, ?_⟩
  decide +kernel

/-- A date that a number overwrites leaves its format behind. -/
theorem not_leavesNoTrace_date :
    let date : Comparison := .scalar .greaterOrEqual (.string "2024-01-15")
    let number : Comparison := .scalar .greaterOrEqual (.natural 20)
    leafClause {} (.range "pages" [date, number]) =
        .ok (.object [("range", .object [("pages", .object [("format", .string dateFormat), ("gte", .natural 20)])])]) ∧
      leafClause {} (.range "pages" [number]) =
        .ok (.object [("range", .object [("pages", .object [("gte", .natural 20)])])]) ∧
      ¬ LeavesNoTrace [date, number] := by
  intro date number
  refine ⟨by decide +kernel, by decide +kernel, ?_⟩
  intro htrace
  have hsame := htrace.removed [] date [] number [] rfl rfl rfl rfl "format"
  revert hsame
  decide +kernel

end SearchStore
