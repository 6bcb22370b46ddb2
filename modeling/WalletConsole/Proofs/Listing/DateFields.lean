import Mathlib
import WalletConsole.Proofs.Calendar.RoundTrip
import WalletConsole.Proofs.Listing.PickedDays

/-!
# Days in date fields

The bounds of a range of dates are kept as instants and shown in date fields as days. A field is
read leniently, so a day has many texts, but what a field shows is read as the day that is shown,
however far off its year is. So no bound moves to another day by being shown and picked again, and a
range is inverted exactly if the days that were picked are.

* `trim_ymdText`, `parseYmd_ymdText` — a written day needs no trimming and is read back whole
* `parseDate?_fieldText` — a field is read as the day that it shows
* `BoundsOfDay` — what the two bounds of one day have in common
* `FieldsKeepDays` — what date fields do with days
* `date_fields_keep_days` — **they keep to them**
-/

namespace WalletConsole

open Calendar Text

/-! ## Written days -/

/-- A text without blanks is left alone by trimming. -/
theorem Text.trim_eq_self {s : List Char} (h : ∀ c ∈ s, isBlank c = false) : trim s = s := by
  have hstart {s : List Char} (h : ∀ c ∈ s, isBlank c = false) : trimStart s = s := by
    cases s with
    | nil => rfl
    | cons c rest => exact trimStart_cons (h c List.mem_cons_self) rest
  have hend : ∀ c ∈ s.reverse, isBlank c = false := fun c hc => h c (List.mem_reverse.mp hc)
  rw [trim, hstart h, trimEnd, hstart hend, List.reverse_reverse]

namespace Calendar

theorem isBlank_of_mem_padded {width n : Nat} {c : Char} (h : c ∈ padded width n) :
    isBlank c = false :=
  isBlank_of_isDigit (padded_isDigit c h)

theorem isBlank_of_mem_yearText {year : Int} {c : Char} (h : c ∈ yearText year) :
    isBlank c = false := by
  unfold yearText at h
  split at h
  · exact isBlank_of_mem_padded h
  · rcases List.mem_cons.mp h with rfl | h
    · split <;> decide
    · exact isBlank_of_mem_padded h

theorem trim_ymdText (d : Date) : trim (ymdText d) = ymdText d := by
  refine trim_eq_self fun c hc => ?_
  simp only [ymdText, List.mem_append, List.mem_cons] at hc
  rcases hc with (hyear | rfl | hmonth) | rfl | hday
  · exact isBlank_of_mem_yearText hyear
  · decide
  · exact isBlank_of_mem_padded hmonth
  · decide
  · exact isBlank_of_mem_padded hday

/-- A written day is read back, and nothing is left over. -/
theorem parseYmd_ymdText (d : Date) : parseYmd (ymdText d) = .ok d := by
  have hscan : scanYmd (expect '-') (ymdText d ++ []) = .ok ((d.year, d.month, d.day), []) :=
    scanYmd_ymdText (fun _ => rfl) d []
  rw [List.append_nil] at hscan
  simp only [parseYmd, hscan, bind, Except.bind, Date.ofYmd?_parts]
  rfl

/-- A field is read as the day that it shows, and an empty one as no day. -/
theorem parseDate?_fieldText (t : Option Instant) :
    parseDate? (fieldText t) = t.map Instant.date := by
  cases t with
  | none => rfl
  | some t =>
    rw [parseDate?, fieldText, String.toList_ofList, trim_ymdText, parseYmd_ymdText]
    rfl

/-! ## Bounds -/

/-- The bounds of one day, as they are shown and picked again. -/
structure BoundsOfDay (first last : Instant) : Prop where
  date_eq : first.date = last.date
  text_eq : fieldText (some first) = fieldText (some last)
  startOf?_text : startOf? (fieldText (some first)) = some first
  endOf?_text : endOf? (fieldText (some first)) = some last

theorem startOf?_fieldText (t : Instant) :
    startOf? (fieldText (some t)) = some ⟨t.date, .midnight⟩ := by
  rw [startOf?, parseDate?_fieldText]
  rfl

theorem endOf?_fieldText (t : Instant) :
    endOf? (fieldText (some t)) = some ⟨t.date, .endOfDay⟩ := by
  rw [endOf?, parseDate?_fieldText]
  rfl

theorem boundsOfDay (d : Date) : BoundsOfDay ⟨d, .midnight⟩ ⟨d, .endOfDay⟩ where
  date_eq := rfl
  text_eq := rfl
  startOf?_text := startOf?_fieldText ⟨d, .midnight⟩
  endOf?_text := endOf?_fieldText ⟨d, .midnight⟩

end Calendar

/-- Date fields take a range by its days and nothing else. -/
structure FieldsKeepDays : Prop where
  /-- what is no first day is no last day either -/
  none_iff : ∀ text, startOf? text = none ↔ endOf? text = none
  /-- a text is one day, and is shown and read again as that day -/
  oneDay : ∀ text first last, startOf? text = some first → endOf? text = some last →
    BoundsOfDay first last
  /-- any instant at all is shown as its day, and an empty field shows none -/
  shown : ∀ t : Instant, startOf? (fieldText (some t)) = some ⟨t.date, .midnight⟩ ∧
    endOf? (fieldText (some t)) = some ⟨t.date, .endOfDay⟩
  empty : startOf? (fieldText none) = none
  /-- a range is inverted exactly if its first day is after its last -/
  inverted_iff : ∀ text text' first last, startOf? text = some first → endOf? text' = some last →
    (rangeInverted (some first) (some last) = true ↔ last.date < first.date)

/--
**Date fields keep to days.** A text is read as the first and as the last day of a range or as
neither; either bound is shown as the day that was read, and read as this day again; and whether a
range is inverted is told by its two days. So it is in every year.
-/
theorem date_fields_keep_days : FieldsKeepDays where
  none_iff text := by rw [startOf?, endOf?, Option.map_eq_none_iff, Option.map_eq_none_iff]
  oneDay text first last hfirst hlast := by
    obtain ⟨d, hd, rfl⟩ := Option.map_eq_some_iff.mp hfirst
    obtain ⟨d', hd', rfl⟩ := Option.map_eq_some_iff.mp hlast
    obtain rfl : d = d' := Option.some.inj (hd.symm.trans hd')
    exact boundsOfDay d
  shown t := ⟨startOf?_fieldText t, endOf?_fieldText t⟩
  empty := rfl
  inverted_iff text text' first last hfirst hlast := by
    obtain ⟨d, -, rfl⟩ := Option.map_eq_some_iff.mp hfirst
    obtain ⟨d', -, rfl⟩ := Option.map_eq_some_iff.mp hlast
    exact rangeInverted_days_iff

/-- A year that is written with a sign. -/
example : (startOf? " -0043-3-15 ").map (fun t => fieldText (some t)) = some "-0043-03-15" := by cbv

end WalletConsole
