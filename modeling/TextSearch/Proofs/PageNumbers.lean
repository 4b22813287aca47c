import TextSearch.Proofs.DecimalDigits
import TextSearch.Proofs.JsonGrammar
import TextSearch.Proofs.RequestPairs

/-!
# Page numbers

A limit and an offset are the number that their value starts with, as long as 64 bits hold it. A larger one is read
as zero, so the offset of a page far behind the last one selects the first page.
-/

namespace TextSearch.Proofs
open Decimal

/-- A value starts with the digits of a number, as many as there are. Where there are none the number is zero. -/
def StartsWithNumber (value : String) (n : Nat) : Prop :=
  ∃ digits rest, value.toList = digits ++ rest ∧ (∀ c ∈ digits, isDigit c = true) ∧
    (∀ c ∈ rest.head?, isDigit c = false) ∧ n = Nat.ofDigits 10 (placeValues digits)

/-- How a number is counted: as itself while 64 bits hold it, and as nothing beyond. -/
structure CountsFor (count : UInt64) (n : Nat) : Prop where
  saturated : count.toNat = min n (UInt64.size - 1) ↔ n < UInt64.size
  beyond : UInt64.size ≤ n → count = 0
  zero : count = 0 ↔ n = 0 ∨ UInt64.size ≤ n

lemma exists_startsWithNumber (value : String) : ∃ n, StartsWithNumber value n := by
  obtain ⟨digits, rest, hdigits, hvalue, hrest⟩ := exists_digits value.toList
  exact ⟨_, digits, rest, hvalue, hdigits, hrest, rfl⟩

lemma StartsWithNumber.countsFor {value : String} {n : Nat} (h : StartsWithNumber value n) :
    CountsFor (Request.count value.toList) n := by
  obtain ⟨digits, rest, hvalue, hdigits, hrest, hn⟩ := h
  have hcount : Request.count value.toList = if n < UInt64.size then UInt64.ofNat n else 0 := by
    unfold Request.count
    rw [hvalue, leadingDigits_append hdigits hrest, digitsValue_eq_ofDigits, ← hn]
  have hsize : UInt64.size = 2 ^ 64 := rfl
  rw [hcount]
  by_cases hlt : n < UInt64.size
  · have hnat : (UInt64.ofNat n).toNat = n := UInt64.toNat_ofNat_of_lt' hlt
    have hzero : UInt64.ofNat n = 0 ↔ n = 0 := by
      rw [← UInt64.toNat_inj, hnat]
      exact Iff.rfl
    rw [if_pos hlt]
    refine ⟨iff_of_true ?_ hlt, fun hle => absurd hlt (Nat.not_lt.mpr hle), ?_⟩
    · rw [hnat]
      omega
    · rw [hzero]
      omega
  · have hle : UInt64.size ≤ n := Nat.le_of_not_lt hlt
    rw [if_neg hlt]
    refine ⟨iff_of_false ?_ hlt, fun _ => rfl, iff_of_true rfl (.inr hle)⟩
    change 0 ≠ min n (UInt64.size - 1)
    omega

/-- The limit and the offset of a request are read by value exactly below 2 to the power of 64. -/
theorem page_numbers_are_read_by_value_iff {text : String} (h : pairsIn text ≠ []) :
    ∃ r, Request.parse text = .ok r ∧
      (∀ value, lastValue? "limit" (pairsIn text) = some value →
        ∃ n, StartsWithNumber value n ∧ CountsFor r.limit n) ∧
      ∀ value, lastValue? "offset" (pairsIn text) = some value →
        ∃ n, StartsWithNumber value n ∧ CountsFor r.offset n := by
  refine ⟨requestOf (pairsIn text), parse_eq_ok_iff.mpr ⟨h, rfl⟩, ?limit, ?offset⟩
  case limit =>
    intro value hvalue
    obtain ⟨n, hn⟩ := exists_startsWithNumber value
    have hlimit : (requestOf (pairsIn text)).limit = Request.count value.toList := by
      unfold requestOf
      rw [hvalue]
      rfl
    exact ⟨n, hn, hlimit ▸ hn.countsFor⟩
  case offset =>
    intro value hvalue
    obtain ⟨n, hn⟩ := exists_startsWithNumber value
    have hoffset : (requestOf (pairsIn text)).offset = Request.count value.toList := by
      unfold requestOf
      rw [hvalue]
      rfl
    exact ⟨n, hn, hoffset ▸ hn.countsFor⟩

/-- Both numbers have letters behind them, and the later limit counts. -/
theorem page_numbers_are_read_by_value_iff_two_limits :
    let text := "query=cat&limit=5&limit= 007x&offset=18446744073709551615th"
    pairsIn text ≠ [] ∧ ∃ r, Request.parse text = .ok r ∧
      (∃ n, StartsWithNumber "007x" n ∧ CountsFor r.limit n) ∧
      ∃ n, StartsWithNumber "18446744073709551615th" n ∧ CountsFor r.offset n := by
  intro text
  have hpairs : pairsIn text = [("query", "cat"), ("limit", "5"), ("limit", "007x"),
      ("offset", "18446744073709551615th")] := by
    decide +kernel
  have hne : pairsIn text ≠ [] := by
    rw [hpairs]
    exact List.cons_ne_nil _ _
  obtain ⟨r, hparse, hlimit, hoffset⟩ := page_numbers_are_read_by_value_iff hne
  refine ⟨hne, r, hparse, hlimit _ ?_, hoffset _ ?_⟩
  · rw [hpairs]
    rfl
  · rw [hpairs]
    rfl

/-- The first number that 64 bits do not hold selects the first page. -/
theorem offset_beyond_64_bits_selects_the_first_page :
    StartsWithNumber "18446744073709551616" (2 ^ 64) ∧
      lastValue? "offset" (pairsIn "query=cat&offset=18446744073709551616") = some "18446744073709551616" ∧
      Request.parse "query=cat&offset=18446744073709551616" = .ok { query := "cat", offset := 0 } ∧
      Request.parse "query=cat" = .ok { query := "cat", offset := 0 } ∧
      (0 : UInt64).toNat ≠ min (2 ^ 64) (UInt64.size - 1) := by
  have hpairs : pairsIn "query=cat&offset=18446744073709551616" =
      [("query", "cat"), ("offset", "18446744073709551616")] := by
    decide +kernel
  refine ⟨⟨"18446744073709551616".toList, [], ?_, ?_, ?_, ?_⟩, ?_, ?_, ?_, ?_⟩
  · rw [List.append_nil]
  · exact List.all_eq_true.mp (by decide +kernel)
  · rintro _ ⟨⟩
  · decide +kernel
  · rw [hpairs]
    rfl
  · rw [parse_eq, hpairs]
    rfl
  · decide +kernel
  · decide

end TextSearch.Proofs
