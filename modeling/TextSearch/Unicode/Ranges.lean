/-!
# Ranges of code points

A property of characters is written down as the ascending list of the ranges of code points that
have it.
-/

namespace TextSearch.Unicode

/-- Ascending, disjoint ranges of code points, both ends included. -/
abbrev Ranges := List (Nat × Nat)

/-- Whether a character lies in one of the ranges. The search ends at the first range beyond it. -/
def Ranges.covers : Ranges → Char → Bool
  | [], _ => false
  | (lo, hi) :: rest, c => lo ≤ c.toNat && (c.toNat ≤ hi || Ranges.covers rest c)

/-- A character that is covered lies in one of the ranges. -/
theorem Ranges.exists_of_covers {rs : Ranges} {c : Char} (h : rs.covers c = true) :
    ∃ r ∈ rs, r.1 ≤ c.toNat ∧ c.toNat ≤ r.2 := by
  induction rs with
  | nil => simp [covers] at h
  | cons r rest ih =>
    simp only [covers, Bool.and_eq_true, decide_eq_true_eq, Bool.or_eq_true] at h
    rcases h.2 with hi | hr
    · exact ⟨r, by simp, h.1, hi⟩
    · obtain ⟨s, hs, hb⟩ := ih hr
      exact ⟨s, by simp [hs], hb⟩

end TextSearch.Unicode
