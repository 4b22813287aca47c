import Mathlib.Data.Finset.Lattice.Lemmas
import TextSearch.Proofs.FilterMaps
import TextSearch.Proofs.FilterVerdicts

/-!
# Allowed sets

The verdict of a filter rests on the sets of values that it allows for the names that some attribute has.
In which order a filter was made, and how often it was given a value, does not matter.
-/

namespace TextSearch.Proofs

variable {attributes : AttributeStore} {f g : Filter} {d : Document} {name : String}

/-! ### Where a name stands -/

/-- The order in which the kinds are tried. -/
def rank : Kind → Nat
  | .unsigned => 0
  | .float => 1
  | .multi => 2
  | .string => 3

/-- One place comes before another: it is of an earlier kind, or it has a lower offset in the same kind. -/
def Earlier (p q : Kind × Nat) : Prop := rank p.1 < rank q.1 ∨ p.1 = q.1 ∧ p.2 < q.2

def StandsAt (attributes : AttributeStore) (name : String) (p : Kind × Nat) : Prop :=
  (attributes.names p.1)[p.2]? = some name

/-- The first of all places where a name stands. -/
structure FirstPlace (attributes : AttributeStore) (name : String) (p : Kind × Nat) : Prop where
  stands : StandsAt attributes name p
  first : ∀ q, StandsAt attributes name q → ¬Earlier q p

lemma rank_injective : Function.Injective rank := by
  intro k l h
  cases k <;> cases l <;> first | rfl | cases h

lemma FirstPlace.unique {p q : Kind × Nat} (hp : FirstPlace attributes name p)
    (hq : FirstPlace attributes name q) : p = q := by
  have hqp : ¬Earlier q p := hp.first q hq.stands
  have hpq : ¬Earlier p q := hq.first p hp.stands
  unfold Earlier at hqp hpq
  have hkind : p.1 = q.1 := by
    apply rank_injective
    omega
  refine Prod.ext hkind ?_
  have hoffset : ¬q.2 < p.2 := fun hlt => hqp (.inr ⟨hkind.symm, hlt⟩)
  have hoffset' : ¬p.2 < q.2 := fun hlt => hpq (.inr ⟨hkind, hlt⟩)
  omega

lemma mem_names_of_standsAt {p : Kind × Nat} (h : StandsAt attributes name p) :
    name ∈ attributes.names p.1 := List.mem_of_getElem? h

lemma resolve_eq_none_iff : attributes.resolve name = none ↔ ∀ kind, name ∉ attributes.names kind := by
  simp only [AttributeStore.resolve, List.findSome?_eq_none_iff, Option.map_eq_none_iff,
    List.idxOf?_eq_none_iff, Kind.mem_all, true_imp_iff]

lemma pairwise_rank_all : Kind.all.Pairwise fun k l => rank k < rank l := by decide

lemma firstPlace_of_resolve {p : Kind × Nat} (h : attributes.resolve name = some p) :
    FirstPlace attributes name p := by
  obtain ⟨before, kind, after, hall, hfound, hbefore⟩ := List.findSome?_eq_some_iff.mp h
  obtain ⟨offset, hoffset, rfl⟩ := Option.map_eq_some_iff.mp hfound
  obtain ⟨hlt, hname, hlower⟩ := List.idxOf?_eq_some_iff.mp hoffset
  constructor
  · exact List.getElem?_eq_some_iff.mpr ⟨hlt, hname⟩
  · rintro ⟨other, place⟩ hstands (hrank | ⟨rfl, hplace⟩)
    · -- the kinds that were tried in vain are those of a lower rank
      have hearlier : other ∈ before := by
        have hpairwise := pairwise_rank_all
        have hmem := Kind.mem_all other
        rw [hall] at hpairwise hmem
        obtain ⟨-, htail, -⟩ := List.pairwise_append.mp hpairwise
        rcases List.mem_append.mp hmem with hbefore | htried
        · exact hbefore
        · rcases List.mem_cons.mp htried with rfl | hafter
          · exact absurd hrank (lt_irrefl _)
          · exact absurd hrank (lt_asymm (List.rel_of_pairwise_cons htail hafter))
      have hnone := hbefore other hearlier
      rw [Option.map_eq_none_iff, List.idxOf?_eq_none_iff] at hnone
      exact hnone (mem_names_of_standsAt hstands)
    · obtain ⟨hlt', hname'⟩ := List.getElem?_eq_some_iff.mp hstands
      exact hlower place hplace hname'

lemma resolve_eq_some_iff {p : Kind × Nat} :
    attributes.resolve name = some p ↔ FirstPlace attributes name p := by
  refine ⟨firstPlace_of_resolve, fun hp => ?_⟩
  cases hresolve : attributes.resolve name with
  | none => exact absurd (mem_names_of_standsAt hp.stands) (resolve_eq_none_iff.mp hresolve p.1)
  | some q => rw [(firstPlace_of_resolve hresolve).unique hp]

/-! ### Sets -/

/-- The set of values that a filter allows for a name, if it has the name. -/
def allowedSet? (f : Filter) (name : String) : Option (Finset String) := (f.get? name).map List.toFinset

lemma allowedSet?_cons (key : String) (values : List String) (entries : List (String × List String)) :
    allowedSet? ⟨(key, values) :: entries⟩ name =
      if key = name then some values.toFinset else allowedSet? ⟨entries⟩ name := by
  unfold allowedSet?
  rw [get?_cons]
  split <;> rfl

/-- What a filter asks of a document about one name. -/
def Meets (attributes : AttributeStore) (d : Document) (name : String) (allowed : Finset String) : Prop :=
  ∀ place, FirstPlace attributes name place →
    ∃ value ∈ allowed, d.values.text? place.1 place.2 = some value

lemma admitsAll_iff_meets (hf : AscendingNames f) : admitsAll (f.resolve attributes) d = true ↔
    ∀ name allowed, allowedSet? f name = some allowed → Meets attributes d name allowed := by
  rw [admitsAll_resolve_iff]
  constructor
  · intro h name allowed hallowed place hplace
    obtain ⟨values, hget, rfl⟩ := Option.map_eq_some_iff.mp hallowed
    obtain ⟨value, hvalue, htext⟩ :=
      h (name, values) (mem_entries_of_get? hget) place.1 place.2 (resolve_eq_some_iff.mpr hplace)
    exact ⟨value, List.mem_toFinset.mpr hvalue, htext⟩
  · rintro h ⟨name, values⟩ hentry kind offset hplace
    have hget : allowedSet? f name = some values.toFinset :=
      congrArg (Option.map List.toFinset) (hf.mem_entries_iff.mp hentry)
    obtain ⟨value, hvalue, htext⟩ := h name _ hget (kind, offset) (resolve_eq_some_iff.mp hplace)
    exact ⟨value, List.mem_toFinset.mp hvalue, htext⟩

lemma admitsAll_congr (hf : AscendingNames f) (hg : AscendingNames g)
    (h : ∀ name kind, name ∈ attributes.names kind → allowedSet? f name = allowedSet? g name) :
    admitsAll (f.resolve attributes) d = admitsAll (g.resolve attributes) d := by
  rw [Bool.eq_iff_iff, admitsAll_iff_meets hf, admitsAll_iff_meets hg]
  apply forall_congr'
  intro name
  by_cases hknown : ∃ kind, name ∈ attributes.names kind
  · obtain ⟨kind, hkind⟩ := hknown
    rw [h name kind hkind]
  · -- such a name has no place, so it asks for nothing
    have hmeets : ∀ allowed, Meets attributes d name allowed := fun allowed place hplace =>
      absurd ⟨place.1, mem_names_of_standsAt hplace.stands⟩ hknown
    exact iff_of_true (fun allowed _ => hmeets allowed) (fun allowed _ => hmeets allowed)

lemma allowedSet?_allow (hf : AscendingNames f) (name key : String) (values : List String) :
    allowedSet? (f.allow name values) key =
      if name = key then some ((allowedSet? f key).getD ∅ ∪ values.toFinset) else allowedSet? f key := by
  unfold allowedSet?
  rw [get?_allow hf]
  split
  · cases f.get? key <;> simp [List.toFinset_append]
  · rfl

lemma Meets.mono {allowed more : Finset String} (h : Meets attributes d name allowed)
    (hsub : allowed ⊆ more) : Meets attributes d name more := by
  intro place hplace
  obtain ⟨value, hvalue, htext⟩ := h place hplace
  exact ⟨value, hsub hvalue, htext⟩

lemma admitsAll_allow_known (hf : AscendingNames f) (hname : f.get? name ≠ none) (values : List String)
    (h : admitsAll (f.resolve attributes) d = true) :
    admitsAll ((f.allow name values).resolve attributes) d = true := by
  rw [admitsAll_iff_meets hf] at h
  rw [admitsAll_iff_meets (hf.allow name values)]
  intro key allowed hallowed
  rw [allowedSet?_allow hf] at hallowed
  split at hallowed
  · rename_i hkey
    subst hkey
    obtain ⟨known, hknown⟩ := Option.ne_none_iff_exists'.mp hname
    have hset : allowedSet? f name = some known.toFinset := congrArg (Option.map List.toFinset) hknown
    rw [hset, Option.getD_some] at hallowed
    obtain rfl := Option.some.inj hallowed
    exact (h name _ hset).mono Finset.subset_union_left
  · exact h key allowed hallowed

lemma admitsAll_of_allow_new (hf : AscendingNames f) (hname : f.get? name = none) (values : List String)
    (h : admitsAll ((f.allow name values).resolve attributes) d = true) :
    admitsAll (f.resolve attributes) d = true := by
  rw [admitsAll_iff_meets (hf.allow name values)] at h
  rw [admitsAll_iff_meets hf]
  intro key allowed hallowed
  have hother : name ≠ key := by
    rintro rfl
    rw [allowedSet?, hname] at hallowed
    cases hallowed
  apply h key allowed
  rw [allowedSet?_allow hf, if_neg hother, hallowed]

/-! ### Histories -/

/-- A call that changes a filter. -/
inductive FilterCall where
  | allow (name : String) (values : List String)
  | merge (text : String)

def FilterCall.apply (f : Filter) : FilterCall → Filter
  | .allow name values => f.allow name values
  | .merge text => (f.merge text).1

/-- The filter after some calls. -/
def filterAfter (calls : List FilterCall) : Filter := calls.foldl FilterCall.apply Filter.empty

lemma AscendingNames.apply (hf : AscendingNames f) (call : FilterCall) : AscendingNames (call.apply f) := by
  cases call with
  | allow name values => exact hf.allow name values
  | merge text => exact ascendingNames_foldl_allow hf _

lemma ascendingNames_filterAfter (calls : List FilterCall) : AscendingNames (filterAfter calls) := by
  have hrun : ∀ f, AscendingNames f → AscendingNames (calls.foldl FilterCall.apply f) := by
    induction calls with
    | nil => exact fun f hf => hf
    | cons call calls ih => exact fun f hf => ih _ (hf.apply call)
  exact hrun _ List.Pairwise.nil

/-- A filter admits a document if each name that some attribute has finds an allowed value at its first
place. So filters that came to the same sets by different calls agree, more values for a name that the filter
has only let documents in, values for a new name only keep documents out, and a name that no attribute has
does nothing. -/
theorem verdicts_rest_on_allowed_sets (attributes : AttributeStore) (d : Document)
    (calls : List FilterCall) :
    let f := filterAfter calls
    let verdict := fun f : Filter => admitsAll (f.resolve attributes) d
    (verdict f = true ↔ ∀ name allowed, allowedSet? f name = some allowed →
      ∀ kind offset, FirstPlace attributes name (kind, offset) →
        ∃ value ∈ allowed, d.values.text? kind offset = some value) ∧
    (∀ others, (∀ name, allowedSet? f name = allowedSet? (filterAfter others) name) →
      verdict f = verdict (filterAfter others)) ∧
    (∀ name values, f.get? name ≠ none → verdict f = true → verdict (f.allow name values) = true) ∧
    (∀ name values, f.get? name = none → verdict (f.allow name values) = true → verdict f = true) ∧
    ∀ name, (∀ kind, name ∉ attributes.names kind) →
      ∀ others, (∀ key, key ≠ name → allowedSet? f key = allowedSet? (filterAfter others) key) →
        verdict f = verdict (filterAfter others) := by
  intro f verdict
  have hf : AscendingNames f := ascendingNames_filterAfter calls
  refine ⟨?_, ?_, ?_, ?_, ?_⟩
  · simp only [verdict, admitsAll_iff_meets hf, Meets, Prod.forall]
  · intro others hsame
    exact admitsAll_congr hf (ascendingNames_filterAfter others) fun name _ _ => hsame name
  · exact fun name values hname => admitsAll_allow_known hf hname values
  · exact fun name values hname => admitsAll_of_allow_new hf hname values
  · intro name hunknown others hsame
    apply admitsAll_congr hf (ascendingNames_filterAfter others)
    intro key kind hkey
    apply hsame
    rintro rfl
    exact hunknown kind hkey

/-- The name `year` stands in two kinds, and the unsigned one counts. The second filter allows its values in
another order and one of them twice, and no attribute is called `colour`. -/
theorem verdicts_rest_on_allowed_sets_two_kinds :
    let attributes := AttributeStore.ofSchema { unsigned := ["year"], string := ["year", "genre"] }
    let d : Document := ⟨0, { unsigned := [1999], string := ["old", "drama"] }⟩
    let f := filterAfter [.merge "year:2021,1999"]
    let g := filterAfter [.allow "year" ["1999"], .merge "year:1999; year : 2021"]
    let h := filterAfter [.merge "colour:red", .merge "year:1999,2021"]
    (∀ name, allowedSet? f name = allowedSet? g name) ∧ admitsAll (f.resolve attributes) d = true ∧
      admitsAll (g.resolve attributes) d = true ∧ admitsAll (h.resolve attributes) d = true ∧
      admitsAll ((f.allow "year" ["7"]).resolve attributes) d = true ∧
      admitsAll ((f.allow "genre" ["drama"]).resolve attributes) d = true := by
  intro attributes d f g h
  have hf : f = ⟨[("year", ["2021", "1999"])]⟩ := by decide +kernel
  have hg : g = ⟨[("year", ["1999", "1999", "2021"])]⟩ := by decide +kernel
  have hh : h = ⟨[("colour", ["red"]), ("year", ["1999", "2021"])]⟩ := by decide +kernel
  have hyears : ["2021", "1999"].toFinset = ["1999", "1999", "2021"].toFinset := by decide
  have hyears' : ["2021", "1999"].toFinset = ["1999", "2021"].toFinset := by decide
  have hsame : ∀ name, allowedSet? f name = allowedSet? g name := by
    intro name
    rw [hf, hg, allowedSet?_cons, allowedSet?_cons, hyears]
  have hother : ∀ name, name ≠ "colour" → allowedSet? f name = allowedSet? h name := by
    intro name hname
    rw [hf, hh, allowedSet?_cons, allowedSet?_cons, allowedSet?_cons, if_neg hname.symm, hyears']
  obtain ⟨-, hsets, hknown, hnew, hunknown⟩ :=
    verdicts_rest_on_allowed_sets attributes d [.merge "year:2021,1999"]
  have hgenre : admitsAll ((f.allow "genre" ["drama"]).resolve attributes) d = true := by decide +kernel
  have hadmits : admitsAll (f.resolve attributes) d = true := by
    apply hnew "genre" ["drama"] _ hgenre
    change f.get? "genre" = none
    rw [hf]
    decide
  refine ⟨hsame, hadmits, ?_, ?_, ?_, hgenre⟩
  · exact (hsets _ hsame).symm.trans hadmits
  · exact (hunknown "colour" (by intro kind; cases kind <;> decide) _ hother).symm.trans hadmits
  · apply hknown "year" ["7"] _ hadmits
    change f.get? "year" ≠ none
    rw [hf]
    decide

end TextSearch.Proofs
