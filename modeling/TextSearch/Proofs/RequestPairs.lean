import Mathlib.Logic.Relation
import TextSearch.Proofs.FilterTexts
import TextSearch.Query.Request

/-!
# Pairs of requests

A request is what the last value of each key and the filters say, so pairs of other keys do not matter, nor
does the order of pairs with different keys.
-/

namespace TextSearch.Proofs
open Text Unicode

/-! ### The pairs of a text -/

/-- The key and the value of each piece that has an equals sign, without the blanks at their ends. The first
such sign parts them, and a pair without a key does not count. -/
def pairsIn (text : String) : List (String × String) :=
  ((text.toList.splitOn '&').filter ('=' ∈ ·)).map (fun piece =>
    (String.ofList (trimBlanks (piece.takeWhile (· ≠ '='))),
      String.ofList (trimBlanks (piece.dropWhile (· ≠ '=')).tail)))
  |>.filter (·.1 ≠ "")

lemma splitOnce_eq (sep : Char) (cs : List Char) : splitOnce sep cs =
    if sep ∈ cs then some (cs.takeWhile (· ≠ sep), (cs.dropWhile (· ≠ sep)).tail) else none := by
  induction cs with
  | nil => rfl
  | cons c rest ih =>
    by_cases hc : c = sep
    · subst hc
      simp [splitOnce]
    · have hmem : sep ∈ c :: rest ↔ sep ∈ rest := by simp [Ne.symm hc]
      rw [splitOnce, if_neg hc, ih]
      by_cases hrest : sep ∈ rest <;> simp [hmem, hrest, hc]

lemma pairs_eq (text : String) : Request.pairs text = pairsIn text := by
  unfold Request.pairs pairsIn
  rw [pieces_eq_splitOn, List.filter_map, ← List.filterMap_eq_map, List.filterMap_filter, List.filterMap_filter]
  apply List.filterMap_congr
  intro piece _
  unfold Request.pair?
  rw [splitOnce_eq]
  by_cases hsign : '=' ∈ piece <;> simp [hsign]

lemma pairsIn_append (a b : String) : pairsIn (a ++ "&" ++ b) = pairsIn a ++ pairsIn b := by
  have hsign : "&".toList = ['&'] := rfl
  simp only [← pairs_eq, Request.pairs, String.toList_append, hsign, List.append_assoc, List.singleton_append,
    pieces_append, List.filterMap_append]

lemma pairsIn_intercalate (texts : List String) : pairsIn ("&".intercalate texts) = texts.flatMap pairsIn := by
  induction texts with
  | nil => rfl
  | cons text texts ih =>
    cases texts with
    | nil => simp
    | cons next texts =>
      rw [String.intercalate_cons_cons, pairsIn_append, ih, List.flatMap_cons, List.flatMap_cons,
        List.flatMap_cons]

lemma pairsIn_filter {value : String} (h : '&' ∉ value.toList) :
    pairsIn ("filter=" ++ value) = [("filter", trim value)] := by
  have hkey : "filter=".toList = ['f', 'i', 'l', 't', 'e', 'r', '='] := rfl
  have hfree : '&' ∉ ['f', 'i', 'l', 't', 'e', 'r', '='] ++ value.toList := by
    rw [List.mem_append, not_or]
    exact ⟨by decide, h⟩
  have hname : String.ofList (trimBlanks ['f', 'i', 'l', 't', 'e', 'r']) = "filter" := by decide
  unfold pairsIn
  rw [String.toList_append, hkey, List.splitOn_eq_singleton hfree]
  simp [hname, trim]

/-! ### The request of some pairs -/

/-- The value that a key has in the last pair with this key. -/
def lastValue? (key : String) (pairs : List (String × String)) : Option String :=
  (itemsFor key pairs).getLast?

def requestOf (pairs : List (String × String)) : Request where
  query := (lastValue? "query" pairs).getD ""
  index := (lastValue? "index" pairs).getD "*"
  charset := (lastValue? "charset" pairs).getD "utf8"
  dataFormat := ((lastValue? "dataformat" pairs).map lowercase).getD "xml"
  limit := ((lastValue? "limit" pairs).map fun value => Request.count value.toList).getD 4000
  offset := ((lastValue? "offset" pairs).map fun value => Request.count value.toList).getD 0
  filter := (itemsFor "filter" pairs).foldl (fun f value => (f.merge value).1) Filter.empty

lemma set_eq (r : Request) (pair : String × String) : r.set pair =
    { query := if pair.1 = "query" then pair.2 else r.query
      index := if pair.1 = "index" then pair.2 else r.index
      charset := if pair.1 = "charset" then pair.2 else r.charset
      dataFormat := if pair.1 = "dataformat" then lowercase pair.2 else r.dataFormat
      limit := if pair.1 = "limit" then Request.count pair.2.toList else r.limit
      offset := if pair.1 = "offset" then Request.count pair.2.toList else r.offset
      filter := if pair.1 = "filter" then (r.filter.merge pair.2).1 else r.filter } := by
  unfold Request.set
  split <;> simp_all [Request.withFormat, Request.withFilter]

lemma lastValue?_concat (key : String) (pairs : List (String × String)) (pair : String × String) :
    lastValue? key (pairs ++ [pair]) = if pair.1 = key then some pair.2 else lastValue? key pairs := by
  unfold lastValue?
  rw [itemsFor_append, itemsFor_cons]
  by_cases hkey : pair.1 = key <;> simp [hkey, itemsFor]

lemma requestOf_concat (pairs : List (String × String)) (pair : String × String) :
    requestOf (pairs ++ [pair]) = (requestOf pairs).set pair := by
  have hfilters : itemsFor "filter" (pairs ++ [pair]) =
      itemsFor "filter" pairs ++ if pair.1 = "filter" then [pair.2] else [] := by
    rw [itemsFor_append, itemsFor_cons]
    rfl
  rw [set_eq]
  unfold requestOf
  simp only [lastValue?_concat, hfilters, List.foldl_append]
  congr 1 <;> split <;> rfl

lemma foldl_set_eq (pairs : List (String × String)) : pairs.foldl Request.set {} = requestOf pairs := by
  -- from the back, as the last pair decides
  induction pairs using List.reverseRecOn with
  | nil => rfl
  | append_singleton pairs pair ih =>
    rw [List.foldl_append, ih, requestOf_concat]
    rfl

lemma parse_eq (text : String) : Request.parse text =
    if pairsIn text = [] then .error (.invalidRequest s!"no parameters in '{text}'")
    else .ok (requestOf (pairsIn text)) := by
  unfold Request.parse
  rw [pairs_eq]
  cases hpairs : pairsIn text with
  | nil => rfl
  | cons pair pairs =>
    rw [if_neg (List.cons_ne_nil _ _), ← foldl_set_eq]

lemma parse_eq_ok_iff {text : String} {r : Request} :
    Request.parse text = .ok r ↔ pairsIn text ≠ [] ∧ requestOf (pairsIn text) = r := by
  rw [parse_eq]
  by_cases hnil : pairsIn text = [] <;> simp [hnil]

/-! ### Other pairs -/

/-- The keys that a request knows. -/
def requestKeys : List String := ["query", "index", "charset", "dataformat", "limit", "offset", "filter"]

/-- A change of some pairs: two neighbours with different keys change places, or a pair with an unknown key is
put in. -/
inductive Harmless : List (String × String) → List (String × String) → Prop
  | swap {front back p q} : p.1 ≠ q.1 → Harmless (front ++ p :: q :: back) (front ++ q :: p :: back)
  | insert {front back pair} : pair.1 ∉ requestKeys → Harmless (front ++ back) (front ++ pair :: back)

section Changes

variable {pairs others : List (String × String)}

/-- A request is determined by the values that its keys have, in order. -/
lemma requestOf_congr (h : ∀ key ∈ requestKeys, itemsFor key pairs = itemsFor key others) :
    requestOf pairs = requestOf others := by
  simp only [requestKeys, List.forall_mem_cons] at h
  obtain ⟨hquery, hindex, hcharset, hformat, hlimit, hoffset, hfilter, -⟩ := h
  unfold requestOf lastValue?
  rw [hquery, hindex, hcharset, hformat, hlimit, hoffset, hfilter]

lemma Harmless.itemsFor_eq (h : Harmless pairs others) {key : String} (hkey : key ∈ requestKeys) :
    itemsFor key pairs = itemsFor key others := by
  cases h with
  | swap hne =>
    rename_i front back p q
    simp only [itemsFor_append, itemsFor_cons]
    by_cases hp : p.1 = key
    · have hq : q.1 ≠ key := fun hq => hne (hp.trans hq.symm)
      simp only [if_pos hp, if_neg hq]
    · simp only [if_neg hp]
  | insert hunknown =>
    rename_i front back pair
    have hother : pair.1 ≠ key := fun he => hunknown (he ▸ hkey)
    rw [itemsFor_append, itemsFor_append, itemsFor_cons, if_neg hother]

lemma Harmless.ne_nil (h : Harmless pairs others) (hne : pairs ≠ []) : others ≠ [] := by
  cases h <;> simp

lemma parse_of_harmless {text other : String} {r : Request}
    (h : Relation.ReflTransGen Harmless (pairsIn text) (pairsIn other)) (hparse : Request.parse text = .ok r) :
    Request.parse other = .ok r := by
  obtain ⟨hne, rfl⟩ := parse_eq_ok_iff.mp hparse
  have hrun : ∀ others, Relation.ReflTransGen Harmless (pairsIn text) others →
      others ≠ [] ∧ ∀ key ∈ requestKeys, itemsFor key (pairsIn text) = itemsFor key others := by
    intro others hchanges
    induction hchanges with
    | refl => exact ⟨hne, fun _ _ => rfl⟩
    | tail _ hchange ih =>
      refine ⟨hchange.ne_nil ih.1, fun key hkey => ?_⟩
      exact (ih.2 key hkey).trans (hchange.itemsFor_eq hkey)
  obtain ⟨hother, hitems⟩ := hrun _ h
  exact parse_eq_ok_iff.mpr ⟨hother, (requestOf_congr hitems).symm⟩

end Changes

lemma set_filters (r : Request) (a b : String) :
    (r.set ("filter", trim a)).set ("filter", trim b) = r.set ("filter", trim (a ++ ";" ++ b)) := by
  simp only [Request.set, Request.withFilter, merge_trim, merge_append]

lemma parse_filters (front back : List String) {a b : String} (ha : '&' ∉ a.toList) (hb : '&' ∉ b.toList) :
    Request.parse ("&".intercalate (front ++ ["filter=" ++ a, "filter=" ++ b] ++ back)) =
      Request.parse ("&".intercalate (front ++ ["filter=" ++ (a ++ ";" ++ b)] ++ back)) := by
  have hab : '&' ∉ (a ++ ";" ++ b).toList := by
    simp only [String.toList_append, List.mem_append, not_or]
    exact ⟨⟨ha, by decide⟩, hb⟩
  rw [parse_eq, parse_eq]
  simp only [pairsIn_intercalate, List.flatMap_append, List.flatMap_cons, List.flatMap_nil, pairsIn_filter ha,
    pairsIn_filter hb, pairsIn_filter hab]
  rw [if_neg (by simp), if_neg (by simp), ← foldl_set_eq, ← foldl_set_eq]
  simp only [List.foldl_append, List.foldl_cons, List.foldl_nil, set_filters]

lemma ofMessage_get (text body : String) : Request.ofMessage "GET" ("/?" ++ text) body = Request.parse text := by
  have hslash : "/?".toList = ['/', '?'] := rfl
  have hparameters : Request.parameters? ("/?" ++ text) = some text := by
    unfold Request.parameters?
    rw [String.toList_append, hslash]
    simp
  unfold Request.ofMessage
  rw [hparameters]
  rfl

/-- A text without pairs is no request. In any other, a key has the value of its last pair, or else its default,
and all filters are merged in order. So pairs of different keys can change places and pairs of unknown keys can
be put in, two filters are one with a semicolon, and a text may come by GET or by POST. -/
theorem requests_are_made_of_their_pairs :
    (∀ text, (Request.parse text = .error (.invalidRequest s!"no parameters in '{text}'") ↔
        pairsIn text = []) ∧
      (pairsIn text ≠ [] → Request.parse text = .ok (requestOf (pairsIn text)))) ∧
    (∀ text other r, Request.parse text = .ok r →
      Relation.ReflTransGen Harmless (pairsIn text) (pairsIn other) → Request.parse other = .ok r) ∧
    (∀ front back a b, '&' ∉ a.toList → '&' ∉ b.toList →
      Request.parse ("&".intercalate (front ++ ["filter=" ++ a, "filter=" ++ b] ++ back)) =
        Request.parse ("&".intercalate (front ++ ["filter=" ++ (a ++ ";" ++ b)] ++ back))) ∧
    ∀ text uri body, Request.ofMessage "GET" ("/?" ++ text) body = Request.ofMessage "POST" uri text := by
  refine ⟨fun text => ⟨?_, ?_⟩, ?_, ?_, ?_⟩
  · rw [parse_eq]
    by_cases hnil : pairsIn text = [] <;> simp [hnil]
  · intro hne
    exact parse_eq_ok_iff.mpr ⟨hne, rfl⟩
  · exact fun text other r hparse hchanges => parse_of_harmless hchanges hparse
  · exact fun front back a b => parse_filters front back
  · exact fun text uri body => ofMessage_get text body

/-- The last limit counts, up to the letter behind it. -/
theorem requests_are_made_of_their_pairs_two_limits :
    let text := "limit=5&query= cat &limit=7x&filter=a:1"
    let other := "query=cat&limit=5&limit=7x&colour=red&filter=a:1"
    let r : Request := { query := "cat", limit := 7, filter := ⟨[("a", ["1"])]⟩ }
    pairsIn text ≠ [] ∧ Relation.ReflTransGen Harmless (pairsIn text) (pairsIn other) ∧
      Request.parse text = .ok r ∧ Request.parse other = .ok r ∧
      Request.parse "&&novalue" = .error (.invalidRequest "no parameters in '&&novalue'") ∧
      Request.parse "query=cat&filter= a:1 &filter=b:2" = Request.parse "query=cat&filter= a:1 ;b:2" := by
  intro text other r
  obtain ⟨hpairs, hchanges, hfilters, -⟩ := requests_are_made_of_their_pairs
  have htext : pairsIn text = [("limit", "5"), ("query", "cat"), ("limit", "7x"), ("filter", "a:1")] := by
    decide +kernel
  have hother : pairsIn other =
      [("query", "cat"), ("limit", "5"), ("limit", "7x"), ("colour", "red"), ("filter", "a:1")] := by
    decide +kernel
  have hne : pairsIn text ≠ [] := by
    rw [htext]
    exact List.cons_ne_nil _ _
  have hsteps : Relation.ReflTransGen Harmless (pairsIn text) (pairsIn other) := by
    rw [htext, hother]
    apply Relation.ReflTransGen.tail (Relation.ReflTransGen.single (@Harmless.swap [] _ _ _ (by decide)))
    exact @Harmless.insert [("query", "cat"), ("limit", "5"), ("limit", "7x")] [("filter", "a:1")] _ (by decide)
  have hrequest : requestOf (pairsIn text) = r := by
    rw [htext]
    decide +kernel
  have hparse : Request.parse text = .ok r := hrequest ▸ (hpairs text).2 hne
  refine ⟨hne, hsteps, hparse, hchanges text other r hparse hsteps, ?_, ?_⟩
  · exact (hpairs "&&novalue").1.mpr (by decide +kernel)
  · exact hfilters ["query=cat"] [] " a:1 " "b:2" (by decide) (by decide)

end TextSearch.Proofs
