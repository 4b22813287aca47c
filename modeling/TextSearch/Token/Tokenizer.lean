import TextSearch.Token.Segmenter
import TextSearch.Token.Stem
import TextSearch.Token.StopWords
import TextSearch.Unicode.Lowercase
import TextSearch.Unicode.Words

/-!
# The tokenizer

Texts are cut into words. A word becomes a token unless it is too short, too long or a stop word;
its position counts all words before it.
-/

namespace TextSearch

/-- Which words become tokens, and in which form. -/
structure TokenRules where
  lowercase : Bool := true
  removeStopWords : Bool := true
  stem : Bool := true
  minLength : Nat := 2
  maxLength : Nat := 50
  deriving DecidableEq, Repr

namespace TokenRules

def form (rules : TokenRules) (word : String) : String :=
  if rules.lowercase then Unicode.lowercase word else word

def keeps (rules : TokenRules) (form : String) : Bool :=
  rules.minLength ≤ form.length && form.length ≤ rules.maxLength
    && !(rules.removeStopWords && isStopWord form)

def finish (rules : TokenRules) (form : String) : String :=
  if rules.stem then TextSearch.stem form else form

def token? (rules : TokenRules) (entry : String × Nat) : Option Token :=
  let form := rules.form entry.1
  if rules.keeps form then some ⟨rules.finish form, UInt32.ofNat entry.2⟩ else none

def tokens (rules : TokenRules) (s : String) : List Token :=
  (Unicode.words s).zipIdx.filterMap rules.token?

/-- The segmenter that follows the rules. It refuses no text. -/
def segmenter (rules : TokenRules) : Segmenter := fun s => .ok (rules.tokens s)

end TokenRules

end TextSearch
