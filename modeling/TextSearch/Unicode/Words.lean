import TextSearch.Unicode.Alphabetic
import TextSearch.Unicode.Number
import TextSearch.Unicode.WordBreak

/-!
# Words

A text is cut at the word boundaries of the default rules of Unicode. What has been read of a
segment is a `Run`; each class of character continues the run or ends the segment. Between two
letters or two digits a run may hold a sign such as an apostrophe, but only if the sign is followed
by what it joins, so the segment may end before the last character read.
-/

namespace TextSearch.Unicode

/-- What the segment read so far ends in. -/
inductive Run where
  | letter | hebrew | numeric | katakana | connector | flag | flagPair | space | quotedHebrew | closed
  | wantsLetter | wantsHebrew | wantsNumeric
  deriving DecidableEq

/-- Runs whose last sign belongs to the segment only if the wanted character follows. -/
def Run.isPending : Run → Bool
  | .wantsLetter | .wantsHebrew | .wantsNumeric => true
  | _ => false

/-- The run that a first character of the given class begins. -/
def Run.start : WordBreak → Run
  | .letter => .letter
  | .hebrewLetter => .hebrew
  | .numeric => .numeric
  | .katakana => .katakana
  | .connector => .connector
  | .flag => .flag
  | .space => .space
  | _ => .closed

/-- Whether a run goes on as the class of the next character begins. In a `marked` segment a mark has
been passed, which keeps spaces apart. -/
def Run.joins (marked : Bool) : Run → WordBreak → Bool
  | .letter, next | .hebrew, next | .numeric, next =>
    [.letter, .hebrewLetter, .numeric, .connector].contains next
  | .katakana, next => [.katakana, .connector].contains next
  | .connector, next => [.letter, .hebrewLetter, .numeric, .katakana, .connector].contains next
  | .quotedHebrew, next | .wantsLetter, next => [.letter, .hebrewLetter].contains next
  | .wantsHebrew, next => next == .hebrewLetter
  | .wantsNumeric, next => next == .numeric
  | .space, next => next == .space && !marked
  | _, _ => false

/-- The run after a sign that may stand within a word, and the second half of a flag. -/
def Run.sign : Run → WordBreak → Option Run
  | .hebrew, .doubleQuote => some .wantsHebrew
  | .hebrew, .singleQuote => some .quotedHebrew
  | .letter, .singleQuote => some .wantsLetter
  | .letter, .midLetter | .letter, .midBoth | .hebrew, .midLetter | .hebrew, .midBoth =>
    some .wantsLetter
  | .numeric, .midNumber | .numeric, .midBoth | .numeric, .singleQuote => some .wantsNumeric
  | .flag, .flag => some .flagPair
  | _, _ => none

/-- The run after one more character, or `none` where a boundary stands before it. -/
def Run.next (marked : Bool) (run : Run) (cls : WordBreak) : Option Run :=
  if run.joins marked cls then some (Run.start cls) else run.sign cls

/-- A segment in the making: what it ends in, how many characters after its first are read and how
many of them it surely holds. -/
structure Segment where
  run : Run
  read : Nat
  kept : Nat
  marked : Bool
  afterJoiner : Bool

/-- Reads one more character as the given run. -/
def Segment.advance (s : Segment) (run : Run) : Segment :=
  { s with
    run := run
    read := s.read + 1
    kept := if run.isPending then s.kept else s.read + 1
    afterJoiner := false }

/-- How many of the following characters belong to the segment. Marks always do; a pictograph does
after a joiner. -/
def Segment.extent (s : Segment) : List Char → Nat
  | [] => s.kept
  | c :: rest =>
    let cls := WordBreak.ofChar c
    if cls.isMark then
      ({ s.advance s.run with marked := true, afterJoiner := cls == WordBreak.joiner }).extent rest
    else if s.afterJoiner && isPictograph c then (s.advance .closed).extent rest
    else
      match s.run.next s.marked cls with
      | some run => (s.advance run).extent rest
      | none => s.kept

/-- The segment that holds only its first character, of the given class. -/
def Segment.first (cls : WordBreak) : Segment where
  run := Run.start cls
  read := 0
  kept := 0
  marked := false
  afterJoiner := cls == WordBreak.joiner

/-- How many of the characters after `c` belong to its segment. A line separator stands alone, but
CR and LF stay together. -/
def extentAfter (c : Char) (rest : List Char) : Nat :=
  match WordBreak.ofChar c with
  | .carriageReturn => if rest.head? == some '\n' then 1 else 0
  | .lineFeed | .newline => 0
  | cls => (Segment.first cls).extent rest

/-- The characters between neighbouring word boundaries. -/
def segments : List Char → List (List Char)
  | [] => []
  | c :: rest =>
    let n := extentAfter c rest
    (c :: rest.take n) :: segments (rest.drop n)
termination_by cs => cs.length
decreasing_by simp only [List.length_drop, List.length_cons]; omega

/-- Whether a character is a letter or a number. -/
def isAlphanumeric (c : Char) : Bool := isAlphabetic c || isNumber c

/-- The segments of a text that hold a letter or a number, in order. -/
def words (s : String) : List String :=
  ((segments s.toList).filter fun segment => segment.any isAlphanumeric).map String.ofList

end TextSearch.Unicode
