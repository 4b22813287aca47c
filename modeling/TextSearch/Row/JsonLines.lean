import TextSearch.Json.Parser
import TextSearch.Row
import TextSearch.Unicode.Blank
import TextSearch.Utf8

/-!
# Rows in lines of JSON

Every line that is not blank holds an object, which is a row. A bad line is an error of its own and
does not touch the other lines.
-/

namespace TextSearch.JsonLines

def lineFeed : UInt8 := 10

mutual

/-- The raw text of a value: nothing for null, items joined by commas, and JSON for the rest. -/
def rawText : JsonValue → String
  | .null => ""
  | .string s => s
  | .array items => String.intercalate "," (rawTexts items)
  | value => Json.compact value

def rawTexts : List JsonValue → List String
  | [] => []
  | value :: rest => rawText value :: rawTexts rest

end

/-- The row in a line that is not blank; `number` counts it in messages of its own. -/
def rowOfLine (number : Nat) (cs : List Char) : Except SearchError Row :=
  match Json.parse? cs with
  | none => .error (.json Json.refusal)
  | some (.object members) => .ok (members.map fun member => (member.1, rawText member.2))
  | some _ => .error (.source s!"line {number}: expected a JSON object")

/-- The bytes of the first line with its line feed, and those behind it. The last line may lack its
line feed. -/
def splitLine : List UInt8 → List UInt8 × List UInt8
  | [] => ([], [])
  | b :: bytes =>
    if b = lineFeed then ([b], bytes)
    else
      let cut := splitLine bytes
      (b :: cut.1, cut.2)

theorem splitLine_append (bytes : List UInt8) : (splitLine bytes).1 ++ (splitLine bytes).2 = bytes := by
  induction bytes with
  | nil => rfl
  | cons b bytes ih =>
    rw [splitLine]
    split
    · rfl
    · simp [ih]

theorem splitLine_ne_nil {bytes : List UInt8} (h : bytes ≠ []) : (splitLine bytes).1 ≠ [] := by
  cases bytes with
  | nil => exact absurd rfl h
  | cons b bytes =>
    rw [splitLine]
    split <;> exact List.cons_ne_nil _ _

theorem length_splitLine {bytes : List UInt8} (h : bytes ≠ []) :
    (splitLine bytes).2.length < bytes.length := by
  have hsize := congrArg List.length (splitLine_append bytes)
  have hpos := List.length_pos_iff.mpr (splitLine_ne_nil h)
  rw [List.length_append] at hsize
  omega

/-- A reader of lines: the bytes that are left, the number of lines that it counted, and the text that
it read last. -/
structure LineReader where
  unread : List UInt8
  count : Nat
  buffer : List Char
  deriving DecidableEq, Repr

namespace LineReader

def ofBytes (bytes : List UInt8) : LineReader := ⟨bytes, 0, []⟩

/-- Reads a line to the end of the buffer and tells its size in bytes, which is zero only at the end.
A line that is no text is passed over. -/
def readLine (r : LineReader) : Except SearchError Nat × LineReader :=
  let cut := splitLine r.unread
  let next := { r with unread := cut.2 }
  match Utf8.decodeChars cut.1 with
  | .error _ => (.error (.io "stream did not contain valid UTF-8"), next)
  | .ok cs => (.ok cut.1.length, { next with buffer := r.buffer ++ cs })

theorem length_readLine {r next : LineReader} {answer : Except SearchError Nat}
    (h : r.readLine = (answer, next)) (hanswer : answer ≠ .ok 0) :
    next.unread.length < r.unread.length := by
  have hnext : next = r.readLine.2 := by rw [h]
  have hunread : next.unread = (splitLine r.unread).2 := by
    rw [hnext]
    unfold readLine
    dsimp only
    split <;> rfl
  have hne : r.unread ≠ [] := by
    intro hnil
    simp only [readLine, hnil, splitLine, Utf8.decodeChars, List.length_nil, Prod.mk.injEq] at h
    exact hanswer h.1.symm
  rw [hunread]
  exact length_splitLine hne

def clear (r : LineReader) : LineReader := { r with buffer := [] }

/-- Reads lines up to the next one that is not blank, and gives its row; none at the end. Lines that
are no text are not counted. -/
def nextRow (r : LineReader) : Except SearchError (Option Row) × LineReader :=
  match _h : r.clear.readLine with
  | (.error e, next) => (.error e, next)
  | (.ok 0, next) => (.ok none, next)
  | (.ok (_ + 1), next) =>
    let number := next.count + 1
    let cs := Unicode.trimBlanks next.buffer
    if cs.isEmpty then nextRow { next with count := number }
    else ((rowOfLine number cs).map some, { next with count := number })
termination_by r.unread.length
decreasing_by exact length_readLine (r := r.clear) _h (by simp)

theorem length_nextRow {r next : LineReader} {answer : Except SearchError (Option Row)}
    (h : r.nextRow = (answer, next)) (hanswer : answer ≠ .ok none) :
    next.unread.length < r.unread.length := by
  fun_induction nextRow r with
  | case1 r e after hread =>
    obtain ⟨-, rfl⟩ := Prod.mk.inj h
    exact length_readLine (r := r.clear) hread (by simp)
  | case2 r after hread =>
    obtain ⟨rfl, -⟩ := Prod.mk.inj h
    exact absurd rfl hanswer
  | case3 r n after hread number cs hblank ih =>
    have hless := length_readLine (r := r.clear) hread (by simp)
    exact Nat.lt_trans (ih h) hless
  | case4 r n after hread number cs hblank =>
    have hless := length_readLine (r := r.clear) hread (by simp)
    obtain ⟨-, rfl⟩ := Prod.mk.inj h
    exact hless

/-- What reading to the end gives. Reading goes on after an error. -/
def rows (r : LineReader) : RowSource :=
  match _h : r.nextRow with
  | (.ok none, _) => []
  | (.ok (some row), next) => .ok row :: rows next
  | (.error e, next) => .error e :: rows next
termination_by r.unread.length
decreasing_by all_goals exact length_nextRow _h (by simp)

theorem rows_of_none {r next : LineReader} (h : r.nextRow = (.ok none, next)) : r.rows = [] := by
  rw [rows]
  split <;> simp_all

theorem rows_of_row {r next : LineReader} {row : Row} (h : r.nextRow = (.ok (some row), next)) :
    r.rows = .ok row :: next.rows := by
  rw [rows]
  split <;> simp_all

theorem rows_of_error {r next : LineReader} {e : SearchError} (h : r.nextRow = (.error e, next)) :
    r.rows = .error e :: next.rows := by
  rw [rows]
  split <;> simp_all

theorem rows_of_nextRow_eq {r next : LineReader} (h : r.nextRow = next.nextRow) : r.rows = next.rows := by
  rw [rows, rows]
  split <;> split <;> simp_all

end LineReader

def rows (bytes : List UInt8) : RowSource := (LineReader.ofBytes bytes).rows

end TextSearch.JsonLines
