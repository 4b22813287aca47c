/-!
# UTF-8

Texts are stored as UTF-8. Reading tells where bytes stop being a text and how many bytes make up
the fault: the longest beginning of a character that the bytes still spell, or one byte.
-/

namespace TextSearch.Utf8

def encode (s : String) : List UInt8 := s.toList.flatMap String.utf8EncodeChar

def size (s : String) : Nat := s.utf8ByteSize

/-- The characters in the first `n` bytes of a text; none if those end within a character or beyond
the text. -/
def takeBytes? : Nat → List Char → Option (List Char)
  | 0, _ => some []
  | _ + 1, [] => none
  | n + 1, c :: cs =>
    if c.utf8Size ≤ n + 1 then (takeBytes? (n + 1 - c.utf8Size) cs).map (c :: ·) else none

/-- What is wrong at some place: `length` bytes that no text holds, or bytes that end within a
character. -/
inductive Fault where
  | invalid (index length : Nat)
  | incomplete (index : Nat)
  deriving DecidableEq, Repr

def Fault.message : Fault → String
  | .invalid index length => s!"invalid utf-8 sequence of {length} bytes from index {index}"
  | .incomplete index => s!"incomplete utf-8 byte sequence from index {index}"

/-- The fault seen from bytes that stand `n` places earlier. -/
def Fault.shift (n : Nat) : Fault → Fault
  | .invalid index length => .invalid (index + n) length
  | .incomplete index => .incomplete (index + n)

/-- How many bytes follow a first byte, and the bounds of the byte next to it. -/
def leadBounds (b : UInt8) : Option (Nat × UInt8 × UInt8) :=
  if b < 0x80 then some (0, 0x80, 0xBF)
  else if b < 0xC2 then none
  else if b < 0xE0 then some (1, 0x80, 0xBF)
  else if b == 0xE0 then some (2, 0xA0, 0xBF)
  else if b == 0xED then some (2, 0x80, 0x9F)
  else if b < 0xF0 then some (2, 0x80, 0xBF)
  else if b == 0xF0 then some (3, 0x90, 0xBF)
  else if b < 0xF4 then some (3, 0x80, 0xBF)
  else if b == 0xF4 then some (3, 0x80, 0x8F)
  else none

def leadBits (b : UInt8) : Nat :=
  if b < 0x80 then b.toNat else if b < 0xE0 then b.toNat % 32 else if b < 0xF0 then b.toNat % 16
  else b.toNat % 8

/-- Reads `n` further bytes of a character. `taken` bytes are behind, and the next one lies between
the bounds. -/
def readRest (taken value : Nat) : Nat → UInt8 → UInt8 → List UInt8 → Except Fault (Nat × List UInt8)
  | 0, _, _, bytes => .ok (value, bytes)
  | _ + 1, _, _, [] => .error (.incomplete 0)
  | n + 1, lo, hi, b :: bytes =>
    if lo ≤ b && b ≤ hi then readRest (taken + 1) (value * 64 + b.toNat % 64) n 0x80 0xBF bytes
    else .error (.invalid 0 taken)

/-- Reads the character that starts with `b`. -/
def readChar (b : UInt8) (bytes : List UInt8) : Except Fault (Char × List UInt8) :=
  match leadBounds b with
  | none => .error (.invalid 0 1)
  | some (n, lo, hi) => (readRest 1 (leadBits b) n lo hi bytes).map fun r => (Char.ofNat r.1, r.2)

theorem readRest_length {n taken value : Nat} {lo hi : UInt8} {bytes : List UInt8}
    {r : Nat × List UInt8} (h : readRest taken value n lo hi bytes = .ok r) :
    r.2.length + n = bytes.length := by
  induction n generalizing taken value lo hi bytes with
  | zero => simp only [readRest, Except.ok.injEq] at h; simp [← h]
  | succ n ih =>
    cases bytes with
    | nil => simp [readRest] at h
    | cons b bytes =>
      simp only [readRest] at h
      split at h
      · have := ih h
        simp only [List.length_cons]
        omega
      · simp at h

theorem readChar_length {b : UInt8} {bytes : List UInt8} {r : Char × List UInt8}
    (h : readChar b bytes = .ok r) : r.2.length ≤ bytes.length := by
  unfold readChar at h
  split at h
  · simp at h
  · rename_i n lo hi _
    cases hr : readRest 1 (leadBits b) n lo hi bytes with
    | error e => simp [hr, Except.map] at h
    | ok s =>
      simp only [hr, Except.map, Except.ok.injEq] at h
      have := readRest_length hr
      simp [← h]
      omega

def decodeChars (bytes : List UInt8) : Except Fault (List Char) :=
  match bytes with
  | [] => .ok []
  | b :: rest =>
    match _h : readChar b rest with
    | .error fault => .error fault
    | .ok (c, left) =>
      match decodeChars left with
      | .error fault => .error (fault.shift c.utf8Size)
      | .ok cs => .ok (c :: cs)
termination_by bytes.length
decreasing_by
  have := readChar_length _h
  simp at this ⊢
  omega

def decode (bytes : List UInt8) : Except Fault String := (decodeChars bytes).map String.ofList

end TextSearch.Utf8
