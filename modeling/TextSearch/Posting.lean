import TextSearch.Term

/-!
# Postings

A posting says where a term stands in one document. Its payload packs the positions field by field:
a byte for the field, a byte for the number of positions and a byte for each position. The payload
never exceeds 255 bytes; what does not fit is left out.
-/

namespace TextSearch

/-- The positions of a term in one field. -/
structure FieldHit where
  field : UInt8
  positions : List UInt8
  deriving DecidableEq, Repr

/-- The packed form of a field hit with at most 255 positions. -/
def FieldHit.encode (hit : FieldHit) : List UInt8 :=
  hit.field :: UInt8.ofNat hit.positions.length :: hit.positions

def maxPayload : Nat := 255

/-- What is wrong with a payload. -/
inductive PayloadFault where
  | tooLong (size : Nat)
  | headerCut
  | overrun (count : Nat)
  deriving DecidableEq, Repr

def PayloadFault.message (ordinal : Ordinal) : PayloadFault → String
  | .tooLong size => s!"hit payload of {size} bytes for doc {ordinal.toNat} exceeds {maxPayload}"
  | .headerCut => s!"field hit header cut short in doc {ordinal.toNat}"
  | .overrun count =>
    s!"field hit declares {count} positions past payload end in doc {ordinal.toNat}"

/-- The field hits at the start of a payload, up to the first one that is not complete. -/
def FieldHit.decodeAll : List UInt8 → List FieldHit
  | field :: count :: rest =>
    if count.toNat ≤ rest.length then
      ⟨field, rest.take count.toNat⟩ :: FieldHit.decodeAll (rest.drop count.toNat)
    else []
  | _ => []
termination_by payload => payload.length
decreasing_by
  simp only [List.length_drop, List.length_cons]
  omega

def incompleteHit? : List UInt8 → Option PayloadFault
  | [] => none
  | [_] => some .headerCut
  | _ :: count :: rest =>
    if count.toNat ≤ rest.length then incompleteHit? (rest.drop count.toNat)
    else some (.overrun count.toNat)
termination_by payload => payload.length
decreasing_by
  simp only [List.length_drop, List.length_cons]
  omega

def payloadFault? (payload : List UInt8) : Option PayloadFault :=
  if maxPayload < payload.length then some (.tooLong payload.length) else incompleteHit? payload

/-- Where one term stands in one document. -/
structure Posting where
  ordinal : Ordinal
  payload : List UInt8
  deriving DecidableEq, Repr

namespace Posting

/-- The part of a field hit that still fits after `used` bytes. -/
def fitted (used : Nat) (hit : FieldHit) : Option FieldHit :=
  let room := maxPayload - used
  if room ≤ 2 || hit.positions.isEmpty then none
  else some ⟨hit.field, hit.positions.take (room - 2)⟩

def packHit (payload : List UInt8) (hit : FieldHit) : List UInt8 :=
  match fitted payload.length hit with
  | some kept => payload ++ kept.encode
  | none => payload

def pack (ordinal : Ordinal) (hits : List FieldHit) : Posting :=
  ⟨ordinal, hits.foldl packHit []⟩

def ofPayload (ordinal : Ordinal) (payload : List UInt8) : Except PayloadFault Posting :=
  match payloadFault? payload with
  | some fault => .error fault
  | none => .ok ⟨ordinal, payload⟩

def size (p : Posting) : UInt8 := UInt8.ofNat p.payload.length

def hits (p : Posting) : List FieldHit := FieldHit.decodeAll p.payload

def occurrences (p : Posting) : Nat := (p.hits.flatMap FieldHit.positions).length

end Posting

abbrev PostingList := List Posting

end TextSearch
