import TextSearch.Multimap
import TextSearch.Posting
import TextSearch.Storage.Reader

/-!
# Index files

The index file holds one record for each term: the fingerprint in eight bytes, the length of the
text in four, the text, the number of postings in four, and the postings. A posting is the ordinal
in four bytes, the size of the payload in one, and the payload.
-/

namespace TextSearch

abbrev PostingIndex := Multimap Term Posting

namespace Storage

def encodePosting (p : Posting) : List UInt8 :=
  LittleEndian.word32 p.ordinal ++ p.size :: p.payload

def encodeTermRecord (record : Term × PostingList) : List UInt8 :=
  LittleEndian.word64 record.1.fingerprint ++ LittleEndian.encode 4 (Utf8.size record.1.text) ++
    Utf8.encode record.1.text ++ LittleEndian.encode 4 record.2.length ++
    record.2.flatMap encodePosting

def encodeRecords (records : List (Term × PostingList)) : List UInt8 :=
  records.flatMap encodeTermRecord

/-- The bytes of an index. The records are in ascending order of the terms, so equal indexes have
equal files. -/
def encodeIndex (index : PostingIndex) : List UInt8 := encodeRecords index.entries

def readPosting (term : Term) : Read Posting := fun r => do
  let (ordinal, r) ← Reader.word32 r
  let (size, r) ← Reader.byte r
  let (payload, r) ← Reader.bytes size.toNat r
  match Posting.ofPayload ordinal payload with
  | .ok posting => return (posting, r)
  | .error fault =>
    throw (.corruptRecord s!"term '{term.text}' in {r.path}: {fault.message ordinal}")

def readTermRecord : Read (Term × PostingList) := fun r => do
  let (fingerprint, r) ← Reader.word64 r
  let (length, r) ← Reader.word32 r
  let (bytes, r) ← Reader.bytes length.toNat r
  let text ← r.text bytes
  let term : Term := ⟨fingerprint, text⟩
  let (count, r) ← Reader.word32 r
  let (postings, r) ← Reader.many (readPosting term) count.toNat r
  return ((term, postings), r)

/-- Reads records up to the end of the file. Every record takes a byte at least, so `fuel` bytes hold
no more than as many records. -/
def readRecords : Nat → Reader → Except SearchError (List (Term × PostingList))
  | 0, _ => .ok []
  | fuel + 1, r =>
    if r.isEmpty then .ok []
    else do
      let (record, r) ← readTermRecord r
      let records ← readRecords fuel r
      return record :: records

/-- The index whose records stand in a file. Records of one term are joined. -/
def decodeIndex (path : String) (bytes : List UInt8) : Except SearchError PostingIndex := do
  let records ← readRecords bytes.length (Reader.ofBytes path bytes)
  return records.foldl (fun index record => index.addAll record.1 record.2) Multimap.empty

end Storage

end TextSearch
