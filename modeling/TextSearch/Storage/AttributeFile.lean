import TextSearch.Attribute.Store
import TextSearch.Storage.Reader

/-!
# Attribute files

The file of a column holds the number of documents in four bytes, a record with the names of the
attributes, and one record for each document. A record counts its values in one byte, so it keeps at
most 255 of them. Numbers take four bytes each. A record of texts holds the lengths of all texts in
four bytes each and then the texts, each with a zero byte behind it.
-/

namespace TextSearch.Storage

def capped {α : Type} (values : List α) : List α := values.take 255

/-- How the records of a column are written and read. -/
structure RecordCodec (α : Type) where
  encode : List α → List UInt8
  decode : Read (List α)

namespace RecordCodec

def ofValues {α : Type} (encode : α → List UInt8) (decode : Read α) : RecordCodec α where
  encode values := UInt8.ofNat (capped values).length :: (capped values).flatMap encode
  decode r := do
    let (count, r) ← Reader.byte r
    Reader.many decode count.toNat r

def words : RecordCodec UInt32 := ofValues LittleEndian.word32 Reader.word32

def singles : RecordCodec Decimal.Single :=
  ofValues (fun x => LittleEndian.word32 x.bits) Reader.single

def lengthBytes (s : String) : List UInt8 := LittleEndian.encode 4 (Utf8.size s)

def terminated (s : String) : List UInt8 := Utf8.encode s ++ [0]

def terminatedText (length : UInt32) : Read String := fun r => do
  let (taken, r) ← Reader.bytes length.toNat r
  let (last, after) ← Reader.byte r
  if last ≠ 0 then
    throw (.corruptRecord
      s!"string value in {r.path} lacks NUL terminator at offset {r.offset}")
  let s ← after.text taken
  return (s, after)

def terminatedTexts : List UInt32 → Read (List String)
  | [] => fun r => .ok ([], r)
  | length :: rest => fun r => do
    let (s, r) ← terminatedText length r
    let (texts, r) ← terminatedTexts rest r
    return (s :: texts, r)

def texts : RecordCodec String where
  encode values :=
    UInt8.ofNat (capped values).length ::
      ((capped values).flatMap lengthBytes ++ (capped values).flatMap terminated)
  decode r := do
    let (count, r) ← Reader.byte r
    let (lengths, r) ← Reader.many Reader.word32 count.toNat r
    terminatedTexts lengths r

end RecordCodec

def encodeColumn {α : Type} (codec : RecordCodec α) (names : List String) (column : Column α) :
    List UInt8 :=
  LittleEndian.encode 4 column.size ++ RecordCodec.texts.encode names ++
    column.toList.flatMap codec.encode

/-- The names and the column in a file. Bytes after the last record are ignored. -/
def decodeColumn {α : Type} (codec : RecordCodec α) (path : String) (bytes : List UInt8) :
    Except SearchError (List String × Column α) := do
  let (count, r) ← Reader.word32 (Reader.ofBytes path bytes)
  let (names, r) ← RecordCodec.texts.decode r
  let (records, _) ← Reader.many codec.decode count.toNat r
  return (names, records.toArray)

end TextSearch.Storage
