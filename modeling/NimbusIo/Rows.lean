/-
  NimbusIo.Rows

  Rows of the node-local database (spec §3): `nimbusio_node.segment` and
  the sequence rows the reader streams, with the `datetime` timestamps the
  services print with `repr` (`timestamp-repr`, the consistency hash).
-/
import NimbusIo.Wire

namespace NimbusIo

/-- A naive `datetime.datetime`. -/
structure Timestamp where
  year : Nat
  month : Nat
  day : Nat
  hour : Nat
  minute : Nat
  second : Nat
  microsecond : Nat
  deriving DecidableEq, Repr

/-- A timestamp's fields, most significant first, as `datetime` compares them. -/
def Timestamp.fields (t : Timestamp) : List Nat :=
  [t.year, t.month, t.day, t.hour, t.minute, t.second, t.microsecond]

/-- `repr(t)`: `datetime.datetime(2011, 5, 3, 12, 0, 7, 5)`, where a zero
    microsecond is dropped and then a zero second. -/
def Timestamp.repr (t : Timestamp) : String :=
  let tail :=
    if t.microsecond ≠ 0 then [t.second, t.microsecond]
    else if t.second ≠ 0 then [t.second] else []
  "datetime.datetime(" ++
    ", ".intercalate (([t.year, t.month, t.day, t.hour, t.minute] ++ tail).map toString) ++ ")"

/-- The statuses of `nimbusio_node.segment` (`tools.data_definitions`). -/
inductive SegmentStatus where
  | active
  | cancelled
  | final
  | tombstone
  deriving DecidableEq, Repr

/-- A row of `nimbusio_node.segment`, with the columns the services read. -/
structure SegmentRow where
  collectionId : Int
  key : String
  unifiedId : Int
  conjoinedPart : Int
  timestamp : Timestamp
  segmentNum : Int
  status : SegmentStatus
  fileSize : Int
  fileAdler32 : Int
  fileHash : Option Bytes
  fileTombstoneUnifiedId : Option Int
  handoffNodeId : Option Int
  sourceNodeId : Int
  deriving DecidableEq, Repr

/-- A sequence row as the reader yields it with the sequence's bytes. -/
structure SequenceRow where
  size : Int
  zfecPaddingSize : Int
  adler32 : Int
  hash : Bytes
  deriving DecidableEq, Repr

/-- `str(b)` of a byte string, one character per byte. -/
def bytesStr (b : Bytes) : String := String.mk (b.map fun x => Char.ofNat x.toNat)

end NimbusIo
