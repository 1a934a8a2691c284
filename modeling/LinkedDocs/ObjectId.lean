import LinkedDocs.Text.Quoted

/-! Object identifiers: twelve bytes, written as 24 hexadecimal digits. -/

namespace LinkedDocs

structure ObjectId where
  bytes : List UInt8
  deriving DecidableEq

namespace ObjectId

/-- Reads 24 hexadecimal digits of either case. -/
def ofText? (s : String) : Option ObjectId :=
  if s.length = 24 then (Text.bytesOfHex? s.toList).map ObjectId.mk else none

/-- Takes twelve bytes. -/
def ofBytes? (bs : List UInt8) : Option ObjectId := if bs.length = 12 then some ⟨bs⟩ else none

def text (o : ObjectId) : String := Text.hexBytes o.bytes

end ObjectId

end LinkedDocs
