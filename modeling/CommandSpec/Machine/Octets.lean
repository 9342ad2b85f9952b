import CommandSpec.Text.Utf8

/-!
# Octet texts

Inside the machine every text is a sequence of bytes: file contents, file names, pipes, shell words.
Such a text is kept as a string whose characters are the bytes, each the character of the same
number below 256. At the edge of the machine, texts are encoded as UTF-8 on the way in and decoded
lossily on the way out.
-/

namespace CommandSpec.Octets

/-- The bytes as an octet text. -/
def ofBytes (bytes : List UInt8) : String :=
  .ofList (bytes.map fun b => Char.ofNat b.toNat)

/-- The bytes of an octet text. -/
def toBytes (octets : String) : List UInt8 :=
  octets.toList.map fun c => c.toNat.toUInt8

/-- The bytes of an octet text, packed. -/
def pack (octets : String) : ByteArray :=
  octets.toList.foldl (fun bytes c => bytes.push c.toNat.toUInt8) .empty

/-- The octet text that packed bytes make. -/
def unpack (bytes : ByteArray) : String :=
  bytes.foldl (fun s b => s.push (Char.ofNat b.toNat)) ""

/-- The octets that encode a text. -/
def ofText (text : String) : String :=
  ofBytes text.toUTF8.toList

/-- The text that octets encode, undecodable ones replaced. -/
def toText (octets : String) : String :=
  .ofList (Utf8.decode (toBytes octets))

end CommandSpec.Octets
