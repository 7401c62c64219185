import PageClip.Inflate

/-! Codings under which a body is sent, and the body without them. A body that breaks off is as
much as there is of it, and one that comes in chunks is unpacked as they come. -/

namespace PageClip

def crcBit (sum : UInt32) : UInt32 :=
  if sum &&& 1 = 1 then (sum >>> 1) ^^^ 0xedb88320 else sum >>> 1

def crcByte (sum : UInt32) (byte : UInt8) : UInt32 :=
  (List.range 8).foldl (fun sum _ => crcBit sum) (sum ^^^ byte.toUInt32)

/-- The remainder of the bytes as a polynomial over bits. -/
def crc32 (bytes : Bytes) : Nat := (bytes.foldl crcByte 0xffffffff ^^^ 0xffffffff).toNat

/-- The sum of the bytes, and the sum of all sums on the way, each modulo a prime. -/
def adler32 (bytes : Bytes) : Nat :=
  let (low, high) := bytes.foldl (fun (low, high) byte =>
    let low := (low + byte.toNat) % 65521
    (low, (high + low) % 65521)) (1, 0)
  high * 65536 + low

def littleEndian (bytes : Bytes) : Nat := bytes.foldr (fun byte n => byte.toNat + 256 * n) 0

def bigEndian (bytes : Bytes) : Nat := littleEndian bytes.reverse

def skip (count : Nat) (bytes : Bytes) : Except Halt Bytes :=
  if bytes.length < count then .error .short else .ok (bytes.drop count)

/-- What follows a text that a zero ends. -/
def skipText (bytes : Bytes) : Except Halt Bytes :=
  match bytes.dropWhile (· != 0) with
  | [] => .error .short
  | _ :: rest => .ok rest

/-- What follows a field that only some headers have. -/
def skipField (flags flag : UInt8) (field : Bytes → Except Halt Bytes) (bytes : Bytes) :
    Except Halt Bytes :=
  if flags &&& flag = 0 then .ok bytes else field bytes

/-- What follows a field that starts with its own size. -/
def skipSized (bytes : Bytes) : Except Halt Bytes := do
  let rest ← skip 2 bytes
  skip (littleEndian (bytes.take 2)) rest

/-- What follows the checksum of a header, `bytes` being what starts with the header and `rest`
what starts with the checksum. -/
def skipHeaderSum (bytes rest : Bytes) : Except Halt Bytes := do
  let packed ← skip 2 rest
  let sum := crc32 (bytes.take (bytes.length - rest.length)) % 65536
  if littleEndian (rest.take 2) = sum then .ok packed else .error (.fault .headerSum)

/-- What follows the header of a file: its mark, method and flags, six bytes of no interest, and
the fields that the flags tell of. -/
def afterFileHeader (bytes : Bytes) : Except Halt Bytes :=
  match bytes with
  | a :: b :: header =>
    if a ≠ 0x1f ∨ b ≠ 0x8b then .error (.fault .header)
    else match header with
      | method :: flags :: rest =>
        if method ≠ 8 then .error (.fault .method)
        else if flags &&& 0xe0 ≠ 0 then .error (.fault .flags)
        else do
          let rest ← skip 6 rest
          let rest ← skipField flags 4 skipSized rest
          let rest ← skipField flags 8 skipText rest
          let rest ← skipField flags 16 skipText rest
          skipField flags 2 (skipHeaderSum bytes) rest
      | _ => .error .short
  | _ => .error .short

/-- Data behind a header and in front of their checksum and their size. -/
def unpackFile (bytes : Bytes) : Except PackingFault Bytes :=
  match afterFileHeader bytes with
  | .error .short => .ok []
  | .error (.fault f) => .error f
  | .ok packed =>
    match inflate packed with
    | .error f => .error f
    | .ok (out, none) => .ok out
    | .ok (out, some rest) =>
      if 4 ≤ rest.length && littleEndian (rest.take 4) != crc32 out then .error .dataSum
      else if 8 ≤ rest.length && littleEndian ((rest.drop 4).take 4) != out.length % 4294967296 then
        .error .dataLength
      else .ok out

/-- Data behind two bytes and in front of their checksum. -/
def unpackStream (bytes : Bytes) : Except PackingFault Bytes :=
  match bytes with
  | a :: b :: packed =>
    if (256 * a.toNat + b.toNat) % 31 ≠ 0 then .error .header
    else if a.toNat % 16 ≠ 8 then .error .method
    else if 7 < a.toNat / 16 then .error .windowSize
    else if b &&& 0x20 ≠ 0 then if packed.length < 4 then .ok [] else .error .dictionary
    else match inflate packed with
      | .error f => .error f
      | .ok (out, none) => .ok out
      | .ok (out, some rest) =>
        if 4 ≤ rest.length && bigEndian (rest.take 4) != adler32 out then .error .dataSum
        else .ok out
  | _ => .ok []

inductive ContentCoding where
  | gzip
  | deflate
  deriving DecidableEq, Repr

/-- The codings that a header lists, the last applied one last. Others are passed over. -/
def contentCodings (header : Text) : List ContentCoding :=
  (splitAtChar ',' header).filterMap fun name =>
    match String.ofList ((trim name).map Char.toLower) with
    | "gzip" => some .gzip
    | "deflate" => some .deflate
    | _ => none

/-- What has been unpacked of a body, chunk by chunk, and the fault that ended it, if one did. -/
abbrev UnpackedChunks := List Bytes × Option PackingFault

/-- Every chunk yields what the bytes up to its end hold and the ones before it did not, `seen`
being those before it and `size` how much they held. -/
def unpackChunks (unpack : Bytes → Except PackingFault Bytes) (seen : Bytes) (size : Nat) :
    List Bytes → UnpackedChunks
  | [] => ([], none)
  | chunk :: rest =>
    match unpack (seen ++ chunk) with
    | .error f => ([], some f)
    | .ok out =>
      let (chunks, fault) := unpackChunks unpack (seen ++ chunk) out.length rest
      (out.drop size :: chunks, fault)

/-- Deflated data come with their frame, unless there is a fault in it by the end of the first
chunk. -/
def deflateUnpacker (chunks : List Bytes) : Bytes → Except PackingFault Bytes :=
  match unpackStream (chunks.headD []) with
  | .ok _ => unpackStream
  | .error _ => fun bytes => (inflate bytes).map (·.1)

def ContentCoding.remove (chunks : List Bytes) : ContentCoding → UnpackedChunks
  | .gzip => unpackChunks unpackFile [] 0 chunks
  | .deflate => unpackChunks (deflateUnpacker chunks) [] 0 chunks

/-- The chunks without their codings. A fault of a later step comes with an earlier chunk. -/
def removeCodings (codings : List ContentCoding) (chunks : List Bytes) : UnpackedChunks :=
  codings.reverse.foldl (fun (chunks, fault) coding =>
    let (out, later) := coding.remove chunks
    (out, later.or fault)) (chunks, none)

end PageClip
