import SchemaUpgrade.Files.ReadError
/-!
# Lines of a byte stream

A stream is a sequence of bytes that either ends or fails after the last of them.  Its lines
end at a line feed; one carriage return just before that line feed belongs to the ending and
not to the line.  An unterminated last line is kept as it is, provided the stream ends: if the
stream fails, what came after the last line feed is lost.  A line that is not UTF-8 breaks the
stream at that line.

Main definitions: `ByteStream`, `ByteStream.read`, whose answer `Reading` holds the complete
lines and, if the stream broke, the reason.
-/

namespace SchemaUpgrade.Text

/-- Bytes that arrive in order.  After the last one the stream ends, or fails with `failure`. -/
structure ByteStream where
  bytes : List UInt8
  failure : Option ReadError := none
  deriving DecidableEq, Repr, Inhabited

/-- The stream of a text's UTF-8 bytes. -/
def ByteStream.ofString (text : String) : ByteStream where
  bytes := text.toUTF8.toList

/-- The first `n` bytes of a stream (all, if there are fewer), after which it fails. -/
def ByteStream.failingAfter (stream : ByteStream) (n : Nat) (error : ReadError) : ByteStream where
  bytes := stream.bytes.take n
  failure := some error

/-- The text whose UTF-8 encoding the bytes are, if there is one. -/
def decodeUtf8 (bytes : List UInt8) : Option String :=
  String.fromUTF8? ⟨bytes.toArray⟩

/-- Byte that ends a line. -/
def lineFeed : UInt8 := 10

/-- Byte that belongs to a line's ending when it stands just before the line feed. -/
def carriageReturn : UInt8 := 13

/-- A line without the carriage return of its ending. -/
def dropReturn (line : List UInt8) : List UInt8 :=
  if line.getLast? = some carriageReturn then line.dropLast else line

/-- What a reader of lines got from a stream. -/
structure Reading where
  /-- The complete lines, in order. -/
  lines : List String
  /-- Why the stream broke after them; `none` if it ended. -/
  broken : Option ReadError
  deriving DecidableEq, Repr, Inhabited

/-- One more line in front. -/
def Reading.cons (line : String) (reading : Reading) : Reading :=
  { reading with lines := line :: reading.lines }

/-- The reading of what is left when no line feed is to come. -/
def readLast (failure : Option ReadError) (bytes : List UInt8) : Reading :=
  match failure with
  | some error => ⟨[], some error⟩
  | none =>
    if bytes.isEmpty then ⟨[], none⟩
    else match decodeUtf8 bytes with
      | some line => ⟨[line], none⟩
      | none => ⟨[], some .notUtf8⟩

/-- Reads line by line until the bytes are used up or a line is not UTF-8. -/
def readLines (failure : Option ReadError) (bytes : List UInt8) : Reading :=
  match _h : bytes.dropWhile (· != lineFeed) with
  | [] => readLast failure bytes
  | _ :: rest =>
    match decodeUtf8 (dropReturn (bytes.takeWhile (· != lineFeed))) with
    | some line => (readLines failure rest).cons line
    | none => ⟨[], some .notUtf8⟩
termination_by bytes.length
decreasing_by
  have := (List.dropWhile_sublist (· != lineFeed) (l := bytes)).length_le
  simp only [_h, List.length_cons] at this
  omega

/-- The complete lines of a stream and the reason why it broke, if it did. -/
def ByteStream.read (stream : ByteStream) : Reading :=
  readLines stream.failure stream.bytes

end SchemaUpgrade.Text
