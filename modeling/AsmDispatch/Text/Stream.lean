import AsmDispatch.Text.Lines
import AsmDispatch.Text.Utf8

/-! # Streams that are read line by line

Bytes arrive in chunks, and the next chunk is decoded when a line needs it. So the lines in front of
a chunk that cannot be decoded have been handed out before this comes to light; the line that runs
into it has not. -/

namespace AsmDispatch.Text

/-- The lines of a text that are complete whatever follows, and what is left. A carriage return at
the end is left as well, for a line feed may follow. `line` holds the characters of the line so far,
last first. -/
def completeLines (line : Text) : Text → List Text × Text
  | [] => ([], line.reverse)
  | ['\r'] => ([], ('\r' :: line).reverse)
  | '\r' :: '\n' :: t => (completeLines [] t).map (line.reverse :: ·) id
  | c :: t =>
    if endsFileLine c then (completeLines [] t).map (line.reverse :: ·) id
    else completeLines (c :: line) t

/-- What came of a stream: the lines that were handed out, and what stopped it before its end. -/
structure Reading where
  lines : List Text
  error? : Option Utf8.Error := none
deriving DecidableEq, Repr

namespace Reading

def addLines (ls : List Text) (r : Reading) : Reading := { r with lines := ls ++ r.lines }

/-- Read chunks behind bytes that wait for the rest of a character and a line that waits for its
end. -/
def ofChunksFrom (waiting : Bytes) (line : Text) : List Bytes → Reading
  | [] =>
    match Utf8.decodeFrom false 0 waiting with
    | .ok (t, _) => { lines := fileLines (line ++ t) }
    | .error e => { lines := [], error? := some e }
  | chunk :: chunks =>
    match Utf8.decodeFrom true 0 (waiting ++ chunk) with
    | .ok (t, waiting) =>
      let (ls, line) := completeLines [] (line ++ t)
      (ofChunksFrom waiting line chunks).addLines ls
    | .error e => { lines := [], error? := some e }

def ofChunks (chunks : List Bytes) : Reading := ofChunksFrom [] [] chunks

end Reading

end AsmDispatch.Text
