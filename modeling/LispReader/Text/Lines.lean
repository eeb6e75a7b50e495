/-!
# Lines of texts and of bytes

A line ends with a line feed, a carriage return, or both in this order.
`unifyLineEndings` writes each of them as a line feed, so that no carriage
return is left.

Files and standard input are sequences of bytes.  They are cut into lines
before they are decoded, so that a line that is not UTF-8 leaves those before it
readable.
-/

namespace LispReader.Text

/-- The text written so far with unified line endings, newest character first,
and whether the last character read was a carriage return, which has already
been written as a line feed. -/
structure UnifiedLines where
  afterReturn : Bool
  reversed : List Char

namespace UnifiedLines

/-- Reads one more character: a line feed right after a carriage return adds
nothing. -/
def read (written : UnifiedLines) (character : Char) : UnifiedLines :=
  if character = '\r' then
    ⟨true, '\n' :: written.reversed⟩
  else if character = '\n' ∧ written.afterReturn then
    ⟨false, written.reversed⟩
  else
    ⟨false, character :: written.reversed⟩

end UnifiedLines

/-- The characters of a text with every line ending written as one line feed. -/
def unifyLineEndings (characters : List Char) : List Char :=
  (characters.foldl UnifiedLines.read ⟨false, []⟩).reversed.reverse

/-- Lines as one text, with a line feed between each line and the next. -/
def joinLines (lines : List String) : String :=
  String.intercalate "\n" lines

def endLines (lines : List String) : String :=
  String.join (lines.map (· ++ "\n"))

/-- No carriage return is left. -/
theorem return_not_mem_unifyLineEndings (characters : List Char) :
    '\r' ∉ unifyLineEndings characters := by
  have kept : ∀ written : UnifiedLines, '\r' ∉ written.reversed →
      '\r' ∉ (characters.foldl UnifiedLines.read written).reversed := by
    induction characters with
    | nil => exact fun _ absent => absent
    | cons character rest inductionHypothesis =>
        intro written absent
        refine inductionHypothesis _ ?_
        unfold UnifiedLines.read
        split
        · simpa using absent
        · rename_i other
          split
          · exact absent
          · simpa using ⟨fun same => other same.symm, absent⟩
  simpa [unifyLineEndings] using kept ⟨false, []⟩ (by simp)

/-- The bytes with a carriage return taken off their end, if there is one. -/
def dropReturn (reversed : List UInt8) : List UInt8 :=
  match reversed with
  | 13 :: rest => rest
  | other => other

def decode? (bytes : List UInt8) : Option String :=
  String.fromUTF8? ⟨bytes.toArray⟩

/-- Lines of bytes on the way: the unfinished line and the finished ones, both
newest first. -/
structure ByteLines where
  current : List UInt8
  finished : List (List UInt8)

namespace ByteLines

/-- Reads one more byte. A line feed ends a line and belongs to it no more than
a carriage return before it does. -/
def read (lines : ByteLines) (byte : UInt8) : ByteLines :=
  if byte = 10 then
    ⟨[], (dropReturn lines.current).reverse :: lines.finished⟩
  else
    ⟨byte :: lines.current, lines.finished⟩

def toList (lines : ByteLines) : List (List UInt8) :=
  if lines.current.isEmpty then
    lines.finished.reverse
  else
    (lines.current.reverse :: lines.finished).reverse

end ByteLines

/-- The decoded lines of some bytes. A line that is not UTF-8 is missing. -/
def decodeLines (bytes : ByteArray) : List (Option String) :=
  (bytes.toList.foldl ByteLines.read ⟨[], []⟩).toList.map decode?

end LispReader.Text
