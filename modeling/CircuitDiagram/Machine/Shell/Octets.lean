import CircuitDiagram.FileSystem

/-!
The texts that a shell works on. A shell knows nothing of characters, so every byte is a character
of its own: a text is a `String` whose characters are below 256, each for the byte of its code.
-/

namespace CircuitDiagram.Shell

def textOfBytes (bytes : List UInt8) : String :=
  String.ofList (bytes.map fun byte => Char.ofNat byte.toNat)

def bytesOfText (text : String) : List UInt8 :=
  text.toList.map fun character => UInt8.ofNat character.toNat

/-- The bytes of a name as the file system has it, as a text of the shell. -/
def textOfName (name : String) : String :=
  textOfBytes (encodeText name)

def nameOfText (text : String) : String :=
  Symbol.lossy (bytesOfText text)

def lineFeed : UInt8 := 10

/-- The lines of some bytes with their ends; `current` is what has been seen of the first one,
last byte first. -/
def linesFrom (current : List UInt8) : List UInt8 → List (List UInt8)
  | [] => if current.isEmpty then [] else [current.reverse]
  | byte :: rest =>
      if byte = lineFeed then (lineFeed :: current).reverse :: linesFrom [] rest
      else linesFrom (byte :: current) rest

def linesOf (bytes : List UInt8) : List (List UInt8) :=
  linesFrom [] bytes

def withLineEnd (line : List UInt8) : List UInt8 :=
  if line.getLast? == some lineFeed then line else line ++ [lineFeed]

def withoutLineEnd (line : List UInt8) : List UInt8 :=
  if line.getLast? == some lineFeed then line.dropLast else line

def withoutLineEnds (bytes : List UInt8) : List UInt8 :=
  (bytes.reverse.dropWhile (· == lineFeed)).reverse

end CircuitDiagram.Shell
