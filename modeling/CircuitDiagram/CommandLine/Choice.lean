import CircuitDiagram.Run.Stem

/-!
Options with a fixed set of words: the output format and the naming of artifacts. A word may be
compared without regard to the case of ASCII letters.
-/

namespace CircuitDiagram

inductive Format where
  | pdf
  | svg
  | png
  /-- The DOT text itself, without a layout. -/
  | dot
  deriving DecidableEq, Repr

namespace Format

def extension : Format → String
  | pdf => "pdf"
  | svg => "svg"
  | png => "png"
  | dot => "dot"

def standard : Format := pdf

def words : List (String × Format) :=
  [pdf, svg, png, dot].map fun format => (format.extension, format)

end Format

namespace Naming

def word : Naming → String
  | key => "key"
  | position => "index"

def standard : Naming := key

def words : List (String × Naming) :=
  [key, position].map fun naming => (naming.word, naming)

end Naming

namespace CommandLine

variable {α : Type}

def sameWord (ignoreCase : Bool) (word text : String) : Bool :=
  if ignoreCase then word.toLower == text.toLower else word == text

def choice? (ignoreCase : Bool) (words : List (String × α)) (text : String) : Option α :=
  (words.find? fun entry => sameWord ignoreCase entry.1 text).map Prod.snd

def noChoice (text : String) : String :=
  "invalid variant: " ++ text

end CommandLine

end CircuitDiagram
