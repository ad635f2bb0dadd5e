import CircuitDiagram.Machine.Shell.Format
import CircuitDiagram.Machine.Shell.Pattern
import CircuitDiagram.Machine.Shell.Tool.Desk

/-!
Exchanging bytes for others, one by one. Sets of bytes are listed, with ranges and classes; the
last byte of a short set stands for all behind it.
-/

namespace CircuitDiagram.Shell.Tool

def byteRange (first last : UInt8) : List UInt8 :=
  (List.range (last.toNat + 1)).drop first.toNat |>.map UInt8.ofNat

def namedClass? (name : String) : Option (List UInt8) :=
  (classRanges? name).map fun ranges =>
    ranges.flatMap fun (first, last) =>
      byteRange (UInt8.ofNat first.toNat) (UInt8.ofNat last.toNat)

def setByte : List Char → Option (UInt8 × List Char)
  | [] => none
  | ['\\'] => some (92, [])
  | '\\' :: next :: rest =>
      if (octalDigit? next).isSome then
        let (number, others) := octal 3 0 (next :: rest)
        some (UInt8.ofNat number, others)
      else
        let character := if next = 'e' then 'e' else (namedEscape? next).getD next
        some (UInt8.ofNat character.toNat, rest)
  | character :: rest => some (UInt8.ofNat character.toNat, rest)

inductive SetItem where
  | bytes (bytes : List UInt8)
  | repeated (byte : UInt8) (count : Nat)
  deriving DecidableEq, Repr

/-- The repetition that a text in square brackets is, from behind the bracket. -/
def repetition? (text : List Char) : Option (SetItem × List Char) :=
  match setByte text with
  | some (byte, '*' :: rest) =>
      let digits := rest.takeWhile Char.isDigit
      match rest.drop digits.length with
      | ']' :: others => some (.repeated byte (Arithmetic.numeral digits).1, others)
      | _ => none
  | _ => none

def setItems : (fuel : Nat) → List Char → Except String (List SetItem)
  | 0, _ => .ok []
  | _ + 1, [] => .ok []
  | fuel + 1, text => do
      match text with
      | '[' :: ':' :: rest =>
          let name := String.ofList (rest.takeWhile (· != ':'))
          if (rest.drop name.length).take 2 == [':', ']'] then
            match namedClass? name with
            | some bytes =>
                return .bytes bytes :: (← setItems fuel (rest.drop (name.length + 2)))
            | none => throw ("invalid character class '" ++ name ++ "'")
          else return .bytes [91] :: (← setItems fuel (':' :: rest))
      | '[' :: '=' :: character :: '=' :: ']' :: rest =>
          return .bytes [UInt8.ofNat character.toNat] :: (← setItems fuel rest)
      | _ =>
          match (if text.head? == some '[' then repetition? (text.drop 1) else none) with
          | some (item, rest) => return item :: (← setItems fuel rest)
          | none =>
              match setByte text with
              | none => return []
              | some (first, rest) =>
                  match rest with
                  | '-' :: behind =>
                      match setByte behind with
                      | some (last, others) =>
                          if last < first then
                            throw ("range-endpoints of '" ++
                              textOfBytes [first, 45, last] ++
                              "' are in reverse collating sequence order")
                          else return .bytes (byteRange first last) :: (← setItems fuel others)
                      | none => return .bytes [first] :: (← setItems fuel rest)
                  | _ => return .bytes [first] :: (← setItems fuel rest)

/-- The bytes of a set; repetitions without a count fill it up to a length. -/
def setBytes (length : Nat) (items : List SetItem) : List UInt8 :=
  let fixed := items.foldl (fun sum item =>
    match item with
    | .bytes bytes => sum + bytes.length
    | .repeated _ count => sum + count) 0
  items.flatMap fun item =>
    match item with
    | .bytes bytes => bytes
    | .repeated byte count =>
        List.replicate (if count = 0 then length - fixed else count) byte

def complement (bytes : List UInt8) : List UInt8 :=
  (byteRange 0 255).filter fun byte => !bytes.contains byte

def exchangeByte (source target : List UInt8) (byte : UInt8) : UInt8 :=
  match (source.zip (List.range source.length)).reverse.lookup byte with
  | none => byte
  | some index => (target[index]?).getD (target.getLastD byte)

def exchangeTable (source target : List UInt8) : Array UInt8 :=
  ((byteRange 0 255).map (exchangeByte source target)).toArray

def squeeze (bytes : List UInt8) (last : Option UInt8) : List UInt8 → List UInt8
  | [] => []
  | byte :: rest =>
      if last == some byte && bytes.contains byte then squeeze bytes last rest
      else byte :: squeeze bytes (some byte) rest

def trUsage : Usage :=
  { usageOf "tr" 1 "cCdst" [('c', "complement"), ('d', "delete"), ('s', "squeeze-repeats"),
      ('t', "truncate-set1")] with mixes := false }

def setOf (text : String) (length : Nat) : Chore (List UInt8) := do
  match setItems (text.length + 1) text.toList with
  | .ok items => return setBytes length items
  | .error complaint => Chore.fail 1 ("tr: " ++ complaint)

def exchange (given : Given) (source : List UInt8) (second : String) (input : List UInt8) :
    Chore (List UInt8) := do
  let target ← setOf second source.length
  if target.isEmpty then
    Chore.fail 1 "tr: when not truncating set1, string2 must be non-empty"
  else
    let kept := if given.has 't' then source.take target.length else source
    let table := exchangeTable kept target
    let moved := input.map fun byte => table.getD byte.toNat byte
    return if given.has 's' then squeeze target none moved else moved

def tr : Tool := fun arguments => do
  let given ← trUsage.read arguments
  let deletes := given.has 'd'
  let squeezes := given.has 's'
  match given.operands with
  | [] => trUsage.refuse "missing operand"
  | first :: others => do
      let listed ← setOf first 0
      let source := if given.has 'c' || given.has 'C' then complement listed else listed
      match others with
      | [] =>
          if deletes && squeezes then
            short first "Two strings must be given when both deleting and squeezing repeats."
          else if deletes then
            Chore.printBytes ((← Chore.requireInput "tr").filter fun byte => !source.contains byte)
          else if squeezes then Chore.printBytes (squeeze source none (← Chore.requireInput "tr"))
          else short first "Two strings must be given when translating."
      | [second] =>
          if deletes && !squeezes then
            Chore.say ("tr: extra operand '" ++ second ++ "'")
            Chore.say "Only one string may be given when deleting without squeezing repeats."
            Chore.fail 1 "Try 'tr --help' for more information."
          else if deletes then
            let target ← setOf second 0
            Chore.printBytes (squeeze target none
              ((← Chore.requireInput "tr").filter fun byte => !source.contains byte))
          else
            let input ← Chore.requireInput "tr"
            Chore.printBytes (← exchange given source second input)
      | _ :: extra :: _ => trUsage.refuse ("extra operand '" ++ extra ++ "'")
      Chore.finish
where
  short (first reason : String) : Chore Unit := do
    Chore.say ("tr: missing operand after '" ++ first ++ "'")
    Chore.say reason
    Chore.fail 1 "Try 'tr --help' for more information."

end CircuitDiagram.Shell.Tool
