import CircuitDiagram.FileSystem
import CircuitDiagram.Text.Symbol

/-!
The bytes of a text are cut back into its characters. What the first byte of a character promises
is kept by those behind it: the narrower ranges of the second byte leave out just what no
character is encoded by.
-/

namespace CircuitDiagram.Symbol

open Unfinished

/-- A byte behind the first one of a character, with the lowest six bits of a number. -/
def trailing (number : Nat) : UInt8 :=
  UInt8.ofNat (number % 64 + 128)

/-- A code point with the lowest six bits of a number behind it. -/
def joinBits (code number : Nat) : Nat :=
  code * 64 + number % 64

section Trailing

variable {unfinished : Unfinished}

theorem toNat_trailing (number : Nat) : (trailing number).toNat = number % 64 + 128 := by
  rw [trailing, UInt8.toNat_ofNat']
  omega

theorem extend_trailing (unfinished : Unfinished) (number : Nat) :
    unfinished.extend (trailing number) = joinBits unfinished.code number := by
  unfold extend joinBits
  rw [toNat_trailing]
  omega

theorem accepts_trailing {number : Nat} (low : unfinished.low.toNat ≤ number % 64 + 128)
    (high : number % 64 + 128 ≤ unfinished.high.toNat) :
    unfinished.accepts (trailing number) = true := by
  rw [accepts, decide_eq_true_eq, UInt8.le_iff_toNat_le, UInt8.le_iff_toNat_le, toNat_trailing]
  exact ⟨low, high⟩

/-- Only the second byte of a character has a range of its own. -/
theorem push_accepts_trailing (unfinished : Unfinished) (byte : UInt8) (number : Nat) :
    (unfinished.push byte).accepts (trailing number) = true := by
  have low : (unfinished.push byte).low.toNat = 128 := rfl
  have high : (unfinished.push byte).high.toNat = 191 := rfl
  apply accepts_trailing <;> omega

-- By the bytes that are missing; each but the last joins what has been seen.
theorem segmentFrom_trailing {number : Nat} {numbers : List Nat}
    (accepted : unfinished.accepts (trailing number) = true)
    (missing : unfinished.missing = numbers.length + 1) (rest : List UInt8) :
    segmentFrom (some unfinished) (trailing number :: numbers.map trailing ++ rest) =
      scalar (Char.ofNat ((number :: numbers).foldl joinBits unfinished.code)) ::
        segmentFrom none rest := by
  induction numbers generalizing unfinished number with
  | nil =>
      have last : unfinished.missing ≤ 1 := Nat.le_of_eq missing
      rw [List.map_nil, List.singleton_append, segmentFrom, if_pos accepted, if_pos last,
        extend_trailing]
      rfl
  | cons next numbers ih =>
      have more : ¬ unfinished.missing ≤ 1 := by
        rw [missing, List.length_cons]
        omega
      have fewer : (unfinished.push (trailing number)).missing = numbers.length + 1 := by
        rw [push, missing, List.length_cons]
        rfl
      have code : (unfinished.push (trailing number)).code =
          joinBits unfinished.code number := extend_trailing unfinished number
      have later := ih (push_accepts_trailing unfinished (trailing number) next) fewer
      rw [code] at later
      rw [List.map_cons, List.cons_append, segmentFrom, if_pos accepted, if_neg more, later]
      rfl

end Trailing

section Leads

/-- What a byte promises: how many bytes follow, the range of the first of them, and the highest
bits of the code point. -/
def promise (byte : UInt8) : Option (Nat × UInt8 × UInt8 × Nat) :=
  (begin? byte).map fun begun => (begun.missing, begun.low, begun.high, begun.code)

-- Below U+0080 one byte is enough.
theorem promise_two : ∀ lead < 30,
    promise (UInt8.ofNat (lead + 2 + 192)) = some (1, 0x80, 0xBF, lead + 2) := by
  decide

-- Below U+0800 two bytes are enough, and from U+D800 to U+DFFF there are no characters.
theorem promise_three : ∀ lead < 16,
    promise (UInt8.ofNat (lead + 224)) =
      some (2, if lead = 0 then 0xA0 else 0x80, if lead = 13 then 0x9F else 0xBF, lead) := by
  decide

-- Below U+10000 three bytes are enough, and there is nothing past U+10FFFF.
theorem promise_four : ∀ lead < 5,
    promise (UInt8.ofNat (lead + 240)) =
      some (3, if lead = 0 then 0x90 else 0x80, if lead = 4 then 0x8F else 0xBF, lead) := by
  decide

theorem several_of_begin {byte : UInt8} {unfinished : Unfinished}
    (begun : begin? byte = some unfinished) : ¬ byte < 0x80 := by
  intro single
  rw [begin?] at begun
  grind

/-- A first byte and the bytes that it promises are one character. -/
theorem segmentFrom_promise {byte low high : UInt8} {code : Nat} (number : Nat)
    (numbers : List Nat) (promised : promise byte = some (numbers.length + 1, low, high, code))
    (above : low.toNat ≤ number % 64 + 128) (below : number % 64 + 128 ≤ high.toNat)
    (rest : List UInt8) :
    segmentFrom none (byte :: trailing number :: numbers.map trailing ++ rest) =
      scalar (Char.ofNat ((number :: numbers).foldl joinBits code)) :: segmentFrom none rest := by
  obtain ⟨begun, found, same⟩ := Option.map_eq_some_iff.mp promised
  simp only [Prod.mk.injEq] at same
  obtain ⟨missing, rfl, rfl, rfl⟩ := same
  have accepted := accepts_trailing above below
  rw [List.cons_append, segmentFrom, if_neg (several_of_begin found), found]
  exact segmentFrom_trailing accepted missing rest

end Leads

section Characters

variable {number : Nat} (rest : List UInt8)

theorem segmentFrom_two (low : 0x80 ≤ number) (high : number < 0x800) :
    segmentFrom none (UInt8.ofNat (number / 64 % 32 + 192) :: [trailing number] ++ rest) =
      scalar (Char.ofNat number) :: segmentFrom none rest := by
  have promised := promise_two (number / 64 - 2) (by omega)
  have lead : number / 64 - 2 + 2 = number / 64 % 32 := by omega
  have whole : [number].foldl joinBits (number / 64 % 32) = number := by
    simp only [List.foldl_cons, List.foldl_nil, joinBits]
    omega
  rw [lead] at promised
  have segmented := segmentFrom_promise number [] promised (Nat.le_add_left ..)
    (by change _ ≤ 0xBF; omega) rest
  rwa [whole] at segmented

theorem segmentFrom_three (low : 0x800 ≤ number) (high : number < 0x10000)
    (valid : number < 0xD800 ∨ 0xDFFF < number) :
    segmentFrom none (UInt8.ofNat (number / 4096 % 16 + 224) ::
        [trailing (number / 64), trailing number] ++ rest) =
      scalar (Char.ofNat number) :: segmentFrom none rest := by
  have promised := promise_three (number / 4096 % 16) (by omega)
  have whole : [number / 64, number].foldl joinBits (number / 4096 % 16) = number := by
    simp only [List.foldl_cons, List.foldl_nil, joinBits]
    omega
  have above : (if number / 4096 % 16 = 0 then 0xA0 else 0x80 : UInt8).toNat ≤
      number / 64 % 64 + 128 := by
    split
    · change 0xA0 ≤ _
      omega
    · exact Nat.le_add_left ..
  have below : number / 64 % 64 + 128 ≤
      (if number / 4096 % 16 = 13 then 0x9F else 0xBF : UInt8).toNat := by
    split
    · change _ ≤ 0x9F
      omega
    · change _ ≤ 0xBF
      omega
  have segmented := segmentFrom_promise (number / 64) [number] promised above below rest
  rwa [whole] at segmented

theorem segmentFrom_four (low : 0x10000 ≤ number) (high : number < 0x110000) :
    segmentFrom none (UInt8.ofNat (number / 262144 % 8 + 240) ::
        [trailing (number / 4096), trailing (number / 64), trailing number] ++ rest) =
      scalar (Char.ofNat number) :: segmentFrom none rest := by
  have promised := promise_four (number / 262144 % 8) (by omega)
  have whole : [number / 4096, number / 64, number].foldl joinBits (number / 262144 % 8) =
      number := by
    simp only [List.foldl_cons, List.foldl_nil, joinBits]
    omega
  have above : (if number / 262144 % 8 = 0 then 0x90 else 0x80 : UInt8).toNat ≤
      number / 4096 % 64 + 128 := by
    split
    · change 0x90 ≤ _
      omega
    · exact Nat.le_add_left ..
  have below : number / 4096 % 64 + 128 ≤
      (if number / 262144 % 8 = 4 then 0x8F else 0xBF : UInt8).toNat := by
    split
    · change _ ≤ 0x8F
      omega
    · change _ ≤ 0xBF
      omega
  have segmented :=
    segmentFrom_promise (number / 4096) [number / 64, number] promised above below rest
  rwa [whole] at segmented

theorem segmentFrom_one (high : number < 0x80) :
    segmentFrom none (UInt8.ofNat number :: rest) =
      scalar (Char.ofNat number) :: segmentFrom none rest := by
  have same : (UInt8.ofNat number).toNat = number := by
    rw [UInt8.toNat_ofNat']
    omega
  have single : UInt8.ofNat number < 0x80 := by
    rw [UInt8.lt_iff_toNat_lt, same]
    exact high
  rw [segmentFrom, if_pos single, same]

/-- The bytes of a character are cut off as that character. -/
theorem segmentFrom_encoded (character : Char) :
    segmentFrom none (String.utf8EncodeChar character ++ rest) =
      scalar character :: segmentFrom none rest := by
  have valid : character.val.toNat < 0xD800 ∨
      0xDFFF < character.val.toNat ∧ character.val.toNat < 0x110000 := character.valid
  have same : Char.ofNat character.val.toNat = character := Char.ofNat_toNat character
  suffices segmented : segmentFrom none (String.utf8EncodeChar character ++ rest) =
      scalar (Char.ofNat character.val.toNat) :: segmentFrom none rest by rwa [same] at segmented
  unfold String.utf8EncodeChar
  generalize character.val.toNat = number at valid
  dsimp only
  split
  · exact segmentFrom_one rest (by omega)
  · split
    · exact segmentFrom_two rest (by omega) (by omega)
    · split
      · exact segmentFrom_three rest (by omega) (by omega) (by omega)
      · exact segmentFrom_four rest (by omega) (by omega)

/-- The bytes of a text are cut into the characters of the text. -/
theorem segment_encodeText (text : String) : segment (encodeText text) = ofString text := by
  unfold encodeText ofString segment
  induction text.toList with
  | nil => rfl
  | cons character rest ih =>
      rw [List.flatMap_cons, segmentFrom_encoded, ih, List.map_cons]

theorem strict_encodeText (text : String) : strict? (encodeText text) = some text := by
  have characters : (text.toList.map scalar).mapM character? = some text.toList := by
    induction text.toList with
    | nil => rfl
    | cons character rest ih =>
        rw [List.map_cons, List.mapM_cons, ih]
        rfl
  rw [strict?, segment_encodeText, ofString, characters, Option.map_some, String.ofList_toList]

end Characters

end CircuitDiagram.Symbol
