import Mathlib.Data.List.TakeWhile

namespace Utf8

/-- The bytes of a text. -/
def encode (text : String) : List UInt8 := text.toList.flatMap String.utf8EncodeChar

/-- What a decoder puts in the place of bytes that belong to no character. -/
def replacement : Char := '\ufffd'

/-- The decoder between two bytes: how many bytes its character still needs,
the range of the next one, and the bits read so far. -/
structure Decoder where
  needed : Nat := 0
  lower : Nat := 0x80
  upper : Nat := 0xBF
  codePoint : Nat := 0

/-- A byte where a character may start, as a number. -/
def first (b : Nat) : Decoder × List Char :=
  if b ≤ 0x7F then ({}, [Char.ofNat b])
  else if 0xC2 ≤ b ∧ b ≤ 0xDF then ({ needed := 1, codePoint := b - 0xC0 }, [])
  else if 0xE0 ≤ b ∧ b ≤ 0xEF then
    ({ needed := 2, lower := if b = 0xE0 then 0xA0 else 0x80,
       upper := if b = 0xED then 0x9F else 0xBF, codePoint := b - 0xE0 }, [])
  else if 0xF0 ≤ b ∧ b ≤ 0xF4 then
    ({ needed := 3, lower := if b = 0xF0 then 0x90 else 0x80,
       upper := if b = 0xF4 then 0x8F else 0xBF, codePoint := b - 0xF0 }, [])
  else ({}, [replacement])

/-- A byte that cannot go on with the character ends it, and is read again as
the start of one. -/
def feed (d : Decoder) (b : Nat) : Decoder × List Char :=
  if d.needed = 0 then first b
  else if d.lower ≤ b ∧ b ≤ d.upper then
    let codePoint := d.codePoint * 64 + (b - 0x80)
    if d.needed = 1 then ({}, [Char.ofNat codePoint])
    else ({ needed := d.needed - 1, codePoint }, [])
  else ((first b).1, replacement :: (first b).2)

def decodeFrom : Decoder → List UInt8 → List Char
  | d, [] => if d.needed = 0 then [] else [replacement]
  | d, b :: rest => (feed d b.toNat).2 ++ decodeFrom (feed d b.toNat).1 rest

/-- The text of any bytes, with a replacement character for each maximal part
that is no character. -/
def decode (bytes : List UInt8) : String := String.ofList (decodeFrom {} bytes)

/-- The bytes of some text. -/
def Valid (bytes : List UInt8) : Prop := ∃ text, encode text = bytes

theorem decodeFrom_cons (d : Decoder) {b : Nat} (small : b < 256) (rest : List UInt8) :
    decodeFrom d (UInt8.ofNat b :: rest) = (feed d b).2 ++ decodeFrom (feed d b).1 rest := by
  have exact_byte : (UInt8.ofNat b).toNat = b := by
    rw [UInt8.toNat_ofNat']
    exact Nat.mod_eq_of_lt small
  rw [decodeFrom, exact_byte]

theorem feed_last {d : Decoder} {b : Nat} (needed : d.needed = 1) (lower : d.lower ≤ b)
    (upper : b ≤ d.upper) : feed d b = ({}, [Char.ofNat (d.codePoint * 64 + (b - 0x80))]) := by
  simp [feed, needed, lower, upper]

theorem feed_more {d : Decoder} {b : Nat} (needed : 1 < d.needed) (lower : d.lower ≤ b)
    (upper : b ≤ d.upper) :
    feed d b = ({ needed := d.needed - 1, codePoint := d.codePoint * 64 + (b - 0x80) }, []) := by
  have more : d.needed ≠ 0 := by omega
  have later : d.needed ≠ 1 := by omega
  simp [feed, more, later, lower, upper]

theorem first_two {b : Nat} (lower : 0xC2 ≤ b) (upper : b ≤ 0xDF) :
    first b = ({ needed := 1, codePoint := b - 0xC0 }, []) := by
  rw [first, if_neg (by omega), if_pos ⟨lower, upper⟩]

theorem first_three {b : Nat} (lower : 0xE0 ≤ b) (upper : b ≤ 0xEF) :
    first b = ({ needed := 2, lower := if b = 0xE0 then 0xA0 else 0x80,
                 upper := if b = 0xED then 0x9F else 0xBF, codePoint := b - 0xE0 }, []) := by
  rw [first, if_neg (by omega), if_neg (by omega), if_pos ⟨lower, upper⟩]

theorem first_four {b : Nat} (lower : 0xF0 ≤ b) (upper : b ≤ 0xF4) :
    first b = ({ needed := 3, lower := if b = 0xF0 then 0x90 else 0x80,
                 upper := if b = 0xF4 then 0x8F else 0xBF, codePoint := b - 0xF0 }, []) := by
  rw [first, if_neg (by omega), if_neg (by omega), if_neg (by omega), if_pos ⟨lower, upper⟩]

theorem decodeFrom_last {d : Decoder} {b : Nat} (needed : d.needed = 1) (lower : d.lower ≤ b)
    (upper : b ≤ d.upper) (small : b < 256) (rest : List UInt8) :
    decodeFrom d (UInt8.ofNat b :: rest) =
      Char.ofNat (d.codePoint * 64 + (b - 0x80)) :: decodeFrom {} rest := by
  rw [decodeFrom_cons d small, feed_last needed lower upper]
  rfl

theorem decodeFrom_more {d : Decoder} {b : Nat} (needed : 1 < d.needed) (lower : d.lower ≤ b)
    (upper : b ≤ d.upper) (small : b < 256) (rest : List UInt8) :
    decodeFrom d (UInt8.ofNat b :: rest) =
      decodeFrom { needed := d.needed - 1, codePoint := d.codePoint * 64 + (b - 0x80) } rest := by
  rw [decodeFrom_cons d small, feed_more needed lower upper]
  rfl

theorem decodeFrom_first {b : Nat} {d : Decoder} (started : first b = (d, [])) (small : b < 256)
    (rest : List UInt8) : decodeFrom {} (UInt8.ofNat b :: rest) = decodeFrom d rest := by
  have fed : feed {} b = (d, []) := by rw [feed, if_pos rfl, started]
  rw [decodeFrom_cons {} small, fed]
  rfl

/-- The range of the code points: there are no surrogates. -/
theorem char_range (c : Char) : c.toNat < 0xD800 ∨ 0xDFFF < c.toNat ∧ c.toNat < 0x110000 := c.valid

/-- The bytes of a character are read as that character, by the number of its bytes. -/
theorem decodeFrom_char (c : Char) (rest : List UInt8) :
    decodeFrom {} (String.utf8EncodeChar c ++ rest) = c :: decodeFrom {} rest := by
  have range := char_range c
  have same : Char.ofNat c.toNat = c := Char.ofNat_toNat c
  have value : c.val.toNat = c.toNat := rfl
  unfold String.utf8EncodeChar
  simp only [value]
  generalize c.toNat = v at range same
  split
  · have one : feed {} v = ({}, [Char.ofNat v]) := by rw [feed, if_pos rfl, first, if_pos (by omega)]
    rw [List.cons_append, List.nil_append, decodeFrom_cons _ (by omega), one, same]
    rfl
  split
  · have bits : (v / 64 % 0x20 + 0xC0 - 0xC0) * 64 + (v % 0x40 + 0x80 - 0x80) = v := by omega
    simp only [List.cons_append, List.nil_append]
    rw [decodeFrom_first (first_two (by omega) (by omega)) (by omega),
      decodeFrom_last rfl (by simp) (by simp only []; omega) (by omega)]
    simp only [bits, same]
  split
  · have bits : ((v / 4096 % 0x10 + 0xE0 - 0xE0) * 64 + (v / 64 % 0x40 + 0x80 - 0x80)) * 64 +
        (v % 0x40 + 0x80 - 0x80) = v := by omega
    simp only [List.cons_append, List.nil_append]
    rw [decodeFrom_first (first_three (by omega) (by omega)) (by omega),
      decodeFrom_more (by simp) (by simp only []; split <;> omega) (by simp only []; split <;> omega)
        (by omega),
      decodeFrom_last rfl (by simp) (by simp only []; omega) (by omega)]
    simp only [bits, same]
  · have bits : (((v / 262144 % 0x08 + 0xF0 - 0xF0) * 64 + (v / 4096 % 0x40 + 0x80 - 0x80)) * 64 +
        (v / 64 % 0x40 + 0x80 - 0x80)) * 64 + (v % 0x40 + 0x80 - 0x80) = v := by omega
    simp only [List.cons_append, List.nil_append]
    rw [decodeFrom_first (first_four (by omega) (by omega)) (by omega),
      decodeFrom_more (by simp) (by simp only []; split <;> omega) (by simp only []; split <;> omega)
        (by omega),
      decodeFrom_more (by simp) (by simp) (by simp only []; omega) (by omega),
      decodeFrom_last rfl (by simp) (by simp only []; omega) (by omega)]
    simp only [bits, same]

theorem decodeFrom_flatMap (chars : List Char) :
    decodeFrom {} (chars.flatMap String.utf8EncodeChar) = chars := by
  induction chars with
  | nil => rfl
  | cons c rest ih => rw [List.flatMap_cons, decodeFrom_char, ih]

@[simp] theorem decode_encode (text : String) : decode (encode text) = text := by
  rw [decode, encode, decodeFrom_flatMap, String.ofList_toList]

theorem encode_injective {left right : String} (same : encode left = encode right) : left = right := by
  rw [← decode_encode left, same, decode_encode]

/-- Bytes are those of a text when decoding loses nothing. -/
theorem valid_iff {bytes : List UInt8} : Valid bytes ↔ encode (decode bytes) = bytes := by
  constructor
  · rintro ⟨text, rfl⟩
    rw [decode_encode]
  · exact fun same => ⟨decode bytes, same⟩

instance (bytes : List UInt8) : Decidable (Valid bytes) := decidable_of_iff _ valid_iff.symm

theorem zero_ne_ofNat {b : Nat} (positive : 0 < b) (small : b < 256) : (0 : UInt8) ≠ UInt8.ofNat b := by
  intro zero
  have byte := congrArg UInt8.toNat zero
  rw [UInt8.toNat_zero, UInt8.toNat_ofNat'] at byte
  omega

/-- Only the character NUL has a byte of value zero: the others have bytes of
value at most 127 that are not zero, or bytes above. -/
theorem zero_mem_char {c : Char} : 0 ∈ String.utf8EncodeChar c ↔ c = '\x00' := by
  constructor
  · intro member
    have value : c.val.toNat = c.toNat := rfl
    by_contra other
    have nonzero : c.toNat ≠ 0 := fun zero => other (Char.toNat_inj.mp zero)
    unfold String.utf8EncodeChar at member
    simp only [value] at member
    generalize c.toNat = v at nonzero member
    split at member
    · exact zero_ne_ofNat (by omega) (by omega) (List.mem_singleton.mp member)
    split at member
    · simp only [List.mem_cons, List.not_mem_nil, or_false] at member
      rcases member with zero | zero <;> exact zero_ne_ofNat (by omega) (by omega) zero
    split at member
    · simp only [List.mem_cons, List.not_mem_nil, or_false] at member
      rcases member with zero | zero | zero <;> exact zero_ne_ofNat (by omega) (by omega) zero
    · simp only [List.mem_cons, List.not_mem_nil, or_false] at member
      rcases member with zero | zero | zero | zero <;> exact zero_ne_ofNat (by omega) (by omega) zero
  · rintro rfl
    decide

/-- What a C string keeps of the bytes of a text. -/
theorem takeWhile_encode (text : String) :
    (encode text).takeWhile (· ≠ 0) = encode (String.ofList (text.toList.takeWhile (· ≠ '\x00'))) := by
  rw [encode, encode, String.toList_ofList]
  induction text.toList with
  | nil => rfl
  | cons c rest ih =>
    by_cases nul : c = '\x00'
    · subst nul
      rfl
    · have kept : ∀ b ∈ String.utf8EncodeChar c, decide (b ≠ 0) = true := by
        intro b member
        have nonzero : b ≠ 0 := fun zero => nul (zero_mem_char.mp (zero ▸ member))
        simpa using nonzero
      rw [List.flatMap_cons, List.takeWhile_append_of_pos kept, ih, List.takeWhile_cons_of_pos (by simpa using nul),
        List.flatMap_cons]

/-- A C string of the bytes of a text keeps them all when none of them is zero. -/
theorem takeWhile_eq_iff {bytes : List UInt8} : bytes.takeWhile (· ≠ 0) = bytes ↔ 0 ∉ bytes := by
  rw [List.takeWhile_eq_self_iff]
  constructor
  · intro kept member
    simpa using kept 0 member
  · intro absent b member
    have nonzero : b ≠ 0 := fun zero => absent (zero ▸ member)
    simpa using nonzero

theorem zero_mem_encode {text : String} : 0 ∈ encode text ↔ '\x00' ∈ text.toList := by
  rw [encode, List.mem_flatMap]
  constructor
  · rintro ⟨c, member, zero⟩
    exact zero_mem_char.mp zero ▸ member
  · exact fun member => ⟨_, member, zero_mem_char.mpr rfl⟩

end Utf8
