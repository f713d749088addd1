/-!
# Byte strings and little-endian words

A byte string is a list of bytes. A word of `w` bytes is written lowest byte first. The laws at
the end say that writing and reading are inverse to each other: `ofWord_word` on the number's
side, `word_ofWord` on the side of the bytes.
-/

namespace RecordFarm

abbrev Bytes := List UInt8

namespace Bytes

/-- The lowest `w` bytes of `n`, lowest first; what does not fit is dropped. -/
def word : Nat → Nat → Bytes
  | 0, _ => []
  | w + 1, n => UInt8.ofNat n :: word w (n / 256)

/-- How many numbers fit into `w` bytes. -/
def capacity : Nat → Nat
  | 0 => 1
  | w + 1 => 256 * capacity w

/-- The number whose bytes, lowest first, are given. -/
def ofWord : Bytes → Nat
  | [] => 0
  | b :: bs => b.toNat + 256 * ofWord bs

def ofUInt32 (n : UInt32) : Bytes := word 4 n.toNat

def ofUInt64 (n : UInt64) : Bytes := word 8 n.toNat

/-- The 32-bit word made of exactly four bytes. -/
def toUInt32? (bytes : Bytes) : Option UInt32 :=
  if bytes.length = 4 then some (UInt32.ofNat (ofWord bytes)) else none

/-- The 64-bit word made of exactly eight bytes. -/
def toUInt64? (bytes : Bytes) : Option UInt64 :=
  if bytes.length = 8 then some (UInt64.ofNat (ofWord bytes)) else none

def ofString (s : String) : Bytes := s.toUTF8.toList

/-! ### Laws -/

@[simp] theorem length_word (w n : Nat) : (word w n).length = w := by
  induction w generalizing n with
  | zero => rfl
  | succ w ih => simp [word, ih]

/-- Reading a word back gives the number as far as the word can hold it. -/
theorem ofWord_word (w n : Nat) : ofWord (word w n) = n % capacity w := by
  induction w generalizing n with
  | zero => simp [word, ofWord, capacity, Nat.mod_one]
  | succ w ih =>
    rw [word, ofWord, ih, UInt8.toNat_ofNat', capacity, Nat.mod_mul]

/-- A number that fits into a word is read back as it is. -/
theorem ofWord_word_of_lt {w n : Nat} (h : n < capacity w) : ofWord (word w n) = n := by
  rw [ofWord_word, Nat.mod_eq_of_lt h]

/-- Bytes are the word of their own length of the number that they stand for. -/
theorem word_ofWord (bs : Bytes) : word bs.length (ofWord bs) = bs := by
  induction bs with
  | nil => rfl
  | cons b bs ih =>
    have hb : b.toNat < 256 := b.toNat_lt
    have hhead : UInt8.ofNat (b.toNat + 256 * ofWord bs) = b := by
      apply UInt8.toNat_inj.1
      simp only [UInt8.toNat_ofNat']
      omega
    have htail : (b.toNat + 256 * ofWord bs) / 256 = ofWord bs := by omega
    simp only [List.length_cons, word, ofWord, hhead, htail, ih]

/-- No bytes stand for a number beyond what a word of their length holds. -/
theorem ofWord_lt (bs : Bytes) : ofWord bs < capacity bs.length := by
  induction bs with
  | nil => simp [ofWord, capacity]
  | cons b bs ih =>
    have hb : b.toNat < 256 := b.toNat_lt
    rw [ofWord, List.length_cons, capacity]
    omega

@[simp] theorem length_ofUInt32 (n : UInt32) : (ofUInt32 n).length = 4 := length_word 4 _

@[simp] theorem length_ofUInt64 (n : UInt64) : (ofUInt64 n).length = 8 := length_word 8 _

theorem toUInt32?_ofUInt32 (n : UInt32) : toUInt32? (ofUInt32 n) = some n := by
  have h : ofWord (ofUInt32 n) = n.toNat := ofWord_word_of_lt n.toNat_lt
  simp [toUInt32?, h]

theorem toUInt64?_ofUInt64 (n : UInt64) : toUInt64? (ofUInt64 n) = some n := by
  have h : ofWord (ofUInt64 n) = n.toNat := ofWord_word_of_lt n.toNat_lt
  simp [toUInt64?, h]

end Bytes

end RecordFarm
