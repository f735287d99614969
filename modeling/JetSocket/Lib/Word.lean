import Mathlib.Data.Nat.Bitwise
import Mathlib.Tactic.Ring

/- Machine words in memory. A word of `w` bytes is a number below `256^w`; `load`
   reads it from its bytes, lowest address first, and `store` writes it back, in
   either byte order. The three laws used below are the round trips
   (`load_store`, `store_load`) and that XOR acts byte by byte (`load_xor`), so
   a word-wide XOR of memory is the XOR of its bytes in both byte orders. -/
namespace Word

/-- The order of a word's bytes in memory: `little` puts the least significant
byte at the lowest address. -/
inductive ByteOrder where
  | little
  | big
  deriving DecidableEq, Repr

/-- The value of bytes given least significant first. -/
def ofLE : List UInt8 → Nat
  | [] => 0
  | b :: rest => b.toNat + 256 * ofLE rest

/-- The `w` low bytes of a value, least significant first. -/
def toLE : Nat → Nat → List UInt8
  | 0, _ => []
  | w + 1, v => UInt8.ofNat v :: toLE w (v / 256)

def load : ByteOrder → List UInt8 → Nat
  | .little, bs => ofLE bs
  | .big, bs => ofLE bs.reverse

def store : ByteOrder → Nat → Nat → List UInt8
  | .little, w, v => toLE w v
  | .big, w, v => (toLE w v).reverse

theorem toLE_length : ∀ (w v : Nat), (toLE w v).length = w
  | 0, _ => rfl
  | w + 1, v => by simp only [toLE, List.length_cons, toLE_length w]

@[simp] theorem store_length (o : ByteOrder) (w v : Nat) : (store o w v).length = w := by
  cases o <;> simp [store, toLE_length]

theorem ofLE_lt : ∀ (bs : List UInt8), ofLE bs < 256 ^ bs.length
  | [] => by simp [ofLE]
  | b :: rest => by
    have ih := ofLE_lt rest
    have hb := b.toNat_lt
    simp only [ofLE, List.length_cons, Nat.pow_succ]
    omega

theorem load_lt (o : ByteOrder) (bs : List UInt8) : load o bs < 256 ^ bs.length := by
  cases o
  · exact ofLE_lt bs
  · simpa [load] using ofLE_lt bs.reverse

theorem ofLE_toLE : ∀ (w v : Nat), ofLE (toLE w v) = v % 256 ^ w
  | 0, v => by simp [toLE, ofLE, Nat.mod_one]
  | w + 1, v => by
    have hpow : 256 ^ (w + 1) = 256 * 256 ^ w := by rw [Nat.pow_succ, Nat.mul_comm]
    rw [toLE, ofLE, ofLE_toLE w, UInt8.toNat_ofNat', hpow, Nat.mod_mul]

theorem load_store (o : ByteOrder) (w v : Nat) : load o (store o w v) = v % 256 ^ w := by
  cases o <;> simp [load, store, ofLE_toLE]

theorem toLE_ofLE : ∀ (bs : List UInt8), toLE bs.length (ofLE bs) = bs
  | [] => rfl
  | b :: rest => by
    have hb := b.toNat_lt
    have hdiv : (b.toNat + 256 * ofLE rest) / 256 = ofLE rest := by omega
    have hlow : UInt8.ofNat (b.toNat + 256 * ofLE rest) = b := by
      apply UInt8.toNat_inj.mp
      rw [UInt8.toNat_ofNat']
      omega
    simp only [List.length_cons, ofLE, toLE, hdiv, hlow, toLE_ofLE rest]

theorem store_load (o : ByteOrder) {w : Nat} (bs : List UInt8) (hw : bs.length = w) :
    store o w (load o bs) = bs := by
  subst hw
  cases o
  · exact toLE_ofLE bs
  · have h := toLE_ofLE bs.reverse
    rw [List.length_reverse] at h
    simp only [store, load, h, List.reverse_reverse]

/-- XOR works on each base-256 digit alone. -/
theorem xor_digit (a b A B : Nat) (ha : a < 256) (hb : b < 256) :
    (a + 256 * A) ^^^ (b + 256 * B) = (a ^^^ b) + 256 * (A ^^^ B) := by
  have hab : a ^^^ b < 2 ^ 8 := Nat.xor_lt_two_pow (n := 8) ha hb
  apply Nat.eq_of_testBit_eq
  intro i
  rw [Nat.testBit_xor, Nat.add_comm a, Nat.add_comm b, Nat.add_comm (a ^^^ b),
    show 256 = 2 ^ 8 from rfl, Nat.testBit_two_pow_mul_add _ ha, Nat.testBit_two_pow_mul_add _ hb,
    Nat.testBit_two_pow_mul_add _ hab]
  by_cases h : i < 8 <;> simp [h, Nat.testBit_xor]

theorem ofLE_xor : ∀ (as bs : List UInt8), as.length = bs.length →
    ofLE (List.zipWith (· ^^^ ·) as bs) = ofLE as ^^^ ofLE bs
  | [], [], _ => rfl
  | a :: as, b :: bs, h => by
    have ih := ofLE_xor as bs (by simpa using h)
    simp only [List.zipWith_cons_cons, ofLE, ih, UInt8.toNat_xor]
    exact (xor_digit _ _ _ _ a.toNat_lt b.toNat_lt).symm
  | [], _ :: _, h => by simp at h
  | _ :: _, [], h => by simp at h

/-- A word-wide XOR is the XOR of the bytes, in either byte order. -/
theorem load_xor (o : ByteOrder) (as bs : List UInt8) (h : as.length = bs.length) :
    load o (List.zipWith (· ^^^ ·) as bs) = load o as ^^^ load o bs := by
  cases o
  · exact ofLE_xor as bs h
  · simp only [load]
    rw [List.reverse_zipWith h]
    exact ofLE_xor _ _ (by simpa using h)

theorem ofLE_append : ∀ (as bs : List UInt8),
    ofLE (as ++ bs) = ofLE as + 256 ^ as.length * ofLE bs
  | [], bs => by simp [ofLE]
  | a :: as, bs => by
    simp only [List.cons_append, ofLE, ofLE_append as bs, List.length_cons, Nat.pow_succ]
    ring

/-- The word made of the same bytes twice, as a shift and an OR build it. -/
theorem load_twice (o : ByteOrder) (bs : List UInt8) :
    load o (bs ++ bs) = load o bs ||| load o bs <<< (8 * bs.length) := by
  have key : ∀ cs : List UInt8, cs.length = bs.length →
      ofLE (cs ++ cs) = ofLE cs ||| ofLE cs <<< (8 * bs.length) := by
    intro cs hc
    have hlt : ofLE cs < 2 ^ (8 * cs.length) := by
      rw [Nat.pow_mul]
      exact ofLE_lt cs
    rw [ofLE_append, ← hc, Nat.or_comm, Nat.shiftLeft_eq, Nat.mul_comm (ofLE cs) (2 ^ _),
      ← Nat.two_pow_add_eq_or_of_lt hlt, Nat.pow_mul, Nat.add_comm]
  cases o
  · exact key bs rfl
  · simpa [load] using key bs.reverse (by simp)

end Word
