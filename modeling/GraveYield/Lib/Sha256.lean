import GraveYield.Lib.Word

/-!
# SHA-256

The hash as a computable function on byte strings (FIPS 180-4). Words of 32 bits are
natural numbers, reduced after each addition. Theorems about hashing take the hash as a
parameter; this function is the value the parameter has in the programs.
-/

namespace Machine

namespace Sha256

/-- Reduce to 32 bits. -/
def trunc (n : ℕ) : ℕ :=
  n % 2 ^ 32

/-- Rotate a 32-bit word right. -/
def rotr (k x : ℕ) : ℕ :=
  (x >>> k) ||| trunc (x <<< (32 - k))

/-- The function `Σ₀`. -/
def bigSigma0 (x : ℕ) : ℕ :=
  rotr 2 x ^^^ rotr 13 x ^^^ rotr 22 x

/-- The function `Σ₁`. -/
def bigSigma1 (x : ℕ) : ℕ :=
  rotr 6 x ^^^ rotr 11 x ^^^ rotr 25 x

/-- The function `σ₀`. -/
def smallSigma0 (x : ℕ) : ℕ :=
  rotr 7 x ^^^ rotr 18 x ^^^ (x >>> 3)

/-- The function `σ₁`. -/
def smallSigma1 (x : ℕ) : ℕ :=
  rotr 17 x ^^^ rotr 19 x ^^^ (x >>> 10)

/-- Choice by the bits of `x`. -/
def ch (x y z : ℕ) : ℕ :=
  (x &&& y) ^^^ ((2 ^ 32 - 1 - x) &&& z)

/-- Majority of three. -/
def maj (x y z : ℕ) : ℕ :=
  (x &&& y) ^^^ (x &&& z) ^^^ (y &&& z)

/-- The round constants. -/
def roundConstants : List ℕ :=
  [0x428a2f98, 0x71374491, 0xb5c0fbcf, 0xe9b5dba5, 0x3956c25b, 0x59f111f1, 0x923f82a4,
    0xab1c5ed5, 0xd807aa98, 0x12835b01, 0x243185be, 0x550c7dc3, 0x72be5d74, 0x80deb1fe,
    0x9bdc06a7, 0xc19bf174, 0xe49b69c1, 0xefbe4786, 0x0fc19dc6, 0x240ca1cc, 0x2de92c6f,
    0x4a7484aa, 0x5cb0a9dc, 0x76f988da, 0x983e5152, 0xa831c66d, 0xb00327c8, 0xbf597fc7,
    0xc6e00bf3, 0xd5a79147, 0x06ca6351, 0x14292967, 0x27b70a85, 0x2e1b2138, 0x4d2c6dfc,
    0x53380d13, 0x650a7354, 0x766a0abb, 0x81c2c92e, 0x92722c85, 0xa2bfe8a1, 0xa81a664b,
    0xc24b8b70, 0xc76c51a3, 0xd192e819, 0xd6990624, 0xf40e3585, 0x106aa070, 0x19a4c116,
    0x1e376c08, 0x2748774c, 0x34b0bcb5, 0x391c0cb3, 0x4ed8aa4a, 0x5b9cca4f, 0x682e6ff3,
    0x748f82ee, 0x78a5636f, 0x84c87814, 0x8cc70208, 0x90befffa, 0xa4506ceb, 0xbef9a3f7,
    0xc67178f2]

/-- The eight working words. -/
structure State where
  (a b c d e f g h : ℕ)

/-- The initial hash value. -/
def initial : State :=
  ⟨0x6a09e667, 0xbb67ae85, 0x3c6ef372, 0xa54ff53a, 0x510e527f, 0x9b05688c, 0x1f83d9ab,
    0x5be0cd19⟩

/-- One round with the constant `k` and the schedule word `w`. -/
def round (s : State) (k w : ℕ) : State :=
  let t1 := s.h + bigSigma1 s.e + ch s.e s.f s.g + k + w
  let t2 := bigSigma0 s.a + maj s.a s.b s.c
  ⟨trunc (t1 + t2), s.a, s.b, s.c, trunc (s.d + t1), s.e, s.f, s.g⟩

/-- The rounds for the given constants. `ws` is the window of the next schedule words, of
which the first is used and one is appended. -/
def rounds : State → List ℕ → List ℕ → State
  | s, [], _ => s
  | s, k :: ks, ws =>
    let w := ws.headD 0
    let next := trunc (smallSigma1 (ws.getD 14 0) + ws.getD 9 0 + smallSigma0 (ws.getD 1 0) + w)
    rounds (round s k w) ks (ws.tail ++ [next])

/-- Absorb one block of sixteen words. -/
def compress (s : State) (block : List ℕ) : State :=
  let r := rounds s roundConstants block
  ⟨trunc (s.a + r.a), trunc (s.b + r.b), trunc (s.c + r.c), trunc (s.d + r.d),
    trunc (s.e + r.e), trunc (s.f + r.f), trunc (s.g + r.g), trunc (s.h + r.h)⟩

/-- The big-endian number of a byte string. -/
def ofBeBytes (l : List Byte) : ℕ :=
  l.foldl (fun n b => 2 ^ 8 * n + b.val) 0

/-- The message with its padding : a one bit, zeros, and the length in bits. -/
def pad (m : List Byte) : List Byte :=
  m ++ 0x80 :: List.replicate ((119 - m.length % 64) % 64) 0 ++
    (leBytes 8 (8 * m.length)).reverse

/-- Absorb `n` blocks of 64 bytes. -/
def absorb : ℕ → State → List Byte → State
  | 0, s, _ => s
  | n + 1, s, m =>
    let block := (List.range 16).map fun i => ofBeBytes (slice m (4 * i) 4)
    absorb n (compress s block) (m.drop 64)

end Sha256

/-- SHA-256 of a byte string. -/
def sha256 (m : List Byte) : Bytes 32 :=
  let p := Sha256.pad m
  let s := Sha256.absorb (p.length / 64) Sha256.initial p
  ⟨[s.a, s.b, s.c, s.d, s.e, s.f, s.g, s.h].flatMap fun w => (leBytes 4 w).reverse,
    by simp⟩

set_option maxRecDepth 10000 in
example : sha256 [0x61, 0x62, 0x63] =
    Bytes.ofNat 32 0xba7816bf8f01cfea414140de5dae2223b00361a396177a9cb410ff61f20015ad := by
  decide +kernel

end Machine
