import SmartAccountKit.Lib.Text

/-!
# SHA-256

The hash function of FIPS 180-4 over byte strings. Words are natural numbers
below `2 ^ 32`.
-/

namespace SmartAccountKit.Lib.Sha256

/-- Addition of 32-bit words. -/
def add (x y : ℕ) : ℕ := (x + y) % 2 ^ 32

/-- Rotation of a 32-bit word to the right. -/
def rotr (n x : ℕ) : ℕ := (x / 2 ^ n + x * 2 ^ (32 - n)) % 2 ^ 32

/-- Bitwise complement of a 32-bit word. -/
def not (x : ℕ) : ℕ := 2 ^ 32 - 1 - x

def ch (x y z : ℕ) : ℕ := (x &&& y) ^^^ (not x &&& z)

def maj (x y z : ℕ) : ℕ := (x &&& y) ^^^ (x &&& z) ^^^ (y &&& z)

def bigSigma0 (x : ℕ) : ℕ := rotr 2 x ^^^ rotr 13 x ^^^ rotr 22 x

def bigSigma1 (x : ℕ) : ℕ := rotr 6 x ^^^ rotr 11 x ^^^ rotr 25 x

def smallSigma0 (x : ℕ) : ℕ := rotr 7 x ^^^ rotr 18 x ^^^ x / 2 ^ 3

def smallSigma1 (x : ℕ) : ℕ := rotr 17 x ^^^ rotr 19 x ^^^ x / 2 ^ 10

/-- The round constants. -/
def roundConstants : List ℕ :=
  [0x428a2f98, 0x71374491, 0xb5c0fbcf, 0xe9b5dba5, 0x3956c25b, 0x59f111f1, 0x923f82a4, 0xab1c5ed5,
   0xd807aa98, 0x12835b01, 0x243185be, 0x550c7dc3, 0x72be5d74, 0x80deb1fe, 0x9bdc06a7, 0xc19bf174,
   0xe49b69c1, 0xefbe4786, 0x0fc19dc6, 0x240ca1cc, 0x2de92c6f, 0x4a7484aa, 0x5cb0a9dc, 0x76f988da,
   0x983e5152, 0xa831c66d, 0xb00327c8, 0xbf597fc7, 0xc6e00bf3, 0xd5a79147, 0x06ca6351, 0x14292967,
   0x27b70a85, 0x2e1b2138, 0x4d2c6dfc, 0x53380d13, 0x650a7354, 0x766a0abb, 0x81c2c92e, 0x92722c85,
   0xa2bfe8a1, 0xa81a664b, 0xc24b8b70, 0xc76c51a3, 0xd192e819, 0xd6990624, 0xf40e3585, 0x106aa070,
   0x19a4c116, 0x1e376c08, 0x2748774c, 0x34b0bcb5, 0x391c0cb3, 0x4ed8aa4a, 0x5b9cca4f, 0x682e6ff3,
   0x748f82ee, 0x78a5636f, 0x84c87814, 0x8cc70208, 0x90befffa, 0xa4506ceb, 0xbef9a3f7, 0xc67178f2]

/-- The initial hash value. -/
def initialHash : List ℕ :=
  [0x6a09e667, 0xbb67ae85, 0x3c6ef372, 0xa54ff53a, 0x510e527f, 0x9b05688c, 0x1f83d9ab, 0x5be0cd19]

/-- The message with its padding: a one bit, zero bits, and the bit length in eight bytes. -/
def pad (message : Bytes) : Bytes :=
  message ++ [0x80] ++ List.replicate ((119 - message.length % 64) % 64) 0 ++
    beBytes 8 (8 * message.length)

/-- The big-endian words of a block. -/
def words : Bytes → List ℕ
  | a :: b :: c :: d :: rest => ofBeBytes [a, b, c, d] :: words rest
  | _ => []

/-- Extend the schedule, held with the latest word first, by `n` more words. -/
def extend : ℕ → List ℕ → List ℕ
  | 0, w => w
  | n + 1, w =>
    extend n (add (add (smallSigma1 (w.getD 1 0)) (w.getD 6 0))
      (add (smallSigma0 (w.getD 14 0)) (w.getD 15 0)) :: w)

/-- One round on the eight working variables. -/
def round (s : List ℕ) (k w : ℕ) : List ℕ :=
  match s with
  | [a, b, c, d, e, f, g, h] =>
    let t1 := add (add h (bigSigma1 e)) (add (ch e f g) (add k w))
    let t2 := add (bigSigma0 a) (maj a b c)
    [add t1 t2, a, b, c, add d t1, e, f, g]
  | _ => s

/-- The compression function on one 64-byte block. -/
def compress (state : List ℕ) (block : Bytes) : List ℕ :=
  let schedule := (extend 48 (words block).reverse).reverse
  let rounds := (roundConstants.zip schedule).foldl (fun s kw => round s kw.1 kw.2) state
  List.zipWith add state rounds

/-- Compress the first `n` blocks of a padded message. -/
def compressBlocks : ℕ → List ℕ → Bytes → List ℕ
  | 0, state, _ => state
  | n + 1, state, bs => compressBlocks n (compress state (bs.take 64)) (bs.drop 64)

end Sha256

/-- The SHA-256 hash of a byte string. -/
def sha256 (message : Bytes) : Bytes :=
  let padded := Sha256.pad message
  (Sha256.compressBlocks (padded.length / 64) Sha256.initialHash padded).flatMap (beBytes 4)

namespace Sha256

theorem length_round (s : List ℕ) (k w : ℕ) : (round s k w).length = s.length := by
  unfold round
  split
  · simp only [List.length_cons, List.length_nil]
  · rfl

theorem length_compress (state : List ℕ) (block : Bytes) :
    (compress state block).length = state.length := by
  have hrounds : ∀ (kws : List (ℕ × ℕ)) (s : List ℕ),
      (kws.foldl (fun s kw => round s kw.1 kw.2) s).length = s.length := by
    intro kws
    induction kws with
    | nil => intro s; rfl
    | cons kw kws ih => intro s; rw [List.foldl_cons, ih, length_round]
  rw [compress, List.length_zipWith, hrounds, Nat.min_self]

theorem length_compressBlocks (n : ℕ) (state : List ℕ) (bs : Bytes) :
    (compressBlocks n state bs).length = state.length := by
  induction n generalizing state bs with
  | zero => rfl
  | succ n ih => rw [compressBlocks, ih, length_compress]

end Sha256

/-- A SHA-256 hash has 32 bytes. -/
@[simp] theorem length_sha256 (message : Bytes) : (sha256 message).length = 32 := by
  have hwords : ∀ ws : List ℕ, (ws.flatMap (beBytes 4)).length = 4 * ws.length := by
    intro ws
    induction ws with
    | nil => rfl
    | cons w ws ih =>
      rw [List.flatMap_cons, List.length_append, ih, length_beBytes, List.length_cons]
      omega
  rw [sha256, hwords, Sha256.length_compressBlocks]
  rfl

example : toHex (sha256 [0x61, 0x62, 0x63]) =
    "ba7816bf8f01cfea414140de5dae2223b00361a396177a9cb410ff61f20015ad" := by
  decide

end SmartAccountKit.Lib
