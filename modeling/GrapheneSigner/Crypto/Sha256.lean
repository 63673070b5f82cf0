import GrapheneSigner.Wire.Integer

/-!
# SHA-256

The message is followed by a one bit, zeros and its length in bits, cut into blocks of 64 bytes,
and absorbed block by block into a state of eight words.  A block is expanded to 64 words while it
is absorbed: sixteen words are kept in a window, and each round takes the first word of the window
and appends the next one of the expansion.
-/

namespace GrapheneSigner

namespace Sha256

/-- Eight words. -/
structure State where
  a : UInt32
  b : UInt32
  c : UInt32
  d : UInt32
  e : UInt32
  f : UInt32
  g : UInt32
  h : UInt32

namespace State

/-- The state before the first block. -/
def initial : State :=
  ⟨0x6a09e667, 0xbb67ae85, 0x3c6ef372, 0xa54ff53a, 0x510e527f, 0x9b05688c, 0x1f83d9ab, 0x5be0cd19⟩

def add (s t : State) : State :=
  ⟨s.a + t.a, s.b + t.b, s.c + t.c, s.d + t.d, s.e + t.e, s.f + t.f, s.g + t.g, s.h + t.h⟩

def words (s : State) : List UInt32 := [s.a, s.b, s.c, s.d, s.e, s.f, s.g, s.h]

end State

def constants : List UInt32 :=
  [0x428a2f98, 0x71374491, 0xb5c0fbcf, 0xe9b5dba5, 0x3956c25b, 0x59f111f1, 0x923f82a4, 0xab1c5ed5,
    0xd807aa98, 0x12835b01, 0x243185be, 0x550c7dc3, 0x72be5d74, 0x80deb1fe, 0x9bdc06a7, 0xc19bf174,
    0xe49b69c1, 0xefbe4786, 0x0fc19dc6, 0x240ca1cc, 0x2de92c6f, 0x4a7484aa, 0x5cb0a9dc, 0x76f988da,
    0x983e5152, 0xa831c66d, 0xb00327c8, 0xbf597fc7, 0xc6e00bf3, 0xd5a79147, 0x06ca6351, 0x14292967,
    0x27b70a85, 0x2e1b2138, 0x4d2c6dfc, 0x53380d13, 0x650a7354, 0x766a0abb, 0x81c2c92e, 0x92722c85,
    0xa2bfe8a1, 0xa81a664b, 0xc24b8b70, 0xc76c51a3, 0xd192e819, 0xd6990624, 0xf40e3585, 0x106aa070,
    0x19a4c116, 0x1e376c08, 0x2748774c, 0x34b0bcb5, 0x391c0cb3, 0x4ed8aa4a, 0x5b9cca4f, 0x682e6ff3,
    0x748f82ee, 0x78a5636f, 0x84c87814, 0x8cc70208, 0x90befffa, 0xa4506ceb, 0xbef9a3f7, 0xc67178f2]

def rotate (w : UInt32) (n : UInt32) : UInt32 := (w >>> n) ||| (w <<< (32 - n))

/-- The window after one round: its first word leaves, and the next word of the expansion enters. -/
def slide : List UInt32 → List UInt32
  | w :: rest =>
    let near := rest.getD 0 0
    let far := rest.getD 13 0
    let s0 := rotate near 7 ^^^ rotate near 18 ^^^ (near >>> 3)
    let s1 := rotate far 17 ^^^ rotate far 19 ^^^ (far >>> 10)
    rest ++ [w + s0 + rest.getD 8 0 + s1]
  | [] => []

/-- One round with constant `k` and message word `w`. -/
def round (s : State) (k w : UInt32) : State :=
  let s1 := rotate s.e 6 ^^^ rotate s.e 11 ^^^ rotate s.e 25
  let choice := (s.e &&& s.f) ^^^ (~~~s.e &&& s.g)
  let t1 := s.h + s1 + choice + k + w
  let s0 := rotate s.a 2 ^^^ rotate s.a 13 ^^^ rotate s.a 22
  let majority := (s.a &&& s.b) ^^^ (s.a &&& s.c) ^^^ (s.b &&& s.c)
  ⟨t1 + (s0 + majority), s.a, s.b, s.c, s.d + t1, s.e, s.f, s.g⟩

/-- The rounds with the given constants. -/
def rounds (s : State) (window : List UInt32) : List UInt32 → State
  | [] => s
  | k :: ks => rounds (round s k (window.headD 0)) (slide window) ks

/-- The state after a block of sixteen words. -/
def compress (s : State) (block : List UInt32) : State := s.add (rounds s block constants)

/-- Four bytes as a word, the greatest byte first. -/
def wordsOf : Bytes → List UInt32
  | a :: b :: c :: d :: rest =>
    ((a.toUInt32 <<< 24) ||| (b.toUInt32 <<< 16) ||| (c.toUInt32 <<< 8) ||| d.toUInt32)
      :: wordsOf rest
  | _ => []

/-- Absorbs a message, 64 bytes at a time. -/
def absorb (s : State) (message : Bytes) : State :=
  match message with
  | [] => s
  | b :: rest => absorb (compress s (wordsOf ((b :: rest).take 64))) ((b :: rest).drop 64)
termination_by message.length
decreasing_by simp only [List.length_drop, List.length_cons]; omega

/-- What follows a message of `length` bytes: a one bit, zeros up to eight bytes before the end of
a block, and the length in bits. -/
def padding (length : Nat) : Bytes :=
  0x80 :: List.replicate ((119 - length % 64) % 64) 0 ++ bigEndian 8 (8 * length)

/-- The four bytes of a word, the greatest byte first. -/
def bytesOf (w : UInt32) : Bytes := bigEndian 4 w.toNat

def State.digest (s : State) : Bytes := s.words.flatMap bytesOf

@[simp]
theorem State.length_digest (s : State) : s.digest.length = 32 := by
  simp [digest, words, bytesOf]

end Sha256

def sha256 (message : Bytes) : Bytes :=
  (Sha256.absorb .initial (message ++ Sha256.padding message.length)).digest

@[simp]
theorem length_sha256 (message : Bytes) : (sha256 message).length = 32 := by
  simp [sha256]

end GrapheneSigner
