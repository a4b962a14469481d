import Mathlib.Data.List.Basic

/-! SHA-256 on lists of bytes, with its hexadecimal digest. -/
namespace Sha256

abbrev Word := BitVec 32

/-- The round constants. -/
def constants : List Word :=
  [0x428a2f98, 0x71374491, 0xb5c0fbcf, 0xe9b5dba5, 0x3956c25b, 0x59f111f1, 0x923f82a4, 0xab1c5ed5,
   0xd807aa98, 0x12835b01, 0x243185be, 0x550c7dc3, 0x72be5d74, 0x80deb1fe, 0x9bdc06a7, 0xc19bf174,
   0xe49b69c1, 0xefbe4786, 0x0fc19dc6, 0x240ca1cc, 0x2de92c6f, 0x4a7484aa, 0x5cb0a9dc, 0x76f988da,
   0x983e5152, 0xa831c66d, 0xb00327c8, 0xbf597fc7, 0xc6e00bf3, 0xd5a79147, 0x06ca6351, 0x14292967,
   0x27b70a85, 0x2e1b2138, 0x4d2c6dfc, 0x53380d13, 0x650a7354, 0x766a0abb, 0x81c2c92e, 0x92722c85,
   0xa2bfe8a1, 0xa81a664b, 0xc24b8b70, 0xc76c51a3, 0xd192e819, 0xd6990624, 0xf40e3585, 0x106aa070,
   0x19a4c116, 0x1e376c08, 0x2748774c, 0x34b0bcb5, 0x391c0cb3, 0x4ed8aa4a, 0x5b9cca4f, 0x682e6ff3,
   0x748f82ee, 0x78a5636f, 0x84c87814, 0x8cc70208, 0x90befffa, 0xa4506ceb, 0xbef9a3f7, 0xc67178f2]

def smallSigma0 (x : Word) : Word := x.rotateRight 7 ^^^ x.rotateRight 18 ^^^ x >>> 3
def smallSigma1 (x : Word) : Word := x.rotateRight 17 ^^^ x.rotateRight 19 ^^^ x >>> 10
def bigSigma0 (x : Word) : Word := x.rotateRight 2 ^^^ x.rotateRight 13 ^^^ x.rotateRight 22
def bigSigma1 (x : Word) : Word := x.rotateRight 6 ^^^ x.rotateRight 11 ^^^ x.rotateRight 25
def choose (x y z : Word) : Word := (x &&& y) ^^^ (~~~ x &&& z)
def majority (x y z : Word) : Word := (x &&& y) ^^^ (x &&& z) ^^^ (y &&& z)

/-- The chaining value: eight words. -/
structure Chaining where
  (a b c d e f g h : Word)

def initial : Chaining where
  a := 0x6a09e667
  b := 0xbb67ae85
  c := 0x3c6ef372
  d := 0xa54ff53a
  e := 0x510e527f
  f := 0x9b05688c
  g := 0x1f83d9ab
  h := 0x5be0cd19

def Chaining.add (s t : Chaining) : Chaining where
  a := s.a + t.a
  b := s.b + t.b
  c := s.c + t.c
  d := s.d + t.d
  e := s.e + t.e
  f := s.f + t.f
  g := s.g + t.g
  h := s.h + t.h

def Chaining.words (s : Chaining) : List Word := [s.a, s.b, s.c, s.d, s.e, s.f, s.g, s.h]

def round (s : Chaining) (constant word : Word) : Chaining :=
  let first := s.h + bigSigma1 s.e + choose s.e s.f s.g + constant + word
  let second := bigSigma0 s.a + majority s.a s.b s.c
  { a := first + second, b := s.a, c := s.b, d := s.c, e := s.d + first, f := s.e, g := s.f,
    h := s.g }

/-- The word that the message schedule puts after the sixteen last ones. -/
def scheduleNext : List Word → Word
  | [w0, w1, _, _, _, _, _, _, _, w9, _, _, _, _, w14, _] =>
    smallSigma1 w14 + w9 + smallSigma0 w1 + w0
  | _ => 0

/-- The rounds of one block; the window holds the sixteen next words of its schedule. -/
def rounds : List Word → List Word → Chaining → Chaining
  | [], _, s => s
  | constant :: later, window, s =>
    rounds later (window.tail ++ [scheduleNext window]) (round s constant (window.headD 0))

def compress (s : Chaining) (block : List Word) : Chaining := s.add (rounds constants block s)

/-- The blocks of a padded message, sixteen words each; the fuel is their number of words. -/
def blocks : ℕ → List Word → Chaining → Chaining
  | 0, _, s => s
  | _ + 1, [], s => s
  | fuel + 1, words, s => blocks fuel (words.drop 16) (compress s (words.take 16))

def bigEndian (bytes : List UInt8) : Word :=
  bytes.foldl (fun word byte => word <<< 8 ||| byte.toBitVec.setWidth 32) 0

def wordsOf : List UInt8 → List Word
  | b0 :: b1 :: b2 :: b3 :: rest => bigEndian [b0, b1, b2, b3] :: wordsOf rest
  | _ => []

def lengthByte (bits place : ℕ) : UInt8 := UInt8.ofNat (bits >>> (8*place))

/-- The message, a one bit, zero bits to the end of a block, and the length in bits. -/
def padded (message : List UInt8) : List UInt8 :=
  let bits := 8*message.length
  message ++ UInt8.ofNat 128 :: List.replicate ((119 - message.length%64)%64) (UInt8.ofNat 0) ++
    [7, 6, 5, 4, 3, 2, 1, 0].map (lengthByte bits)

def digest (message : List UInt8) : Chaining :=
  let words := wordsOf (padded message)
  blocks words.length words initial

def hexDigit (word : Word) (place : ℕ) : Char := Nat.digitChar ((word.toNat >>> (4*place))%16)

def hexWord (word : Word) : List Char := [7, 6, 5, 4, 3, 2, 1, 0].map (hexDigit word)

/-- `hashlib.sha256(message).hexdigest()`. -/
def hexdigest (message : List UInt8) : String :=
  String.ofList ((digest message).words.flatMap hexWord)

theorem hexdigest_length (message : List UInt8) : (hexdigest message).length = 64 := by
  unfold hexdigest
  rw [String.length_ofList, List.length_flatMap]
  rfl

theorem hexdigest_ascii (message : List UInt8) :
    ∀ c ∈ (hexdigest message).toList, c.toNat ≤ 126 := by
  have hall : ∀ d < 16, (Nat.digitChar d).toNat ≤ 126 := by decide
  unfold hexdigest
  rw [String.toList_ofList]
  intro c hc
  obtain ⟨word, -, hword⟩ := List.mem_flatMap.mp hc
  obtain ⟨place, -, rfl⟩ := List.mem_map.mp hword
  exact hall _ (Nat.mod_lt _ (by decide))

/-- The three bytes of "abc". -/
example : hexdigest [97, 98, 99] =
    "ba7816bf8f01cfea414140de5dae2223b00361a396177a9cb410ff61f20015ad" := by decide +kernel

end Sha256
