/-!
The SHA-256 digest of a message, and the hexadecimal and base 64 texts of bytes.
-/

namespace Stackwright

namespace Digest

def initialState : List UInt32 :=
  [0x6a09e667, 0xbb67ae85, 0x3c6ef372, 0xa54ff53a, 0x510e527f, 0x9b05688c, 0x1f83d9ab, 0x5be0cd19]

def roundConstants : List UInt32 :=
  [0x428a2f98, 0x71374491, 0xb5c0fbcf, 0xe9b5dba5, 0x3956c25b, 0x59f111f1, 0x923f82a4, 0xab1c5ed5,
   0xd807aa98, 0x12835b01, 0x243185be, 0x550c7dc3, 0x72be5d74, 0x80deb1fe, 0x9bdc06a7, 0xc19bf174,
   0xe49b69c1, 0xefbe4786, 0x0fc19dc6, 0x240ca1cc, 0x2de92c6f, 0x4a7484aa, 0x5cb0a9dc, 0x76f988da,
   0x983e5152, 0xa831c66d, 0xb00327c8, 0xbf597fc7, 0xc6e00bf3, 0xd5a79147, 0x06ca6351, 0x14292967,
   0x27b70a85, 0x2e1b2138, 0x4d2c6dfc, 0x53380d13, 0x650a7354, 0x766a0abb, 0x81c2c92e, 0x92722c85,
   0xa2bfe8a1, 0xa81a664b, 0xc24b8b70, 0xc76c51a3, 0xd192e819, 0xd6990624, 0xf40e3585, 0x106aa070,
   0x19a4c116, 0x1e376c08, 0x2748774c, 0x34b0bcb5, 0x391c0cb3, 0x4ed8aa4a, 0x5b9cca4f, 0x682e6ff3,
   0x748f82ee, 0x78a5636f, 0x84c87814, 0x8cc70208, 0x90befffa, 0xa4506ceb, 0xbef9a3f7, 0xc67178f2]

def rotate (x : UInt32) (n : UInt32) : UInt32 := (x >>> n) ||| (x <<< (32 - n))

def wordBytes (w : UInt32) : List UInt8 :=
  [(w >>> 24).toUInt8, (w >>> 16).toUInt8, (w >>> 8).toUInt8, w.toUInt8]

def wordsOf : List UInt8 → List UInt32
  | a :: b :: c :: d :: rest =>
    ((a.toUInt32 <<< 24) ||| (b.toUInt32 <<< 16) ||| (c.toUInt32 <<< 8) ||| d.toUInt32)
      :: wordsOf rest
  | _ => []

/-- The message, a one bit, zeros up to eight bytes before a block's end, and the bit length. -/
def padded (message : List UInt8) : List UInt8 :=
  let length := message.length
  let zeros := (119 - length % 64) % 64
  let bits := 8 * length
  message ++ [0x80] ++ List.replicate zeros 0
    ++ (List.range 8).map fun k => (bits / Nat.pow 2 (8 * (7 - k))).toUInt8

/-- Cuts a list into blocks of sixteen words; `count` blocks are enough for every list in use. -/
def blocks : Nat → List UInt32 → List (List UInt32)
  | 0, _ => []
  | count + 1, words =>
    if words.isEmpty then [] else words.take 16 :: blocks count (words.drop 16)

/-- The words of the schedule, the last one first. -/
def extend : Nat → List UInt32 → List UInt32
  | 0, recent => recent
  | count + 1, recent =>
    let w (k : Nat) : UInt32 := recent.getD k 0
    let s0 := rotate (w 14) 7 ^^^ rotate (w 14) 18 ^^^ (w 14 >>> 3)
    let s1 := rotate (w 1) 17 ^^^ rotate (w 1) 19 ^^^ (w 1 >>> 10)
    extend count ((w 15 + s0 + w 6 + s1) :: recent)

def schedule (block : List UInt32) : List UInt32 := (extend 48 block.reverse).reverse

def mix (state : List UInt32) (constant word : UInt32) : List UInt32 :=
  match state with
  | [a, b, c, d, e, f, g, h] =>
    let s1 := rotate e 6 ^^^ rotate e 11 ^^^ rotate e 25
    let choice := (e &&& f) ^^^ (~~~e &&& g)
    let first := h + s1 + choice + constant + word
    let s0 := rotate a 2 ^^^ rotate a 13 ^^^ rotate a 22
    let majority := (a &&& b) ^^^ (a &&& c) ^^^ (b &&& c)
    [first + s0 + majority, a, b, c, d + first, e, f, g]
  | _ => state

def compress (state block : List UInt32) : List UInt32 :=
  let mixed := (roundConstants.zip (schedule block)).foldl (fun s p => mix s p.1 p.2) state
  List.zipWith (· + ·) state mixed

theorem length_mix {state : List UInt32} (constant word : UInt32) (eight : state.length = 8) :
    (mix state constant word).length = 8 := by
  match state, eight with
  | [_, _, _, _, _, _, _, _], _ => rfl

theorem length_compress {state : List UInt32} (block : List UInt32) (eight : state.length = 8) :
    (compress state block).length = 8 := by
  have mixed : ∀ (steps : List (UInt32 × UInt32)) (state : List UInt32), state.length = 8 →
      (steps.foldl (fun s p => mix s p.1 p.2) state).length = 8 := by
    intro steps
    induction steps with
    | nil => exact fun _ eight => eight
    | cons step rest ih => exact fun state eight => ih _ (length_mix _ _ eight)
  rw [compress, List.length_zipWith, eight, mixed _ _ eight]
  rfl

theorem length_foldl_compress (blocks : List (List UInt32)) {state : List UInt32}
    (eight : state.length = 8) : (blocks.foldl compress state).length = 8 := by
  induction blocks generalizing state with
  | nil => exact eight
  | cons block rest ih => exact ih (length_compress block eight)

theorem length_flatMap_wordBytes (words : List UInt32) :
    (words.flatMap wordBytes).length = 4 * words.length := by
  induction words with
  | nil => rfl
  | cons word rest ih =>
      rw [List.flatMap_cons, List.length_append, ih, List.length_cons]
      simp only [wordBytes, List.length_cons, List.length_nil]
      omega

end Digest

def sha256 (message : List UInt8) : List UInt8 :=
  let words := Digest.wordsOf (Digest.padded message)
  ((Digest.blocks words.length words).foldl Digest.compress Digest.initialState).flatMap
    Digest.wordBytes

theorem length_sha256 (message : List UInt8) : (sha256 message).length = 32 := by
  rw [sha256, Digest.length_flatMap_wordBytes, Digest.length_foldl_compress _ rfl]

def textBytes (text : String) : List UInt8 := text.toUTF8.toList

def hexDigit (n : Nat) : Char := Nat.digitChar n

def hexText (bytes : List UInt8) : List Char :=
  bytes.flatMap fun b => [hexDigit (b.toNat / 16), hexDigit (b.toNat % 16)]

theorem length_hexText (bytes : List UInt8) : (hexText bytes).length = 2 * bytes.length := by
  induction bytes with
  | nil => rfl
  | cons b rest ih =>
      rw [hexText, List.flatMap_cons, List.length_append, ← hexText, ih, List.length_cons]
      simp only [List.length_cons, List.length_nil]
      omega

def hexAlphabet : List Char := "0123456789abcdef".toList

theorem hexDigit_mem {n : Nat} (below : n < 16) : hexDigit n ∈ hexAlphabet := by
  have all : ∀ k : Fin 16, hexDigit k.val ∈ hexAlphabet := by decide
  exact all ⟨n, below⟩

theorem mem_hexAlphabet {bytes : List UInt8} {c : Char} (member : c ∈ hexText bytes) :
    c ∈ hexAlphabet := by
  obtain ⟨b, _, isDigit⟩ := List.mem_flatMap.mp member
  have bound := b.toNat_lt
  simp only [List.mem_cons, List.not_mem_nil, or_false] at isDigit
  rcases isDigit with rfl | rfl
  · exact hexDigit_mem (by omega)
  · exact hexDigit_mem (by omega)

def base64Alphabet : List Char :=
  "ABCDEFGHIJKLMNOPQRSTUVWXYZabcdefghijklmnopqrstuvwxyz0123456789+/".toList

def base64Digit (n : Nat) : Char := base64Alphabet.getD n '='

def base64Text : List UInt8 → List Char
  | a :: b :: c :: rest =>
    let n := a.toNat * 65536 + b.toNat * 256 + c.toNat
    base64Digit (n / 262144) :: base64Digit (n / 4096 % 64) :: base64Digit (n / 64 % 64)
      :: base64Digit (n % 64) :: base64Text rest
  | [a, b] =>
    let n := a.toNat * 1024 + b.toNat * 4
    [base64Digit (n / 4096), base64Digit (n / 64 % 64), base64Digit (n % 64), '=']
  | [a] => [base64Digit (a.toNat / 4), base64Digit (a.toNat % 4 * 16), '=', '=']
  | [] => []

end Stackwright
