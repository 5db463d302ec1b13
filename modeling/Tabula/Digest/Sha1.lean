/-!
The SHA-1 digest: the message is padded to blocks of sixty-four octets, each block is stretched to
eighty words, and eighty rounds mix it into five words of state.
-/

namespace Tabula.Digest.Sha1

structure State where
  a : UInt32
  b : UInt32
  c : UInt32
  d : UInt32
  e : UInt32

def start : State := ⟨0x67452301, 0xEFCDAB89, 0x98BADCFE, 0x10325476, 0xC3D2E1F0⟩

def rotate (x : UInt32) (n : UInt32) : UInt32 := (x <<< n) ||| (x >>> (32 - n))

def octets : Nat → Nat → List UInt8
  | 0, _ => []
  | width + 1, n => octets width (n / 256) ++ [UInt8.ofNat (n % 256)]

/-- A one bit, zeros up to eight octets short of a block, and the length in bits. -/
def pad (message : List UInt8) : List UInt8 :=
  let zeros := (119 - message.length % 64) % 64
  message ++ 0x80 :: (List.replicate zeros 0 ++ octets 8 (8 * message.length))

def words : List UInt8 → List UInt32
  | p :: q :: r :: s :: rest =>
    (p.toUInt32 <<< 24 ||| q.toUInt32 <<< 16 ||| r.toUInt32 <<< 8 ||| s.toUInt32) :: words rest
  | _ => []

/-- Stretches sixteen words by `n` more; `ws` holds the words so far, latest first. -/
def stretch : Nat → List UInt32 → List UInt32
  | 0, ws => ws
  | n + 1, ws =>
    let w := ws.getD 2 0 ^^^ ws.getD 7 0 ^^^ ws.getD 13 0 ^^^ ws.getD 15 0
    stretch n (rotate w 1 :: ws)

def mix (round : Nat) (b c d : UInt32) : UInt32 :=
  if round < 20 then ((b &&& c) ||| (~~~b &&& d)) + 0x5A827999
  else if round < 40 then (b ^^^ c ^^^ d) + 0x6ED9EBA1
  else if round < 60 then ((b &&& c) ||| (b &&& d) ||| (c &&& d)) + 0x8F1BBCDC
  else (b ^^^ c ^^^ d) + 0xCA62C1D6

def rounds (round : Nat) (s : State) : List UInt32 → State
  | [] => s
  | w :: ws =>
    let a := rotate s.a 5 + mix round s.b s.c s.d + s.e + w
    rounds (round + 1) ⟨a, s.a, rotate s.b 30, s.c, s.d⟩ ws

def block (s : State) (ws : List UInt32) : State :=
  let r := rounds 0 s (stretch 64 ws.reverse).reverse
  ⟨s.a + r.a, s.b + r.b, s.c + r.c, s.d + r.d, s.e + r.e⟩

def blocks : Nat → State → List UInt32 → State
  | 0, s, _ => s
  | _ + 1, s, [] => s
  | n + 1, s, ws => blocks n (block s (ws.take 16)) (ws.drop 16)

def hex (message : List UInt8) : String :=
  let ws := words (pad message)
  let s := blocks ws.length start ws
  let digits (x : UInt32) : List Char :=
    (List.range 8).map fun i => Nat.digitChar (x.toNat / 16 ^ (7 - i) % 16)
  String.ofList (digits s.a ++ digits s.b ++ digits s.c ++ digits s.d ++ digits s.e)

end Tabula.Digest.Sha1
