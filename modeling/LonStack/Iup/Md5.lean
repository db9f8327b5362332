import LonStack.OsalLog

namespace LonStack

def F1 (x y z : UInt32) : UInt32 := z ^^^ (x &&& (y ^^^ z))

def F2 (x y z : UInt32) : UInt32 := F1 z x y

def F3 (x y z : UInt32) : UInt32 := x ^^^ y ^^^ z

def F4 (x y z : UInt32) : UInt32 := y ^^^ (x ||| ~~~z)

structure MD5Words where
  w : UInt32
  x : UInt32
  y : UInt32
  z : UInt32
  deriving DecidableEq, Repr, Inhabited

def MD5STEP (f : UInt32 → UInt32 → UInt32 → UInt32) (v : MD5Words) (data s : UInt32) : MD5Words :=
  let w := v.w + (f v.x v.y v.z + data)
  { v with w := (w <<< s ||| w >>> (32 - s)) + v.x }

/-- The words in the order in which the next step takes them. -/
def MD5Words.next (v : MD5Words) : MD5Words := ⟨v.z, v.w, v.x, v.y⟩

abbrev MD5Round := List (Nat × UInt32 × UInt32)

def round1 : MD5Round :=
  [(0, 0xd76aa478, 7), (1, 0xe8c7b756, 12), (2, 0x242070db, 17), (3, 0xc1bdceee, 22),
    (4, 0xf57c0faf, 7), (5, 0x4787c62a, 12), (6, 0xa8304613, 17), (7, 0xfd469501, 22),
    (8, 0x698098d8, 7), (9, 0x8b44f7af, 12), (10, 0xffff5bb1, 17), (11, 0x895cd7be, 22),
    (12, 0x6b901122, 7), (13, 0xfd987193, 12), (14, 0xa679438e, 17), (15, 0x49b40821, 22)]

def round2 : MD5Round :=
  [(1, 0xf61e2562, 5), (6, 0xc040b340, 9), (11, 0x265e5a51, 14), (0, 0xe9b6c7aa, 20),
    (5, 0xd62f105d, 5), (10, 0x02441453, 9), (15, 0xd8a1e681, 14), (4, 0xe7d3fbc8, 20),
    (9, 0x21e1cde6, 5), (14, 0xc33707d6, 9), (3, 0xf4d50d87, 14), (8, 0x455a14ed, 20),
    (13, 0xa9e3e905, 5), (2, 0xfcefa3f8, 9), (7, 0x676f02d9, 14), (12, 0x8d2a4c8a, 20)]

def round3 : MD5Round :=
  [(5, 0xfffa3942, 4), (8, 0x8771f681, 11), (11, 0x6d9d6122, 16), (14, 0xfde5380c, 23),
    (1, 0xa4beea44, 4), (4, 0x4bdecfa9, 11), (7, 0xf6bb4b60, 16), (10, 0xbebfbc70, 23),
    (13, 0x289b7ec6, 4), (0, 0xeaa127fa, 11), (3, 0xd4ef3085, 16), (6, 0x04881d05, 23),
    (9, 0xd9d4d039, 4), (12, 0xe6db99e5, 11), (15, 0x1fa27cf8, 16), (2, 0xc4ac5665, 23)]

def round4 : MD5Round :=
  [(0, 0xf4292244, 6), (7, 0x432aff97, 10), (14, 0xab9423a7, 15), (5, 0xfc93a039, 21),
    (12, 0x655b59c3, 6), (3, 0x8f0ccc92, 10), (10, 0xffeff47d, 15), (1, 0x85845dd1, 21),
    (8, 0x6fa87e4f, 6), (15, 0xfe2ce6e0, 10), (6, 0xa3014314, 15), (13, 0x4e0811a1, 21),
    (4, 0xf7537e82, 6), (11, 0xbd3af235, 10), (2, 0x2ad7d2bb, 15), (9, 0xeb86d391, 21)]

def MD5Round.run (round : MD5Round) (f : UInt32 → UInt32 → UInt32 → UInt32) (block : Nat → UInt32)
    (v : MD5Words) : MD5Words :=
  round.foldl (fun v (k, constant, s) => (MD5STEP f v (block k + constant) s).next) v

def MD5Transform (buf : MD5Words) (block : Nat → UInt32) : MD5Words :=
  let v := round4.run F4 block (round3.run F3 block (round2.run F2 block (round1.run F1 block buf)))
  ⟨buf.w + v.w, buf.x + v.x, buf.y + v.y, buf.z + v.z⟩

/-- `bits` counts the bits so far; the first bytes of `data` are those not transformed yet. -/
structure MD5Context where
  buf : MD5Words
  bits : UInt32 × UInt32
  data : List UInt8
  deriving DecidableEq, Repr, Inhabited

def blockWord (block : List UInt8) (k : Nat) : UInt32 :=
  let byte (i : Nat) : UInt32 := (block.getD (4 * k + i) 0).toUInt32
  byte 3 <<< 24 ||| byte 2 <<< 16 ||| byte 1 <<< 8 ||| byte 0

def MD5Init : MD5Context where
  buf := ⟨0x67452301, 0xefcdab89, 0x98badcfe, 0x10325476⟩
  bits := (0, 0)
  data := []

/-- The update with a single byte, as every caller makes it. -/
def MD5Update (ctx : MD5Context) (b : UInt8) : MD5Context :=
  let bits0 := ctx.bits.1 + 8
  let ctx := { ctx with bits := (bits0, if bits0 < ctx.bits.1 then ctx.bits.2 + 1 else ctx.bits.2) }
  let data := ctx.data ++ [b]
  if data.length = 64 then { ctx with buf := MD5Transform ctx.buf (blockWord data), data := [] }
  else { ctx with data := data }

def MD5Final (ctx : MD5Context) : List UInt8 :=
  let count := 64 - 1 - ctx.data.length
  let padded := ctx.data ++ [0x80]
  let (buf, last) :=
    if count < 8 then
      (MD5Transform ctx.buf (blockWord (padded ++ List.replicate count 0)), List.replicate 56 0)
    else (ctx.buf, padded ++ List.replicate (count - 8) 0)
  let buf := MD5Transform buf (blockWord (last ++ wordBytes ctx.bits.1 ++ wordBytes ctx.bits.2))
  wordBytes buf.w ++ wordBytes buf.x ++ wordBytes buf.y ++ wordBytes buf.z

def md5 (bytes : List UInt8) : List UInt8 := MD5Final (bytes.foldl MD5Update MD5Init)

end LonStack
