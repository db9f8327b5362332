import Mathlib.Data.List.Basic
import Mathlib.Logic.Function.Basic

namespace LonStack.Lib

/-- The bytes of a struct by offset. What lies behind the struct is the memory that follows it. -/
abbrev Image := Nat → UInt8

namespace Image

def copy (dst : Image) (i : Nat) (src : Image) (j n : Nat) : Image :=
  fun k => if i ≤ k ∧ k < i + n then src (k - i + j) else dst k

def set (dst : Image) (i : Nat) (b : UInt8) : Image := fun k => if k = i then b else dst k

def fill (dst : Image) (i n : Nat) (b : UInt8) : Image :=
  fun k => if i ≤ k ∧ k < i + n then b else dst k

def xorBytes (m : Image) (i n : Nat) : UInt8 := (List.range n).foldl (fun r k => r ^^^ m (i + k)) 0

def bytes (m : Image) (n : Nat) : List UInt8 := (List.range n).map m

def write (m : Image) (i : Nat) : List UInt8 → Image
  | [] => m
  | b :: bs => write (Function.update m i b) (i + 1) bs

def short (m : Image) (a : Nat) : UInt16 := .ofNat ((m a).toNat + 256 * (m (a + 1)).toNat)

def long (m : Image) (a : Nat) : UInt32 :=
  .ofNat ((m a).toNat + 0x100 * (m (a + 1)).toNat + 0x10000 * (m (a + 2)).toNat +
    0x1000000 * (m (a + 3)).toNat)

variable {m dst src : Image} {i j k n : Nat}

theorem copy_of_lt (h : k < n) : copy dst 0 src 0 n k = src k := by
  rw [copy, if_pos ⟨Nat.zero_le k, by omega⟩, Nat.sub_zero, Nat.add_zero]

theorem copy_of_mem (h : i ≤ k) (h' : k < i + n) : copy dst i src j n k = src (k - i + j) :=
  if_pos ⟨h, h'⟩

theorem copy_of_not_mem (h : k < i ∨ i + n ≤ k) : copy dst i src j n k = dst k :=
  if_neg (by omega)

@[simp] theorem set_self (b : UInt8) : set dst i b i = b := if_pos rfl

theorem set_of_ne {b : UInt8} (h : k ≠ i) : set dst i b k = dst k := if_neg h

theorem set_same (m : Image) (i : Nat) : m.set i (m i) = m := by
  funext k
  by_cases hk : k = i
  case pos => rw [hk, set_self]
  case neg => exact set_of_ne hk

theorem fill_of_mem {b : UInt8} (h : i ≤ k) (h' : k < i + n) : fill dst i n b k = b :=
  if_pos ⟨h, h'⟩

theorem fill_of_not_mem {b : UInt8} (h : k < i ∨ i + n ≤ k) : fill dst i n b k = dst k :=
  if_neg (by omega)

theorem xorBytes_congr {m' : Image} (h : ∀ k, k < n → m (i + k) = m' (i + k)) :
    m.xorBytes i n = m'.xorBytes i n := by
  induction n with
  | zero => rfl
  | succ n ih =>
    rw [xorBytes, xorBytes, List.range_succ, List.foldl_append, List.foldl_append]
    change m.xorBytes i n ^^^ m (i + n) = m'.xorBytes i n ^^^ m' (i + n)
    rw [ih fun k hk => h k (by omega), h n (Nat.lt_succ_self n)]

@[simp] theorem length_bytes (m : Image) (n : Nat) : (m.bytes n).length = n := by
  rw [bytes, List.length_map, List.length_range]

theorem getElem_bytes (h : k < (m.bytes n).length) : (m.bytes n)[k] = m k := by
  simp only [bytes, List.getElem_map, List.getElem_range]

theorem bytes_congr {m' : Image} (h : ∀ k, k < n → m k = m' k) : m.bytes n = m'.bytes n :=
  List.map_congr_left fun k hk => h k (List.mem_range.mp hk)

theorem bytes_succ (m : Image) (n : Nat) : m.bytes (n + 1) = m.bytes n ++ [m n] := by
  rw [bytes, List.range_succ, List.map_append]
  rfl

theorem bytes_succ_eq_cons (m : Image) (n : Nat) :
    m.bytes (n + 1) = m 0 :: bytes (fun k => m (k + 1)) n := by
  rw [bytes, List.range_succ_eq_map, List.map_cons, List.map_map]
  rfl

theorem write_of_lt (m : Image) (bs : List UInt8) (h : k < i) : m.write i bs k = m k := by
  induction bs generalizing m i with
  | nil => rfl
  | cons b bs ih =>
    rw [write, ih _ (by omega), Function.update_of_ne (by omega)]

theorem write_of_mem (m : Image) (bs : List UInt8) (h : k < bs.length) :
    m.write i bs (i + k) = bs[k] := by
  induction bs generalizing m i k with
  | nil => cases h
  | cons b bs ih =>
    cases k with
    | zero =>
      rw [write, write_of_lt _ _ (by omega)]
      exact Function.update_self i b m
    | succ k =>
      have := ih (Function.update m i b) (i := i + 1) (k := k) (by simpa using h)
      rw [write, show i + (k + 1) = i + 1 + k by omega, this]
      rfl

theorem write_of_le (m : Image) (bs : List UInt8) (h : i + bs.length ≤ k) :
    m.write i bs k = m k := by
  induction bs generalizing m i with
  | nil => rfl
  | cons b bs ih =>
    rw [List.length_cons] at h
    rw [write, ih _ (by omega), Function.update_of_ne (by omega)]

/-- Bytes that are there already. -/
theorem write_same {bs : List UInt8} (h : ∀ k (hk : k < bs.length), bs[k] = m (i + k)) :
    m.write i bs = m := by
  funext a
  by_cases hlt : a < i
  case pos => exact write_of_lt m bs hlt
  case neg =>
    obtain ⟨k, rfl⟩ := Nat.exists_eq_add_of_le (Nat.le_of_not_lt hlt)
    by_cases hk : k < bs.length
    case pos => rw [write_of_mem m bs hk, h k hk]
    case neg => exact write_of_le m bs (by omega)

theorem write_append (m : Image) (i : Nat) (bs cs : List UInt8) :
    m.write i (bs ++ cs) = (m.write i bs).write (i + bs.length) cs := by
  induction bs generalizing m i with
  | nil => rfl
  | cons b bs ih =>
    rw [List.cons_append, write, write, ih, List.length_cons]
    congr 1
    omega

theorem short_eq {w : UInt16} (h0 : m i = w.toUInt8) (h1 : m (i + 1) = (w >>> 8).toUInt8) :
    m.short i = w := by
  rw [short, h0, h1]
  apply UInt16.toNat.inj
  have hw := w.toNat_lt
  simp [Nat.shiftRight_eq_div_pow]
  omega

theorem long_eq {w : UInt32} (h0 : m i = w.toUInt8) (h1 : m (i + 1) = (w >>> 8).toUInt8)
    (h2 : m (i + 2) = (w >>> 16).toUInt8) (h3 : m (i + 3) = (w >>> 24).toUInt8) : m.long i = w := by
  rw [long, h0, h1, h2, h3]
  apply UInt32.toNat.inj
  have hw := w.toNat_lt
  simp [Nat.shiftRight_eq_div_pow]
  omega

theorem long_congr {m' : Image} (h : ∀ k < 4, m' (i + k) = m (i + k)) : m'.long i = m.long i := by
  have h0 : m' i = m i := h 0 (by decide)
  rw [long, long, h0, h 1 (by decide), h 2 (by decide), h 3 (by decide)]

end Image

end LonStack.Lib
