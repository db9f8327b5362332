import LonStack.Lib.Region

namespace LonStack.Lib.Image

def Contains (m : Image) (a : Nat) (bs : List UInt8) : Prop := m.slice a bs.length = bs

variable {m m' src : Image} {a b i j n : Nat} {bs cs : List UInt8}

theorem slice_succ_eq_cons (m : Image) (a n : Nat) :
    m.slice a (n + 1) = m a :: m.slice (a + 1) n := by
  unfold slice
  rw [List.range_succ_eq_map, List.map_cons, List.map_map]
  refine congrArg (m a :: ·) (List.map_congr_left fun k _ => ?_)
  exact congrArg m (by omega)

theorem slice_add (m : Image) (a n k : Nat) :
    m.slice a (n + k) = m.slice a n ++ m.slice (a + n) k := by
  induction k with
  | zero => exact (List.append_nil _).symm
  | succ k ih =>
    rw [← Nat.add_assoc, slice_succ, ih, slice_succ, List.append_assoc, Nat.add_assoc]

@[simp] theorem contains_nil (m : Image) (a : Nat) : m.Contains a [] := rfl

@[simp]
theorem contains_cons {x : UInt8} :
    m.Contains a (x :: bs) ↔ m a = x ∧ m.Contains (a + 1) bs := by
  unfold Contains
  rw [List.length_cons, slice_succ_eq_cons, List.cons.injEq]

@[simp]
theorem contains_append :
    m.Contains a (bs ++ cs) ↔ m.Contains a bs ∧ m.Contains (a + bs.length) cs := by
  unfold Contains
  rw [List.length_append, slice_add]
  constructor
  · intro h
    exact List.append_inj h (length_slice m a bs.length)
  · rintro ⟨hb, hc⟩
    rw [hb, hc]

theorem contains_set_set (m : Image) (x y : UInt8) : ((m.set 0 x).set 1 y).Contains 0 [x, y] := by
  refine contains_cons.mpr ⟨?_, contains_cons.mpr ⟨?_, contains_nil _ _⟩⟩
  · rw [set_of_ne (by decide), set_self]
  · exact set_self y

namespace Contains

theorem getElem (h : m.Contains a bs) (hi : i < bs.length) : m (a + i) = bs[i] := by
  have hg : (m.slice a bs.length)[i]? = bs[i]? := congrArg (·[i]?) h
  rw [List.getElem?_eq_getElem hi, slice, List.getElem?_map, List.getElem?_range hi] at hg
  exact Option.some.inj hg

theorem drop (h : m.Contains a bs) (hi : i ≤ bs.length) : m.Contains (a + i) (bs.drop i) := by
  rw [← List.take_append_drop i bs, contains_append, List.length_take, Nat.min_eq_left hi] at h
  exact h.2

theorem congr (h : m.Contains a bs) (heq : ∀ i < bs.length, m' (b + i) = m (a + i)) :
    m'.Contains b bs :=
  (slice_congr heq).trans h

theorem copy (h : src.Contains j bs) (m : Image) (a : Nat) :
    (m.copy a src j bs.length).Contains a bs :=
  h.congr fun _ hi => copy_add hi

end Contains

theorem OnlyIn.contains (h : OnlyIn m m' a n) (hc : m.Contains b bs)
    (hout : b + bs.length ≤ a ∨ a + n ≤ b) : m'.Contains b bs :=
  (h.slice_eq hout).trans hc

end LonStack.Lib.Image
