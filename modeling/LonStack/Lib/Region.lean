import LonStack.Lib.Image

namespace LonStack.Lib.Image

def OnlyIn (m m' : Image) (a n : Nat) : Prop := ∀ k, k < a ∨ a + n ≤ k → m' k = m k

variable {m m' m'' src : Image} {a b n j k : Nat}

namespace OnlyIn

theorem refl (m : Image) (a n : Nat) : OnlyIn m m a n := fun _ _ => rfl

theorem trans (h : OnlyIn m m' a n) (h' : OnlyIn m' m'' a n) : OnlyIn m m'' a n :=
  fun k hk => (h' k hk).trans (h k hk)

theorem mono (h : OnlyIn m m' b k) (hlo : a ≤ b) (hhi : b + k ≤ a + n) : OnlyIn m m' a n :=
  fun i hi => h i (by omega)

theorem copy (m src : Image) (a j n : Nat) : OnlyIn m (m.copy a src j n) a n :=
  fun _ hk => copy_of_not_mem hk

theorem fill (m : Image) (a n : Nat) (x : UInt8) : OnlyIn m (m.fill a n x) a n :=
  fun _ hk => fill_of_not_mem hk

theorem set (m : Image) (a : Nat) (x : UInt8) : OnlyIn m (m.set a x) a 1 :=
  fun _ hk => set_of_ne (by omega)

theorem write (m : Image) (a : Nat) (bs : List UInt8) : OnlyIn m (m.write a bs) a bs.length :=
  fun _ hk => hk.elim (m.write_of_lt bs) (m.write_of_le bs)

theorem foldl {α : Type} {f : Image → α → Image} {l : List α}
    (hf : ∀ m, ∀ x ∈ l, OnlyIn m (f m x) a n) (m : Image) : OnlyIn m (l.foldl f m) a n := by
  induction l generalizing m with
  | nil => exact refl m a n
  | cons x l ih =>
    exact (hf m x List.mem_cons_self).trans
      (ih (fun m y hy => hf m y (List.mem_cons_of_mem x hy)) (f m x))

end OnlyIn

theorem copy_add (h : k < n) : copy m a src j n (a + k) = src (j + k) := by
  rw [copy_of_mem (Nat.le_add_right a k) (by omega), Nat.add_sub_cancel_left, Nat.add_comm]

theorem copy_self (m : Image) (a n : Nat) : copy m a m a n = m := by
  funext k
  by_cases h : a ≤ k ∧ k < a + n
  case pos => rw [copy_of_mem h.1 h.2, Nat.sub_add_cancel h.1]
  case neg => exact copy_of_not_mem (by omega)

theorem fill_add {x : UInt8} (h : k < n) : fill m a n x (a + k) = x :=
  fill_of_mem (Nat.le_add_right a k) (by omega)

def slice (m : Image) (a n : Nat) : List UInt8 := (List.range n).map fun k => m (a + k)

@[simp] theorem length_slice (m : Image) (a n : Nat) : (m.slice a n).length = n := by
  rw [slice, List.length_map, List.length_range]

theorem slice_congr (h : ∀ k < n, m (a + k) = m' (b + k)) : m.slice a n = m'.slice b n :=
  List.map_congr_left fun k hk => h k (List.mem_range.mp hk)

theorem slice_succ (m : Image) (a n : Nat) : m.slice a (n + 1) = m.slice a n ++ [m (a + n)] := by
  rw [slice, List.range_succ, List.map_append, List.map_singleton, slice]

theorem slice_write (m : Image) (a : Nat) (bs : List UInt8) : (m.write a bs).slice a bs.length = bs := by
  apply List.ext_getElem
  · rw [length_slice]
  · intro k hk hk'
    simp only [slice, List.getElem_map, List.getElem_range]
    exact write_of_mem m bs hk'

theorem OnlyIn.slice_eq (h : OnlyIn m m' a n) (hout : b + k ≤ a ∨ a + n ≤ b) :
    m'.slice b k = m.slice b k :=
  slice_congr fun i hi => h (b + i) (by omega)

section

variable {α : Type}

theorem foldl_range_invariant {f : α → Nat → α} {P : Nat → α → Prop} {s : α} (h0 : P 0 s)
    (n : Nat) (hstep : ∀ i s, i < n → P i s → P (i + 1) (f s i)) :
    P n ((List.range n).foldl f s) := by
  induction n with
  | zero => exact h0
  | succ n ih =>
    rw [List.range_succ, List.foldl_append]
    exact hstep n _ (Nat.lt_succ_self n) (ih fun i s hi => hstep i s (Nat.lt_succ_of_lt hi))

theorem foldl_range_last {f : Image → Nat → Image} {m : Image} {n i k : Nat} {x : UInt8}
    (hi : i < n) (hown : ∀ m, f m i k = x) (hlater : ∀ m j, i < j → f m j k = m k) :
    (List.range n).foldl f m k = x := by
  have hall : i < n → (List.range n).foldl f m k = x := by
    refine foldl_range_invariant (P := fun j (m : Image) => i < j → m k = x) ?_ n ?_
    · intro h
      exact absurd h (Nat.not_lt_zero i)
    · intro j m _ hm hj
      cases Nat.eq_or_lt_of_le (Nat.le_of_lt_succ hj) with
      | inl heq => rw [← heq, hown]
      | inr hlt => rw [hlater m j hlt, hm hlt]
  exact hall hi

theorem foldl_range_set (f : Nat → UInt8 → UInt8) (m : Image) (a : Nat) {n k : Nat} (hk : k < n) :
    (List.range n).foldl (fun m i => m.set (a + i) (f i (m (a + i)))) m (a + k) =
      f k (m (a + k)) := by
  have hall : ∀ j, (List.range n).foldl (fun m i => m.set (a + i) (f i (m (a + i)))) m (a + j) =
      if j < n then f j (m (a + j)) else m (a + j) := by
    refine foldl_range_invariant (P := fun i (m' : Image) => ∀ j, m' (a + j) =
      if j < i then f j (m (a + j)) else m (a + j)) ?_ n ?_
    · intro j
      rw [if_neg (Nat.not_lt_zero j)]
    · intro i m' _ hm j
      cases Decidable.em (j = i) with
      | inl heq => rw [heq, set_self, hm, if_neg (Nat.lt_irrefl i), if_pos (Nat.lt_succ_self i)]
      | inr hne =>
        rw [set_of_ne (by omega), hm]
        have hiff : j < i + 1 ↔ j < i := by omega
        simp only [hiff]
  rw [hall, if_pos hk]

end

end LonStack.Lib.Image
