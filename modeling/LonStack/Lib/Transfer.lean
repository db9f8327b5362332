import LonStack.Lib.Image

namespace LonStack.Lib

/-- Moves a block of bytes, and brings them into another order that is undone by moving them once
more. -/
structure Transfer where
  dst : Nat
  src : Nat
  len : Nat
  perm : Nat → Nat
  perm_lt : ∀ d < len, perm d < len
  perm_perm : ∀ d < len, perm (perm d) = d

namespace Transfer

def flip (t : Transfer) : Transfer := { t with dst := t.src, src := t.dst }

def Writes (t : Transfer) (k : Nat) : Prop := t.dst ≤ k ∧ k < t.dst + t.len

instance (t : Transfer) : DecidablePred t.Writes :=
  fun k => inferInstanceAs (Decidable (t.dst ≤ k ∧ k < t.dst + t.len))

def run (src dst : Image) (t : Transfer) : Image := fun k =>
  if t.Writes k then src (t.src + t.perm (k - t.dst)) else dst k

def runAll (src dst : Image) (ts : List Transfer) : Image := ts.foldl (run src) dst

def Apart (t t' : Transfer) : Prop := ∀ k, t.Writes k → ¬ t'.Writes k

variable {src dst : Image} {t : Transfer} {ts : List Transfer} {d k : Nat}

theorem writes_add (hd : d < t.len) : t.Writes (t.dst + d) := by
  constructor
  · exact Nat.le_add_right _ _
  · omega

theorem run_add (hd : d < t.len) : run src dst t (t.dst + d) = src (t.src + t.perm d) := by
  rw [run, if_pos (writes_add hd), Nat.add_sub_cancel_left]

theorem run_of_not_writes (h : ¬ t.Writes k) : run src dst t k = dst k := if_neg h

theorem runAll_of_not_writes (h : ∀ t ∈ ts, ¬ t.Writes k) : runAll src dst ts k = dst k := by
  induction ts generalizing dst with
  | nil => rfl
  | cons t ts ih =>
    have hrest : runAll src (run src dst t) ts k = run src dst t k :=
      ih fun t' ht' => h t' (List.mem_cons_of_mem _ ht')
    exact hrest.trans (run_of_not_writes (h t List.mem_cons_self))

theorem runAll_add (h : ts.Pairwise Apart) (ht : t ∈ ts) (hd : d < t.len) :
    runAll src dst ts (t.dst + d) = src (t.src + t.perm d) := by
  induction ts generalizing dst with
  | nil => cases ht
  | cons t' ts ih =>
    obtain ⟨hapart, hrest⟩ := List.pairwise_cons.mp h
    cases List.mem_cons.mp ht with
    | inl heq =>
      subst heq
      have hlater : runAll src (run src dst t) ts (t.dst + d) = run src dst t (t.dst + d) :=
        runAll_of_not_writes fun t' ht' => hapart t' ht' _ (writes_add hd)
      exact hlater.trans (run_add hd)
    | inr ht => exact ih hrest ht

theorem runAll_flip {dst' : Image} (h : ts.Pairwise Apart)
    (h' : (ts.map flip).Pairwise Apart) (ht : t ∈ ts) (hd : d < t.len) :
    runAll (runAll src dst ts) dst' (ts.map flip) (t.src + d) = src (t.src + d) := by
  have hback : runAll (runAll src dst ts) dst' (ts.map flip) (t.src + d) =
      runAll src dst ts (t.dst + t.perm d) := runAll_add h' (List.mem_map_of_mem ht) hd
  rw [hback, runAll_add h ht (t.perm_lt d hd), t.perm_perm d hd]

theorem runAll_of_flip {dst' : Image} (h : ts.Pairwise Apart)
    (h' : (ts.map flip).Pairwise Apart) (ht : t ∈ ts) (hd : d < t.len) :
    runAll (runAll src dst (ts.map flip)) dst' ts (t.dst + d) = src (t.dst + d) := by
  have hthere : runAll src dst (ts.map flip) (t.src + t.perm d) = src (t.dst + t.perm (t.perm d)) :=
    runAll_add h' (List.mem_map_of_mem ht) (t.perm_lt d hd)
  rw [runAll_add h ht hd, hthere, t.perm_perm d hd]

def reversed (size d : Nat) : Nat := d / size * size + (size - 1 - d % size)

variable {size elements : Nat}

theorem reversed_of_lt (h : d < size) : reversed size d = size - 1 - d := by
  rw [reversed, Nat.div_eq_of_lt h, Nat.mod_eq_of_lt h, Nat.zero_mul, Nat.zero_add]

theorem reversed_add (hsize : 0 < size) (d : Nat) :
    reversed size (size + d) = size + reversed size d := by
  rw [reversed, reversed, Nat.add_div_left d hsize, Nat.add_mod_left, Nat.succ_mul]
  omega

theorem size_pos_of_lt_mul (h : d < size * elements) : 0 < size := by
  cases size with
  | zero => simp at h
  | succ size => exact Nat.succ_pos size

theorem reversed_lt (h : d < size * elements) : reversed size d < size * elements := by
  have hsize : 0 < size := size_pos_of_lt_mul h
  have hq : d / size < elements := Nat.div_lt_of_lt_mul h
  have hmul : (d / size + 1) * size ≤ elements * size := Nat.mul_le_mul_right size hq
  rw [Nat.succ_mul, Nat.mul_comm elements] at hmul
  unfold reversed
  omega

theorem reversed_reversed (h : d < size * elements) : reversed size (reversed size d) = d := by
  have hsize : 0 < size := size_pos_of_lt_mul h
  have hr : d % size < size := Nat.mod_lt d hsize
  have hlt : size - 1 - d % size < size := by omega
  have hdiv : reversed size d / size = d / size := by
    rw [reversed, Nat.add_comm, Nat.add_mul_div_right _ _ hsize, Nat.div_eq_of_lt hlt, Nat.zero_add]
  have hmod : reversed size d % size = size - 1 - d % size := by
    rw [reversed, Nat.add_comm, Nat.add_mul_mod_self_right, Nat.mod_eq_of_lt hlt]
  calc reversed size (reversed size d) = d / size * size + (size - 1 - (size - 1 - d % size)) := by
        rw [reversed, hdiv, hmod]
    _ = d / size * size + d % size := by congr 1; omega
    _ = d := Nat.div_add_mod' d size

def swap (dst src size elements : Nat) : Transfer where
  dst := dst
  src := src
  len := size * elements
  perm := reversed size
  perm_lt := fun _ => reversed_lt
  perm_perm := fun _ => reversed_reversed

@[simp] theorem flip_swap (i j size elements : Nat) :
    (swap i j size elements).flip = swap j i size elements := rfl

end Transfer

end LonStack.Lib
